import AgentCtl.Core.StreamRuns
import Mathlib.Data.List.ReduceOption

set_option relaxedAutoImplicit false
set_option autoImplicit false

/-!
# The token counts of a stream

The chunk loop keeps the last token counts that its chunks have brought, and every record of the
stream has these counts. A chunk is metered after the deadline check that follows its `next`: when
that check cuts the stream, the counts of the chunk just pulled are lost.

## Main definitions

* `AgentCtl.lastCounts` — the last counts that are not zero.
* `AgentCtl.pulledOf` — the chunks that a call has pulled from its streams.
* `AgentCtl.CutAt` — the deadline cuts a stream at a position, read off the clock and the consumer.
* `AgentCtl.Gateway.openStream` — `_native_target` up to the first `next`.

## Main results

* `AgentCtl.Gateway.streamLoop_counts` — the counts of the chunk loop.
* `AgentCtl.Gateway.nativeTarget_counts_iff` — the records of a native target have the last counts
  of all chunks pulled, if and only if the deadline does not cut the stream at a chunk with news.
-/

namespace AgentCtl

variable {σ : Type}

/-! ## Counts -/

/-- The last input and output counts of some chunks that are not zero. -/
def lastCounts (cs : List StreamChunk) : ℤ × ℤ :=
  (lastNonzero (cs.map StreamChunk.inputTokens), lastNonzero (cs.map StreamChunk.outputTokens))

/-- A count that is not zero and differs from the last one before it. -/
def StreamChunk.BringsNews (c : StreamChunk) (seen : List StreamChunk) : Prop :=
  (c.inputTokens ≠ 0 ∧ c.inputTokens ≠ (lastCounts seen).1) ∨
    (c.outputTokens ≠ 0 ∧ c.outputTokens ≠ (lastCounts seen).2)

/-- The counts after one more chunk. -/
lemma lastCounts_concat (seen : List StreamChunk) (c : StreamChunk) :
    lastCounts (seen ++ [c]) =
      (if c.inputTokens = 0 then (lastCounts seen).1 else c.inputTokens,
        if c.outputTokens = 0 then (lastCounts seen).2 else c.outputTokens) := by
  unfold lastCounts
  simp [lastNonzero_concat]

/-- A chunk changes the last counts when it brings news. -/
lemma lastCounts_concat_eq_iff (seen : List StreamChunk) (c : StreamChunk) :
    lastCounts seen = lastCounts (seen ++ [c]) ↔ ¬ c.BringsNews seen := by
  rw [lastCounts_concat, Prod.ext_iff]
  unfold StreamChunk.BringsNews
  by_cases hin : c.inputTokens = 0 <;> by_cases hout : c.outputTokens = 0 <;>
    simp [hin, hout, eq_comm]

/-- The running counts. -/
def StreamVars.counts (v : StreamVars) : ℤ × ℤ := (v.inputTokens, v.outputTokens)

/-- The counts that are captured: those of the response, or zero. -/
def Captured.counts (c : Captured) : ℤ × ℤ :=
  ((c.resp.map NormalizedResponse.inputTokens).getD 0,
    (c.resp.map NormalizedResponse.outputTokens).getD 0)

/-- The counts of a saved record. -/
def CallRecord.counts (r : CallRecord) : ℤ × ℤ := (r.inputTokens, r.outputTokens)

/-- What is captured is saved. -/
lemma callRecord_counts (G : Gateway σ) (request : NormalizedRequest) (latency : ℤ) (c : Captured) :
    (G.callRecord request latency c).counts = c.counts := rfl

/-- Metering a chunk brings the running counts up to date. -/
lemma counts_meter {v : StreamVars} {seen : List StreamChunk} (h : v.counts = lastCounts seen)
    (c : StreamChunk) : (v.meter c).counts = lastCounts (seen ++ [c]) := by
  rw [lastCounts_concat, ← h]
  rfl

/-- A record of a response with the running counts. -/
lemma counts_of_resp {c : Captured} {resp : NormalizedResponse} (h : c.resp = some resp) :
    c.counts = (resp.inputTokens, resp.outputTokens) := by
  unfold Captured.counts
  rw [h]
  rfl

/-! ## What a call has pulled -/

/-- The chunk that the event brings from a stream. -/
@[simp] def Event.pulled? : Event σ → Option StreamChunk
  | .pull _ _ (.chunk c) => c
  | _ => none

/-- The chunks pulled, in their order. -/
def pulledOf (es : List (Event σ)) : List StreamChunk := es.filterMap Event.pulled?

@[simp] lemma pulledOf_nil : pulledOf ([] : List (Event σ)) = [] := rfl

@[simp] lemma pulledOf_cons (e : Event σ) (es : List (Event σ)) :
    pulledOf (e :: es) = e.pulled?.toList ++ pulledOf es :=
  filterMap_cons_toList _ _ _

@[simp] lemma pulledOf_append (es fs : List (Event σ)) :
    pulledOf (es ++ fs) = pulledOf es ++ pulledOf fs :=
  List.filterMap_append

@[simp] lemma pulledOf_captureEvents (G : Gateway σ) (request : NormalizedRequest) (latency : ℤ)
    (c : Captured) : pulledOf (G.captureEvents request latency c) = [] := by
  unfold Gateway.captureEvents
  cases G.hasStore <;> simp

/-! ## Where the deadline cuts a stream -/

/-- What the clock shows when it is read `n` times and then once more. -/
def Outside.reading (o : Outside σ) : σ → ℕ → ℚ
  | s, 0 => (o.monotonic s).1
  | s, n + 1 => reading o (o.monotonic s).2 n

/-- Is the value a text chunk? -/
def isTextItem (c : Option StreamChunk) : Bool := c.any StreamChunk.isText

/-- The deadline `d` cuts the values of a stream at position `n`: it is there that the clock, which
is read once for each value, first finds it passed, and the consumer has taken all text before. -/
structure CutAt (o : Outside σ) (d : ℚ) (patience : Option ℕ) (s : σ)
    (items : List (Option StreamChunk)) (n : ℕ) : Prop where
  early : ∀ i < n, o.reading s i < d
  late : d ≤ o.reading s n
  taken : ∀ k ∈ patience, (items.take n).countP isTextItem ≤ k

/-- The values that the loop looks at: all but a first `None`. -/
def StreamScript.checked (script : StreamScript) : List (Option StreamChunk) :=
  match script.items with
  | [] => []
  | first :: rest => if first.isNone then rest else first :: rest

/-- A cut loses no counts: the chunk at which the stream is cut brings no news, after the chunks
`seen` and those before it. -/
def CutsLoseNothing (o : Outside σ) (deadline : Option ℚ) (patience : Option ℕ) (s : σ)
    (seen : List StreamChunk) (items : List (Option StreamChunk)) : Prop :=
  ∀ d ∈ deadline, ∀ n chunk, items[n]? = some (some chunk) → CutAt o d patience s items n →
    ¬ chunk.BringsNews (seen ++ (items.take n).reduceOption)

section Cuts

variable {o : Outside σ} {deadline : Option ℚ} {patience : Option ℕ} {s : σ}
  {seen : List StreamChunk} {c : Option StreamChunk} {rest : List (Option StreamChunk)}

/-- A stream that has ended is not cut. -/
lemma cutsLoseNothing_nil : CutsLoseNothing o deadline patience s seen [] := by
  intro d _ n chunk h
  simp at h

/-- Without a deadline no stream is cut. -/
lemma cutsLoseNothing_none {items : List (Option StreamChunk)} :
    CutsLoseNothing o none patience s seen items := by
  rintro d ⟨⟩

/-- A deadline that has passed at the first check cuts the stream at the first value. -/
lemma cutsLoseNothing_of_passed {d : ℚ} (h : d ≤ (o.monotonic s).1) :
    CutsLoseNothing o (some d) patience s seen (c :: rest) ↔
      ∀ chunk, c = some chunk → ¬ chunk.BringsNews seen := by
  constructor
  · rintro hkeeps chunk rfl
    have hcut : CutAt o d patience s (some chunk :: rest) 0 :=
      ⟨fun i hi => absurd hi (Nat.not_lt_zero i), h, fun k _ => by simp⟩
    simpa using hkeeps d rfl 0 chunk rfl hcut
  · rintro hnews d' hd' n chunk hchunk hcut
    obtain rfl := Option.some.inj hd'
    cases n with
    | zero => simpa using hnews chunk (by simpa using hchunk)
    | succ n => exact absurd (hcut.early 0 n.succ_pos) (not_lt.mpr h)

/-- The consumer closes the generator at the first value: what follows is not pulled. -/
lemma cutsLoseNothing_of_closed {d : ℚ} (h : (o.monotonic s).1 < d)
    (hc : isTextItem c = true) : CutsLoseNothing o (some d) (some 0) s seen (c :: rest) := by
  rintro d' hd' n chunk - hcut
  obtain rfl := Option.some.inj hd'
  cases n with
  | zero => exact absurd hcut.late (not_le.mpr h)
  | succ n =>
    have htaken := hcut.taken 0 rfl
    rw [List.take_succ_cons, List.countP_cons_of_pos hc] at htaken
    omega

/-- A first value that the deadline lets pass and, if it is text, the consumer takes. -/
lemma cutsLoseNothing_of_taken {d : ℚ} (h : (o.monotonic s).1 < d)
    (hc : isTextItem c = true → patience ≠ some 0) :
    CutsLoseNothing o (some d) patience s seen (c :: rest) ↔
      CutsLoseNothing o (some d) (if isTextItem c then patience.map (· - 1) else patience)
        (o.monotonic s).2 (seen ++ c.toList) rest := by
  have hread : ∀ n, o.reading s (n + 1) = o.reading (o.monotonic s).2 n := fun n => rfl
  have hstep : ∀ n, CutAt o d patience s (c :: rest) (n + 1) ↔
      CutAt o d (if isTextItem c then patience.map (· - 1) else patience)
        (o.monotonic s).2 rest n := by
    intro n
    have htaken : (∀ k ∈ patience, ((c :: rest).take (n + 1)).countP isTextItem ≤ k) ↔
        ∀ k ∈ (if isTextItem c then patience.map (· - 1) else patience),
          (rest.take n).countP isTextItem ≤ k := by
      rw [List.take_succ_cons]
      by_cases ht : isTextItem c = true
      · rw [List.countP_cons_of_pos ht, if_pos ht]
        cases patience with
        | none => simp
        | some k =>
          have hk : k ≠ 0 := fun hk => hc ht (hk ▸ rfl)
          simp only [Option.mem_some_iff, forall_eq', Option.map_some]
          omega
      · rw [List.countP_cons_of_neg ht, if_neg ht]
    constructor
    · rintro ⟨hearly, hlate, hpatience⟩
      exact ⟨fun i hi => hearly (i + 1) (Nat.succ_lt_succ hi), hlate, htaken.mp hpatience⟩
    · rintro ⟨hearly, hlate, hpatience⟩
      refine ⟨fun i hi => ?_, hlate, htaken.mpr hpatience⟩
      cases i with
      | zero => exact h
      | succ i => exact hearly i (Nat.lt_of_succ_lt_succ hi)
  have hseen : ∀ n, seen ++ ((c :: rest).take (n + 1)).reduceOption =
      seen ++ c.toList ++ (rest.take n).reduceOption := by
    intro n
    cases c <;> simp
  constructor
  · rintro hkeeps d' hd' n chunk hchunk hcut
    obtain rfl := Option.some.inj hd'
    rw [← hseen]
    exact hkeeps d rfl (n + 1) chunk hchunk ((hstep n).mpr hcut)
  · rintro hkeeps d' hd' n chunk hchunk hcut
    obtain rfl := Option.some.inj hd'
    cases n with
    | zero => exact absurd hcut.late (not_le.mpr h)
    | succ n =>
      rw [hseen]
      exact hkeeps d rfl n chunk hchunk ((hstep n).mp hcut)

end Cuts

/-! ## The chunk loop -/

/-- The chunk of the first `next`, which the loop has still to look at. -/
def pendingChunk (pulled : Bool) (items : List (Option StreamChunk)) : List StreamChunk :=
  if pulled then items.head?.join.toList else []

/-- A part of a stream that leaves the variables `v`, after the chunks `seen`: its records have the
counts of `v`, and these are the last counts of all chunks exactly when `keeps` holds. -/
structure Metered (seen : List StreamChunk) (keeps : Prop) (v : StreamVars) (es : List (Event σ)) :
    Prop where
  counts : v.counts = lastCounts (seen ++ pulledOf es) ↔ keeps
  recorded : ¬ keeps → recordsOf es ≠ []
  records : ∀ c ∈ recordsOf es, c.counts = v.counts

/-- Events without records before such a part. -/
lemma Metered.after {seen seen' : List StreamChunk} {keeps keeps' : Prop} {v : StreamVars}
    {es fs : List (Event σ)} (h : Metered seen' keeps' v fs) (hseen : seen ++ pulledOf es = seen')
    (hkeeps : keeps ↔ keeps') (hrecords : recordsOf es = []) : Metered seen keeps v (es ++ fs) where
  counts := by rw [pulledOf_append, ← List.append_assoc, hseen, h.counts, hkeeps]
  recorded hlost := by
    rw [recordsOf_append, hrecords, List.nil_append]
    exact h.recorded fun hk => hlost (hkeeps.mpr hk)
  records c hc := by
    rw [recordsOf_append, hrecords, List.nil_append] at hc
    exact h.records c hc

/-- A part without records. -/
lemma Metered.of_quiet {seen : List StreamChunk} {keeps : Prop} {v : StreamVars}
    {es : List (Event σ)} (hv : v.counts = lastCounts (seen ++ pulledOf es)) (hkeeps : keeps)
    (hrecords : recordsOf es = []) : Metered seen keeps v es where
  counts := iff_of_true hv hkeeps
  recorded hlost := absurd hkeeps hlost
  records c hc := by simp [hrecords] at hc

/-- A cut: the record has the counts without the new chunks. -/
lemma Metered.of_cut {seen new : List StreamChunk} {v : StreamVars} {record : Captured}
    {es : List (Event σ)} (hv : v.counts = lastCounts seen) (hpulled : pulledOf es = [])
    (hrecords : recordsOf es = [record]) (hcounts : record.counts = v.counts) :
    Metered (seen ++ new) (lastCounts seen = lastCounts (seen ++ new)) v es where
  counts := by rw [hpulled, List.append_nil, hv]
  recorded _ := by simp [hrecords]
  records c hc := by
    rw [hrecords, List.mem_singleton] at hc
    rw [hc, hcounts]

/-- A `yield`, with what becomes of the consumer's patience. -/
lemma run_yieldChunk_eq (c : StreamChunk) (w : World σ) :
    (yieldChunk c).run w = (.ok (decide (w.patience ≠ some 0)),
      { w with patience := w.patience.map (· - 1) },
      .deliver c :: if w.patience = some 0 then [.close] else []) := by
  obtain ⟨outer, circuit, budget, attempts, patience⟩ := w
  rcases patience with _ | _ | n
  · rfl
  · rfl
  · rfl

namespace Gateway

variable (G : Gateway σ)

/-- A check that cuts the stream, or one that lets it pass and hands the question of later cuts on
to the rest of the stream. -/
lemma cutByDeadline_cases (deadline : Option ℚ) (w : World σ) :
    (∃ (now : ℚ) (s : σ), (G.cutByDeadline deadline).run w =
        (.ok true, { w with outer := s }, [.late now]) ∧
      ∀ seen c rest, CutsLoseNothing G.outside deadline w.patience w.outer seen (c :: rest) ↔
        ∀ chunk, c = some chunk → ¬ chunk.BringsNews seen) ∨
    ∃ s : σ, (G.cutByDeadline deadline).run w = (.ok false, { w with outer := s }, []) ∧
      (∀ seen c rest, (isTextItem c = true → w.patience ≠ some 0) →
        (CutsLoseNothing G.outside deadline w.patience w.outer seen (c :: rest) ↔
          CutsLoseNothing G.outside deadline
            (if isTextItem c then w.patience.map (· - 1) else w.patience) s
            (seen ++ c.toList) rest)) ∧
      ∀ seen c rest, isTextItem c = true → w.patience = some 0 →
        CutsLoseNothing G.outside deadline w.patience w.outer seen (c :: rest) := by
  cases deadline with
  | none =>
    refine .inr ⟨w.outer, rfl, fun seen c rest _ => ?_, fun seen c rest _ _ => cutsLoseNothing_none⟩
    exact iff_of_true cutsLoseNothing_none cutsLoseNothing_none
  | some d =>
    have hnow : G.monotonic.run w = (.ok (G.outside.monotonic w.outer).1,
        { w with outer := (G.outside.monotonic w.outer).2 }, []) := rfl
    unfold cutByDeadline
    rw [Prog.run_bind_ok hnow]
    by_cases h : d ≤ (G.outside.monotonic w.outer).1
    · rw [if_pos h]
      exact .inl ⟨_, _, rfl, fun seen c rest => cutsLoseNothing_of_passed h⟩
    · rw [if_neg h]
      have hlt := not_le.mp h
      refine .inr ⟨_, rfl, fun seen c rest hc => cutsLoseNothing_of_taken hlt hc, ?_⟩
      intro seen c rest hc hpatience
      rw [hpatience]
      exact cutsLoseNothing_of_closed hlt hc

/-- The next value of the loop is pulled here, unless it was pulled before. -/
lemma run_pullUnless_chunk (pulled : Bool) (target : Target) (c : Option StreamChunk)
    (rest : List (Option StreamChunk)) (w : World σ) :
    ∃ es, (pullUnless pulled target c).run w = (.ok (), w, es) ∧
      pendingChunk pulled (c :: rest) ++ pulledOf es = c.toList ∧ recordsOf es = [] := by
  cases pulled with
  | true => exact ⟨[], rfl, by simp [pendingChunk], rfl⟩
  | false => exact ⟨[_], rfl, by simp [pendingChunk], rfl⟩

/-- **The counts of the chunk loop**, by induction on the values that are still to come: the running
counts are up to date with the chunks `seen`. -/
lemma streamLoop_counts (request : NormalizedRequest) (started t₀ : ℚ) (target : Target)
    (deadline : Option ℚ) (ending : Option Exc) (items : List (Option StreamChunk)) (pulled : Bool)
    (seen : List StreamChunk) (v : StreamVars) (w : World σ) (hv : v.counts = lastCounts seen) :
    Prog.Sat (G.streamLoop request started t₀ target deadline ending v pulled items) w
      (fun r _ es => ∃ v' last, r = .ok (v', last) ∧
        Metered (seen ++ pendingChunk pulled items)
          (CutsLoseNothing G.outside deadline w.patience w.outer seen items) v' es) := by
  induction items generalizing pulled seen v w with
  | nil =>
    have hpending : pendingChunk pulled [] = [] := by cases pulled <;> rfl
    rw [hpending, List.append_nil]
    unfold streamLoop
    cases ending with
    | none =>
      refine .bind_run (Prog.run_emit _ _) (.of_run (Prog.run_pure _ _) ?_)
      exact ⟨v, .drained, rfl, .of_quiet (by simpa using hv) cutsLoseNothing_nil rfl⟩
    | some e =>
      refine .bind_run (Prog.run_emit _ _) (.of_run (Prog.run_pure _ _) ?_)
      exact ⟨v, .raised e, rfl, .of_quiet (by simpa using hv) cutsLoseNothing_nil rfl⟩
  | cons c rest ih =>
    unfold streamLoop
    obtain ⟨es₀, hpull, hpending, hrecords⟩ := run_pullUnless_chunk pulled target c rest w
    have hseen : seen ++ pendingChunk pulled (c :: rest) ++ pulledOf es₀ = seen ++ c.toList := by
      rw [List.append_assoc, hpending]
    refine .bind_run hpull ?_
    rcases G.cutByDeadline_cases deadline w
      with ⟨now, s, hcut, hkeeps⟩ | ⟨s, hpass, hkeeps, hclosed⟩
    · refine .bind_run hcut ?_
      simp only [if_true]
      refine (G.streamCut_outcome { w with outer := s } request started t₀ target v).imp ?_
      rintro r _ es ⟨resumed, latency, record, rfl, rfl, hresp⟩
      refine ⟨v, _, rfl, (Metered.of_cut hv ?_ ?_ (counts_of_resp hresp)).after hseen ?_ hrecords⟩
      · cases resumed <;> simp
      · cases resumed <;> simp
      · rw [hkeeps]
        cases c with
        | none => simp
        | some chunk => simp [lastCounts_concat_eq_iff]
    · refine .bind_run hpass ?_
      simp only [Bool.false_eq_true, if_false, List.nil_append]
      have hrest : ∀ v₁ : StreamVars, v₁.counts = lastCounts (seen ++ c.toList) →
          isTextItem c = false →
          Prog.Sat (G.streamLoop request started t₀ target deadline ending v₁ false rest)
            { w with outer := s } (fun r _ es => ∃ v' last, r = .ok (v', last) ∧
              Metered (seen ++ pendingChunk pulled (c :: rest))
                (CutsLoseNothing G.outside deadline w.patience w.outer seen (c :: rest)) v'
                (es₀ ++ es)) := by
        intro v₁ hv₁ hc
        refine (ih false _ v₁ _ hv₁).imp ?_
        rintro r _ es ⟨v', last, hr, hmetered⟩
        have hiff := hkeeps seen c rest (by simp [hc])
        simp only [hc, Bool.false_eq_true, if_false] at hiff
        refine ⟨v', last, hr, hmetered.after ?_ hiff hrecords⟩
        simpa [pendingChunk] using hseen
      cases c with
      | none => exact hrest v (by simpa using hv) rfl
      | some chunk =>
        have hmeter := counts_meter hv chunk
        dsimp only
        by_cases hdone : chunk.done = true
        · simp only [hdone, if_true]
          exact hrest _ hmeter (by simp [isTextItem, StreamChunk.isText, hdone])
        · by_cases hnil : chunk.text = []
          · simp only [hdone, hnil, Bool.false_eq_true, if_false, if_true]
            exact hrest _ hmeter (by simp [isTextItem, StreamChunk.isText, hnil])
          · simp only [hdone, hnil, Bool.false_eq_true, if_false]
            have htext : isTextItem (some chunk) = true := by
              simp [isTextItem, StreamChunk.isText, hdone, hnil]
            let v₁ : StreamVars :=
              { v.meter chunk with parts := v.parts ++ [chunk.text], emitted := true }
            refine .bind_run (run_yieldChunk_eq chunk { w with outer := s }) ?_
            by_cases hpatience : w.patience = some 0
            · -- the consumer closes the generator at this chunk
              simp only [hpatience, ne_eq, not_true_eq_false, decide_false, Bool.false_eq_true,
                if_false, if_true]
              refine .of_run (Prog.run_pure _ _) ⟨v₁, _, rfl, .of_quiet ?_ ?_ ?_⟩
              · have hv₁ : v₁.counts = lastCounts (seen ++ [chunk]) := hmeter
                rw [pulledOf_append, ← List.append_assoc, hseen]
                simpa using hv₁
              · exact hpatience ▸ hclosed seen _ rest htext hpatience
              · simp [hrecords]
            · simp only [hpatience, ne_eq, not_false_eq_true, decide_true, if_true, if_false]
              refine (ih false _ v₁ _ hmeter).imp ?_
              rintro r _ es ⟨v', last, hr, hmetered⟩
              have hiff := hkeeps seen (some chunk) rest fun _ => hpatience
              rw [if_pos htext] at hiff
              have hdelivered : recordsOf (es₀ ++ [.deliver chunk]) = [] := by simp [hrecords]
              refine ⟨v', last, hr, ?_⟩
              rw [List.cons_append, List.nil_append, List.append_cons]
              refine hmetered.after ?_ hiff hdelivered
              simpa [pendingChunk] using hseen

/-! ## A native target -/

section Target

variable (request : NormalizedRequest) (started t₀ : ℚ) (target : Target) (deadline : Option ℚ)
  (idx : ℕ) (w : World σ)

/-- After the loop nothing is pulled, and what is recorded has the counts of the loop. -/
lemma streamEnd_counts (v : StreamVars) (last : LoopEnd) :
    Prog.Sat (G.streamEnd request started t₀ target idx v last) w
      (fun _ _ es => pulledOf es = [] ∧ ∀ c ∈ recordsOf es, c.counts = v.counts) := by
  have haborted : ∀ e, Prog.Sat (G.streamAborted request started t₀ target v e) w
      (fun _ _ es => pulledOf es = [] ∧ ∀ c ∈ recordsOf es, c.counts = v.counts) := by
    intro e
    refine (G.streamAborted_outcome w request started t₀ target v e).imp ?_
    rintro r _ _ ⟨-, latency, record, rfl, hresp⟩
    have hcounts : record.counts = v.counts := counts_of_resp hresp
    simpa using hcounts
  cases last with
  | cut => exact .of_run (Prog.run_pure _ _) (by simp)
  | drained =>
    refine (G.streamDrained_outcome w request started t₀ target v idx).imp ?_
    rintro r _ _ ⟨resumed, latency, record, -, rfl, hresp⟩
    have hcounts : record.counts = v.counts := counts_of_resp hresp
    cases resumed <;> simpa using hcounts
  | raised e =>
    rw [streamEnd]
    split
    · refine (G.streamFailed_outcome w request started t₀ target v e).imp ?_
      rintro r _ _ (⟨-, -, rfl⟩ | ⟨-, latency, record, rfl, hresp⟩)
      · simp
      · have hcounts : record.counts = v.counts := counts_of_resp hresp
        simpa using hcounts
    · exact haborted e

/-- A stream that raises at its first `next` records no counts. -/
lemma firstPullFailed_counts (e : Exc) :
    Prog.Sat (G.firstPullFailed request started t₀ target e) w
      (fun _ _ es => pulledOf es = [] ∧ ∀ c ∈ recordsOf es, c.counts = (0, 0)) := by
  refine (G.firstPullFailed_outcome w request started t₀ target e).imp ?_
  rintro r _ _ (⟨-, -, rfl⟩ | ⟨-, -, rfl⟩ | ⟨-, -, latency, record, rfl, hresp⟩)
  · simp
  · simp
  · have hcounts : record.counts = (0, 0) := by simp [Captured.counts, hresp]
    simpa using hcounts

/-- The captured counts of a part of a call are the last counts of the chunks it has pulled, after
the chunks `before`. -/
def CapturesLastCounts (before : List StreamChunk) (es : List (Event σ)) : Prop :=
  ∀ c ∈ recordsOf es, c.counts = lastCounts (before ++ pulledOf es)

/-- The loop and its handlers. -/
lemma streamLoop_end_counts (ending : Option Exc) (pulled : Bool)
    (items : List (Option StreamChunk)) :
    Prog.Sat (do
        let r ← G.streamLoop request started t₀ target deadline ending {} pulled items
        G.streamEnd request started t₀ target idx r.1 r.2) w
      (fun _ _ es => CapturesLastCounts (pendingChunk pulled items) es ↔
        CutsLoseNothing G.outside deadline w.patience w.outer [] items) := by
  refine .bind (G.streamLoop_counts request started t₀ target deadline ending items pulled [] {} w
    rfl) ?_ ?_
  · rintro r w₁ es ⟨v, last, hr, hmetered⟩
    obtain rfl := Except.ok.inj hr
    refine (G.streamEnd_counts request started t₀ target idx w₁ v last).imp ?_
    rintro r w₂ fs ⟨hpulled, hrecords⟩
    rw [List.nil_append] at hmetered
    have hall : ∀ c ∈ recordsOf (es ++ fs), c.counts = v.counts := by
      intro c hc
      rw [recordsOf_append, List.mem_append] at hc
      rcases hc with hc | hc
      · exact hmetered.records c hc
      · exact hrecords c hc
    rw [← hmetered.counts]
    unfold CapturesLastCounts
    rw [pulledOf_append, hpulled, List.append_nil]
    constructor
    · intro hcaptured
      -- where counts are lost there is a record of the cut
      by_contra hne
      obtain ⟨c, hc⟩ := List.exists_mem_of_ne_nil _ (hmetered.recorded (mt hmetered.counts.mpr hne))
      have hc' : c ∈ recordsOf (es ++ fs) := by simp [hc]
      exact hne ((hmetered.records c hc).symm.trans (hcaptured c hc'))
    · exact fun hv c hc => (hall c hc).trans hv
  · rintro e w₁ es ⟨v, last, hr, -⟩
    cases hr

/-- The stream from its first `next` on. -/
lemma streamFrom_counts (script : StreamScript) :
    Prog.Sat (G.streamFrom request started t₀ target deadline idx script) w
      (fun _ _ es => CapturesLastCounts [] es ↔
        CutsLoseNothing G.outside deadline w.patience w.outer [] script.checked) := by
  obtain ⟨items, ending⟩ := script
  unfold streamFrom StreamScript.checked
  cases items with
  | nil =>
    cases ending with
    | some e =>
      -- no chunk has been pulled, and the record of a refusal has no response
      refine .bind_run (Prog.run_emit _ _) ?_
      refine (G.firstPullFailed_counts request started t₀ target w e).imp ?_
      rintro r w' es ⟨hpulled, hrecords⟩
      refine iff_of_true (fun c hc => ?_) cutsLoseNothing_nil
      rw [hrecords c (by simpa using hc)]
      simp [hpulled, lastCounts, lastNonzero]
    | none =>
      refine .bind_run (Prog.run_emit _ _) ?_
      refine (G.streamLoop_end_counts request started t₀ target deadline idx w none false []).imp ?_
      intro r w' es h
      simpa [CapturesLastCounts, pendingChunk] using h
  | cons first rest =>
    refine .bind_run (Prog.run_emit _ _) ?_
    refine (G.streamLoop_end_counts request started t₀ target deadline idx w ending first.isSome
      _).imp ?_
    intro r w' es h
    cases first with
    | none => simpa [CapturesLastCounts, pendingChunk] using h
    | some c => simpa [CapturesLastCounts, pendingChunk] using h

/-- `_native_target` up to the first `next`: the stream, and when it was opened. -/
def openStream (fn : Target → NormalizedRequest → ℚ → σ → Except Exc StreamScript × σ) :
    Call σ (Option (ℚ × StreamScript)) := do
  let slot ← G.timeoutWithin deadline
  match slot with
  | none =>
    recordGuard target .deadline "deadline exceeded"
    return none
  | some slot =>
    let t₀ ← G.monotonic
    let opened ← outsideDo (fn target request slot.timeout)
    match opened with
    | .error e =>
      Prog.emit (.streamCall target slot (some e))
      Prog.raise e
    | .ok script =>
      Prog.emit (.streamCall target slot none)
      return some (t₀, script)

/-- A native target opens its stream and runs it. -/
lemma nativeTarget_eq (fn : Target → NormalizedRequest → ℚ → σ → Except Exc StreamScript × σ) :
    G.nativeTarget fn target request started deadline idx =
      G.openStream request target deadline fn >>= fun opened =>
        match opened with
        | none => pure false
        | some (t₀, script) => G.streamFrom request started t₀ target deadline idx script := by
  unfold nativeTarget openStream
  rw [Prog.bind_bind]
  congr 1
  funext slot
  cases slot with
  | none =>
    dsimp only
    rw [Prog.bind_bind]
    rfl
  | some slot =>
    dsimp only
    rw [Prog.bind_bind]
    congr 1
    funext t₀
    rw [Prog.bind_bind]
    congr 1
    funext opened
    cases opened with
    | error e =>
      dsimp only
      rw [Prog.bind_bind]
      rfl
    | ok script =>
      dsimp only
      rw [Prog.bind_bind]
      rfl

/-- Opening a stream pulls and records nothing, and leaves the consumer alone. -/
lemma openStream_spec (fn : Target → NormalizedRequest → ℚ → σ → Except Exc StreamScript × σ) :
    Prog.Sat (G.openStream request target deadline fn) w
      (fun _ w' es => pulledOf es = [] ∧ recordsOf es = [] ∧ w'.patience = w.patience) := by
  unfold openStream
  obtain ⟨slot, s₁, h₁, -⟩ := G.run_timeoutWithin w deadline
  refine .bind_run h₁ ?_
  cases slot with
  | none => exact .bind_run (Prog.run_modify _ _) (.of_run (Prog.run_pure _ _) (by simp))
  | some slot =>
    obtain ⟨t₀, s₂, h₂⟩ := G.run_monotonic { w with outer := s₁ }
    refine .bind_run h₂ ?_
    obtain ⟨opened, s₃, h₃⟩ : ∃ opened s₃, (outsideDo (fn target request slot.timeout)).run
        { w with outer := s₂ } = (.ok opened, { w with outer := s₃ }, []) := ⟨_, _, rfl⟩
    refine .bind_run h₃ ?_
    cases opened with
    | error e => exact .bind_run (Prog.run_emit _ _) (.of_run (Prog.run_raise _ _) (by simp))
    | ok script => exact .bind_run (Prog.run_emit _ _) (.of_run (Prog.run_pure _ _) (by simp))

end Target

end Gateway

/-- **The records of a native target have the last counts of all chunks pulled**, if and only if the
deadline does not cut the stream that has been opened at a chunk that brings news. -/
theorem nativeTarget_counts_iff (G : Gateway σ)
    (fn : Target → NormalizedRequest → ℚ → σ → Except Exc StreamScript × σ) (target : Target)
    (request : NormalizedRequest) (started : ℚ) (deadline : Option ℚ) (idx : ℕ) (w : World σ) :
    (∀ c ∈ recordsOf ((G.nativeTarget fn target request started deadline idx).trace w),
      ∀ latency, (G.callRecord request latency c).counts =
        lastCounts (pulledOf ((G.nativeTarget fn target request started deadline idx).trace w))) ↔
      ∀ t₀ script, (G.openStream request target deadline fn).out w = .ok (some (t₀, script)) →
        CutsLoseNothing G.outside deadline w.patience
          ((G.openStream request target deadline fn).final w).outer [] script.checked := by
  have hquiet : ∀ es : List (Event σ), recordsOf es = [] →
      ∀ c ∈ recordsOf es, ∀ latency, (G.callRecord request latency c).counts =
        lastCounts (pulledOf es) := by
    intro es hrecords c hc
    rw [hrecords] at hc
    cases hc
  obtain ⟨hpulled, hrecords, hpatience⟩ := G.openStream_spec request target deadline w fn
  rw [G.nativeTarget_eq request started target deadline idx fn]
  unfold Prog.trace Prog.out Prog.final at *
  rcases hopen : (G.openStream request target deadline fn).run w with ⟨_ | opened, w₁, es⟩
  · rw [hopen] at hrecords
    rw [Prog.run_bind_error hopen]
    exact iff_of_true (hquiet es hrecords) (by simp)
  · rw [hopen] at hrecords hpulled hpatience
    rw [Prog.run_bind_ok hopen]
    dsimp only at hrecords hpulled hpatience ⊢
    rcases opened with _ | ⟨t₀, script⟩
    · refine iff_of_true ?_ (by simp)
      simpa using hquiet es hrecords
    · have hfrom := G.streamFrom_counts request started t₀ target deadline idx w₁ script
      unfold Prog.Sat Prog.trace Gateway.CapturesLastCounts at hfrom
      rw [hpatience, List.nil_append] at hfrom
      simp only [recordsOf_append, pulledOf_append, hrecords, hpulled, List.nil_append,
        callRecord_counts, forall_const, Except.ok.injEq, Option.some.injEq, Prod.mk.injEq]
      rw [hfrom]
      exact ⟨fun h t₀' script' hs => hs.2 ▸ h, fun h => h t₀ script ⟨rfl, rfl⟩⟩

/-! ## A cut at a chunk with counts -/

/-- A stream whose first chunk brings the number of input tokens. -/
def meteredStream : Target → NormalizedRequest → ℚ → ℚ → Except Exc StreamScript × ℚ :=
  fun _ _ _ s => (.ok ⟨[some { inputTokens := 10 }, some { text := "hi" }], none⟩, s)

/-- The trace of that stream under a deadline of two seconds. -/
def cutTrace : List (Event ℚ) :=
  (tickingGateway.nativeTarget meteredStream ⟨"p", "a"⟩ plainRequest 0 (some 2) 0).trace
    { outer := 0 }

/-- **The counts of the chunk at which the deadline cuts the stream are lost.** The clock of
`tickingGateway` shows two seconds at the check that follows the first `next`: the chunk with ten
input tokens has been pulled, and the record has none. -/
theorem cut_loses_counts :
    pulledOf cutTrace = [{ inputTokens := 10 }] ∧
      (recordsOf cutTrace).map (fun c => (c.status, c.counts)) = [(Status.deadline, (0, 0))] ∧
      ¬ ∀ c ∈ recordsOf cutTrace, ∀ latency,
        (tickingGateway.callRecord plainRequest latency c).counts =
          lastCounts (pulledOf cutTrace) := by
  have hpulled : pulledOf cutTrace = [{ inputTokens := 10 }] := by decide +kernel
  have hrecorded : (recordsOf cutTrace).map (fun c => (c.status, c.counts)) =
      [(Status.deadline, (0, 0))] := by decide +kernel
  refine ⟨hpulled, hrecorded, fun hall => ?_⟩
  have hmem : (Status.deadline, ((0 : ℤ), (0 : ℤ))) ∈
      (recordsOf cutTrace).map (fun c => (c.status, c.counts)) := by
    rw [hrecorded]
    exact List.mem_singleton_self _
  obtain ⟨c, hc, hpair⟩ := List.mem_map.mp hmem
  have hzero : c.counts = (0, 0) := congrArg Prod.snd hpair
  have hcounts := hall c hc 0
  rw [callRecord_counts, hzero, hpulled] at hcounts
  exact absurd hcounts (by decide)

end AgentCtl
