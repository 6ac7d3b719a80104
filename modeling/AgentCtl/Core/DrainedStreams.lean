import AgentCtl.Core.StreamVisits

set_option relaxedAutoImplicit false
set_option autoImplicit false

/-!
# Streams that are drained

What a consumer gets of a native stream that ends by itself, when it takes all chunks and the
deadline does not cut the stream: every text chunk of the provider, and a last chunk with the
finish reason, the token counts and the tool calls that the provider reported.

## Main definitions

* `AgentCtl.StreamVars.take` — what one chunk of the provider does to the running variables.
* `AgentCtl.drained` — the chunks the consumer gets.

## Main results

* `Gateway.nativeTarget_drained` — what `_native_target` delivers of such a stream.
-/

namespace AgentCtl

variable {σ : Type}

/-- The running variables after a chunk of the provider. -/
def StreamVars.take (v : StreamVars) (c : StreamChunk) : StreamVars :=
  let v := v.meter c
  if c.done then { v with finishReason := c.finishReason, toolCalls := c.toolCalls }
  else if c.text = [] then v
  else { v with parts := v.parts ++ [c.text], emitted := true }

/-- The chunks a patient consumer gets of a stream of the chunks given. -/
def drained (chunks : List StreamChunk) : List StreamChunk :=
  let v := chunks.foldl StreamVars.take {}
  chunks.filter StreamChunk.isText ++ [v.doneChunk v.finishReason v.toolCalls]

/-- A `yield` to a consumer that takes everything. -/
lemma run_yieldChunk_patient (c : StreamChunk) {w : World σ} (h : w.patience = none) :
    (yieldChunk c).run w = (.ok true, w, [.deliver c]) := by
  obtain ⟨outer, circuit, budget, attempts, patience⟩ := w
  obtain rfl : patience = none := h
  rfl

/-- A `yield` outside any handler, to a consumer that takes everything. -/
lemma run_yieldOrExit_patient (c : StreamChunk) {w : World σ} (h : w.patience = none) :
    (yieldOrExit c).run w = (.ok (), w, [.deliver c]) := by
  rw [yieldOrExit, Prog.run_bind_ok (run_yieldChunk_patient c h)]
  rfl

namespace Gateway

variable (G : Gateway σ) (request : NormalizedRequest) (started t₀ : ℚ) (target : Target)
  (deadline : Option ℚ)

/-- A run that either finds the deadline passed in mid-stream, or ends as given. -/
def UnlessLate {α : Type} (r₀ : α) (delivered : List StreamChunk) (r : Except Exc α)
    (w' : World σ) (es : List (Event σ)) : Prop :=
  es.any Event.isLate = false → r = .ok r₀ ∧ w'.patience = none ∧ deliveredOf es = delivered

/-- The chunk loop over a stream that ends by itself, by induction on the chunks to come. -/
lemma streamLoop_drained (chunks : List StreamChunk) (pulled : Bool) (v : StreamVars)
    {w : World σ} (hw : w.patience = none) :
    Prog.Sat (G.streamLoop request started t₀ target deadline none v pulled (chunks.map some)) w
      (UnlessLate (chunks.foldl StreamVars.take v, LoopEnd.drained)
        (chunks.filter StreamChunk.isText)) := by
  induction chunks generalizing pulled v w with
  | nil =>
    rw [List.map_nil, streamLoop]
    refine .bind_run (Prog.run_emit _ _) (.of_run (Prog.run_pure _ _) ?_)
    exact fun _ => ⟨rfl, hw, rfl⟩
  | cons c chunks ih =>
    rw [List.map_cons, streamLoop]
    obtain ⟨es₀, hpull, -, hcalm, -⟩ := run_pullUnless pulled target (some c) (chunks.map some) w
    refine .bind_run hpull ?_
    obtain ⟨cut, now, s, hcut⟩ := G.run_cutByDeadline w deadline
    refine .bind_run hcut ?_
    cases cut with
    | true =>
      -- a cut stream shows in the trace
      intro hlate
      simp at hlate
    | false =>
      simp only [Bool.false_eq_true, if_false, List.nil_append]
      rw [List.foldl_cons]
      have hafter : ∀ (v₁ : StreamVars) (text : List StreamChunk) (fs : List (Event σ)),
          v.take c = v₁ → (c :: chunks).filter StreamChunk.isText =
            text ++ chunks.filter StreamChunk.isText → deliveredOf fs = text →
          fs.any Event.isLate = false →
          Prog.Sat (G.streamLoop request started t₀ target deadline none v₁ false
            (chunks.map some)) { w with outer := s } (fun r w' es =>
              UnlessLate (chunks.foldl StreamVars.take (v.take c), LoopEnd.drained)
                ((c :: chunks).filter StreamChunk.isText) r w' (es₀ ++ (fs ++ es))) := by
        rintro v₁ text fs rfl htext hfs hfslate
        refine (ih (w := { w with outer := s }) false (v.take c) hw).imp ?_
        intro r w' es hes hlate
        rw [List.any_append, List.any_append, hcalm.late, hfslate, Bool.false_or,
          Bool.false_or] at hlate
        obtain ⟨hr, hpat, hdel⟩ := hes hlate
        refine ⟨hr, hpat, ?_⟩
        rw [deliveredOf_append, deliveredOf_append, hcalm.delivered, hfs, hdel, htext]
        rfl
      by_cases hdone : c.done = true
      · have hrest := hafter
          { v.meter c with finishReason := c.finishReason, toolCalls := c.toolCalls } [] []
          (by simp [StreamVars.take, hdone]) (by simp [StreamChunk.isText, hdone]) rfl rfl
        simpa [hdone] using hrest
      · by_cases hnil : c.text = []
        · have hrest := hafter (v.meter c) [] [] (by simp [StreamVars.take, hdone, hnil])
            (by simp [StreamChunk.isText, hnil]) rfl rfl
          simpa [hdone, hnil] using hrest
        · have hrest := hafter
            { v.meter c with parts := v.parts ++ [c.text], emitted := true } [c] [.deliver c]
            (by simp [StreamVars.take, hdone, hnil, StreamVars.meter])
            (by simp [StreamChunk.isText, hdone, hnil]) rfl rfl
          simp only [hdone, hnil, Bool.false_eq_true, if_false]
          have hyield : (yieldChunk c).run { w with outer := s } =
              (.ok true, { w with outer := s }, [.deliver c]) := run_yieldChunk_patient c hw
          refine .bind_run hyield ?_
          exact hrest

/-- What follows a drained stream delivers its last chunk. -/
lemma streamDrained_delivers (v : StreamVars) (idx : ℕ) {w : World σ} (hw : w.patience = none) :
    Prog.Sat (G.streamDrained request started t₀ target v idx) w
      (UnlessLate true [v.doneChunk v.finishReason v.toolCalls]) := by
  unfold streamDrained
  refine .bind_run (run_reportSuccess _ _) ?_
  obtain ⟨latency, s, hattempt⟩ := G.run_recordStreamAttempt
    { w with circuit := w.circuit.recordSuccess target.provider } target .success t₀ none
  refine .bind_run hattempt ?_
  obtain ⟨latency', s', hrecord⟩ := G.run_record
    { w with circuit := w.circuit.recordSuccess target.provider, outer := s,
             attempts := w.attempts ++ [⟨target.provider, target.model, .success, latency, none⟩] }
    request started _
  refine .bind_run hrecord ?_
  refine .bind_run (run_yieldOrExit_patient _ hw) (.of_run (Prog.run_pure _ _) ?_)
  intro _
  refine ⟨rfl, hw, ?_⟩
  simp

/-- The iterator of a stream that ends by itself. -/
lemma streamFrom_drained (chunks : List StreamChunk) (idx : ℕ) {w : World σ}
    (hw : w.patience = none) :
    Prog.Sat (G.streamFrom request started t₀ target deadline idx ⟨chunks.map some, none⟩) w
      (UnlessLate true (drained chunks)) := by
  have hrest : ∀ (pulled : Bool) (pre : List (Event σ)), deliveredOf pre = [] →
      Prog.Sat (do
        let r ← G.streamLoop request started t₀ target deadline none {} pulled (chunks.map some)
        G.streamEnd request started t₀ target idx r.1 r.2) w
        (fun r w' es => UnlessLate true (drained chunks) r w' (pre ++ es)) := by
    intro pulled pre hpre
    refine Prog.Sat.bind (G.streamLoop_drained request started t₀ target deadline chunks pulled {}
      hw) ?_ ?_
    · intro a w₁ e₁ hloop
      by_cases hlate : e₁.any Event.isLate = false
      · obtain ⟨ha, hw₁, hdel⟩ := hloop hlate
        obtain rfl := Except.ok.inj ha
        refine (G.streamDrained_delivers request started t₀ target _ idx hw₁).imp ?_
        intro r w' es hes hall
        simp only [List.any_append, Bool.or_eq_false_iff] at hall
        obtain ⟨hr, hpat, hlast⟩ := hes hall.2.2
        refine ⟨hr, hpat, ?_⟩
        rw [deliveredOf_append, deliveredOf_append, hpre, hdel, hlast]
        rfl
      · refine (show Prog.Sat _ w₁ (fun _ _ _ => True) from trivial).imp ?_
        intro r w' es _ hall
        simp only [List.any_append, Bool.or_eq_false_iff] at hall
        exact absurd hall.2.1 hlate
    · intro e w₁ e₁ hloop hall
      simp only [List.any_append, Bool.or_eq_false_iff] at hall
      cases (hloop hall.2).1
  cases chunks with
  | nil =>
    refine .bind_run (Prog.run_emit _ _) ?_
    exact hrest false [.pull target true .stop] rfl
  | cons c chunks =>
    refine .bind_run (Prog.run_emit _ _) ?_
    exact hrest true [.pull target true (.chunk (some c))] rfl

/-- **A drained native stream.** The target ends the call unless the deadline passes, and then the
consumer has got every text chunk of the provider and the last chunk. -/
theorem nativeTarget_drained
    {fn : Target → NormalizedRequest → ℚ → σ → Except Exc StreamScript × σ}
    {chunks : List StreamChunk}
    (hfn : ∀ timeout s, (fn target request timeout s).1 = .ok ⟨chunks.map some, none⟩) (idx : ℕ)
    {w : World σ} (hw : w.patience = none) :
    Prog.Sat (G.nativeTarget fn target request started deadline idx) w
      (fun r w' es => r = .ok false ∨ UnlessLate true (drained chunks) r w' es) := by
  unfold nativeTarget
  obtain ⟨slot, s, hslot, -⟩ := G.run_timeoutWithin w deadline
  refine .bind_run hslot ?_
  cases slot with
  | none => exact .bind_run rfl (.of_run (Prog.run_pure _ _) (Or.inl rfl))
  | some slot =>
    obtain ⟨t₀, s₁, ht₀⟩ := G.run_monotonic { w with outer := s }
    refine .bind_run ht₀ ?_
    have hopen : (outsideDo (fn target request slot.timeout) : Call σ _).run
        { w with outer := s₁ } =
        (.ok (.ok ⟨chunks.map some, none⟩),
          { w with outer := (fn target request slot.timeout s₁).2 }, []) := by
      rw [← hfn slot.timeout s₁]
      rfl
    refine .bind_run hopen ?_
    refine .bind_run (Prog.run_emit _ _) ?_
    refine (G.streamFrom_drained request started t₀ target deadline chunks idx
      (w := { w with outer := (fn target request slot.timeout s₁).2 }) hw).imp ?_
    intro r w' es hes
    exact Or.inr fun hall => hes (by simpa using hall)

end Gateway

end AgentCtl
