import AgentCtl.Core.EmbeddingRunner
import AgentCtl.Core.InvokeRuns

set_option relaxedAutoImplicit false
set_option autoImplicit false

/-!
# One record for every call

Chat and embeddings calls record themselves by hand at every exit. They leave exactly one record,
with an attempt for every provider call, as long as every exception that arises is one that a
handler knows; any other one leaves the call without a record.

## Main definitions

* `AgentCtl.EmbedCall`, `embedCallsOf`, `embedRecordsOf` — the provider calls and the records of an
  embeddings call.
* `AgentCtl.callEntries` — the attempts of a record that stand for provider calls.

## Main results

* `AgentCtl.Gateway.embedWalk_spec` — the loop of `embed` over the targets.
* `AgentCtl.one_record_iff` — when a chat call, and an embeddings call, leaves one complete record.
-/

namespace AgentCtl

variable {σ : Type}

/-! ## Attempts that stand for provider calls -/

/-- The outcomes of attempts that called the provider. -/
def AttemptOutcome.isCall : AttemptOutcome → Bool
  | success | retriable | terminal | timeout => true
  | _ => false

/-- The attempts that stand for provider calls, without their latencies. -/
def callEntries (attempts : List Attempt) : List Attempt :=
  (attempts.map Attempt.untimed).filter fun a => a.outcome.isCall

/-- The attempt of a provider call stands for a provider call. -/
lemma isCall_attempt (c : ProviderCall) : c.attempt.outcome.isCall = true := by
  unfold ProviderCall.attempt
  split
  · rfl
  · next e _ =>
    unfold Gateway.retryOutcome
    cases e.isTerminal <;> cases e.isTimeout <;> rfl

/-- Attempts of provider calls all stand for provider calls. -/
lemma filter_attempts (calls : List ProviderCall) :
    (calls.map ProviderCall.attempt).filter (fun a => a.outcome.isCall) =
      calls.map ProviderCall.attempt := by
  rw [List.filter_eq_self]
  intro a ha
  obtain ⟨c, -, rfl⟩ := List.mem_map.mp ha
  exact isCall_attempt c

/-! ## Chat calls -/

/-- A failed call is a typed one. -/
lemma ProviderCall.Failed.isTyped {c : ProviderCall} (h : c.Failed) : c.isTyped = true := by
  obtain ⟨e, he, hr⟩ := h
  simp only [ProviderCall.isTyped, he, Exc.isTyped, Bool.or_assoc, hr, Bool.or_true]

/-- An exception escapes from a walk exactly when one of its calls raised what no handler knows. -/
lemma Walked.isTyped_iff {G : Gateway σ} {deadline : Option ℚ} {idx : ℕ} {targets : List Target}
    {visits : List Visit} {ending : WalkEnd} (h : Walked G deadline idx targets visits ending) :
    (∀ c ∈ visits.flatMap Visit.calls, c.isTyped = true) ↔ ∀ e, ending ≠ .escaped e := by
  obtain ⟨failed, hfailed, heq⟩ := h.calls_eq
  have htyped : ∀ c ∈ failed, c.isTyped = true := fun c hc => (hfailed c hc).isTyped
  cases ending with
  | answered idx t resp =>
    obtain ⟨slot, heq⟩ := heq
    simpa [heq, or_imp, forall_and, ProviderCall.isTyped] using htyped
  | refused t e =>
    obtain ⟨slot, heq, he⟩ := heq
    simpa [heq, or_imp, forall_and, ProviderCall.isTyped, Exc.isTyped, he] using htyped
  | escaped e =>
    obtain ⟨t, slot, heq, he⟩ := heq
    simp [heq, or_imp, forall_and, ProviderCall.isTyped, he]
  | _ => simpa [heq] using htyped

/-- The entries of a visit that stand for provider calls are those of its calls. -/
lemma Visit.filter_entries (v : Visit) :
    v.entries.filter (fun a => a.outcome.isCall) = v.calls.map ProviderCall.attempt := by
  cases v with
  | skipped t => rfl
  | visited t calls ending => exact filter_attempts calls

/-- The attempts of a walk from which no exception escaped. -/
lemma Gateway.WalkDone.callEntries_eq {G : Gateway σ} {request : NormalizedRequest}
    {key : Option Str} {deadline : Option ℚ} {targets : List Target} {w w' : World σ}
    {r : Except Exc NormalizedResponse} {es : List (Event σ)}
    (h : G.WalkDone request key deadline 0 targets w r w' es) (hw : w.attempts = []) :
    (∃ c, recordsOf es = [c] ∧
        callEntries c.attempts = (callsOf es).map ProviderCall.attempt) ↔
      ∀ c ∈ callsOf es, c.isTyped = true := by
  obtain ⟨visits, ending, attempts, hwalk, hout, hw', hattempts, hcalls, -, hrecords, -⟩ := h
  rw [hcalls, hwalk.isTyped_iff, hrecords]
  constructor
  · rintro ⟨c, hc, -⟩ e rfl
    simp [WalkEnd.records] at hc
  · intro hescaped
    have htyped := hwalk.isTyped_iff.mpr hescaped
    have hattempts' : callEntries w'.attempts = (visits.flatMap Visit.calls).map
        ProviderCall.attempt := by
      have hentries : visits.flatMap Visit.attempts = visits.flatMap Visit.entries :=
        List.flatMap_congr fun v hv => Visit.attempts_eq (hwalk.made v hv) fun c hc =>
          htyped c (List.mem_flatMap.mpr ⟨v, hv, hc⟩)
      have hending : ending.attempts.filter (fun a => a.outcome.isCall) = [] := by
        cases ending with
        | allFailed passed => cases passed <;> rfl
        | _ => rfl
      rw [callEntries, hw', hw, List.nil_append, hattempts, hentries, List.filter_append, hending,
        List.append_nil, List.filter_flatMap, List.map_flatMap]
      exact List.flatMap_congr fun v _ => v.filter_entries
    cases ending with
    | escaped e => exact absurd rfl (hescaped e)
    | _ => exact ⟨_, rfl, hattempts'⟩

/-! ## Embeddings calls -/

/-- A call of `provider.embed` and its outcome. -/
structure EmbedCall where
  target : Target
  slot : TimeoutSlot
  out : Except Exc EmbeddingResponse

namespace EmbedCall

/-- The call ended in an answer, or in an exception that a provider raises by contract. -/
def isTyped (c : EmbedCall) : Bool :=
  match c.out with
  | .ok _ => true
  | .error e => e.isTyped

/-- The attempt that stands for an embeddings call, without its latency. -/
def attempt (c : EmbedCall) : Attempt :=
  match c.out with
  | .ok _ => ⟨c.target.provider, c.target.model, .success, 0, none⟩
  | .error e => ⟨c.target.provider, c.target.model,
      if e.isTerminal then .terminal else .retriable, 0, some e.msg⟩

end EmbedCall

namespace Event

/-- The event as an embeddings call. -/
@[simp] def embedCall? : Event σ → Option EmbedCall
  | embedCall t slot out => some ⟨t, slot, out⟩
  | _ => none

/-- The event as a call of `Capturer.record_embed`. -/
@[simp] def embedRecord? : Event σ → Option CapturedEmbed
  | recordEmbed c => some c
  | _ => none

end Event

/-- The embeddings calls of a trace. -/
def embedCallsOf (es : List (Event σ)) : List EmbedCall := es.filterMap Event.embedCall?

/-- The records of embeddings calls of a trace. -/
def embedRecordsOf (es : List (Event σ)) : List CapturedEmbed := es.filterMap Event.embedRecord?

section Projections

variable (e : Event σ) (es fs : List (Event σ))

@[simp] lemma embedCallsOf_nil : embedCallsOf ([] : List (Event σ)) = [] := rfl

@[simp] lemma embedRecordsOf_nil : embedRecordsOf ([] : List (Event σ)) = [] := rfl

@[simp] lemma embedCallsOf_cons :
    embedCallsOf (e :: es) = e.embedCall?.toList ++ embedCallsOf es :=
  filterMap_cons_toList _ _ _

@[simp] lemma embedRecordsOf_cons :
    embedRecordsOf (e :: es) = e.embedRecord?.toList ++ embedRecordsOf es :=
  filterMap_cons_toList _ _ _

@[simp] lemma embedCallsOf_append : embedCallsOf (es ++ fs) = embedCallsOf es ++ embedCallsOf fs :=
  List.filterMap_append

@[simp] lemma embedRecordsOf_append :
    embedRecordsOf (es ++ fs) = embedRecordsOf es ++ embedRecordsOf fs :=
  List.filterMap_append

end Projections

namespace Gateway

variable (G : Gateway σ) (model : Str) (metadata : Metadata) (w : World σ)

/-- The events of one capture of an embeddings call. -/
def embedEvents (latency : ℤ) (c : CapturedEmbed) : List (Event σ) :=
  .recordEmbed c :: if G.hasStore then [.save (G.embedRecord model metadata latency c)] else []

@[simp] lemma embedCallsOf_embedEvents (latency : ℤ) (c : CapturedEmbed) :
    embedCallsOf (G.embedEvents model metadata latency c) = [] := by
  unfold embedEvents
  cases G.hasStore <;> simp

@[simp] lemma embedRecordsOf_embedEvents (latency : ℤ) (c : CapturedEmbed) :
    embedRecordsOf (G.embedEvents model metadata latency c) = [c] := by
  unfold embedEvents
  cases G.hasStore <;> simp

/-- Capturing an embeddings call. -/
lemma run_recordEmbed (started : ℚ) (c : CapturedEmbed) :
    ∃ latency s, (G.recordEmbed model metadata started c).run w =
      (.ok (),
        { w with
          outer := s, budget := w.budget.add metadata.consumerName (G.capturedEmbedCost c) },
        G.embedEvents model metadata latency c) := by
  refine ⟨truncate (((G.outside.monotonic w.outer).1 - started) * 1000),
    (G.outside.monotonic w.outer).2, ?_⟩
  unfold recordEmbed meterAndPersist embedEvents
  by_cases h : G.hasStore = true
  · simp only [h, if_true]
    rfl
  · simp only [h]
    rfl

/-- Capturing a failed embeddings call. -/
lemma run_recordEmbedError (started : ℚ) (errorType : ErrorType) (message resolved : Option Str) :
    ∃ latency s, (G.recordEmbedError model metadata started errorType message resolved).run w =
      (.ok (), { w with outer := s, budget := w.budget.add metadata.consumerName none },
        G.embedEvents model metadata latency
          { modelResolved := resolved, attempts := w.attempts, errorType := some errorType,
            errorMessage := message }) :=
  G.run_recordEmbed model metadata w started _

/-- The end of a chain without an answer. -/
lemma run_embedAllFailed (started : ℚ) :
    ∃ latency s e, (G.embedAllFailed model metadata started).run w = (.error e,
      { w with outer := s, budget := w.budget.add metadata.consumerName none },
      G.embedEvents model metadata latency
        { attempts := w.attempts, errorType := some .allFailed,
          errorMessage := w.attempts.getLast?.bind Attempt.error }) := by
  obtain ⟨latency, s, h⟩ := G.run_recordEmbedError model metadata w started .allFailed
    (w.attempts.getLast?.bind Attempt.error) none
  refine ⟨latency, s, ⟨.allTargetsFailed,
    "all embedding targets failed for model " ++ G.py.repr (.str model), none⟩, ?_⟩
  rw [embedAllFailed, Prog.run_bind_ok (Prog.run_gets _ _), Prog.run_bind_ok h]
  simp

/-- What is known of an embeddings call after a part of it that begins with the attempts `before`:
every exception had a handler and the call has one record, or one escaped and it has none. -/
def EmbedDone (before : List Attempt) (es : List (Event σ)) : Prop :=
  ((∀ c ∈ embedCallsOf es, c.isTyped = true) ∧ ∃ c, embedRecordsOf es = [c] ∧
      callEntries c.attempts = callEntries before ++ (embedCallsOf es).map EmbedCall.attempt) ∨
    ((∃ c ∈ embedCallsOf es, c.isTyped = false) ∧ embedRecordsOf es = [])

variable {G model metadata w}

/-- A record without further calls. -/
lemma EmbedDone.of_record {before : List Attempt} {es : List (Event σ)} {c : CapturedEmbed}
    (hcalls : embedCallsOf es = []) (hrecords : embedRecordsOf es = [c])
    (hc : callEntries c.attempts = callEntries before) : EmbedDone before es := by
  refine .inl ⟨by simp [hcalls], c, hrecords, ?_⟩
  simp [hc, hcalls]

/-- A call that ends the embeddings call, with its record. -/
lemma EmbedDone.of_call {before : List Attempt} {es : List (Event σ)} {c : EmbedCall}
    {r : CapturedEmbed} (hcalls : embedCallsOf es = [c]) (hrecords : embedRecordsOf es = [r])
    (hc : c.isTyped = true) (hr : callEntries r.attempts = callEntries before ++ [c.attempt]) :
    EmbedDone before es :=
  .inl ⟨by simpa [hcalls] using hc, r, hrecords, by simp [hr, hcalls]⟩

/-- Guards before the rest of a call. -/
lemma EmbedDone.after_guard {before before' : List Attempt} {es : List (Event σ)}
    (h : EmbedDone before' es) (hb : callEntries before' = callEntries before) :
    EmbedDone before es := by
  unfold EmbedDone at h ⊢
  rwa [hb] at h

/-- A failed call before the rest of a call. -/
lemma EmbedDone.after_call {before before' : List Attempt} {es₁ es₂ : List (Event σ)}
    {c : EmbedCall} (h : EmbedDone before' es₂) (hcalls : embedCallsOf es₁ = [c])
    (hrecords : embedRecordsOf es₁ = [])
    (hc : c.isTyped = true) (hb : callEntries before' = callEntries before ++ [c.attempt]) :
    EmbedDone before (es₁ ++ es₂) := by
  rcases h with ⟨htyped, r, hr, hentries⟩ | ⟨⟨c', hc', huntyped⟩, hr⟩
  · refine .inl ⟨by simpa [hcalls, hc] using htyped, r, by simp [hrecords, hr], ?_⟩
    rw [hentries, hb, embedCallsOf_append, hcalls]
    simp
  · exact .inr ⟨⟨c', by simp [hc'], huntyped⟩, by simp [hrecords, hr]⟩

/-- The attempt of an embeddings call stands for a provider call. -/
lemma callEntries_append_call {before : List Attempt} {a : Attempt} {c : EmbedCall}
    (h : a.untimed = c.attempt) :
    callEntries (before ++ [a]) = callEntries before ++ [c.attempt] := by
  have hcall : c.attempt.outcome.isCall = true := by
    unfold EmbedCall.attempt
    split
    · rfl
    · next e _ => cases e.isTerminal <;> rfl
  simp [callEntries, h, hcall]

/-- The entry of a guard stands for no provider call. -/
lemma callEntries_append_guard (before : List Attempt) (t : Target) {outcome : AttemptOutcome}
    (error : Str) (h : outcome.isCall = false) :
    callEntries (before ++ [guardEntry t outcome error]) = callEntries before := by
  simp [callEntries, Attempt.untimed, guardEntry, h]

/-- Calling a provider for embeddings. -/
lemma run_callEmbed (w : World σ)
    (fn : Target → List Str → ℚ → σ → Except Exc EmbeddingResponse × σ) (target : Target)
    (inputs : List Str) (slot : TimeoutSlot) :
    ∃ out s, (callEmbed fn target inputs slot).run w =
      (.ok out, { w with outer := s }, [.embedCall target slot out]) :=
  ⟨_, _, rfl⟩

/-- The `try` of `embed`: the call fails and the next target is to be tried, or the call is over. -/
lemma embedTarget_spec (fn : Target → List Str → ℚ → σ → Except Exc EmbeddingResponse × σ)
    (target : Target) (inputs : List Str) (started : ℚ) (slot : TimeoutSlot) (idx : ℕ) :
    Prog.Sat (G.embedTarget fn target model inputs metadata started slot idx) w
      (fun r w' es => match r with
        | .ok none => ∃ c, embedCallsOf es = [c] ∧ embedRecordsOf es = [] ∧ c.isTyped = true ∧
            callEntries w'.attempts = callEntries w.attempts ++ [c.attempt]
        | _ => EmbedDone w.attempts es) := by
  rw [embedTarget]
  obtain ⟨startedT, s₁, h₁⟩ := G.run_monotonic w
  refine .bind_run h₁ ?_
  obtain ⟨out, s₂, h₂⟩ := run_callEmbed { w with outer := s₁ } fn target inputs slot
  refine .bind_run h₂ ?_
  cases out with
  | ok resp =>
    refine .bind_run (run_reportSuccess _ _) ?_
    obtain ⟨latency, s₃, h₃⟩ := G.run_recordAttempt _ target .success startedT none
    refine .bind_run h₃ (.bind_run (Prog.run_gets _ _) ?_)
    obtain ⟨latency', s₄, h₄⟩ := G.run_recordEmbed model metadata _ started _
    refine .bind_run h₄ (.of_run (Prog.run_pure _ _) ?_)
    exact .of_call (c := ⟨target, slot, .ok resp⟩) (by simp) (by simp; rfl) rfl
      (callEntries_append_call rfl)
  | error e =>
    by_cases ht : e.isTerminal = true
    · simp only [ht, if_true]
      obtain ⟨now, s₃, h₃⟩ := G.run_reportFailure _ target.provider
      refine .bind_run h₃ ?_
      obtain ⟨latency, s₄, h₄⟩ := G.run_recordAttempt _ target .terminal startedT (some e.msg)
      refine .bind_run h₄ ?_
      obtain ⟨latency', s₅, h₅⟩ := G.run_recordEmbedError model metadata _ started .terminal
        (some e.msg) (some target.name)
      refine .bind_run h₅ (.of_run (Prog.run_raise _ _) ?_)
      let record : CapturedEmbed :=
        { modelResolved := some target.name,
          attempts := w.attempts ++
            [⟨target.provider, target.model, .terminal, latency, some e.msg⟩],
          errorType := some .terminal, errorMessage := some e.msg }
      refine .of_call (c := ⟨target, slot, .error e⟩) (r := record) ?_ ?_ ?_ ?_
      · simp
      · simp [record]
      · simp [EmbedCall.isTyped, Exc.isTyped, ht]
      · exact callEntries_append_call (by simp [Attempt.untimed, EmbedCall.attempt, ht])
    · by_cases hr : (e.isRetriable || e.isTimeout) = true
      · simp only [ht, hr, if_true]
        obtain ⟨now, s₃, h₃⟩ := G.run_reportFailure _ target.provider
        refine .bind_run h₃ ?_
        obtain ⟨latency, s₄, h₄⟩ := G.run_recordAttempt _ target .retriable startedT (some e.msg)
        refine .bind_run h₄ (.of_run (Prog.run_pure _ _) ?_)
        refine ⟨⟨target, slot, .error e⟩, by simp, by simp, ?_, callEntries_append_call ?_⟩
        · simp only [EmbedCall.isTyped, Exc.isTyped, Bool.or_assoc, hr, Bool.or_true]
        · simp [Attempt.untimed, EmbedCall.attempt, ht]
      · simp only [ht, hr]
        refine .of_run (Prog.run_raise _ _) ?_
        have huntyped : e.isTyped = false := by
          simpa [Exc.isTyped, Bool.or_assoc] using And.intro ht hr
        exact .inr ⟨⟨⟨target, slot, .error e⟩, by simp, huntyped⟩, by simp⟩

/-- The loop of `embed` over the targets. -/
lemma embedWalk_spec (inputs : List Str) (started : ℚ) (deadline : Option ℚ)
    (targets : List Target) (idx : ℕ) (w : World σ) :
    Prog.Sat (G.embedWalk model inputs metadata started deadline idx targets) w
      (fun _ _ es => EmbedDone w.attempts es) := by
  induction targets generalizing idx w with
  | nil =>
    obtain ⟨latency, s, e, h⟩ := G.run_embedAllFailed model metadata w started
    exact .of_run h (.of_record (by simp) (by simp; rfl) rfl)
  | cons t rest ih =>
    rw [embedWalk]
    obtain ⟨passed, s₁, h₁⟩ := G.run_deadlineExceeded w t deadline
    refine .bind_run h₁ ?_
    cases passed with
    | true =>
      obtain ⟨latency, s, e, h⟩ := G.run_embedAllFailed model metadata _ started
      refine .of_run h (.of_record (by simp) (by simp; rfl) ?_)
      exact callEntries_append_guard _ t _ rfl
    | false =>
      simp only [Bool.false_eq_true, if_false, List.append_nil]
      cases hp : G.providers.get? t.provider with
      | none =>
        obtain ⟨latency, s, h⟩ := G.run_recordEmbedError model metadata _ started .provider
          (some ("unregistered provider: " ++ G.py.repr (.str t.provider))) (some t.name)
        refine .bind_run h (.of_run (Prog.run_raise _ _) ?_)
        exact .of_record (by simp) (by simp; rfl) rfl
      | some provider =>
        dsimp only
        cases hembed : provider.embed with
        | none =>
          refine .bind_run (Prog.run_modify _ _) ((ih (idx + 1) _).imp fun r w' es h => ?_)
          exact h.after_guard (callEntries_append_guard _ t _ rfl)
        | some fn =>
          cases hc : G.costMeter.ensurePrice t.name with
          | error e =>
            obtain ⟨latency, s, h⟩ := G.run_recordEmbedError model metadata _ started .pricing
              (some e.msg) (some t.name)
            refine .bind_run h (.of_run (Prog.run_raise _ _) ?_)
            exact .of_record (by simp) (by simp; rfl) rfl
          | ok u =>
            obtain ⟨now, s₂, h₂⟩ := G.run_circuitBlocked _ t
            refine .bind_run h₂ ?_
            cases hallow : (w.circuit.allow t.provider now).1 with
            | false =>
              refine (ih (idx + 1) _).imp fun r w' es h => ?_
              exact h.after_guard (callEntries_append_guard _ t _ rfl)
            | true =>
              simp only [Bool.not_true, Bool.false_eq_true, if_false, if_true, List.append_nil]
              obtain ⟨slot, s₃, h₃, -⟩ := G.run_timeoutWithin _ deadline
              refine .bind_run h₃ ?_
              cases slot with
              | none =>
                refine .bind_run (Prog.run_modify _ _) ?_
                obtain ⟨latency, s, e, h⟩ := G.run_embedAllFailed model metadata _ started
                refine .of_run h (.of_record (by simp) (by simp; rfl) ?_)
                exact callEntries_append_guard _ t _ rfl
              | some slot =>
                refine .bind (embedTarget_spec fn t inputs started slot idx) ?_ ?_
                · intro x w₁ es₁ hx
                  cases x with
                  | none =>
                    obtain ⟨c, hcalls, hrecords, hc, hentries⟩ := hx
                    refine (ih (idx + 1) w₁).imp fun r w' es h => ?_
                    exact h.after_call hcalls hrecords hc hentries
                  | some resp =>
                    refine .of_run (Prog.run_pure _ _) ?_
                    simpa using hx
                · intro e w₁ es₁ hx
                  exact hx

end Gateway

/-! ## The contract -/

variable {G : Gateway σ}

/-- An embeddings call is recorded like the part of it that follows its beginning. -/
lemma Gateway.embed_spec (model : Str) (inputs : List Str) (metadata : Metadata) (w : World σ) :
    Prog.Sat (G.embed model inputs metadata) w (fun _ _ es => EmbedDone [] es) := by
  rw [embed]
  refine .bind_run (Prog.run_modify _ _) ?_
  obtain ⟨started, s₁, h₁⟩ := G.run_monotonic { w with attempts := [] }
  refine .bind_run h₁ ?_
  have hb : (Prog.attempt (G.budgetCheck metadata.consumerName)).run
      { w with attempts := [], outer := s₁ } =
      (.ok (w.budget.check G.py metadata.consumerName), { w with attempts := [], outer := s₁ },
        []) := by
    rw [Prog.run_attempt, budgetCheck, Prog.run_bind_ok (Prog.run_gets _ _), Prog.run_ofExcept]
    rfl
  refine .bind_run hb ?_
  cases hc : w.budget.check G.py metadata.consumerName with
  | error e =>
    obtain ⟨latency, s, h⟩ := G.run_recordEmbedError model metadata _ started .budget
      (some e.msg) none
    refine .bind_run h (.of_run (Prog.run_raise _ _) ?_)
    exact .of_record (by simp) (by simp; rfl) rfl
  | ok u =>
    dsimp only
    cases hr : G.router.resolve G.py model with
    | error e =>
      obtain ⟨latency, s, h⟩ := G.run_recordEmbedError model metadata _ started .routing
        (some e.msg) none
      refine .bind_run h (.of_run (Prog.run_raise _ _) ?_)
      exact .of_record (by simp) (by simp; rfl) rfl
    | ok targets => exact embedWalk_spec inputs started _ targets 0 _

/-- **One record for every call.** A chat call leaves exactly one record, with an attempt for every
provider call and in their order, exactly when the code before the first target raises nothing but
what it records and every provider call ends in an answer, a `TerminalError`, a `RetriableError` or
a `TimeoutError`; an embeddings call does so exactly when its provider calls end in one of these. -/
theorem one_record_iff (G : Gateway σ) :
    (∀ (request : NormalizedRequest) (w : World σ),
      (∃ c, recordsOf ((G.invoke request).trace w) = [c] ∧ callEntries c.attempts =
          (callsOf ((G.invoke request).trace w)).map ProviderCall.attempt) ↔
        G.Admissible request ∧ ∀ c ∈ callsOf ((G.invoke request).trace w), c.isTyped = true) ∧
    (∀ (model : Str) (inputs : List Str) (metadata : Metadata) (w : World σ),
      (∃ c, embedRecordsOf ((G.embed model inputs metadata).trace w) = [c] ∧
          callEntries c.attempts =
            (embedCallsOf ((G.embed model inputs metadata).trace w)).map EmbedCall.attempt) ↔
        ∀ c ∈ embedCallsOf ((G.embed model inputs metadata).trace w), c.isTyped = true) := by
  refine ⟨fun request w => ?_, fun model inputs metadata w => ?_⟩
  · have hspec := G.invoke_spec request w
    unfold Prog.Sat at hspec
    generalize (G.invoke request).trace w = es at hspec ⊢
    cases hspec with
    | stopped h hcalls hrecords => simp [h, hrecords]
    | early h hcalls hrecords hc =>
      refine iff_of_true ⟨_, hrecords, ?_⟩ ⟨h, by simp [hcalls]⟩
      simp [hc, hcalls, callEntries]
    | walked h hw hwalk => simpa [h] using hwalk.callEntries_eq hw
  · have hspec := Gateway.embed_spec (G := G) model inputs metadata w
    unfold Prog.Sat at hspec
    generalize (G.embed model inputs metadata).trace w = es at hspec ⊢
    rcases hspec with ⟨htyped, c, hc, hentries⟩ | ⟨⟨c, hc, huntyped⟩, hrecords⟩
    · exact iff_of_true ⟨c, hc, by simpa [callEntries] using hentries⟩ htyped
    · refine iff_of_false ?_ fun h => ?_
      · simp [hrecords]
      · simp [h c hc] at huntyped

/-- The provider raises a `ValueError`. -/
def valueErrorAtOnce : World Scripted :=
  { outer := { outcomes := [(1, .error ⟨.valueError, "bad response", none⟩)] } }

/-- One provider call is made, and the call leaves no record. -/
theorem valueError_leaves_no_record :
    (callsOf ((scriptedGateway.invoke plainRequest).trace valueErrorAtOnce)).length = 1 ∧
      ¬ ∃ c, recordsOf ((scriptedGateway.invoke plainRequest).trace valueErrorAtOnce) = [c] := by
  have hnone :
      (recordsOf ((scriptedGateway.invoke plainRequest).trace valueErrorAtOnce)).length = 0 := by
    decide +kernel
  refine ⟨by decide +kernel, ?_⟩
  rintro ⟨c, hc⟩
  simp [hc] at hnone

end AgentCtl
