import AgentCtl.Core.HostLaws

set_option relaxedAutoImplicit false
set_option autoImplicit false

/-!
# The visits of a chat call

A chat call walks its chain of targets. Its visit of a target is a number of rounds, each of them
one provider call, and ends in one of a few ways. The relations `Rounds` and `Walked` list these
ways once, with everything that can be seen of them; what holds for every run is then an induction
over them.

## Main definitions

* `AgentCtl.Ending`, `AgentCtl.Rounds` — how the visit of a target goes.
* `AgentCtl.Visit`, `AgentCtl.WalkEnd`, `AgentCtl.Walked` — how the walk along a chain goes.
* `AgentCtl.BreakerRun` — how the breaker goes along with the visits of a walk.

## Main results

* `AgentCtl.Gateway.invokeTargetFrom_spec` — the retry loop makes rounds.
* `AgentCtl.Gateway.walk_spec` — the loop over the targets walks the chain.
-/

namespace AgentCtl

variable {σ : Type}

/-! ## Rounds -/

/-- An attempt without its latency. -/
def Attempt.untimed (a : Attempt) : Attempt := { a with latencyMs := 0 }

/-- The attempt that stands for a provider call, without its latency. -/
def ProviderCall.attempt (c : ProviderCall) : Attempt :=
  match c.out with
  | .ok _ => ⟨c.target.provider, c.target.model, .success, 0, none⟩
  | .error e => ⟨c.target.provider, c.target.model,
      if e.isTerminal then .terminal else Gateway.retryOutcome e, 0, some e.msg⟩

/-- How a visit ends: the provider answered, it refused for good, the attempts are used up, the
deadline has passed, or an exception that no handler knows escaped. -/
inductive Ending where
  | answered (resp : NormalizedResponse)
  | refused (e : Exc)
  | exhausted
  | cut
  | escaped (e : Exc)

namespace Ending

/-- What the retry loop returns or raises. -/
def Outcome : Ending → Except Exc NormalizedResponse → Prop
  | answered resp, r => r = .ok resp
  | refused e, r => r = .error e
  | exhausted, r => ∃ msg, r = .error (.retriable msg)
  | cut, r => r = .error Gateway.deadlineExc
  | escaped e, r => r = .error e

/-- The calls that became attempts: the one an exception escaped from did not. -/
def recorded : Ending → List ProviderCall → List ProviderCall
  | escaped _, calls => calls.dropLast
  | _, calls => calls

end Ending

/-- The rounds of a visit, with the number of attempts that are left. -/
inductive Rounds (timeoutS : ℚ) (deadline : Option ℚ) (target : Target) :
    ℕ → List ProviderCall → Ending → Prop
  | exhausted : Rounds timeoutS deadline target 0 [] .exhausted
  | cut (left : ℕ) (h : deadline.isSome) : Rounds timeoutS deadline target (left + 1) [] .cut
  | answered (left : ℕ) {slot : TimeoutSlot} (hslot : SlotWithin timeoutS deadline slot)
      (resp : NormalizedResponse) :
      Rounds timeoutS deadline target (left + 1) [⟨target, slot, .ok resp⟩] (.answered resp)
  | refused (left : ℕ) {slot : TimeoutSlot} (hslot : SlotWithin timeoutS deadline slot) {e : Exc}
      (h : e.isTerminal = true) :
      Rounds timeoutS deadline target (left + 1) [⟨target, slot, .error e⟩] (.refused e)
  | escaped (left : ℕ) {slot : TimeoutSlot} (hslot : SlotWithin timeoutS deadline slot) {e : Exc}
      (h : e.isTyped = false) :
      Rounds timeoutS deadline target (left + 1) [⟨target, slot, .error e⟩] (.escaped e)
  | again {left : ℕ} {slot : TimeoutSlot} (hslot : SlotWithin timeoutS deadline slot) {e : Exc}
      (h : (e.isRetriable || e.isTimeout) = true) {calls : List ProviderCall} {ending : Ending}
      (rest : Rounds timeoutS deadline target left calls ending) :
      Rounds timeoutS deadline target (left + 1) (⟨target, slot, .error e⟩ :: calls) ending

/-- An exception escapes from a call. -/
lemma Rounds.ne_nil_of_escaped {timeoutS : ℚ} {deadline : Option ℚ} {target : Target} {left : ℕ}
    {calls : List ProviderCall} {e : Exc}
    (h : Rounds timeoutS deadline target left calls (.escaped e)) : calls ≠ [] := by
  cases h <;> simp

/-- A call that another one follows became an attempt. -/
lemma Rounds.recorded_cons {timeoutS : ℚ} {deadline : Option ℚ} {target : Target} {left : ℕ}
    {calls : List ProviderCall} {ending : Ending}
    (h : Rounds timeoutS deadline target left calls ending) (c : ProviderCall) :
    ending.recorded (c :: calls) = c :: ending.recorded calls := by
  cases ending with
  | escaped e => exact List.dropLast_cons_of_ne_nil h.ne_nil_of_escaped
  | _ => rfl

/-- A refusal is a `TerminalError`. -/
lemma Rounds.isTerminal {timeoutS : ℚ} {deadline : Option ℚ} {target : Target} {left : ℕ}
    {calls : List ProviderCall} {e : Exc}
    (h : Rounds timeoutS deadline target left calls (.refused e)) : e.isTerminal = true := by
  generalize hend : Ending.refused e = ending at h
  induction h with
  | refused _ _ h => rwa [Ending.refused.inj hend]
  | again _ _ _ ih => exact ih hend
  | _ => cases hend

/-- What escapes is none of the exceptions the handlers know. -/
lemma Rounds.isTyped {timeoutS : ℚ} {deadline : Option ℚ} {target : Target} {left : ℕ}
    {calls : List ProviderCall} {e : Exc}
    (h : Rounds timeoutS deadline target left calls (.escaped e)) : e.isTyped = false := by
  generalize hend : Ending.escaped e = ending at h
  induction h with
  | escaped _ _ h => rwa [Ending.escaped.inj hend]
  | again _ _ _ ih => exact ih hend
  | _ => cases hend

/-- The events of the retry loop are provider calls and pauses. -/
@[simp] def Event.isRound : Event σ → Bool
  | call .. => true
  | sleep .. => true
  | _ => false

namespace Gateway

variable (G : Gateway σ)

/-- What is known of a visit after it: the rounds made, their attempts, and how the visit ends. -/
def VisitDone (deadline : Option ℚ) (target : Target) (left : ℕ) (w : World σ)
    (r : Except Exc NormalizedResponse) (w' : World σ) (es : List (Event σ)) : Prop :=
  ∃ ending attempts s, Rounds G.retry.timeoutS deadline target left (callsOf es) ending ∧
    ending.Outcome r ∧ w' = { w with outer := s, attempts := w.attempts ++ attempts } ∧
    attempts.map Attempt.untimed = (ending.recorded (callsOf es)).map ProviderCall.attempt ∧
    ∀ e ∈ es, e.isRound = true

variable {G}

/-- One more round before the rest of a visit. -/
lemma VisitDone.again {deadline : Option ℚ} {target : Target} {left : ℕ} {w w' : World σ}
    {r : Except Exc NormalizedResponse} {es : List (Event σ)} (pause : List (Event σ))
    {slot : TimeoutSlot} {e : Exc} {a : Attempt} {s : σ}
    (hslot : SlotWithin G.retry.timeoutS deadline slot)
    (he : (e.isRetriable || e.isTimeout) = true)
    (ha : a.untimed = (⟨target, slot, .error e⟩ : ProviderCall).attempt)
    (hpause : pause = [] ∨ ∃ d s', pause = [.sleep d s'])
    (h : G.VisitDone deadline target left { w with outer := s, attempts := w.attempts ++ [a] }
      r w' es) :
    G.VisitDone deadline target (left + 1) w r w'
      (.call target slot (.error e) :: (pause ++ es)) := by
  obtain ⟨ending, attempts, s', hrounds, hout, rfl, hattempts, hes⟩ := h
  have hcalls : callsOf (.call target slot (.error e) :: (pause ++ es)) =
      ⟨target, slot, .error e⟩ :: callsOf es := by
    rcases hpause with rfl | ⟨d, s'', rfl⟩ <;> simp
  refine ⟨ending, a :: attempts, s', ?_, hout, ?_, ?_, ?_⟩
  · rw [hcalls]
    exact .again hslot he hrounds
  · simp
  · rw [hcalls, hrounds.recorded_cons, List.map_cons, List.map_cons, ha, hattempts]
  · rcases hpause with rfl | ⟨d, s'', rfl⟩ <;> simpa using hes

variable (G)

/-- The retry loop makes rounds. -/
lemma invokeTargetFrom_spec (provider : Provider σ) (target : Target) (request : NormalizedRequest)
    (deadline : Option ℚ) (left n : ℕ) (last : Exc) (w : World σ) :
    Prog.Sat (G.invokeTargetFrom provider target request deadline n last left) w
      (G.VisitDone deadline target left w) := by
  induction left generalizing n last w with
  | zero =>
    refine .of_run (Prog.run_raise _ _) ⟨.exhausted, [], w.outer, .exhausted, ⟨_, rfl⟩, ?_, rfl, ?_⟩
    · simp
    · simp
  | succ left ih =>
    rw [invokeTargetFrom]
    obtain ⟨slot, s₁, h₁, hslot⟩ := G.run_timeoutWithin w deadline
    refine .bind_run h₁ ?_
    cases slot with
    | none =>
      refine .of_run (Prog.run_raise _ _) ⟨.cut, [], s₁, .cut left hslot, rfl, ?_, rfl, ?_⟩
      · simp
      · simp
    | some slot =>
      obtain ⟨started, s₂, h₂⟩ := G.run_monotonic { w with outer := s₁ }
      refine .bind_run h₂ ?_
      obtain ⟨out, s₃, h₃⟩ := run_callProvider { w with outer := s₂ } provider target request slot
      refine .bind_run h₃ ?_
      cases out with
      | ok resp =>
        obtain ⟨latency, s₄, h₄⟩ :=
          G.run_recordAttempt { w with outer := s₃ } target .success started none
        refine .bind_run h₄ (.of_run (Prog.run_pure _ _) ?_)
        exact ⟨.answered resp, _, s₄, .answered left hslot resp, rfl, rfl, rfl, by simp⟩
      | error e =>
        by_cases ht : e.isTerminal = true
        · obtain ⟨latency, s₄, h₄⟩ :=
            G.run_recordAttempt { w with outer := s₃ } target .terminal started (some e.msg)
          simp only [ht, if_true]
          refine .bind_run h₄ (.of_run (Prog.run_raise _ _) ?_)
          refine ⟨.refused e, _, s₄, .refused left hslot ht, rfl, rfl, ?_, by simp⟩
          simp [Ending.recorded, ProviderCall.attempt, ht, Attempt.untimed]
        · by_cases hr : (e.isRetriable || e.isTimeout) = true
          · obtain ⟨latency, s₄, h₄⟩ :=
              G.run_recordAttempt { w with outer := s₃ } target (retryOutcome e) started
                (some e.msg)
            simp only [ht, hr, if_true]
            refine .bind_run h₄ ?_
            obtain ⟨s₅, es₅, h₅, hes₅⟩ := G.run_pause
              { w with outer := s₄, attempts := w.attempts ++ [⟨target.provider, target.model,
                retryOutcome e, latency, some e.msg⟩] } n
            refine .bind_run h₅ ((ih (n + 1) e _).imp ?_)
            intro r w' es h
            have ha : (⟨target.provider, target.model, retryOutcome e, latency, some e.msg⟩ :
                Attempt).untimed = (⟨target, slot, .error e⟩ : ProviderCall).attempt := by
              simp [Attempt.untimed, ProviderCall.attempt, ht]
            exact VisitDone.again es₅ hslot hr ha hes₅ h
          · simp only [ht, hr]
            refine .of_run (Prog.run_raise _ _) ?_
            refine ⟨.escaped e, [], s₃, .escaped left hslot ?_, rfl, ?_, rfl, by simp⟩
            · simpa [Exc.isTyped, Bool.or_assoc] using And.intro ht hr
            · simp

/-- `_invoke_target` makes rounds. -/
lemma invokeTarget_spec (provider : Provider σ) (target : Target) (request : NormalizedRequest)
    (deadline : Option ℚ) (w : World σ) :
    Prog.Sat (G.invokeTarget provider target request deadline) w
      (G.VisitDone deadline target G.retry.maxAttemptsPerTarget w) :=
  G.invokeTargetFrom_spec provider target request deadline _ _ _ w

end Gateway

/-! ## Walks -/

/-- What happens at a target of the chain: it is skipped because its breaker is open, or visited. -/
inductive Visit where
  | skipped (target : Target)
  | visited (target : Target) (calls : List ProviderCall) (ending : Ending)

namespace Visit

/-- The target of a visit. -/
def target : Visit → Target
  | skipped t => t
  | visited t _ _ => t

/-- The provider calls of a visit. -/
def calls : Visit → List ProviderCall
  | skipped _ => []
  | visited _ calls _ => calls

/-- The breaker reports of a visit: one, unless the deadline cut it or an exception escaped. -/
def reports : Visit → List (Str × Bool)
  | skipped _ => []
  | visited t _ (.answered _) => [(t.provider, true)]
  | visited t _ (.refused _) => [(t.provider, false)]
  | visited t _ .exhausted => [(t.provider, false)]
  | visited _ _ .cut => []
  | visited _ _ (.escaped _) => []

/-- Does the walk go on after the visit? It does after a skipped target, and when the attempts or
the time were used up. -/
def goesOn : Visit → Bool
  | skipped _ | visited _ _ .exhausted | visited _ _ .cut => true
  | visited _ _ (.answered _) | visited _ _ (.refused _) | visited _ _ (.escaped _) => false

/-- The breaker after the reports of a visit, with the time of a failure. -/
def reported (v : Visit) (cb : CircuitBreaker) (now : ℚ) : CircuitBreaker :=
  v.reports.foldl
    (fun cb r => if r.2 then cb.recordSuccess r.1 else cb.recordFailure r.1 now) cb

/-- The attempts of a visit, without their latencies. -/
def attempts : Visit → List Attempt
  | skipped t => [guardEntry t .circuitOpen "circuit open"]
  | visited _ calls ending => (ending.recorded calls).map ProviderCall.attempt

end Visit

/-- How the breaker goes along with the visits of a walk, from one state to another. It is asked
about each target at a reading of the clock, and refuses those that are skipped and no others; and
it hears the reports of the visits. -/
inductive BreakerRun (G : Gateway σ) : CircuitBreaker → List Visit → CircuitBreaker → Prop
  | done (cb : CircuitBreaker) : BreakerRun G cb [] cb
  | skipped {cb cb' : CircuitBreaker} {t : Target} {vs : List Visit} (s : σ)
      (hrefused : (cb.allow t.provider (G.reading s)).1 = false)
      (rest : BreakerRun G (cb.allow t.provider (G.reading s)).2 vs cb') :
      BreakerRun G cb (.skipped t :: vs) cb'
  | visited {cb cb' : CircuitBreaker} {t : Target} {calls : List ProviderCall} {ending : Ending}
      {vs : List Visit} (s s' : σ) (hallowed : (cb.allow t.provider (G.reading s)).1 = true)
      (rest : BreakerRun G ((Visit.visited t calls ending).reported
        (cb.allow t.provider (G.reading s)).2 (G.reading s')) vs cb') :
      BreakerRun G cb (.visited t calls ending :: vs) cb'

/-- How a walk ends. `allFailed` holds the target at which the deadline had passed, if it had. -/
inductive WalkEnd where
  | answered (idx : ℕ) (target : Target) (resp : NormalizedResponse)
  | refused (target : Target) (e : Exc)
  | escaped (e : Exc)
  | allFailed (passed : Option Target)
  | unregistered (target : Target)
  | unpriced (target : Target) (e : Exc)

namespace WalkEnd

/-- The attempt that stands for the passed deadline. -/
def attempts : WalkEnd → List Attempt
  | allFailed (some t) => [guardEntry t .deadline "request deadline exceeded"]
  | _ => []

/-- The record of the call: none if an exception escaped. -/
def records (G : Gateway σ) (key : Option Str) (attempts : List Attempt) : WalkEnd → List Captured
  | answered idx t resp =>
    [{ modelResolved := some t.name, attempts := attempts, resp := some resp,
       status := if idx = 0 then .success else .fallbackSuccess, cacheKey := key }]
  | refused t e =>
    [{ modelResolved := some t.name, attempts := attempts, cacheKey := key,
       errorType := some .terminal, errorMessage := some e.msg }]
  | escaped _ => []
  | allFailed _ =>
    [{ attempts := attempts, cacheKey := key, errorType := some .allFailed,
       errorMessage := attempts.getLast?.bind Attempt.error }]
  | unregistered t =>
    [{ modelResolved := some t.name, attempts := attempts, cacheKey := key,
       errorType := some .provider, errorMessage := some (G.unregistered t) }]
  | unpriced t e =>
    [{ modelResolved := some t.name, attempts := attempts, cacheKey := key,
       errorType := some .pricing, errorMessage := some e.msg }]

/-- What the call returns or raises. -/
def Outcome (G : Gateway σ) (request : NormalizedRequest) :
    WalkEnd → Except Exc NormalizedResponse → Prop
  | answered _ _ resp, r => r = .ok resp
  | refused _ e, r => r = .error e
  | escaped e, r => r = .error e
  | allFailed _, r => r = .error (G.allFailedExc request)
  | unregistered t, r => r = .error
    (.gateway (G.unregistered t ++ " (model=" ++ G.py.repr (.str request.model) ++ ")"))
  | unpriced _ e, r => r = .error e

end WalkEnd

/-- The walk along a chain from position `idx` on. -/
inductive Walked (G : Gateway σ) (deadline : Option ℚ) :
    ℕ → List Target → List Visit → WalkEnd → Prop
  | done (idx : ℕ) : Walked G deadline idx [] [] (.allFailed none)
  | passed (idx : ℕ) (t : Target) (rest : List Target) (h : G.Passed deadline) :
      Walked G deadline idx (t :: rest) [] (.allFailed (some t))
  | unregistered (idx : ℕ) {t : Target} (rest : List Target)
      (h : G.providers.get? t.provider = none) :
      Walked G deadline idx (t :: rest) [] (.unregistered t)
  | unpriced (idx : ℕ) {t : Target} (rest : List Target) {e : Exc}
      (h : G.costMeter.ensurePrice t.name = .error e) :
      Walked G deadline idx (t :: rest) [] (.unpriced t e)
  | skipped {idx : ℕ} (t : Target) {rest : List Target} {vs : List Visit} {e : WalkEnd}
      (h : Walked G deadline (idx + 1) rest vs e) :
      Walked G deadline idx (t :: rest) (.skipped t :: vs) e
  | answered (idx : ℕ) {t : Target} (rest : List Target) {calls : List ProviderCall}
      {resp : NormalizedResponse} (h : Rounds G.retry.timeoutS deadline t
        G.retry.maxAttemptsPerTarget calls (.answered resp)) :
      Walked G deadline idx (t :: rest) [.visited t calls (.answered resp)] (.answered idx t resp)
  | refused (idx : ℕ) {t : Target} (rest : List Target) {calls : List ProviderCall} {e : Exc}
      (h : Rounds G.retry.timeoutS deadline t G.retry.maxAttemptsPerTarget calls (.refused e)) :
      Walked G deadline idx (t :: rest) [.visited t calls (.refused e)] (.refused t e)
  | escaped (idx : ℕ) {t : Target} (rest : List Target) {calls : List ProviderCall} {e : Exc}
      (h : Rounds G.retry.timeoutS deadline t G.retry.maxAttemptsPerTarget calls (.escaped e)) :
      Walked G deadline idx (t :: rest) [.visited t calls (.escaped e)] (.escaped e)
  | next {idx : ℕ} {t : Target} {rest : List Target} {calls : List ProviderCall} {ending : Ending}
      (h : Rounds G.retry.timeoutS deadline t G.retry.maxAttemptsPerTarget calls ending)
      (hending : ending = .exhausted ∨ ending = .cut) {vs : List Visit} {e : WalkEnd}
      (hrest : Walked G deadline (idx + 1) rest vs e) :
      Walked G deadline idx (t :: rest) (.visited t calls ending :: vs) e

namespace Gateway

variable (G : Gateway σ) (request : NormalizedRequest) (key : Option Str)

/-- What is known of a walk after it. -/
def WalkDone (deadline : Option ℚ) (idx : ℕ) (targets : List Target) (w : World σ)
    (r : Except Exc NormalizedResponse) (w' : World σ) (es : List (Event σ)) : Prop :=
  ∃ visits ending attempts, Walked G deadline idx targets visits ending ∧
    ending.Outcome G request r ∧ w'.attempts = w.attempts ++ attempts ∧
    attempts.map Attempt.untimed = visits.flatMap Visit.attempts ++ ending.attempts ∧
    callsOf es = visits.flatMap Visit.calls ∧ reportsOf es = visits.flatMap Visit.reports ∧
    recordsOf es = ending.records G key w'.attempts ∧ BreakerRun G w.circuit visits w'.circuit

variable {G request key}

/-- The record of a capture, and nothing else that the projections see. -/
@[simp] lemma callsOf_captureEvents (latency : ℤ) (c : Captured) :
    callsOf (G.captureEvents request latency c) = [] := by
  unfold captureEvents
  cases G.hasStore <;> simp

@[simp] lemma reportsOf_captureEvents (latency : ℤ) (c : Captured) :
    reportsOf (G.captureEvents request latency c) = [] := by
  unfold captureEvents
  cases G.hasStore <;> simp

@[simp] lemma recordsOf_captureEvents (latency : ℤ) (c : Captured) :
    recordsOf (G.captureEvents request latency c) = [c] := by
  unfold captureEvents
  cases G.hasStore <;> simp

/-- The rounds of a visit report nothing. -/
lemma reportsOf_rounds {es : List (Event σ)} (h : ∀ e ∈ es, e.isRound = true) :
    reportsOf es = [] := by
  unfold reportsOf
  rw [List.filterMap_eq_nil_iff]
  intro e he
  have hround := h e he
  cases e <;> simp_all

/-- The rounds of a visit record nothing. -/
lemma recordsOf_rounds {es : List (Event σ)} (h : ∀ e ∈ es, e.isRound = true) :
    recordsOf es = [] := by
  unfold recordsOf
  rw [List.filterMap_eq_nil_iff]
  intro e he
  have hround := h e he
  cases e <;> simp_all

variable (G request key)

/-- The end of a chain without an answer. -/
lemma run_allFailed (started : ℚ) (w : World σ) :
    ∃ latency s, (G.allFailed request started key).run w = (.error (G.allFailedExc request),
      { w with outer := s, budget := w.budget.add request.metadata.consumerName none },
      G.captureEvents request latency
        { attempts := w.attempts, cacheKey := key, errorType := some .allFailed,
          errorMessage := w.attempts.getLast?.bind Attempt.error }) := by
  obtain ⟨latency, s, h⟩ := G.run_recordError w request started key .allFailed
    (w.attempts.getLast?.bind Attempt.error) none
  refine ⟨latency, s, ?_⟩
  rw [allFailed, Prog.run_bind_ok (Prog.run_gets _ _), Prog.run_bind_ok h]
  simp

variable {G request key}

/-- A target that is skipped, before the rest of the walk. -/
lemma WalkDone.skip {deadline : Option ℚ} {idx : ℕ} {t : Target} {rest : List Target}
    {w w₁ w' : World σ} {r : Except Exc NormalizedResponse} {es : List (Event σ)}
    (hw₁ : w₁.attempts = w.attempts ++ [guardEntry t .circuitOpen "circuit open"]) (s : σ)
    (hrefused : (w.circuit.allow t.provider (G.reading s)).1 = false)
    (hcircuit : w₁.circuit = (w.circuit.allow t.provider (G.reading s)).2)
    (h : G.WalkDone request key deadline (idx + 1) rest w₁ r w' es) :
    G.WalkDone request key deadline idx (t :: rest) w r w' es := by
  obtain ⟨visits, ending, attempts, hwalk, hout, hw', hattempts, hcalls, hreports, hrecords,
    hbreaker⟩ := h
  rw [hcircuit] at hbreaker
  refine ⟨.skipped t :: visits, ending, guardEntry t .circuitOpen "circuit open" :: attempts,
    .skipped t hwalk, hout, ?_, ?_, ?_, ?_, hrecords, .skipped s hrefused hbreaker⟩
  · simp [hw', hw₁]
  · simp [hattempts, Visit.attempts, Attempt.untimed, guardEntry]
  · simp [hcalls, Visit.calls]
  · simp [hreports, Visit.reports]

/-- A visit without an answer, before the rest of the walk: `fs` are the events between the two. -/
lemma WalkDone.next {deadline : Option ℚ} {idx : ℕ} {t : Target} {rest : List Target}
    {w w₁ w' : World σ} {r : Except Exc NormalizedResponse} {es es' : List (Event σ)}
    (fs : List (Event σ)) {ending : Ending} {as : List Attempt}
    (hrounds : Rounds G.retry.timeoutS deadline t G.retry.maxAttemptsPerTarget (callsOf es) ending)
    (hending : ending = .exhausted ∨ ending = .cut) (hw₁ : w₁.attempts = w.attempts ++ as)
    (has : as.map Attempt.untimed = (ending.recorded (callsOf es)).map ProviderCall.attempt)
    (hes : ∀ e ∈ es, e.isRound = true) (hcalls : callsOf fs = [])
    (hreports : reportsOf fs = (Visit.visited t (callsOf es) ending).reports)
    (hrecords : recordsOf fs = []) (s s' : σ)
    (hallowed : (w.circuit.allow t.provider (G.reading s)).1 = true)
    (hcircuit : w₁.circuit = (Visit.visited t (callsOf es) ending).reported
      (w.circuit.allow t.provider (G.reading s)).2 (G.reading s'))
    (h : G.WalkDone request key deadline (idx + 1) rest w₁ r w' es') :
    G.WalkDone request key deadline idx (t :: rest) w r w' (es ++ (fs ++ es')) := by
  obtain ⟨visits, e, attempts, hwalk, hout, hw', hattempts, hcalls', hreports', hrecords',
    hbreaker⟩ := h
  rw [hcircuit] at hbreaker
  refine ⟨.visited t (callsOf es) ending :: visits, e, as ++ attempts,
    .next hrounds hending hwalk, hout, ?_, ?_, ?_, ?_, ?_, .visited s s' hallowed hbreaker⟩
  · rw [hw', hw₁, List.append_assoc]
  · simp [Visit.attempts, hattempts, has]
  · simp [Visit.calls, hcalls, hcalls']
  · simp [reportsOf_rounds hes, hreports, hreports']
  · simp [recordsOf_rounds hes, hrecords, hrecords']

/-- A visit that ends the walk, and the events `fs` that follow it. -/
lemma WalkDone.of_visit {deadline : Option ℚ} {idx : ℕ} {t : Target} {rest : List Target}
    {w w' : World σ} {r : Except Exc NormalizedResponse} {es fs : List (Event σ)}
    {ending : Ending} {e : WalkEnd} {as : List Attempt}
    (hwalk : Walked G deadline idx (t :: rest) [.visited t (callsOf es) ending] e)
    (hout : e.Outcome G request r) (hend : e.attempts = []) (hw' : w'.attempts = w.attempts ++ as)
    (has : as.map Attempt.untimed = (ending.recorded (callsOf es)).map ProviderCall.attempt)
    (hes : ∀ e ∈ es, e.isRound = true) (hcalls : callsOf fs = [])
    (hreports : reportsOf fs = (Visit.visited t (callsOf es) ending).reports)
    (hrecords : recordsOf fs = e.records G key w'.attempts) (s s' : σ)
    (hallowed : (w.circuit.allow t.provider (G.reading s)).1 = true)
    (hcircuit : w'.circuit = (Visit.visited t (callsOf es) ending).reported
      (w.circuit.allow t.provider (G.reading s)).2 (G.reading s')) :
    G.WalkDone request key deadline idx (t :: rest) w r w' (es ++ fs) := by
  refine ⟨_, e, as, hwalk, hout, hw', ?_, ?_, ?_, ?_, .visited s s' hallowed (hcircuit ▸ .done _)⟩
  · simp [Visit.attempts, hend, has]
  · simp [Visit.calls, hcalls]
  · simp [reportsOf_rounds hes, hreports]
  · rw [recordsOf_append, recordsOf_rounds hes, List.nil_append, hrecords]

/-- A walk that ends before a visit, in a world with the attempts `as` more. -/
lemma WalkDone.of_start {deadline : Option ℚ} {idx : ℕ} {targets : List Target}
    {w w' : World σ} {r : Except Exc NormalizedResponse} {es : List (Event σ)} {e : WalkEnd}
    (as : List Attempt) (hwalk : Walked G deadline idx targets [] e)
    (hout : e.Outcome G request r) (hw' : w'.attempts = w.attempts ++ as)
    (has : as.map Attempt.untimed = e.attempts) (hcalls : callsOf es = [])
    (hreports : reportsOf es = []) (hrecords : recordsOf es = e.records G key w'.attempts)
    (hcircuit : w'.circuit = w.circuit) : G.WalkDone request key deadline idx targets w r w' es :=
  ⟨[], e, as, hwalk, hout, hw', has, hcalls, hreports, hrecords, hcircuit ▸ .done _⟩

variable (G request key)

/-- The loop over the targets walks the chain. -/
lemma walk_spec (started : ℚ) (deadline : Option ℚ) (targets : List Target) (idx : ℕ)
    (w : World σ) :
    Prog.Sat (G.walk request started key deadline idx targets) w
      (G.WalkDone request key deadline idx targets w) := by
  induction targets generalizing idx w with
  | nil =>
    obtain ⟨latency, s, h⟩ := G.run_allFailed request key started w
    refine .of_run h (.of_start [] (.done idx) rfl (by simp) rfl ?_ ?_ ?_ rfl) <;>
      simp [WalkEnd.records]
  | cons t rest ih =>
    rw [walk]
    obtain ⟨passed, s₁, h₁⟩ := G.run_deadlineExceeded w t deadline
    refine .bind_run h₁ ?_
    cases passed with
    | true =>
      obtain ⟨latency, s, h⟩ := G.run_allFailed request key started _
      have hpassed := G.passed_of_deadlineExceeded h₁
      refine .of_run h (.of_start _ (.passed idx t rest hpassed) rfl rfl ?_ ?_ ?_ ?_ rfl)
      · simp [WalkEnd.attempts, Attempt.untimed, guardEntry]
      · simp
      · simp
      · simp [WalkEnd.records]
    | false =>
      simp only [Bool.false_eq_true, if_false]
      cases hp : G.providers.get? t.provider with
      | none =>
        obtain ⟨latency, s, h⟩ := G.run_recordError _ request started key .provider
          (some (G.unregistered t)) (some t.name)
        refine .bind_run h (.of_run (Prog.run_raise _ _) ?_)
        refine .of_start [] (.unregistered idx rest hp) rfl (by simp) rfl ?_ ?_ ?_ rfl <;>
          simp [WalkEnd.records]
      | some provider =>
        cases hc : G.costMeter.ensurePrice t.name with
        | error e =>
          obtain ⟨latency, s, h⟩ := G.run_recordError _ request started key .pricing
            (some e.msg) (some t.name)
          refine .bind_run h (.of_run (Prog.run_raise _ _) ?_)
          refine .of_start [] (.unpriced idx rest hc) rfl (by simp) rfl ?_ ?_ ?_ rfl <;>
            simp [WalkEnd.records]
        | ok u =>
          obtain ⟨s₂, h₂⟩ := G.run_circuitBlocked_reading { w with outer := s₁ } t
          refine .bind_run (by simpa using h₂) ?_
          change Prog.Sat _ _ (G.WalkDone request key deadline idx (t :: rest) w)
          cases hallow : (w.circuit.allow t.provider (G.reading s₁)).1 with
          | false => exact (ih (idx + 1) _).imp fun r w' es h => .skip (by simp) s₁ hallow rfl h
          | true =>
            simp only [Bool.not_true, Bool.false_eq_true, if_false]
            refine .bind
              (Prog.Sat.attempt (G.invokeTarget_spec provider t request deadline _)) ?_ ?_
            · rintro x w₁ es ⟨y, hy, ending, as, s₃, hrounds, hout, rfl, has, hes⟩
              obtain rfl := Except.ok.inj hy
              cases ending with
              | answered resp =>
                obtain rfl := hout
                refine .bind_run (run_reportSuccess _ _) ?_
                obtain ⟨s₄, h₄⟩ := G.run_cacheSet _ key resp
                refine .bind_run h₄ ?_
                obtain ⟨cost, latency, s₅, h₅⟩ :=
                  G.run_recordAnswer _ request started key t resp idx
                refine .bind_run h₅ (.of_run (Prog.run_pure _ _) ?_)
                refine .of_visit (.answered idx rest hrounds) rfl rfl (by simp) has hes ?_ ?_ ?_
                  s₁ s₁ hallow rfl
                · simp
                · simp [Visit.reports]
                · simp [WalkEnd.records]
              | refused e =>
                obtain rfl := hout
                simp only [hrounds.isTerminal, if_true]
                obtain ⟨s₄, h₄⟩ := G.run_reportFailure_reading _ t.provider
                refine .bind_run h₄ ?_
                obtain ⟨latency, s₅, h₅⟩ := G.run_recordError _ request started key .terminal
                  (some e.msg) (some t.name)
                refine .bind_run h₅ (.of_run (Prog.run_raise _ _) ?_)
                refine .of_visit (.refused idx rest hrounds) rfl rfl (by simp) has hes ?_ ?_ ?_
                  s₁ s₃ hallow rfl
                · simp
                · simp [Visit.reports]
                · simp [WalkEnd.records]
              | exhausted =>
                obtain ⟨msg, rfl⟩ := hout
                simp only [Exc.isTerminal_retriable, Exc.isDeadline_retriable,
                  Exc.isRetriable_retriable, Bool.false_eq_true, if_false, if_true]
                obtain ⟨s₄, h₄⟩ := G.run_reportFailure_reading _ t.provider
                refine .bind_run h₄ ((ih (idx + 1) _).imp fun r w' es' h => ?_)
                refine .next _ hrounds (.inl rfl) (by simp) has hes ?_ ?_ ?_ s₁ s₃ hallow rfl h
                · simp
                · simp [Visit.reports]
                · simp
              | cut =>
                obtain rfl := hout
                simp only [isTerminal_deadlineExc, isDeadline_deadlineExc, Bool.false_eq_true,
                  if_false, if_true]
                refine (ih (idx + 1) _).imp fun r w' es' h => ?_
                exact .next [] hrounds (.inr rfl) (by simp) has hes rfl rfl rfl s₁ s₁ hallow rfl h
              | escaped e =>
                obtain rfl := hout
                obtain ⟨hterminal, hretriable, -, hdeadline⟩ := Exc.of_not_isTyped hrounds.isTyped
                simp only [hterminal, hretriable, hdeadline, Bool.false_eq_true, if_false]
                refine .of_run (Prog.run_raise _ _) ?_
                exact .of_visit (.escaped idx rest hrounds) rfl rfl (by simp) has hes rfl rfl rfl
                  s₁ s₁ hallow rfl
            · rintro e w₁ es ⟨x, hx, -⟩
              cases hx

end Gateway

end AgentCtl
