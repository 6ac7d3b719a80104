import AgentCtl.Core.Gateway

set_option relaxedAutoImplicit false
set_option autoImplicit false

/-!
# What the inner surface does

One law for each operation of the inner surface: what it returns, which parts of the world it
changes, and which events it emits. What happens to the world outside the gateway is left open
everywhere, so the laws hold for every clock, provider and cache.

## Main definitions

* `AgentCtl.ProviderCall` — a provider call of a run, with its outcome.
* `AgentCtl.callsOf`, `reportsOf`, `recordsOf` — the provider calls, the breaker reports and the
  call records of a trace.
* `AgentCtl.SlotWithin` — a timeout that respects the deadline.

## Main results

* `Gateway.run_timeoutWithin`, `run_deadlineExceeded`, `run_circuitBlocked` — the guards.
* `Gateway.run_recordAttempt`, `run_record` — attempts and records.
-/

namespace AgentCtl

variable {σ : Type}

/-! ## Projections of a trace -/

/-- A call of `provider.invoke` and its outcome. -/
structure ProviderCall where
  target : Target
  slot : TimeoutSlot
  out : Except Exc NormalizedResponse

namespace Event

/-- The event as a provider call. -/
@[simp] def call? : Event σ → Option ProviderCall
  | call t slot out => some ⟨t, slot, out⟩
  | _ => none

/-- The event as a breaker report. -/
@[simp] def report? : Event σ → Option (Str × Bool)
  | report p ok => some (p, ok)
  | _ => none

/-- The event as a call of `Capturer.record`. -/
@[simp] def record? : Event σ → Option Captured
  | record c => some c
  | _ => none

end Event

/-- The provider calls of a trace. -/
def callsOf (es : List (Event σ)) : List ProviderCall := es.filterMap Event.call?

/-- The breaker reports of a trace. -/
def reportsOf (es : List (Event σ)) : List (Str × Bool) := es.filterMap Event.report?

/-- The call records of a trace. -/
def recordsOf (es : List (Event σ)) : List Captured := es.filterMap Event.record?

/-- What a projection makes of the first element stands first. -/
lemma filterMap_cons_toList {α β : Type} (f : α → Option β) (x : α) (xs : List α) :
    (x :: xs).filterMap f = (f x).toList ++ xs.filterMap f := by
  rw [List.filterMap_cons]
  cases f x <;> rfl

section Projections

variable (e : Event σ) (es fs : List (Event σ))

@[simp] lemma callsOf_nil : callsOf ([] : List (Event σ)) = [] := rfl

@[simp] lemma reportsOf_nil : reportsOf ([] : List (Event σ)) = [] := rfl

@[simp] lemma recordsOf_nil : recordsOf ([] : List (Event σ)) = [] := rfl

@[simp] lemma callsOf_cons : callsOf (e :: es) = e.call?.toList ++ callsOf es :=
  filterMap_cons_toList _ _ _

@[simp] lemma reportsOf_cons : reportsOf (e :: es) = e.report?.toList ++ reportsOf es :=
  filterMap_cons_toList _ _ _

@[simp] lemma recordsOf_cons : recordsOf (e :: es) = e.record?.toList ++ recordsOf es :=
  filterMap_cons_toList _ _ _

@[simp] lemma callsOf_append : callsOf (es ++ fs) = callsOf es ++ callsOf fs :=
  List.filterMap_append

@[simp] lemma reportsOf_append : reportsOf (es ++ fs) = reportsOf es ++ reportsOf fs :=
  List.filterMap_append

@[simp] lemma recordsOf_append : recordsOf (es ++ fs) = recordsOf es ++ recordsOf fs :=
  List.filterMap_append

end Projections

/-! ## Guards -/

/-- The timeout of an attempt respects the deadline: the clock was read before the deadline, and
the timeout is at most what remained then. -/
def SlotWithin (timeoutS : ℚ) (deadline : Option ℚ) (slot : TimeoutSlot) : Prop :=
  match deadline with
  | none => slot = ⟨timeoutS, none⟩
  | some d => ∃ now, now < d ∧ slot = ⟨min timeoutS (d - now), some now⟩

/-- The entry of a target that the deadline, or an open breaker, kept from being tried. -/
def guardEntry (target : Target) (outcome : AttemptOutcome) (error : Str) : Attempt :=
  ⟨target.provider, target.model, outcome, 0, some error⟩

namespace Gateway

variable (G : Gateway σ) (w : World σ)

/-- Reading the clock. -/
lemma run_monotonic : ∃ now s, G.monotonic.run w = (.ok now, { w with outer := s }, []) :=
  ⟨_, _, rfl⟩

/-- The timeout of the next attempt, or the refusal of one. -/
lemma run_timeoutWithin (deadline : Option ℚ) :
    ∃ slot s, (G.timeoutWithin deadline).run w = (.ok slot, { w with outer := s }, []) ∧
      match slot with
      | some slot => SlotWithin G.retry.timeoutS deadline slot
      | none => deadline.isSome := by
  cases deadline with
  | none => exact ⟨_, w.outer, rfl, rfl⟩
  | some d =>
    obtain ⟨now, s, hnow⟩ := G.run_monotonic w
    refine ⟨_, s, Prog.run_bind_ok hnow, ?_⟩
    by_cases hd : d - now ≤ 0
    · simp [hd]
    · rw [if_neg hd]
      exact ⟨now, by linarith, rfl⟩

/-- The deadline guard before a target. -/
lemma run_deadlineExceeded (target : Target) (deadline : Option ℚ) :
    ∃ passed s, (G.deadlineExceeded target deadline).run w = (.ok passed,
      { w with outer := s, attempts := w.attempts ++
        (if passed then [guardEntry target .deadline "request deadline exceeded"] else []) },
      []) := by
  cases deadline with
  | none => exact ⟨false, w.outer, by simp [deadlineExceeded]⟩
  | some d =>
    obtain ⟨now, s, hnow⟩ := G.run_monotonic w
    by_cases hd : d ≤ now
    · refine ⟨true, s, ?_⟩
      rw [deadlineExceeded, Prog.run_bind_ok hnow, if_pos hd]
      rfl
    · refine ⟨false, s, ?_⟩
      rw [deadlineExceeded, Prog.run_bind_ok hnow, if_neg hd]
      simp

/-- What the clock shows. -/
def reading (s : σ) : ℚ := (G.outside.monotonic s).1

/-- The clock has shown that the deadline has passed. -/
def Passed (deadline : Option ℚ) : Prop := ∃ d s, deadline = some d ∧ d ≤ G.reading s

/-- The deadline guard stops a walk only when the deadline has passed. -/
lemma passed_of_deadlineExceeded {target : Target} {deadline : Option ℚ} {w w' : World σ}
    {es : List (Event σ)} (h : (G.deadlineExceeded target deadline).run w = (.ok true, w', es)) :
    G.Passed deadline := by
  cases deadline with
  | none => cases h
  | some d =>
    by_cases hd : d ≤ G.reading w.outer
    · exact ⟨d, w.outer, rfl, hd⟩
    · have hnow : G.monotonic.run w =
          (.ok (G.reading w.outer), { w with outer := (G.outside.monotonic w.outer).2 }, []) := rfl
      rw [deadlineExceeded, Prog.run_bind_ok hnow, if_neg hd] at h
      cases h

/-- Asking the breaker, at the time that the clock shows. -/
lemma run_circuitAllow (provider : Str) :
    ∃ s, (G.circuitAllow provider).run w =
      (.ok (w.circuit.allow provider (G.reading w.outer)).1,
      { w with outer := s, circuit := (w.circuit.allow provider (G.reading w.outer)).2 }, []) := by
  cases hopen : w.circuit.isOpen provider with
  | true =>
    have h : (G.monotonicIf (w.circuit.isOpen provider)).run w =
        (.ok (G.reading w.outer), { w with outer := (G.outside.monotonic w.outer).2 }, []) := by
      rw [hopen]
      rfl
    refine ⟨(G.outside.monotonic w.outer).2, ?_⟩
    rw [circuitAllow, Prog.run_bind_ok (Prog.run_gets _ _), Prog.run_bind_ok h]
    rfl
  | false =>
    have h : (G.monotonicIf (w.circuit.isOpen provider)).run w = (.ok 0, w, []) := by
      rw [hopen]
      rfl
    refine ⟨w.outer, ?_⟩
    rw [circuitAllow, Prog.run_bind_ok (Prog.run_gets _ _), Prog.run_bind_ok h,
      w.circuit.allow_of_not_isOpen provider _ hopen]
    simp only [w.circuit.allow_of_not_isOpen provider _ hopen]
    rfl

/-- The breaker guard before a target, at the time that the clock shows. -/
lemma run_circuitBlocked_reading (target : Target) :
    ∃ s, (G.circuitBlocked target).run w =
      (.ok (!(w.circuit.allow target.provider (G.reading w.outer)).1),
      { w with outer := s, circuit := (w.circuit.allow target.provider (G.reading w.outer)).2,
               attempts := w.attempts ++
                 (if (w.circuit.allow target.provider (G.reading w.outer)).1 then []
                   else [guardEntry target .circuitOpen "circuit open"]) }, []) := by
  obtain ⟨s, h⟩ := G.run_circuitAllow w target.provider
  refine ⟨s, ?_⟩
  rw [circuitBlocked, Prog.run_bind_ok h]
  cases (w.circuit.allow target.provider (G.reading w.outer)).1 with
  | true => simp
  | false => rfl

/-- The breaker guard before a target, whatever the time is. -/
lemma run_circuitBlocked (target : Target) :
    ∃ now s, (G.circuitBlocked target).run w =
      (.ok (!(w.circuit.allow target.provider now).1),
      { w with outer := s, circuit := (w.circuit.allow target.provider now).2,
               attempts := w.attempts ++ (if (w.circuit.allow target.provider now).1 then []
                 else [guardEntry target .circuitOpen "circuit open"]) }, []) :=
  ⟨_, G.run_circuitBlocked_reading w target⟩

/-- The pause before another attempt. -/
lemma run_backoff (n : ℕ) :
    ∃ d s, (G.backoff n).run w = (.ok d, { w with outer := s }, []) := by
  unfold backoff
  by_cases h : G.retry.baseBackoffS * 2 ^ n ≤ 0 ∨ G.retry.jitterRatio ≤ 0
  · exact ⟨G.retry.baseBackoffS * 2 ^ n, w.outer, by simp [h]⟩
  · let jitter := G.retry.baseBackoffS * 2 ^ n * G.retry.jitterRatio
    let x := G.outside.uniform (G.retry.baseBackoffS * 2 ^ n - jitter)
      (G.retry.baseBackoffS * 2 ^ n + jitter) w.outer
    refine ⟨max 0 x.1, x.2, ?_⟩
    simp only [h, if_false]
    rfl

/-- Sleeping. -/
lemma run_sleep (d : ℚ) :
    (G.sleep d).run w = (.ok (), { w with outer := G.outside.sleep d w.outer },
      [.sleep d w.outer]) := rfl

/-- The pause after an attempt. -/
lemma run_pause (n : ℕ) :
    ∃ s es, (G.pause n).run w = (.ok (), { w with outer := s }, es) ∧
      (es = [] ∨ ∃ d s', es = [.sleep d s']) := by
  unfold pause
  by_cases h : n < G.retry.maxAttemptsPerTarget - 1
  · obtain ⟨d, s, hd⟩ := G.run_backoff w n
    refine ⟨G.outside.sleep d s, [.sleep d s], ?_, .inr ⟨d, s, rfl⟩⟩
    rw [if_pos h, Prog.run_bind_ok hd]
    rfl
  · exact ⟨w.outer, [], by simp [h], .inl rfl⟩

/-! ## Calls, attempts and records -/

/-- Calling a provider. -/
lemma run_callProvider (provider : Provider σ) (target : Target) (request : NormalizedRequest)
    (slot : TimeoutSlot) :
    ∃ out s, (callProvider provider target request slot).run w =
      (.ok out, { w with outer := s }, [.call target slot out]) :=
  ⟨_, _, rfl⟩

/-- Recording an attempt, with some latency. -/
lemma run_recordAttempt (target : Target) (outcome : AttemptOutcome) (started : ℚ)
    (error : Option Str) :
    ∃ latency s, (G.recordAttempt target outcome started error).run w =
      (.ok (), { w with outer := s, attempts := w.attempts ++
        [⟨target.provider, target.model, outcome, latency, error⟩] }, []) :=
  ⟨_, _, rfl⟩

/-- Reporting a success. -/
lemma run_reportSuccess (provider : Str) :
    (reportSuccess provider).run w =
      (.ok (), { w with circuit := w.circuit.recordSuccess provider }, [.report provider true]) :=
  rfl

/-- Reporting a failure, at the time that the clock shows. -/
lemma run_reportFailure_reading (provider : Str) :
    ∃ s, (G.reportFailure provider).run w =
      (.ok (), { w with outer := s,
                        circuit := w.circuit.recordFailure provider (G.reading w.outer) },
        [.report provider false]) := by
  cases hreads : w.circuit.failureReadsClock provider with
  | true =>
    have h : (G.monotonicIf (w.circuit.failureReadsClock provider)).run w =
        (.ok (G.reading w.outer), { w with outer := (G.outside.monotonic w.outer).2 }, []) := by
      rw [hreads]
      rfl
    refine ⟨(G.outside.monotonic w.outer).2, ?_⟩
    rw [reportFailure, Prog.run_bind_ok (Prog.run_gets _ _), Prog.run_bind_ok h]
    rfl
  | false =>
    have h : (G.monotonicIf (w.circuit.failureReadsClock provider)).run w = (.ok 0, w, []) := by
      rw [hreads]
      rfl
    refine ⟨w.outer, ?_⟩
    rw [reportFailure, Prog.run_bind_ok (Prog.run_gets _ _), Prog.run_bind_ok h,
      w.circuit.recordFailure_congr provider (G.reading w.outer) hreads 0]
    rfl

/-- Reporting a failure, whatever the time is. -/
lemma run_reportFailure (provider : Str) :
    ∃ now s, (G.reportFailure provider).run w =
      (.ok (), { w with outer := s, circuit := w.circuit.recordFailure provider now },
        [.report provider false]) :=
  ⟨_, G.run_reportFailure_reading w provider⟩

/-- The events of one capture: the record, and the save if there is a store. -/
def captureEvents (request : NormalizedRequest) (latency : ℤ) (c : Captured) : List (Event σ) :=
  .record c :: if G.hasStore then [.save (G.callRecord request latency c)] else []

/-- Capturing a chat call. -/
lemma run_record (request : NormalizedRequest) (started : ℚ) (c : Captured) :
    ∃ latency s, (G.record request started c).run w =
      (.ok (), { w with outer := s, budget := (w.budget.add request.metadata.consumerName
        (G.capturedCost c)) }, G.captureEvents request latency c) := by
  refine ⟨truncate (((G.outside.monotonic w.outer).1 - started) * 1000),
    (G.outside.monotonic w.outer).2, ?_⟩
  unfold record meterAndPersist captureEvents
  by_cases h : G.hasStore = true
  · simp only [h, if_true]
    rfl
  · simp only [h]
    rfl

/-- Capturing a failed chat call. -/
lemma run_recordError (request : NormalizedRequest) (started : ℚ) (key : Option Str)
    (errorType : ErrorType) (message resolved : Option Str) :
    ∃ latency s, (G.recordError request started key errorType message resolved).run w =
      (.ok (), { w with outer := s, budget := w.budget.add request.metadata.consumerName none },
        G.captureEvents request latency
          { modelResolved := resolved, attempts := w.attempts, cacheKey := key,
            errorType := some errorType, errorMessage := message }) :=
  G.run_record w request started _

/-- Capturing an answered chat call. -/
lemma run_recordAnswer (request : NormalizedRequest) (started : ℚ) (key : Option Str)
    (target : Target) (resp : NormalizedResponse) (idx : ℕ) :
    ∃ cost latency s, (G.recordAnswer request started key target resp idx).run w =
      (.ok (), { w with outer := s, budget := w.budget.add request.metadata.consumerName cost },
        G.captureEvents request latency
          { modelResolved := some target.name, attempts := w.attempts, resp := some resp,
            status := if idx = 0 then .success else .fallbackSuccess, cacheKey := key }) := by
  obtain ⟨latency, s, h⟩ := G.run_record w request started
    { modelResolved := some target.name, attempts := w.attempts, resp := some resp,
      status := if idx = 0 then .success else .fallbackSuccess, cacheKey := key }
  exact ⟨_, latency, s, h⟩

/-! ## The cache -/

/-- Looking into the cache. -/
lemma run_cacheGet (key : Option Str) :
    ∃ cached s, (G.cacheGet key).run w = (.ok cached, { w with outer := s }, []) := by
  unfold cacheGet
  split
  · next k c _ =>
    have hget : (outsideDo (c.get k)).run w =
        (.ok (c.get k w.outer).1, { w with outer := (c.get k w.outer).2 }, []) := rfl
    rw [Prog.run_bind_ok hget]
    cases (c.get k w.outer).1 with
    | ok cached => exact ⟨cached, (c.get k w.outer).2, rfl⟩
    | error e => exact ⟨none, (c.get k w.outer).2, rfl⟩
  · exact ⟨none, w.outer, rfl⟩

/-- Storing into the cache. -/
lemma run_cacheSet (key : Option Str) (resp : NormalizedResponse) :
    ∃ s, (G.cacheSet key resp).run w = (.ok (), { w with outer := s }, []) := by
  unfold cacheSet
  split
  · exact ⟨_, rfl⟩
  · exact ⟨w.outer, rfl⟩

end Gateway

end AgentCtl
