import AgentCtl.Core.InvokeRuns
import AgentCtl.Core.BreakerHistory

set_option relaxedAutoImplicit false
set_option autoImplicit false

/-!
# Deadlines and the breaker

When the deadline of a call leaves a provider less than the configured timeout, and the provider
does not answer within it, the caller ran out of time. With attempts left, the retry loop finds the
deadline passed and raises `DeadlineExceeded`, which no breaker hears of. The timeout of the last
attempt, though, is raised as a `RetriableError`, and the provider is charged.

## Main definitions

* `AgentCtl.Forward` — a clock that does not go back.
* `AgentCtl.Starved` — the only failures of a provider in a run are timeouts cut by the deadline.
* `AgentCtl.Slot.AfterStarving` — the breaker of such a provider after the call.

## Main results

* `AgentCtl.Gateway.invokeTarget_first` — the first call of a visit, and what follows a timeout.
* `AgentCtl.Gateway.invoke_starved` — the breaker of a starved provider after a call.
* `AgentCtl.starved_uncharged_iff` — the breaker is as before if and only if it is disabled, or
  there is a second attempt and the provider was not open.
-/

namespace AgentCtl

variable {σ : Type}

/-! ## Time -/

/-- The clock shows the time, and nothing that a call does while it waits for the provider `p`, or
between two attempts, sets it back; a timeout of `p` that is shorter than the configured one is
raised once it has run out. -/
structure Forward (G : Gateway σ) (request : NormalizedRequest) (p : Str) (time : σ → ℚ) :
    Prop where
  shows : ∀ s, (G.outside.monotonic s).1 = time s
  monotonic : ∀ s, time s ≤ time (G.outside.monotonic s).2
  sleep : ∀ d s, time s ≤ time (G.outside.sleep d s)
  uniform : ∀ a b s, time s ≤ time (G.outside.uniform a b s).2
  invoke : ∀ P, G.providers.get? p = some P → ∀ target timeout s, 0 < timeout →
    time s ≤ time (P.invoke target request timeout s).2
  timeouts : ∀ P, G.providers.get? p = some P → ∀ target timeout s e, 0 < timeout →
    (P.invoke target request timeout s).1 = .error e → e.isTimeout = true →
    timeout < G.retry.timeoutS → time s + timeout ≤ time (P.invoke target request timeout s).2

/-- Time does not go back in a part of a call. -/
def Later (time : σ → ℚ) (w w' : World σ) (_ : List (Event σ)) : Prop :=
  time w.outer ≤ time w'.outer

/-- Parts of a call follow each other. -/
lemma frame_later {time : σ → ℚ} : Prog.Frame (Later time) where
  refl w := le_refl (time w.outer)
  trans h₁ h₂ := le_trans h₁ h₂

/-! ## What starving does to the breaker -/

/-- The only failures of the provider in a run, and there are some, are timeouts shorter than the
configured one. -/
structure Starved (G : Gateway σ) (p : Str) (es : List (Event σ)) : Prop where
  some : ∃ c ∈ callsOf es, c.target.provider = p ∧ ∃ e, c.out = .error e
  only : ∀ c ∈ callsOf es, c.target.provider = p → ∀ e, c.out = .error e →
    e.isTimeout = true ∧ c.slot.timeout < G.retry.timeoutS

/-- A provider that is not called does not starve. -/
lemma not_starved {G : Gateway σ} {p : Str} {es : List (Event σ)}
    (h : ∀ c ∈ callsOf es, c.target.provider ≠ p) : ¬ Starved G p es := by
  rintro ⟨⟨c, hc, hp, -⟩, -⟩
  exact h c hc hp

/-- Calls of other providers do not matter. -/
lemma Starved.of_append {G : Gateway σ} {p : Str} {es fs : List (Event σ)}
    (h : Starved G p (es ++ fs)) (hes : ∀ c ∈ callsOf es, c.target.provider ≠ p) :
    Starved G p fs := by
  obtain ⟨⟨c, hc, hp, hfail⟩, honly⟩ := h
  rw [callsOf_append] at hc honly
  refine ⟨⟨c, ?_, hp, hfail⟩, fun c' hc' => honly c' (List.mem_append_right _ hc')⟩
  exact (List.mem_append.mp hc).resolve_left fun h => hes c h hp

namespace Slot

/-- The row `s'` of a provider that was tried and starved: `allow` has let it pass, and a single
attempt has been charged. -/
def AfterStarving (k : ℤ) (c : ℚ) (maxAttempts : ℕ) (s s' : Slot) : Prop :=
  ∃ now now', s.admits c now = true ∧ (s.openedAt.isSome = true → now ≤ now') ∧
    s' = if maxAttempts = 1 then (s.next k c now .allow).next k c now' .failure
      else s.next k c now .allow

variable {k : ℤ} {c : ℚ} {maxAttempts : ℕ} {s s' : Slot}

/-- The cooldown of an open provider that is let pass is over. -/
lemma le_of_admits {now opened : ℚ} (h : s.admits c now = true)
    (hopened : s.openedAt = some opened) :
    c ≤ now - opened ∧ ∀ probe, s.probeAt = some probe → c ≤ now - probe := by
  unfold admits at h
  rw [hopened] at h
  cases hprobe : s.probeAt with
  | none => simpa [hprobe] using h
  | some probe => simpa [hprobe] using h

/-- A failure changes the failure count or the opening time. -/
lemma charged_failure {now : ℚ} (h : ∀ opened, s.openedAt = some opened → opened < now) :
    ¬ ((s.next k c now .failure).fails = s.fails ∧
      (s.next k c now .failure).openedAt = s.openedAt) := by
  rintro ⟨hfails, hopened⟩
  unfold next at hfails hopened
  dsimp only at hfails hopened
  by_cases hk : k ≤ if s.probeAt.isSome then k else s.fails + 1
  · -- it opens now, and not when it was opened before
    rw [if_pos hk] at hopened
    exact lt_irrefl _ (h now hopened.symm)
  · rw [if_neg hk] at hfails
    dsimp only at hfails
    split at hfails
    · next hsome => exact hk (by rw [if_pos hsome])
    · omega

/-- **Whether a starved provider is charged**: it is if there is one attempt only. -/
lemma AfterStarving.uncharged_iff (h : AfterStarving k c maxAttempts s s') (hc : 0 < c) :
    (s'.fails = s.fails ∧ s'.openedAt = s.openedAt) ↔ maxAttempts ≠ 1 := by
  obtain ⟨now, now', hadmits, hle, rfl⟩ := h
  have hallow : (s.next k c now .allow).fails = s.fails ∧
      (s.next k c now .allow).openedAt = s.openedAt := by
    unfold next
    dsimp only
    split <;> exact ⟨rfl, rfl⟩
  by_cases hm : maxAttempts = 1
  · rw [if_pos hm, ← hallow.1, ← hallow.2]
    refine iff_of_false (charged_failure fun opened hopened => ?_) (not_not.mpr hm)
    rw [hallow.2] at hopened
    have hcool := (le_of_admits hadmits hopened).1
    have hlater := hle (by rw [hopened]; rfl)
    linarith
  · rw [if_neg hm]
    exact iff_of_true hallow hm

/-- **Whether the row changes at all**: an open provider has been granted a probe. -/
lemma AfterStarving.eq_iff (h : AfterStarving k c maxAttempts s s') (hc : 0 < c) :
    s' = s ↔ maxAttempts ≠ 1 ∧ s.openedAt = none := by
  constructor
  · intro heq
    have hm : maxAttempts ≠ 1 := (h.uncharged_iff hc).mp ⟨congrArg fails heq, congrArg openedAt heq⟩
    obtain ⟨now, now', hadmits, hle, hs⟩ := h
    refine ⟨hm, ?_⟩
    by_contra hne
    obtain ⟨opened, hopened⟩ := Option.ne_none_iff_exists'.mp hne
    rw [if_neg hm, heq] at hs
    have hprobe : s.probeAt = some now := by
      have hprobe := congrArg probeAt hs
      unfold next at hprobe
      simpa [hopened, hadmits] using hprobe
    have hcool := (le_of_admits hadmits hopened).2 now hprobe
    linarith
  · rintro ⟨hm, hopened⟩
    obtain ⟨now, now', hadmits, hle, rfl⟩ := h
    rw [if_neg hm]
    unfold next
    simp [hopened]

end Slot

namespace Gateway

open Prog

variable {G : Gateway σ} {request : NormalizedRequest} {p : Str} {time : σ → ℚ}
  (hG : Forward G request p time)

include hG

/-- Recording an attempt. -/
lemma keeps_later_recordAttempt (target : Target) (outcome : AttemptOutcome) (started : ℚ)
    (error : Option Str) : Keeps (Later time) (G.recordAttempt target outcome started error) :=
  fun w => hG.monotonic w.outer

/-- The pause between two attempts. -/
lemma keeps_later_pause (n : ℕ) : Keeps (Later time) (G.pause n) := by
  unfold pause
  split
  · refine .bind frame_later ?_ fun d => fun w => hG.sleep d w.outer
    unfold backoff
    dsimp only
    split
    · exact .pure frame_later _
    · exact .bind frame_later (fun w => hG.uniform _ _ w.outer) fun x => .pure frame_later _
  · exact .pure frame_later _

/-- The timeout of the next attempt: none once the deadline has passed. -/
lemma run_timeoutWithin_at (d : ℚ) (w : World σ) :
    ∃ s, time w.outer ≤ time s ∧
      ((d ≤ time w.outer ∧
          (G.timeoutWithin (some d)).run w = (.ok none, { w with outer := s }, [])) ∨
        (time w.outer < d ∧ (G.timeoutWithin (some d)).run w =
          (.ok (some ⟨min G.retry.timeoutS (d - time w.outer), some (time w.outer)⟩),
            { w with outer := s }, []))) := by
  have hnow : G.monotonic.run w =
      (.ok (time w.outer), { w with outer := (G.outside.monotonic w.outer).2 }, []) := by
    rw [← hG.shows]
    rfl
  refine ⟨(G.outside.monotonic w.outer).2, hG.monotonic w.outer, ?_⟩
  by_cases hd : d - time w.outer ≤ 0
  · refine .inl ⟨by linarith, ?_⟩
    rw [timeoutWithin, run_bind_ok hnow, if_pos hd]
    rfl
  · refine .inr ⟨by linarith, ?_⟩
    rw [timeoutWithin, run_bind_ok hnow, if_neg hd]
    rfl

/-- The guard before a target, once the deadline has passed. -/
lemma run_deadlineExceeded_past {d : ℚ} {w : World σ} (h : d ≤ time w.outer) (target : Target) :
    ∃ s attempts, (G.deadlineExceeded target (some d)).run w =
      (.ok true, { w with outer := s, attempts := attempts }, []) := by
  have hnow : G.monotonic.run w =
      (.ok (time w.outer), { w with outer := (G.outside.monotonic w.outer).2 }, []) := by
    rw [← hG.shows]
    rfl
  refine ⟨(G.outside.monotonic w.outer).2, w.attempts ++
    [guardEntry target .deadline "request deadline exceeded"], ?_⟩
  rw [deadlineExceeded, run_bind_ok hnow, if_pos h]
  rfl

/-- A reading of the clock that is needed shows the time. -/
lemma run_monotonicIf_at (needed : Bool) (w : World σ) :
    ∃ now s, (G.monotonicIf needed).run w = (.ok now, { w with outer := s }, []) ∧
      (needed = true → now = time w.outer) ∧ time w.outer ≤ time s := by
  cases needed with
  | true => exact ⟨_, _, rfl, fun _ => hG.shows w.outer, hG.monotonic w.outer⟩
  | false => exact ⟨0, w.outer, rfl, by simp, le_rfl⟩

/-- The breaker guard before a target, with the time of its question. -/
lemma run_circuitBlocked_at (target : Target) (w : World σ) :
    ∃ now s attempts, (G.circuitBlocked target).run w =
        (.ok (!(w.circuit.allow target.provider now).1),
          { w with outer := s, circuit := (w.circuit.allow target.provider now).2,
                   attempts := attempts }, []) ∧
      (w.circuit.isOpen target.provider = true → now = time w.outer) ∧
      time w.outer ≤ time s := by
  obtain ⟨now, s, h, hnow, hle⟩ := run_monotonicIf_at hG (w.circuit.isOpen target.provider) w
  have hallow : (G.circuitAllow target.provider).run w =
      (.ok (w.circuit.allow target.provider now).1,
        { w with outer := s, circuit := (w.circuit.allow target.provider now).2 }, []) := by
    rw [circuitAllow, run_bind_ok (run_gets _ _), run_bind_ok h]
    rfl
  refine ⟨now, s, w.attempts ++ (if (w.circuit.allow target.provider now).1 then []
    else [guardEntry target .circuitOpen "circuit open"]), ?_, hnow, hle⟩
  rw [circuitBlocked, run_bind_ok hallow]
  cases (w.circuit.allow target.provider now).1 with
  | true => simp
  | false => rfl

/-- A failure is reported at the present time, if the time matters. -/
lemma run_reportFailure_at (provider : Str) (w : World σ) :
    ∃ now s, (G.reportFailure provider).run w =
        (.ok (), { w with outer := s, circuit := w.circuit.recordFailure provider now },
          [.report provider false]) ∧
      (w.circuit.failureReadsClock provider = true → now = time w.outer) ∧
      time w.outer ≤ time s := by
  obtain ⟨now, s, h, hnow, hle⟩ := run_monotonicIf_at hG (w.circuit.failureReadsClock provider) w
  refine ⟨now, s, ?_, hnow, hle⟩
  rw [reportFailure, run_bind_ok (run_gets _ _), run_bind_ok h]
  rfl

/-! ## The first call of a visit -/

omit hG in
/-- What is known of a visit with a deadline `d`: the deadline had passed before the first call, or
the first call was answered, or it failed. After a timeout that the deadline cut short the deadline
has passed; the timeout is raised if there are no more attempts, and else the passed deadline. -/
inductive FirstCall (G : Gateway σ) (target : Target) (d : ℚ) (time : σ → ℚ) (w : World σ)
    (r : Except Exc NormalizedResponse) (w' : World σ) (es : List (Event σ)) : Prop
  | late (hcalls : callsOf es = []) (hr : r = .error deadlineExc) (hd : d ≤ time w'.outer)
  | answered {slot : TimeoutSlot} {resp : NormalizedResponse}
      (hcalls : callsOf es = [⟨target, slot, .ok resp⟩]) (hr : r = .ok resp)
  | failed {slot : TimeoutSlot} {e : Exc} {calls : List ProviderCall}
      (hcalls : callsOf es = ⟨target, slot, .error e⟩ :: calls)
      (hcut : e.isTimeout = true → slot.timeout < G.retry.timeoutS →
        d ≤ time w'.outer ∧ time w.outer ≤ time w'.outer ∧
          r = .error (if G.retry.maxAttemptsPerTarget = 1 then .retriable e.msg else deadlineExc))

omit hG in
/-- A `TimeoutError` is no `TerminalError`. -/
lemma not_isTerminal_of_isTimeout {e : Exc} (h : e.isTimeout = true) : e.isTerminal = false := by
  have hcls : e.cls = .timeoutError := by simpa [Exc.isTimeout] using h
  simp [Exc.isTerminal, hcls]

/-- **The first call of a visit**, and what follows a timeout that the deadline cut short. -/
lemma invokeTarget_first {P : Provider σ} (hP : G.providers.get? p = some P) (target : Target)
    (d : ℚ) (w : World σ) :
    Sat (G.invokeTarget P target request (some d)) w (G.FirstCall target d time w) := by
  obtain ⟨m, hm⟩ : ∃ m, G.retry.maxAttemptsPerTarget = m + 1 :=
    ⟨_, (Nat.sub_add_cancel G.retry.one_le_maxAttempts).symm⟩
  rw [invokeTarget, hm, invokeTargetFrom]
  obtain ⟨s₁, hs₁, ⟨hd, h₁⟩ | ⟨hbefore, h₁⟩⟩ := run_timeoutWithin_at hG d w
  · exact .bind_run h₁ (.of_run (run_raise _ _) (.late rfl rfl (hd.trans hs₁)))
  refine .bind_run h₁ ?_
  have hmono : G.monotonic.run { w with outer := s₁ } =
      (.ok (time s₁), { w with outer := (G.outside.monotonic s₁).2 }, []) := by
    rw [← hG.shows]
    rfl
  refine .bind_run hmono ?_
  obtain ⟨slot, hslot⟩ : ∃ slot : TimeoutSlot,
    slot = ⟨min G.retry.timeoutS (d - time w.outer), some (time w.outer)⟩ := ⟨_, rfl⟩
  rw [← hslot]
  obtain ⟨s₂, hs₂⟩ : ∃ s₂, s₂ = (G.outside.monotonic s₁).2 := ⟨_, rfl⟩
  rw [← hs₂]
  have hcall : (callProvider P target request slot).run { w with outer := s₂ } =
      (.ok (P.invoke target request slot.timeout s₂).1,
        { w with outer := (P.invoke target request slot.timeout s₂).2 },
        [.call target slot (P.invoke target request slot.timeout s₂).1]) := rfl
  refine .bind_run hcall ?_
  have hs : time w.outer ≤ time s₂ := hs₂ ▸ hs₁.trans (hG.monotonic s₁)
  have hpos : 0 < slot.timeout := by
    rw [hslot]
    exact lt_min G.retry.timeout_pos (sub_pos.mpr hbefore)
  have hinvoke := hG.invoke P hP target slot.timeout s₂ hpos
  cases hout : (P.invoke target request slot.timeout s₂).1 with
  | ok resp =>
    obtain ⟨latency, s₄, h₄⟩ := G.run_recordAttempt
      { w with outer := (P.invoke target request slot.timeout s₂).2 } target .success (time s₁) none
    exact .bind_run h₄ (.of_run (run_pure _ _) (.answered rfl rfl))
  | error e =>
    by_cases hcut : e.isTimeout = true ∧ slot.timeout < G.retry.timeoutS
    · obtain ⟨htimeout, hshort⟩ := hcut
      have hover : d ≤ time (P.invoke target request slot.timeout s₂).2 := by
        have hran := hG.timeouts P hP target slot.timeout s₂ e hpos hout htimeout hshort
        have hrest : slot.timeout = d - time w.outer := by
          rw [hslot] at hshort ⊢
          exact min_eq_right (le_of_not_ge fun h => absurd hshort (by simp [min_eq_left h]))
        linarith
      simp only [not_isTerminal_of_isTimeout htimeout, htimeout, Bool.or_true, Bool.false_eq_true,
        if_false, if_true]
      obtain ⟨latency, s₄, h₄⟩ := G.run_recordAttempt
        { w with outer := (P.invoke target request slot.timeout s₂).2 } target (retryOutcome e)
        (time s₁) (some e.msg)
      have hs₄ := (keeps_later_recordAttempt hG target (retryOutcome e) (time s₁)
        (some e.msg)).run_eq h₄
      refine .bind_run h₄ ?_
      obtain ⟨s₅, es₅, h₅, hes₅⟩ := G.run_pause { w with outer := s₄, attempts := w.attempts ++
        [⟨target.provider, target.model, retryOutcome e, latency, some e.msg⟩] } 0
      have hs₅ := (keeps_later_pause hG 0).run_eq h₅
      have hlate : d ≤ time s₅ := hover.trans (hs₄.trans hs₅)
      refine .bind_run h₅ ?_
      cases m with
      | zero =>
        refine .of_run (run_raise _ _) (.failed rfl fun _ _ => ⟨hlate, ?_, ?_⟩)
        · exact hs.trans (hinvoke.trans (hs₄.trans hs₅))
        · rw [if_pos hm]
      | succ m =>
        rw [invokeTargetFrom]
        obtain ⟨s₆, hs₆, ⟨-, h₆⟩ | ⟨hd, -⟩⟩ := run_timeoutWithin_at hG d { w with
          outer := s₅, attempts := w.attempts ++
            [⟨target.provider, target.model, retryOutcome e, latency, some e.msg⟩] }
        · refine .bind_run h₆ (.of_run (run_raise _ _) (.failed rfl fun _ _ => ⟨?_, ?_, ?_⟩))
          · exact hlate.trans hs₆
          · exact hs.trans (hinvoke.trans (hs₄.trans (hs₅.trans hs₆)))
          · rw [if_neg (by omega)]
        · exact absurd hd (not_lt.mpr hlate)
    · refine .of_forall fun r w' es => .failed rfl fun htimeout hshort => ?_
      exact absurd ⟨htimeout, hshort⟩ hcut

/-! ## The walk -/

section Walk

variable (started : ℚ) (key : Option Str) {d : ℚ} {k : ℤ} {c : ℚ}

/-- Once the deadline has passed, the walk is over. -/
lemma walk_past {w : World σ} (h : d ≤ time w.outer) (idx : ℕ) (targets : List Target) :
    Sat (G.walk request started key (some d) idx targets) w
      (fun _ w' es => callsOf es = [] ∧ w'.circuit = w.circuit) := by
  cases targets with
  | nil =>
    obtain ⟨latency, s, h₁⟩ := G.run_allFailed request key started w
    exact .of_run h₁ (by simp)
  | cons t rest =>
    obtain ⟨s₁, attempts, h₁⟩ := run_deadlineExceeded_past hG h t
    rw [walk]
    refine .bind_run h₁ ?_
    obtain ⟨latency, s₂, h₂⟩ := G.run_allFailed request key started
      { w with outer := s₁, attempts := attempts }
    exact .of_run h₂ (by simp)

omit hG in
/-- The part of the walk at a target that the guards have let pass. -/
def visitTarget (G : Gateway σ) (request : NormalizedRequest) (started : ℚ) (key : Option Str)
    (deadline : Option ℚ) (P : Provider σ) (t : Target) (idx : ℕ) (rest : List Target) :
    Call σ NormalizedResponse := do
  let out ← Prog.attempt (G.invokeTarget P t request deadline)
  match out with
  | .ok resp =>
    reportSuccess t.provider
    G.cacheSet key resp
    G.recordAnswer request started key t resp idx
    return resp
  | .error e =>
    if e.isTerminal then
      G.reportFailure t.provider
      G.recordError request started key .terminal (some e.msg) (some t.name)
      Prog.raise e
    else if e.isDeadline then G.walk request started key deadline (idx + 1) rest
    else if e.isRetriable then
      G.reportFailure t.provider
      G.walk request started key deadline (idx + 1) rest
    else Prog.raise e

omit hG in
/-- What holds of a walk that ends at the guards of its first target, which has called no provider
and has not touched the breaker, and of every walk from the question to the breaker on, holds of
the whole walk. -/
lemma walk_of_guarded {Q : World σ → List (Event σ) → Prop} {deadline : Option ℚ} {t : Target}
    {idx : ℕ} {rest : List Target} {w : World σ}
    (hquiet : ∀ w' es, w'.circuit = w.circuit → callsOf es = [] → Q w' es)
    (hguarded : ∀ s₁ P, G.providers.get? t.provider = some P →
      Sat (do
          let blocked ← G.circuitBlocked t
          if blocked then G.walk request started key deadline (idx + 1) rest
          else G.visitTarget request started key deadline P t idx rest)
        { w with outer := s₁ } (fun _ w' es => Q w' es)) :
    Sat (G.walk request started key deadline idx (t :: rest)) w (fun _ w' es => Q w' es) := by
  rw [walk]
  obtain ⟨passed, s₁, h₁⟩ := G.run_deadlineExceeded w t deadline
  refine .bind_run h₁ ?_
  cases passed with
  | true =>
    obtain ⟨latency, s₂, h₂⟩ := G.run_allFailed request key started _
    exact .of_run h₂ (hquiet _ _ rfl (by simp))
  | false =>
    simp only [Bool.false_eq_true, if_false, List.append_nil]
    cases hprovider : G.providers.get? t.provider with
    | none =>
      obtain ⟨latency, s₂, h₂⟩ := G.run_recordError { w with outer := s₁ } request started key
        .provider (some (G.unregistered t)) (some t.name)
      exact .bind_run h₂ (.of_run (run_raise _ _) (hquiet _ _ rfl (by simp)))
    | some P =>
      cases hprice : G.costMeter.ensurePrice t.name with
      | error e =>
        obtain ⟨latency, s₂, h₂⟩ := G.run_recordError { w with outer := s₁ } request started key
          .pricing (some e.msg) (some t.name)
        exact .bind_run h₂ (.of_run (run_raise _ _) (hquiet _ _ rfl (by simp)))
      | ok u => exact hguarded s₁ P hprovider

/-- The breaker after a failure of the provider that was reported, or was not. -/
def MaybeFailed (p : Str) (c c' : CircuitBreaker) : Prop :=
  c' = c ∨ ∃ now, c' = c.recordFailure p now

omit hG in
/-- A visit calls its own provider only; it ends with a report on it, or without one, or goes on to
the rest of the walk. -/
lemma visitTarget_of_rest {Q : World σ → List (Event σ) → Prop} {deadline : Option ℚ}
    {P : Provider σ} {t : Target} {idx : ℕ} {rest : List Target} {w : World σ}
    (hend : ∀ w' es₁ es₂, (∀ call ∈ callsOf es₁, call.target.provider = t.provider) →
      callsOf es₂ = [] → w'.circuit = w.circuit.recordSuccess t.provider ∨
        MaybeFailed t.provider w.circuit w'.circuit → Q w' (es₁ ++ es₂))
    (hrest : ∀ w₁ es₁ es₂, (∀ call ∈ callsOf es₁, call.target.provider = t.provider) →
      callsOf es₂ = [] → MaybeFailed t.provider w.circuit w₁.circuit →
      Sat (G.walk request started key deadline (idx + 1) rest) w₁
        (fun _ w' es => Q w' (es₁ ++ (es₂ ++ es)))) :
    Sat (G.visitTarget request started key deadline P t idx rest) w (fun _ w' es => Q w' es) := by
  refine .bind (.attempt (G.invokeTarget_spec P t request deadline w)) ?_ ?_
  · rintro out w₁ es₁ ⟨r, hr, ending, attempts, s₁, hrounds, -, rfl, -, -⟩
    obtain rfl := Except.ok.inj hr
    have hown : ∀ call ∈ callsOf es₁, call.target.provider = t.provider := by
      intro call hcall
      rw [(hrounds.calls_within call hcall).1]
    cases out with
    | ok resp =>
      refine .bind_run (run_reportSuccess _ _) ?_
      obtain ⟨s₂, h₂⟩ := G.run_cacheSet _ key resp
      refine .bind_run h₂ ?_
      obtain ⟨cost, latency, s₃, h₃⟩ := G.run_recordAnswer _ request started key t resp idx
      exact .bind_run h₃ (.of_run (run_pure _ _) (hend _ _ _ hown (by simp) (.inl rfl)))
    | error e =>
      dsimp only
      split
      · obtain ⟨now, s₂, h₂⟩ := G.run_reportFailure _ t.provider
        refine .bind_run h₂ ?_
        obtain ⟨latency, s₃, h₃⟩ := G.run_recordError _ request started key .terminal
          (some e.msg) (some t.name)
        refine .bind_run h₃ (.of_run (run_raise _ _) ?_)
        exact hend _ _ _ hown (by simp) (.inr (.inr ⟨now, rfl⟩))
      split
      · exact hrest _ _ [] hown rfl (.inl rfl)
      split
      · obtain ⟨now, s₂, h₂⟩ := G.run_reportFailure _ t.provider
        exact .bind_run h₂ (hrest _ _ _ hown (by simp) (.inr ⟨now, rfl⟩))
      · exact .of_run (run_raise _ _) (hend _ _ _ hown rfl (.inr (.inl rfl)))
  · rintro e w₁ es₁ ⟨r, hr, -⟩
    cases hr

/-- **The visit of the provider itself**: if it starves, its row is as after starving. -/
lemma starved_visit {P : Provider σ} (hP : G.providers.get? p = some P) {t : Target}
    (ht : t.provider = p) (idx : ℕ) (rest : List Target) {w w₁ : World σ} (now : ℚ)
    (hw : w.circuit.Enabled k c) (hcircuit : w₁.circuit = (w.circuit.allow p now).2)
    (hadmits : (w.circuit.slot p).admits c now = true)
    (hnow : w.circuit.isOpen p = true → now ≤ time w₁.outer) :
    Sat (G.visitTarget request started key (some d) P t idx rest) w₁
      (fun _ w' es => Starved G p es → (w.circuit.slot p).AfterStarving k c
        G.retry.maxAttemptsPerTarget (w'.circuit.slot p)) := by
  have hslot₁ : w₁.circuit.slot p = (w.circuit.slot p).next k c now .allow := by
    rw [hcircuit, hw.slot_allow, if_pos rfl]
  have hw₁ : w₁.circuit.Enabled k c := hcircuit ▸ hw.perform ⟨.allow, p, now⟩
  refine .bind (.attempt (.and (invokeTarget_first hG hP t d w₁)
    (G.invokeTarget_spec P t request (some d) w₁))) ?_ ?_
  · rintro out w₂ es₁ ⟨r, hr, hfirst, ending, attempts, s₂, -, -, hw₂, -⟩
    obtain rfl := Except.ok.inj hr
    have hcircuit₂ : w₂.circuit = w₁.circuit := by rw [hw₂]
    cases hfirst with
    | late hcalls hr hd =>
      rw [hr]
      simp only [isTerminal_deadlineExc, isDeadline_deadlineExc, Bool.false_eq_true, if_false,
        if_true]
      refine (walk_past hG started key hd (idx + 1) rest).imp fun r w' es h hstarved => ?_
      exact absurd hstarved (not_starved (by simp [hcalls, h.1]))
    | @answered slot resp hcalls hr =>
      rw [hr]
      refine .bind_run (run_reportSuccess _ _) ?_
      obtain ⟨s₃, h₃⟩ := G.run_cacheSet
        { w₂ with circuit := w₂.circuit.recordSuccess t.provider } key resp
      refine .bind_run h₃ ?_
      obtain ⟨cost, latency, s₄, h₄⟩ := G.run_recordAnswer
        { w₂ with circuit := w₂.circuit.recordSuccess t.provider, outer := s₃ } request started key
        t resp idx
      refine .bind_run h₄ (.of_run (run_pure _ _) fun hstarved => ?_)
      -- the only call has been answered
      obtain ⟨call, hmem, -, e, he⟩ := hstarved.some
      have hcall : call = ⟨t, slot, .ok resp⟩ := by simpa [hcalls] using hmem
      rw [hcall] at he
      cases he
    | @failed slot e calls hcalls hcut =>
      by_cases hshort : e.isTimeout = true ∧ slot.timeout < G.retry.timeoutS
      · obtain ⟨hd, hle, hr⟩ := hcut hshort.1 hshort.2
        rw [hr]
        by_cases hm : G.retry.maxAttemptsPerTarget = 1
        · rw [if_pos hm]
          simp only [Exc.isTerminal_retriable, Exc.isDeadline_retriable,
            Exc.isRetriable_retriable, Bool.false_eq_true, if_false, if_true]
          obtain ⟨now', s₃, h₃, hnow', hle'⟩ := run_reportFailure_at hG t.provider w₂
          refine .bind_run h₃ ?_
          refine Sat.imp (walk_past hG started key ?_ (idx + 1) rest) fun r w' es h _ => ?_
          · exact hd.trans hle'
          refine ⟨now, now', hadmits, fun hopened => ?_, ?_⟩
          · have hopen : w.circuit.isOpen p = true := by
              rw [CircuitBreaker.isOpen, hw.enabled]
              exact hopened
            have hprobe : (w₁.circuit.slot p).probeAt = some now := by
              rw [hslot₁]
              unfold Slot.next
              simp [hopened, hadmits]
            have hreads : w₂.circuit.failureReadsClock t.provider = true := by
              have hget : w₁.circuit.probeAt.get? p = some now := hprobe
              have hhas : w₁.circuit.probeAt.has p = true := by simp [OrderedDict.has, hget]
              rw [ht, hcircuit₂, CircuitBreaker.failureReadsClock, hw₁.enabled, hhas]
              rfl
            rw [hnow' hreads]
            exact (hnow hopen).trans hle
          · rw [if_pos hm, h.2]
            dsimp only
            rw [ht, hcircuit₂, hw₁.slot_recordFailure, if_pos rfl, hslot₁]
        · rw [if_neg hm]
          simp only [isTerminal_deadlineExc, isDeadline_deadlineExc, Bool.false_eq_true, if_false,
            if_true]
          refine (walk_past hG started key hd (idx + 1) rest).imp fun r w' es h _ => ?_
          refine ⟨now, now, hadmits, fun _ => le_rfl, ?_⟩
          rw [if_neg hm, h.2, hcircuit₂, hslot₁]
      · -- any other failure is not one of a starved provider
        refine .of_forall fun r w' es hstarved => absurd ?_ hshort
        exact hstarved.only ⟨t, slot, .error e⟩ (by simp [hcalls]) ht e rfl
  · rintro e w₂ es₁ ⟨r, hr, -⟩
    cases hr

omit hG in
/-- The visit of another provider leaves the row alone. -/
lemma starved_otherVisit {P : Provider σ} {t : Target} (ht : t.provider ≠ p) (idx : ℕ)
    (rest : List Target) {s : Slot} {w : World σ} (hw : w.circuit.Enabled k c)
    (hs : w.circuit.slot p = s)
    (hrest : ∀ w : World σ, w.circuit.Enabled k c → w.circuit.slot p = s →
      Sat (G.walk request started key (some d) (idx + 1) rest) w (fun _ w' es =>
        Starved G p es → s.AfterStarving k c G.retry.maxAttemptsPerTarget (w'.circuit.slot p))) :
    Sat (G.visitTarget request started key (some d) P t idx rest) w (fun _ w' es =>
      Starved G p es → s.AfterStarving k c G.retry.maxAttemptsPerTarget (w'.circuit.slot p)) := by
  refine visitTarget_of_rest started key (fun w' es₁ es₂ hown hquiet _ hstarved => ?_)
    fun w₁ es₁ es₂ hown hquiet hfailed => ?_
  · have hothers : ∀ call ∈ callsOf es₁, call.target.provider ≠ p :=
      fun call hcall => (hown call hcall).trans_ne ht
    exact absurd (hstarved.of_append hothers) (not_starved (by simp [hquiet]))
  · have hothers : ∀ call ∈ callsOf es₁, call.target.provider ≠ p :=
      fun call hcall => (hown call hcall).trans_ne ht
    refine (hrest w₁ ?_ ?_).imp fun r w' es h hstarved => h ?_
    · rcases hfailed with hsame | ⟨now, hnow⟩
      · exact hsame ▸ hw
      · exact hnow ▸ hw.perform ⟨.failure, t.provider, now⟩
    · rcases hfailed with hsame | ⟨now, hnow⟩
      · rw [hsame, hs]
      · rw [hnow, hw.slot_recordFailure, if_neg ht, hs]
    · exact (hstarved.of_append hothers).of_append (by simp [hquiet])

/-- **The walk.** If the provider starves in it, its row is as after starving. -/
lemma walk_starved (targets : List Target) (idx : ℕ) (w : World σ) (hw : w.circuit.Enabled k c) :
    Sat (G.walk request started key (some d) idx targets) w
      (fun _ w' es => Starved G p es → (w.circuit.slot p).AfterStarving k c
        G.retry.maxAttemptsPerTarget (w'.circuit.slot p)) := by
  induction targets generalizing idx w with
  | nil =>
    obtain ⟨latency, s, h₁⟩ := G.run_allFailed request key started w
    exact .of_run h₁ fun hstarved => absurd hstarved (not_starved (by simp))
  | cons t rest ih =>
    refine walk_of_guarded started key (fun w' es _ hquiet hstarved => ?_)
      fun s₁ P hprovider => ?_
    · exact absurd hstarved (not_starved (by simp [hquiet]))
    obtain ⟨now, s₂, attempts, h₂, hnow, hs₂⟩ := run_circuitBlocked_at hG t { w with outer := s₁ }
    refine .bind_run h₂ ?_
    have hanswer := hw.allow_eq t.provider now
    have hslot := hw.slot_allow t.provider p now
    have hw' : (w.circuit.allow t.provider now).2.Enabled k c :=
      hw.perform ⟨.allow, t.provider, now⟩
    dsimp only at hnow hs₂ ⊢
    cases hallowed : (w.circuit.allow t.provider now).1 with
    | false =>
      -- a refusal changes nothing
      simp only [Bool.not_false, if_true]
      refine (ih (idx + 1) _ hw').imp fun r w' es h hstarved => ?_
      have hsame : (w.circuit.allow t.provider now).2.slot p = w.circuit.slot p := by
        rw [hslot]
        split
        · next ht =>
          rw [hallowed, ht] at hanswer
          unfold Slot.next
          simp [← hanswer]
        · rfl
      rw [← hsame]
      exact h (by simpa using hstarved)
    | true =>
      simp only [Bool.not_true, Bool.false_eq_true, if_false]
      by_cases ht : t.provider = p
      · refine (starved_visit hG started key (ht ▸ hprovider) ht idx rest now hw ?_ ?_ ?_).imp
          fun r w' es h hstarved => h (by simpa using hstarved)
        · rw [ht]
        · rw [← ht, ← hanswer, hallowed]
        · intro hopen
          rw [← ht] at hopen
          exact (hnow hopen).trans_le hs₂
      · rw [if_neg ht] at hslot
        refine (starved_otherVisit started key ht idx rest hw' hslot fun w₁ hw₁ hs₁ => ?_).imp
          fun r w' es h hstarved => h (by simpa using hstarved)
        rw [← hs₁]
        exact ih (idx + 1) w₁ hw₁

omit hG in
/-- A disabled breaker stays as it is. -/
lemma walk_disabled (deadline : Option ℚ) (targets : List Target) (idx : ℕ) (w : World σ)
    (hw : w.circuit.enabled = false) :
    Sat (G.walk request started key deadline idx targets) w
      (fun _ w' _ => w'.circuit = w.circuit) := by
  have hallow : ∀ q now, w.circuit.allow q now = (true, w.circuit) := by
    simp [CircuitBreaker.allow, hw]
  have hsuccess : ∀ q, w.circuit.recordSuccess q = w.circuit := by
    simp [CircuitBreaker.recordSuccess, hw]
  have hfailed : ∀ q c', MaybeFailed q w.circuit c' → c' = w.circuit := by
    rintro q c' (rfl | ⟨now, rfl⟩)
    · rfl
    · simp [CircuitBreaker.recordFailure, hw]
  induction targets generalizing idx w with
  | nil =>
    obtain ⟨latency, s, h₁⟩ := G.run_allFailed request key started w
    exact .of_run h₁ rfl
  | cons t rest ih =>
    refine walk_of_guarded (Q := fun w' _ => w'.circuit = w.circuit) started key (fun _ _ h _ => h)
      fun s₁ P _ => ?_
    obtain ⟨now, s₂, h₂⟩ := G.run_circuitBlocked { w with outer := s₁ } t
    rw [hallow] at h₂
    refine .bind_run h₂ ?_
    simp only [Bool.not_true, Bool.false_eq_true, if_false]
    refine visitTarget_of_rest (Q := fun w' _ => w'.circuit = w.circuit) started key
      (fun w' _ _ _ _ hreport => ?_) fun w₁ _ _ _ _ hreport => ?_
    · exact hreport.elim (fun h => h.trans (hsuccess _)) (hfailed _ _)
    · have hsame : w₁.circuit = w.circuit := hfailed _ _ hreport
      rw [← hsame] at hw hallow hsuccess hfailed ⊢
      exact ih (idx + 1) w₁ hw hallow hsuccess hfailed

end Walk

/-! ## The call -/

omit hG in
/-- What holds of a call that ends before its walk, which has called no provider and has not touched
the breaker, and of every walk, holds of the whole call. -/
lemma invoke_of_walk {Q : World σ → List (Event σ) → Prop} {w : World σ}
    (hquiet : ∀ w' es, w'.circuit = w.circuit → callsOf es = [] → Q w' es)
    (hwalk : ∀ started key targets w₁, w₁.circuit = w.circuit →
      Sat (G.walk request started key (G.deadlineFor started) 0 targets) w₁
        (fun _ w' es => Q w' es)) :
    Sat (G.invoke request) w (fun _ w' es => Q w' es) := by
  rw [invoke]
  refine .bind_run (run_modify _ _) ?_
  obtain ⟨started, s₁, h₁⟩ := G.run_monotonic { w with attempts := [] }
  refine .bind_run h₁ ?_
  rcases G.checkRequest_spec request { w with attempts := [], outer := s₁ } started
    with ⟨-, h₂⟩ | ⟨e, latency, s₂, -, h₂⟩
  · refine .bind_run h₂ ?_
    cases hkey : G.cacheKeyFor request with
    | error e =>
      refine .bind_error (run_ofExcept _ _) ?_
      exact hquiet _ _ rfl (by simp)
    | ok key =>
      refine .bind_run (run_ofExcept _ _) ?_
      rw [invokeKeyed]
      obtain ⟨cached, s₃, h₃⟩ := G.run_cacheGet { w with attempts := [], outer := s₁ } key
      refine .bind_run h₃ ?_
      cases cached with
      | some resp =>
        obtain ⟨latency, s₄, h₄⟩ := G.run_record _ request started
          { attempts := [], resp := some resp, status := .success, cacheHit := true,
            cacheKey := key }
        exact .bind_run h₄ (.of_run (run_pure _ _) (hquiet _ _ rfl (by simp)))
      | none =>
        rcases G.checkBudget_spec request { w with attempts := [], outer := s₃ } started key
          with ⟨-, h₄⟩ | ⟨e, latency, s₄, -, h₄⟩
        · refine .bind_run h₄ ?_
          rcases G.resolveTargets_spec request { w with attempts := [], outer := s₃ } started key
            with ⟨targets, -, h₅⟩ | ⟨e, latency, s₅, -, h₅⟩
          · refine .bind_run h₅ ?_
            simp only [List.nil_append]
            exact hwalk started key targets _ rfl
          · exact .bind_error h₅ (hquiet _ _ rfl (by simp))
        · exact .bind_error h₄ (hquiet _ _ rfl (by simp))
  · split at h₂
    · exact .bind_error h₂ (hquiet _ _ rfl (by simp))
    · exact .bind_error h₂ (hquiet _ _ rfl (by simp))

/-- **The breaker of a starved provider after a call.** -/
lemma invoke_starved (hdeadline : 0 < G.requestDeadlineS) {w : World σ} {k : ℤ} {c : ℚ}
    (hw : w.circuit.Enabled k c) :
    Sat (G.invoke request) w (fun _ w' es => Starved G p es → (w.circuit.slot p).AfterStarving k c
      G.retry.maxAttemptsPerTarget (w'.circuit.slot p)) := by
  refine invoke_of_walk (fun w' es _ hcalls hstarved => ?_) fun started key targets w₁ hw₁ => ?_
  · exact absurd hstarved (not_starved (by simp [hcalls]))
  · rw [deadlineFor, if_pos hdeadline, ← hw₁]
    exact walk_starved hG started key targets 0 w₁ (hw₁ ▸ hw)

omit hG in
/-- A disabled breaker after a call. -/
lemma invoke_disabled {w : World σ} (hw : w.circuit.enabled = false) :
    Sat (G.invoke request) w (fun _ w' _ => w'.circuit = w.circuit) := by
  refine invoke_of_walk (Q := fun w' _ => w'.circuit = w.circuit) (fun _ _ h _ => h)
    fun started key targets w₁ hw₁ => ?_
  rw [← hw₁]
  exact walk_disabled started key _ targets 0 w₁ (hw₁ ▸ hw)

end Gateway

/-- **A caller's deadline and the breaker.** Let the only failures of a provider in a call with a
deadline be timeouts that the deadline cut short. The failure count and the opening time of the
provider are as before if and only if the breaker is disabled or a second attempt is allowed; all
that the breaker holds of the provider is as before if and only if, besides, the provider was not
open, so that it took no probe. -/
theorem starved_uncharged_iff (G : Gateway σ) (request : NormalizedRequest) (p : Str)
    (time : σ → ℚ) (w : World σ) (hG : Forward G request p time)
    (hdeadline : 0 < G.requestDeadlineS)
    (hstarved : Starved G p ((G.invoke request).trace w)) :
    (((((G.invoke request).final w).circuit.slot p).fails = (w.circuit.slot p).fails ∧
        (((G.invoke request).final w).circuit.slot p).openedAt = (w.circuit.slot p).openedAt) ↔
      w.circuit.enabled = false ∨ 2 ≤ G.retry.maxAttemptsPerTarget) ∧
    (((G.invoke request).final w).circuit.slot p = w.circuit.slot p ↔
      w.circuit.enabled = false ∨
        (2 ≤ G.retry.maxAttemptsPerTarget ∧ (w.circuit.slot p).openedAt = none)) := by
  cases henabled : w.circuit.enabled with
  | false =>
    have hsame : ((G.invoke request).final w).circuit = w.circuit :=
      Gateway.invoke_disabled henabled
    rw [hsame]
    simp
  | true =>
    have hpos : 0 < w.circuit.threshold ∧ 0 < w.circuit.cooldown := by
      simpa [CircuitBreaker.enabled] using henabled
    have hw : w.circuit.Enabled w.circuit.threshold w.circuit.cooldown :=
      ⟨rfl, rfl, hpos.1, hpos.2⟩
    have hafter := Gateway.invoke_starved hG hdeadline hw hstarved
    have hattempts : G.retry.maxAttemptsPerTarget ≠ 1 ↔ 2 ≤ G.retry.maxAttemptsPerTarget := by
      have hone := G.retry.one_le_maxAttempts
      omega
    rw [hafter.uncharged_iff hpos.2, hafter.eq_iff hpos.2, hattempts]
    simp

/-! ## A provider that never answers -/

/-- A provider that does not answer within any timeout; the time is the state of the world. -/
def hangingProvider : Provider ℚ where
  invoke _ _ timeout s := (.error ⟨.timeoutError, "timed out", none⟩, s + timeout)

/-- A gateway with that provider, one second for a call, and a number of attempts. -/
def hangingGateway (attempts : ℕ) (h : 1 ≤ attempts) : Gateway ℚ where
  py := .plain
  outside := ⟨fun s => (s, s), fun d s => s + max 0 d, fun a _ s => (a, s)⟩
  router := ⟨[("m", [⟨"p", "a"⟩])], []⟩
  providers := [("p", hangingProvider)]
  costMeter := ⟨[], false⟩
  retry := { RetryConfig.defaults with maxAttemptsPerTarget := attempts, one_le_maxAttempts := h }
  requestDeadlineS := 1

/-- A breaker that opens at the first failure. -/
def touchyWorld : World ℚ := { outer := 0, circuit := { threshold := 1 } }

/-- The gateway with the hanging provider keeps time. -/
lemma forward_hanging (attempts : ℕ) (h : 1 ≤ attempts) :
    Forward (hangingGateway attempts h) plainRequest "p" id where
  shows _ := rfl
  monotonic _ := le_rfl
  sleep d s := le_add_of_nonneg_right (le_max_left 0 d)
  uniform _ _ _ := le_rfl
  invoke P hP target timeout s hpos := by
    obtain rfl : hangingProvider = P := Option.some.inj hP
    exact le_add_of_nonneg_right hpos.le
  timeouts P hP target timeout s e hpos _ _ _ := by
    obtain rfl : hangingProvider = P := Option.some.inj hP
    exact le_rfl

/-- The exception that a call ended in. -/
def ProviderCall.failure? (c : ProviderCall) : Option Exc :=
  match c.out with
  | .ok _ => none
  | .error e => some e

/-- What a call was, without the response. -/
def ProviderCall.summary (c : ProviderCall) : Target × ℚ × Option Exc :=
  (c.target, c.slot.timeout, c.failure?)

/-- One timeout of one second starves the provider. -/
lemma starved_of_summary {attempts : ℕ} {h : 1 ≤ attempts} {es : List (Event ℚ)}
    (hes : (callsOf es).map ProviderCall.summary =
      [(⟨"p", "a"⟩, 1, some ⟨.timeoutError, "timed out", none⟩)]) :
    Starved (hangingGateway attempts h) "p" es := by
  obtain ⟨⟨target, slot, out⟩, hcalls, hc⟩ := List.map_eq_singleton_iff.mp hes
  obtain ⟨rfl, htimeout, hout⟩ : target = ⟨"p", "a"⟩ ∧ slot.timeout = 1 ∧
      ProviderCall.failure? ⟨target, slot, out⟩ =
        some ⟨.timeoutError, "timed out", none⟩ := by
    simpa [ProviderCall.summary] using hc
  cases out with
  | ok resp => cases hout
  | error e =>
    obtain rfl := Option.some.inj hout
    refine ⟨⟨_, by rw [hcalls]; exact List.mem_singleton_self _, rfl, _, rfl⟩,
      fun c hc _ e he => ?_⟩
    rw [hcalls, List.mem_singleton] at hc
    subst hc
    obtain rfl := Except.error.inj he
    refine ⟨rfl, ?_⟩
    rw [htimeout]
    exact (by decide +kernel : (1 : ℚ) < RetryConfig.defaults.timeoutS)

/-- With a second attempt, the hanging provider is not charged. -/
theorem starved_uncharged_iff_hanging :
    ((((((hangingGateway 2 (by decide)).invoke plainRequest).final touchyWorld).circuit.slot
        "p").fails = (touchyWorld.circuit.slot "p").fails ∧
        ((((hangingGateway 2 (by decide)).invoke plainRequest).final touchyWorld).circuit.slot
          "p").openedAt = (touchyWorld.circuit.slot "p").openedAt) ↔
      touchyWorld.circuit.enabled = false ∨
        2 ≤ (hangingGateway 2 (by decide)).retry.maxAttemptsPerTarget) ∧
    ((((hangingGateway 2 (by decide)).invoke plainRequest).final touchyWorld).circuit.slot "p" =
        touchyWorld.circuit.slot "p" ↔
      touchyWorld.circuit.enabled = false ∨
        (2 ≤ (hangingGateway 2 (by decide)).retry.maxAttemptsPerTarget ∧
          (touchyWorld.circuit.slot "p").openedAt = none)) :=
  starved_uncharged_iff (hangingGateway 2 (by decide)) plainRequest "p" id touchyWorld
    (forward_hanging 2 _) one_pos (starved_of_summary (by decide +kernel))

/-- **A single attempt is charged.** The only failure of the provider is a timeout of one second,
all that the deadline left of the sixty that are configured, and the breaker opens. -/
theorem single_attempt_charged :
    Starved (hangingGateway 1 le_rfl) "p"
        (((hangingGateway 1 le_rfl).invoke plainRequest).trace touchyWorld) ∧
      touchyWorld.circuit.slot "p" = {} ∧
      (((hangingGateway 1 le_rfl).invoke plainRequest).final touchyWorld).circuit.slot "p" =
        ⟨1, some 1, none⟩ :=
  ⟨starved_of_summary (by decide +kernel), by decide +kernel, by decide +kernel⟩

end AgentCtl
