import AgentCtl.Library.Lockstep
import AgentCtl.Core.Gateway

set_option relaxedAutoImplicit false
set_option autoImplicit false

/-!
# Gateways in step

Two gateways whose parts do alike run alike. What counts as alike is a parameter: which exceptions,
worlds, events, error texts and cache keys of the one correspond to which of the other. With texts
that redaction does not tell apart this compares two wordings of one failure; with worlds that
differ in the cache only, a gateway with a cache and the same gateway without one.

Each function of the gateway is in lockstep because those that it calls are. The induction for the
attempts at one target is on the attempts that are left, the one for the walk is on the rest of the
chain. The handlers are chosen by the class of an exception, which alike exceptions have in common.

## Main definitions

* `AgentCtl.Likeness` — what counts as alike, and `AgentCtl.Likeness.Run`, programs that run alike.
* `AgentCtl.InStep` — gateways whose clock, pauses, breakers and budgets do alike.
* `AgentCtl.CapturesInStep`, `AgentCtl.ProvidersInStep` — their captures and their providers do.

## Main results

* `AgentCtl.InStep.invokeTarget` — the attempts at one target run alike.
* `AgentCtl.InStep.walk` — the walk along a chain runs alike.
-/

namespace AgentCtl

open Prog (Lockstep)

/-- Is the error of such an attempt the text of a provider's exception? -/
def AttemptOutcome.quotesProvider : AttemptOutcome → Bool
  | .retriable | .terminal | .timeout | .streamError => true
  | _ => false

/-- What counts as alike. -/
structure Likeness (σ : Type) where
  /-- Exceptions. -/
  exc : Exc → Exc → Prop
  /-- Worlds. -/
  world : World σ → World σ → Prop
  /-- Events. -/
  event : Event σ → Event σ → Prop
  /-- Error texts, or none. -/
  text : Option Str → Option Str → Prop
  /-- Cache keys, or none. -/
  key : Option Str → Option Str → Prop

variable {σ : Type}

/-- Programs that run alike, up to `A` in what they return. -/
abbrev Likeness.Run (L : Likeness σ) {α β : Type} (A : α → β → Prop) (m : Call σ α)
    (m' : Call σ β) : Prop :=
  Lockstep L.exc L.world L.event A m m'

/-- What is alike to the eyes of a gateway: exceptions of one class, worlds with the same breakers
and the same budget. -/
structure Likeness.Lawful (L : Likeness σ) : Prop where
  exc_refl : ∀ e, L.exc e e
  text_refl : ∀ m, L.text m m
  key_refl : ∀ k, L.key k k
  event_refl : ∀ e, L.event e e
  cls : ∀ {e e'}, L.exc e e' → e.cls = e'.cls
  msg : ∀ {e e'}, L.exc e e' → L.text (some e.msg) (some e'.msg)
  retriable : ∀ {e e'}, L.exc e e' → L.exc (.retriable e.msg) (.retriable e'.msg)
  circuit : ∀ {w w'}, L.world w w' → w.circuit = w'.circuit
  budget : ∀ {w w'}, L.world w w' → w.budget = w'.budget
  withCircuit : ∀ {w w'} cb, L.world w w' →
    L.world { w with circuit := cb } { w' with circuit := cb }
  withBudget : ∀ {w w'} b, L.world w w' → L.world { w with budget := b } { w' with budget := b }
  reset : ∀ {w w'}, L.world w w' → L.world { w with attempts := [] } { w' with attempts := [] }
  /-- An attempt is added on both sides, with alike texts if it quotes a provider. -/
  attempt : ∀ {w w'} (target : Target) outcome latency {m m'}, L.text m m' →
    (outcome.quotesProvider = false → m = m') → L.world w w' →
      L.world
        { w with attempts := w.attempts ++ [⟨target.provider, target.model, outcome, latency, m⟩] }
        { w' with
          attempts := w'.attempts ++ [⟨target.provider, target.model, outcome, latency, m'⟩] }
  lastError : ∀ {w w'}, L.world w w' →
    L.text (w.attempts.getLast?.bind Attempt.error) (w'.attempts.getLast?.bind Attempt.error)

/-- Gateways with the same configuration whose clock, random numbers and sleeps do alike. -/
structure InStep (L : Likeness σ) (G G' : Gateway σ) : Prop where
  lawful : L.Lawful
  py : G'.py = G.py
  router : G'.router = G.router
  costMeter : G'.costMeter = G.costMeter
  retry : G'.retry = G.retry
  monotonic : L.Run Eq G.monotonic G'.monotonic
  uniform : ∀ a b, L.Run Eq (outsideDo (G.outside.uniform a b)) (outsideDo (G'.outside.uniform a b))
  sleep : ∀ d, L.Run Eq (G.sleep d) (G'.sleep d)

/-- Gateways that record and cache alike. -/
structure CapturesInStep (L : Likeness σ) (G G' : Gateway σ) : Prop where
  recordError : ∀ request started {key key'} errorType {m m'} resolved, L.key key key' →
    L.text m m' → L.Run Eq (G.recordError request started key errorType m resolved)
      (G'.recordError request started key' errorType m' resolved)
  recordAnswer : ∀ request started {key key'} target resp idx, L.key key key' →
    L.Run Eq (G.recordAnswer request started key target resp idx)
      (G'.recordAnswer request started key' target resp idx)
  cacheSet : ∀ {key key'} resp, L.key key key' →
    L.Run Eq (G.cacheSet key resp) (G'.cacheSet key' resp)

/-- Providers that answer alike. -/
def AnswersInStep (L : Likeness σ) (p p' : Provider σ) : Prop :=
  ∀ target request slot, L.Run (OutcomeRel L.exc Eq) (Gateway.callProvider p target request slot)
    (Gateway.callProvider p' target request slot)

/-- Gateways whose providers answer alike. -/
def ProvidersInStep (L : Likeness σ) (G G' : Gateway σ) : Prop :=
  ∀ name, Option.Rel (AnswersInStep L) (G.providers.get? name) (G'.providers.get? name)

namespace Likeness.Lawful

variable {L : Likeness σ} (h : L.Lawful) {e e' : Exc}

include h

/-! ## Exceptions take the same handlers -/

/-- The test for `TerminalError`. -/
lemma isTerminal (he : L.exc e e') : e.isTerminal = e'.isTerminal := by
  simp only [Exc.isTerminal, h.cls he]

/-- The test for `RetriableError`. -/
lemma isRetriable (he : L.exc e e') : e.isRetriable = e'.isRetriable := by
  simp only [Exc.isRetriable, h.cls he]

/-- The test for `TimeoutError`. -/
lemma isTimeout (he : L.exc e e') : e.isTimeout = e'.isTimeout := by
  simp only [Exc.isTimeout, h.cls he]

/-- The test for `DeadlineExceeded`. -/
lemma isDeadline (he : L.exc e e') : e.isDeadline = e'.isDeadline := by
  simp only [Exc.isDeadline, h.cls he]

/-- The test for `Exception`. -/
lemma isException (he : L.exc e e') : e.isException = e'.isException := by
  simp only [Exc.isException, h.cls he]

/-! ## Steps that no clock is read for -/

/-- The same event on both sides. -/
lemma emit (e : Event σ) : L.Run Eq (Prog.emit e) (Prog.emit e) := .emit (h.event_refl e)

/-- The same exception on both sides. -/
lemma raise {α : Type} {A : α → α → Prop} (e : Exc) :
    L.Run A (Prog.raise e : Call σ α) (Prog.raise e) := .raise (h.exc_refl e)

/-- The attempts of a call start empty. -/
lemma resetAttempts : L.Run Eq (Prog.modify fun w => { w with attempts := [] })
    (Prog.modify fun w => { w with attempts := [] }) := .modify fun _ _ hw => h.reset hw

/-- The attempt of a guard quotes no provider. -/
lemma recordGuard (target : Target) (outcome : AttemptOutcome) (error : Str) :
    L.Run Eq (Gateway.recordGuard target outcome error)
      (Gateway.recordGuard target outcome error) :=
  .modify fun _ _ hw => h.attempt target outcome 0 (h.text_refl _) (fun _ => rfl) hw

/-- A success is reported on both sides. -/
lemma reportSuccess (provider : Str) :
    L.Run Eq (Gateway.reportSuccess provider) (Gateway.reportSuccess provider) := by
  refine .bind_eq (.modify fun w w' hw => ?_) fun _ => h.emit _
  rw [h.circuit hw]
  exact h.withCircuit _ hw

end Likeness.Lawful

namespace InStep

variable {L : Likeness σ} {G G' : Gateway σ} (h : InStep L G G')

include h

/-! ## Clock and attempts -/

/-- A reading that only some branches take. -/
lemma monotonicIf (needed : Bool) : L.Run Eq (G.monotonicIf needed) (G'.monotonicIf needed) :=
  .ite (fun _ => h.monotonic) fun _ => .pure rfl

/-- One clock gives one latency. -/
lemma latencySince (started : ℚ) : L.Run Eq (G.latencySince started) (G'.latencySince started) :=
  .bind_eq h.monotonic fun _ => .pure rfl

/-- The attempt of a provider call. -/
lemma recordAttempt (target : Target) {outcome : AttemptOutcome} (started : ℚ)
    {error error' : Option Str} (ht : L.text error error')
    (hown : outcome.quotesProvider = false → error = error') :
    L.Run Eq (G.recordAttempt target outcome started error)
      (G'.recordAttempt target outcome started error') :=
  .bind_eq (h.latencySince started) fun latency =>
    .modify fun _ _ hw => h.lawful.attempt target outcome latency ht hown hw

/-- An attempt at a stream. -/
lemma recordStreamAttempt (target : Target) {outcome : AttemptOutcome} (started : ℚ)
    {error error' : Option Str} (ht : L.text error error')
    (hown : outcome.quotesProvider = false → error = error') :
    L.Run Eq (G.recordStreamAttempt target outcome started error)
      (G'.recordStreamAttempt target outcome started error') :=
  .ite (fun _ => .modify fun _ _ hw => h.lawful.attempt target outcome 0 ht hown hw)
    fun _ => h.recordAttempt target started ht hown

/-! ## Breakers and budgets -/

/-- A provider is let through on both sides or on neither. -/
lemma circuitAllow (provider : Str) :
    L.Run Eq (G.circuitAllow provider) (G'.circuitAllow provider) := by
  refine .bind_eq (.gets fun _ _ hw => h.lawful.circuit hw) fun cb => ?_
  refine .bind_eq (h.monotonicIf _) fun now => ?_
  exact .bind_eq (.modify fun _ _ hw => h.lawful.withCircuit _ hw) fun _ => .pure rfl

/-- A failure is reported on both sides. -/
lemma reportFailure (provider : Str) :
    L.Run Eq (G.reportFailure provider) (G'.reportFailure provider) := by
  refine .bind_eq (.gets fun _ _ hw => h.lawful.circuit hw) fun cb => ?_
  refine .bind_eq (h.monotonicIf _) fun now => ?_
  exact .bind_eq (.modify fun _ _ hw => h.lawful.withCircuit _ hw) fun _ => h.lawful.emit _

/-- The budget refuses on both sides or on neither. -/
lemma budgetCheck (consumer : Str) :
    L.Run Eq (G.budgetCheck consumer) (G'.budgetCheck consumer) := by
  refine .bind_eq (.gets fun _ _ hw => h.lawful.budget hw) fun b => ?_
  rw [h.py]
  exact .ofExcept (.refl h.lawful.exc_refl _)

/-! ## Guards and pauses -/

/-- One clock gives one timeout. -/
lemma timeoutWithin (deadline : Option ℚ) :
    L.Run Eq (G.timeoutWithin deadline) (G'.timeoutWithin deadline) := by
  cases deadline with
  | none => exact .pure (by rw [h.retry])
  | some d => exact .bind_eq h.monotonic fun now => .pure (by rw [h.retry])

/-- The deadline passes on both sides at once. -/
lemma deadlineExceeded (target : Target) (deadline : Option ℚ) :
    L.Run Eq (G.deadlineExceeded target deadline) (G'.deadlineExceeded target deadline) := by
  cases deadline with
  | none => exact .pure rfl
  | some d =>
    refine .bind_eq h.monotonic fun now => .ite (fun _ => ?_) fun _ => .pure rfl
    exact .bind_eq (h.lawful.recordGuard target _ _) fun _ => .pure rfl

/-- A target is passed over on both sides or on neither. -/
lemma circuitBlocked (target : Target) :
    L.Run Eq (G.circuitBlocked target) (G'.circuitBlocked target) := by
  refine .bind_eq (h.circuitAllow target.provider) fun allowed => ?_
  refine .ite (fun _ => .pure rfl) fun _ => ?_
  exact .bind_eq (h.lawful.recordGuard target _ _) fun _ => .pure rfl

/-- The backoff draws the same number. -/
lemma backoff (n : ℕ) : L.Run Eq (G.backoff n) (G'.backoff n) := by
  unfold Gateway.backoff
  rw [h.retry]
  exact .ite (fun _ => .pure rfl) fun _ => .bind_eq (h.uniform _ _) fun _ => .pure rfl

/-- Both sides pause as long. -/
lemma pause (n : ℕ) : L.Run Eq (G.pause n) (G'.pause n) := by
  unfold Gateway.pause
  rw [h.retry]
  exact .ite (fun _ => .bind_eq (h.backoff n) fun d => h.sleep d) fun _ => .pure rfl

/-! ## One target -/

/-- **The retry loop**, with exceptions to remember that are alike. -/
lemma invokeTargetFrom {p p' : Provider σ} (hp : AnswersInStep L p p') (target : Target)
    (request : NormalizedRequest) (deadline : Option ℚ) (left n : ℕ) {last last' : Exc}
    (hlast : L.exc last last') :
    L.Run Eq (G.invokeTargetFrom p target request deadline n last left)
      (G'.invokeTargetFrom p' target request deadline n last' left) := by
  induction left generalizing n last last' with
  | zero => exact .raise (h.lawful.retriable hlast)
  | succ left ih =>
    refine .bind_eq (h.timeoutWithin deadline) fun slot => ?_
    cases slot with
    | none => exact h.lawful.raise _
    | some slot =>
      refine .bind_eq h.monotonic fun t => ?_
      refine .bind (hp target request slot) fun out out' hout => ?_
      cases hout with
      | ok heq =>
        obtain rfl := heq
        exact .bind_eq (h.recordAttempt target t (h.lawful.text_refl _) fun _ => rfl)
          fun _ => .pure rfl
      | @error e e' he =>
        have htext := h.lawful.msg he
        dsimp only
        rw [← h.lawful.isTerminal he, ← h.lawful.isRetriable he, ← h.lawful.isTimeout he]
        refine .ite (fun _ => ?_) fun _ => .ite (fun _ => ?_) fun _ => .raise he
        · exact .bind_eq (h.recordAttempt target t htext fun hown => by cases hown)
            fun _ => .raise he
        · have houtcome : Gateway.retryOutcome e' = Gateway.retryOutcome e := by
            simp only [Gateway.retryOutcome, h.lawful.isTimeout he]
          rw [houtcome]
          refine .bind_eq (h.recordAttempt target t htext fun hown => ?_) fun _ =>
            .bind_eq (h.pause n) fun _ => ih (n + 1) he
          unfold Gateway.retryOutcome at hown
          split at hown <;> cases hown

/-- **The attempts at one target.** -/
lemma invokeTarget {p p' : Provider σ} (hp : AnswersInStep L p p') (target : Target)
    (request : NormalizedRequest) (deadline : Option ℚ) :
    L.Run Eq (G.invokeTarget p target request deadline)
      (G'.invokeTarget p' target request deadline) := by
  unfold Gateway.invokeTarget
  rw [h.retry]
  exact h.invokeTargetFrom hp target request deadline _ 0 (h.lawful.exc_refl _)

/-! ## The whole call -/

variable (hc : CapturesInStep L G G') {key key' : Option Str}

include hc

/-- Local validation. -/
lemma checkRequest (request : NormalizedRequest) (started : ℚ) :
    L.Run Eq (G.checkRequest request started) (G'.checkRequest request started) := by
  unfold Gateway.checkRequest
  rw [h.py]
  split
  · exact .pure rfl
  · refine .ite (fun _ => ?_) fun _ => h.lawful.raise _
    exact .bind_eq (hc.recordError request started .validation none (h.lawful.key_refl _)
      (h.lawful.text_refl _)) fun _ => h.lawful.raise _

/-- The budget gate. -/
lemma checkBudget (request : NormalizedRequest) (started : ℚ) (hkey : L.key key key') :
    L.Run Eq (G.checkBudget request started key) (G'.checkBudget request started key') := by
  refine .bind (.attempt (h.budgetCheck _)) fun r r' hr => ?_
  cases hr with
  | ok => exact .pure rfl
  | error he =>
    exact .bind_eq (hc.recordError request started .budget none hkey (h.lawful.msg he))
      fun _ => .raise he

/-- Routing. -/
lemma resolveTargets (request : NormalizedRequest) (started : ℚ) (hkey : L.key key key') :
    L.Run Eq (G.resolveTargets request started key) (G'.resolveTargets request started key') := by
  unfold Gateway.resolveTargets
  rw [h.py, h.router]
  split
  · exact .pure rfl
  · exact .bind_eq (hc.recordError request started .routing none hkey (h.lawful.text_refl _))
      fun _ => h.lawful.raise _

/-- The end of a chain quotes the last attempt. -/
lemma allFailed (request : NormalizedRequest) (started : ℚ) (hkey : L.key key key') :
    L.Run Eq (G.allFailed request started key) (G'.allFailed request started key') := by
  have hexc : G'.allFailedExc request = G.allFailedExc request := by
    simp only [Gateway.allFailedExc, h.py]
  unfold Gateway.allFailed
  rw [hexc]
  refine .bind (A := fun as as' => L.text (as.getLast?.bind Attempt.error)
    (as'.getLast?.bind Attempt.error)) (.gets fun _ _ hw => h.lawful.lastError hw) fun _ _ has => ?_
  exact .bind_eq (hc.recordError request started .allFailed none hkey has)
    fun _ => h.lawful.raise _

/-- **The walk along a chain.** -/
theorem walk (hps : ProvidersInStep L G G') (request : NormalizedRequest) (started : ℚ)
    (hkey : L.key key key') (deadline : Option ℚ) (targets : List Target) (idx : ℕ) :
    L.Run Eq (G.walk request started key deadline idx targets)
      (G'.walk request started key' deadline idx targets) := by
  induction targets generalizing idx with
  | nil => exact h.allFailed hc request started hkey
  | cons target rest ih =>
    have hunregistered : G'.unregistered target = G.unregistered target := by
      simp only [Gateway.unregistered, h.py]
    refine .bind_eq (h.deadlineExceeded target deadline) fun passed => ?_
    refine .ite (fun _ => h.allFailed hc request started hkey) fun _ => ?_
    have hprovider := hps target.provider
    rw [hunregistered, h.costMeter, h.py]
    generalize G.providers.get? target.provider = x at hprovider ⊢
    generalize G'.providers.get? target.provider = x' at hprovider ⊢
    cases hprovider with
    | none =>
      exact .bind_eq (hc.recordError request started .provider _ hkey (h.lawful.text_refl _))
        fun _ => h.lawful.raise _
    | some hp =>
      dsimp only
      split
      · exact .bind_eq (hc.recordError request started .pricing _ hkey (h.lawful.text_refl _))
          fun _ => h.lawful.raise _
      · refine .bind_eq (h.circuitBlocked target) fun blocked => ?_
        refine .ite (fun _ => ih (idx + 1)) fun _ => ?_
        refine .bind (.attempt (h.invokeTarget hp target request deadline)) fun out out' hout => ?_
        cases hout with
        | ok heq =>
          obtain rfl := heq
          exact .bind_eq (h.lawful.reportSuccess _) fun _ => .bind_eq (hc.cacheSet _ hkey)
            fun _ => .bind_eq (hc.recordAnswer request started target _ idx hkey)
            fun _ => .pure rfl
        | error he =>
          dsimp only
          rw [← h.lawful.isTerminal he, ← h.lawful.isDeadline he, ← h.lawful.isRetriable he]
          refine .ite (fun _ => ?_) fun _ => .ite (fun _ => ih (idx + 1)) fun _ =>
            .ite (fun _ => ?_) fun _ => .raise he
          · exact .bind_eq (h.reportFailure _) fun _ =>
              .bind_eq (hc.recordError request started .terminal _ hkey (h.lawful.msg he))
              fun _ => .raise he
          · exact .bind_eq (h.reportFailure _) fun _ => ih (idx + 1)

/-- **A call after a miss**: the budget, the route and the walk. -/
theorem afterMiss (hps : ProvidersInStep L G G') (request : NormalizedRequest) (started : ℚ)
    (hkey : L.key key key') (deadline : Option ℚ) :
    L.Run Eq
      (G.checkBudget request started key >>= fun _ =>
        G.resolveTargets request started key >>= fun targets =>
          G.walk request started key deadline 0 targets)
      (G'.checkBudget request started key' >>= fun _ =>
        G'.resolveTargets request started key' >>= fun targets =>
          G'.walk request started key' deadline 0 targets) :=
  .bind_eq (h.checkBudget hc request started hkey) fun _ =>
    .bind_eq (h.resolveTargets hc request started hkey) fun targets =>
      h.walk hc hps request started hkey deadline targets 0

end InStep

end AgentCtl
