import AgentCtl.Core.Budget
import AgentCtl.Library.PartialRun
import Mathlib.Tactic.Linarith
import Mathlib.Tactic.Ring

set_option relaxedAutoImplicit false
set_option autoImplicit false

/-!
# Concurrent calls and the budget

A call checks the budget before it is sent and charges its cost when it is over, and any number of
calls may be between the two. The reserve of the check is the cost of the last finished call, not
of the calls in flight: how far a consumer overshoots its cap depends on how many calls the check
lets in at once.

## Main definitions

* `AgentCtl.Calls`, `Calls.step` — a budget guard, the calls in flight, and the interleaving of
  checks and charges.
* `AgentCtl.Calls.exposure` — what a consumer has spent once its calls in flight are charged.
* `AgentCtl.Calls.Room` — a call let in now overshoots the cap by one call at most.

## Main results

* `AgentCtl.BudgetGuard.spentBy_add` — a charge on the account of a capped consumer.
* `AgentCtl.overshoot_one_call_iff` — the overshoot stays within one call exactly when there is
  room for every call that is let in.
* `AgentCtl.room_of_idle` — without calls in flight the check itself makes sure of the room.
-/

namespace AgentCtl

/-! ## Charges on the account of a capped consumer -/

namespace BudgetGuard

variable {b : BudgetGuard} {consumer : Str} {cap : ℚ}

/-- A guard with a cap is enabled. -/
lemma enabled_of_cap (h : b.caps.get? consumer = some cap) : b.enabled = true := by
  unfold enabled
  cases hc : b.caps with
  | nil => simp [hc] at h
  | cons p ps => simp

/-- Only consumers without a cap are evicted. -/
lemma victim_ne (h : b.caps.get? consumer = some cap) {k : Str} (hk : b.victim = some k) :
    k ≠ consumer := by
  rintro rfl
  have hnot := List.find?_some hk
  simp [OrderedDict.has, h] at hnot

/-- Evictions leave the account and the reserve of a capped consumer alone. -/
lemma evictN_capped (h : b.caps.get? consumer = some cap) (n : ℕ) :
    (evictN n b).spentBy consumer = b.spentBy consumer ∧
      (evictN n b).reserve consumer = b.reserve consumer ∧ (evictN n b).caps = b.caps := by
  induction n generalizing b with
  | zero => exact ⟨rfl, rfl, rfl⟩
  | succ n ih =>
    unfold evictN
    split
    · cases hv : b.victim with
      | none => exact ⟨rfl, rfl, rfl⟩
      | some k =>
        have hne := victim_ne h hv
        obtain ⟨hspent, hreserve, hcaps⟩ :=
          ih (b := { b with spent := b.spent.erase k, lastCost := b.lastCost.erase k }) h
        refine ⟨?_, ?_, hcaps⟩
        · rw [hspent]
          simp [spentBy, OrderedDict.getD, hne]
        · rw [hreserve]
          simp [reserve, OrderedDict.getD, hne]
    · exact ⟨rfl, rfl, rfl⟩

/-- What a charge adds to an account: its cost, if it is the account's. -/
lemma spentBy_charge (c : Str) (cost : ℚ) :
    (b.charge c cost).spentBy consumer =
      b.spentBy consumer + if c = consumer then cost else 0 := by
  unfold spentBy charge OrderedDict.getD
  rw [OrderedDict.get?_moveToEnd, OrderedDict.get?_insert]
  by_cases hc : c = consumer
  · subst hc
    simp [spentBy, OrderedDict.getD]
  · simp [hc]

/-- An enabled guard ignores a cost of zero and charges any other. -/
lemma add_some (h : b.caps.get? consumer = some cap) (c : Str) (cost : ℚ) :
    b.add c (some cost) = if cost = 0 then b else (b.charge c cost).evict := by
  simp [add, enabled_of_cap h]

/-- Adding a cost changes no cap. -/
lemma caps_add (h : b.caps.get? consumer = some cap) (c : Str) (cost : Option ℚ) :
    (b.add c cost).caps = b.caps := by
  cases cost with
  | none => rfl
  | some cost =>
    rw [add_some h]
    split
    · rfl
    · exact (evictN_capped (b := b.charge c cost) h _).2.2

/-- What a finished call adds to the account of a capped consumer: its cost, if it is the
consumer's. -/
lemma spentBy_add (h : b.caps.get? consumer = some cap) (c : Str) (cost : Option ℚ) :
    (b.add c cost).spentBy consumer =
      b.spentBy consumer + if c = consumer then cost.getD 0 else 0 := by
  cases cost with
  | none => simp [add]
  | some cost =>
    rw [add_some h]
    by_cases hcost : cost = 0
    · simp [hcost]
    · rw [if_neg hcost, evict, (evictN_capped (b := b.charge c cost) h _).1, spentBy_charge]
      rfl

/-- A finished call of a capped consumer becomes its reserve, unless it cost nothing. -/
lemma reserve_add (h : b.caps.get? consumer = some cap) (cost : ℚ) :
    (b.add consumer (some cost)).reserve consumer =
      if cost = 0 then b.reserve consumer else cost := by
  rw [add_some h]
  by_cases hcost : cost = 0
  · rw [if_pos hcost, if_pos hcost]
  · rw [if_neg hcost, if_neg hcost, evict,
      (evictN_capped (b := b.charge consumer cost) h _).2.1]
    simp [reserve, charge, OrderedDict.getD]

/-- A check that passes has found the consumer below its cap, the reserve included. -/
lemma spentBy_lt_of_check {py : Runtime} (h : b.caps.get? consumer = some cap)
    (hcheck : b.check py consumer = .ok ()) : b.spentBy consumer + b.reserve consumer < cap := by
  by_contra hle
  have hover : b.overConsumerCap consumer = true := by simpa [overConsumerCap, h] using hle
  simp [check, enabled_of_cap h, hover] at hcheck

/-- A consumer that has reached its cap with the reserve included is refused. -/
lemma check_of_cap_le (py : Runtime) (h : b.caps.get? consumer = some cap)
    (hle : cap ≤ b.spentBy consumer + b.reserve consumer) :
    b.check py consumer = .error ⟨.budgetExceeded, b.consumerMessage py consumer, none⟩ := by
  have hover : b.overConsumerCap consumer = true := by simpa [overConsumerCap, h] using hle
  simp [check, enabled_of_cap h, hover]

end BudgetGuard

/-! ## Calls in flight -/

/-- What happens to the budget: the check lets a call in, or a call ends and is charged. -/
inductive CallEvent where
  | enter (consumer : Str)
  | charge (consumer : Str) (cost : Option ℚ)

/-- The budget guard, and how many calls each consumer has in flight. -/
structure Calls where
  guard : BudgetGuard
  inFlight : Str → ℕ := fun _ => 0

namespace CallEvent

/-- Is it the end of a call? -/
def isCharge : CallEvent → Bool
  | enter _ => false
  | charge _ _ => true

/-- A call of the consumer that ends costs at most `M`. -/
def CostAtMost (consumer : Str) (M : ℚ) : CallEvent → Prop
  | enter _ => True
  | charge c cost => c = consumer → cost.getD 0 ≤ M

end CallEvent

namespace Calls

variable (py : Runtime)

/-- One event. A call is let in only if its check passes, and only calls in flight end. -/
def step (s : Calls) : CallEvent → Option Calls
  | .enter c =>
    match s.guard.check py c with
    | .ok () => some { s with inFlight := Function.update s.inFlight c (s.inFlight c + 1) }
    | .error _ => none
  | .charge c cost =>
    if s.inFlight c = 0 then none
    else some ⟨s.guard.add c cost, Function.update s.inFlight c (s.inFlight c - 1)⟩

/-- The state after an interleaving of checks and charges. -/
def run (s : Calls) (es : List CallEvent) : Option Calls := PartialRun.run (step py) s es

/-- What the consumer has spent once its calls in flight are charged `M` each. -/
def exposure (s : Calls) (consumer : Str) (M : ℚ) : ℚ :=
  s.guard.spentBy consumer + s.inFlight consumer * M

/-- There is room for one more call: the calls in flight alone do not pass the cap. -/
def Room (s : Calls) (consumer : Str) (cap M : ℚ) : Prop := s.exposure consumer M ≤ cap

/-- However the calls in flight end, the consumer spends at most `cap + M`. -/
def Bounded (s : Calls) (consumer : Str) (cap M : ℚ) : Prop :=
  ∀ es s', (∀ e ∈ es, e.isCharge = true ∧ e.CostAtMost consumer M) → s.run py es = some s' →
    s'.guard.spentBy consumer ≤ cap + M

end Calls

variable {py : Runtime} {consumer : Str} {cap M : ℚ}

/-- The run of an event and then others. -/
lemma Calls.run_append (s : Calls) (es fs : List CallEvent) :
    s.run py (es ++ fs) = (s.run py es).bind fun t => t.run py fs :=
  PartialRun.run_append (Calls.step py) s es fs

/-- A step that lets a call in: the check passed, and the guard is as it was. -/
lemma Calls.step_enter {s s' : Calls} {c : Str} (h : s.step py (.enter c) = some s') :
    s.guard.check py c = .ok () ∧
      s' = { s with inFlight := Function.update s.inFlight c (s.inFlight c + 1) } := by
  unfold Calls.step at h
  cases hc : s.guard.check py c with
  | error e => simp [hc] at h
  | ok u =>
    simp only [hc, Option.some.injEq] at h
    exact ⟨rfl, h.symm⟩

/-- A step that ends a call of those in flight. -/
lemma Calls.step_charge {s s' : Calls} {c : Str} {cost : Option ℚ}
    (h : s.step py (.charge c cost) = some s') :
    0 < s.inFlight c ∧
      s' = ⟨s.guard.add c cost, Function.update s.inFlight c (s.inFlight c - 1)⟩ := by
  unfold Calls.step at h
  by_cases hc : s.inFlight c = 0
  · simp [hc] at h
  · simp only [hc, if_false, Option.some.injEq] at h
    exact ⟨by omega, h.symm⟩

/-- A step keeps the consumer's cap. -/
lemma Calls.caps_step {s s' : Calls} {e : CallEvent} (hcap : s.guard.caps.get? consumer = some cap)
    (h : s.step py e = some s') : s'.guard.caps.get? consumer = some cap := by
  cases e with
  | enter c =>
    obtain ⟨-, rfl⟩ := Calls.step_enter h
    exact hcap
  | charge c cost =>
    obtain ⟨-, rfl⟩ := Calls.step_charge h
    rw [BudgetGuard.caps_add hcap]
    exact hcap

/-- The step lemma: the exposure stays within one call of the cap when costs stay within their
bound and calls are let in only where there is room. -/
lemma Calls.exposure_step {s s' : Calls} {e : CallEvent}
    (hcap : s.guard.caps.get? consumer = some cap) (hs : s.exposure consumer M ≤ cap + M)
    (hcost : e.CostAtMost consumer M) (hroom : e = .enter consumer → s.Room consumer cap M)
    (h : s.step py e = some s') : s'.exposure consumer M ≤ cap + M := by
  cases e with
  | enter c =>
    obtain ⟨-, rfl⟩ := Calls.step_enter h
    by_cases hc : c = consumer
    · -- one more call in flight, for which there was room
      subst hc
      have hroom := hroom rfl
      simp only [Calls.Room, Calls.exposure] at hroom
      simp only [Calls.exposure, Function.update_self, Nat.cast_add, Nat.cast_one]
      linarith
    · simpa [Calls.exposure, Function.update_of_ne (Ne.symm hc)] using hs
  | charge c cost =>
    obtain ⟨hpos, rfl⟩ := Calls.step_charge h
    simp only [Calls.exposure] at hs ⊢
    rw [BudgetGuard.spentBy_add hcap]
    by_cases hc : c = consumer
    · -- a call in flight becomes its cost, which is at most what it counted for
      subst hc
      have hle : cost.getD 0 ≤ M := hcost rfl
      have hcast : ((s.inFlight c - 1 : ℕ) : ℚ) = s.inFlight c - 1 := by
        rw [Nat.cast_sub hpos, Nat.cast_one]
      simp only [if_true, Function.update_self, hcast]
      linarith
    · simpa [hc, Function.update_of_ne (Ne.symm hc)] using hs

/-- The run lemma. -/
lemma Calls.exposure_run {s s' : Calls} {es : List CallEvent}
    (hcap : s.guard.caps.get? consumer = some cap) (hs : s.exposure consumer M ≤ cap + M)
    (hcosts : ∀ e ∈ es, e.CostAtMost consumer M)
    (hroom : ∀ pre t, pre ++ [.enter consumer] <+: es → s.run py pre = some t →
      t.Room consumer cap M)
    (h : s.run py es = some s') :
    s'.guard.caps.get? consumer = some cap ∧ s'.exposure consumer M ≤ cap + M := by
  refine PartialRun.invariant
    (I := fun t => t.guard.caps.get? consumer = some cap ∧ t.exposure consumer M ≤ cap + M)
    (P := fun t e => e.CostAtMost consumer M ∧ (e = .enter consumer → t.Room consumer cap M))
    ?_ ⟨hcap, hs⟩ ?_ h
  · rintro t e t' ⟨htcap, ht⟩ ⟨hcost, henter⟩ hstep
    exact ⟨Calls.caps_step htcap hstep, Calls.exposure_step htcap ht hcost henter hstep⟩
  · intro pre e t hpre ht
    refine ⟨hcosts e (hpre.subset (by simp)), ?_⟩
    rintro rfl
    exact hroom pre t hpre ht

/-- Within the exposure bound, the consumer's spending is bounded however its calls end. -/
lemma Calls.bounded_of_exposure (hM : 0 ≤ M) {s : Calls}
    (hcap : s.guard.caps.get? consumer = some cap) (hs : s.exposure consumer M ≤ cap + M) :
    s.Bounded py consumer cap M := by
  intro es s' hes h
  have hrun := Calls.exposure_run hcap hs (fun e he => (hes e he).2) (fun pre t hpre ht => ?_) h
  · have hflight : 0 ≤ (s'.inFlight consumer : ℚ) * M := mul_nonneg (Nat.cast_nonneg _) hM
    have hexp := hrun.2
    simp only [Calls.exposure] at hexp
    linarith
  · -- the run lets no call in
    have henter := (hes (.enter consumer) (hpre.subset (by simp))).1
    simp [CallEvent.isCharge] at henter

variable (py M) in
/-- Calls in flight that end at the bound, one after the other. -/
lemma Calls.run_charges {s : Calls} (hcap : s.guard.caps.get? consumer = some cap) (n : ℕ)
    (hn : n ≤ s.inFlight consumer) :
    ∃ s', s.run py (List.replicate n (.charge consumer (some M))) = some s' ∧
      s'.guard.spentBy consumer = s.guard.spentBy consumer + n * M := by
  induction n generalizing s with
  | zero => exact ⟨s, rfl, by simp⟩
  | succ n ih =>
    have hstep : s.step py (.charge consumer (some M)) = some ⟨s.guard.add consumer (some M),
        Function.update s.inFlight consumer (s.inFlight consumer - 1)⟩ := by
      have hpos : s.inFlight consumer ≠ 0 := by omega
      simp [Calls.step, hpos]
    obtain ⟨s', hrun, hspent⟩ := ih (Calls.caps_step hcap hstep) (by simp; omega)
    refine ⟨s', ?_, ?_⟩
    · rw [List.replicate_succ]
      simpa [Calls.run, hstep] using hrun
    · rw [hspent, BudgetGuard.spentBy_add hcap]
      simp only [if_true, Option.getD_some, Nat.cast_add, Nat.cast_one]
      ring

/-- **The overshoot window.** Let a run of checks and charges begin with the consumer's exposure
within one call of its cap, and let its calls cost at most `M`. At every moment of the run, and
however the calls then in flight end, the consumer's spending stays within `cap + M` exactly when
every call that is let in finds room. -/
theorem overshoot_one_call_iff (hM : 0 ≤ M) {s s' : Calls} {es : List CallEvent}
    (hcap : s.guard.caps.get? consumer = some cap) (hs : s.exposure consumer M ≤ cap + M)
    (hcosts : ∀ e ∈ es, e.CostAtMost consumer M) (hrun : s.run py es = some s') :
    (∀ pre t, pre <+: es → s.run py pre = some t → t.Bounded py consumer cap M) ↔
      ∀ pre t, pre ++ [.enter consumer] <+: es → s.run py pre = some t →
        t.Room consumer cap M := by
  constructor
  · intro hbounded pre t hpre ht
    -- the call is let in, and then all calls in flight end at the bound
    obtain ⟨rest, rfl⟩ := hpre
    obtain ⟨t', ht', -⟩ : ∃ t', s.run py (pre ++ [.enter consumer]) = some t' ∧ _ :=
      Option.bind_eq_some_iff.mp (by rw [← Calls.run_append]; exact hrun)
    have hstep : t.step py (.enter consumer) = some t' := by
      rw [Calls.run_append, ht] at ht'
      simpa [Calls.run] using ht'
    have htcap : t'.guard.caps.get? consumer = some cap := by
      refine PartialRun.invariant (I := fun t => t.guard.caps.get? consumer = some cap)
        (P := fun _ _ => True) (fun _ _ _ h _ hst => Calls.caps_step h hst) hcap
        (fun _ _ _ _ _ => trivial) ht'
    obtain ⟨-, rfl⟩ := Calls.step_enter hstep
    obtain ⟨u, hu, hspent⟩ := Calls.run_charges py M htcap _ le_rfl
    have hle := hbounded _ _ (List.prefix_append _ _) ht' _ u (fun e he => ?_) hu
    · rw [hspent] at hle
      simp only [Calls.Room, Calls.exposure]
      simp only [Function.update_self, Nat.cast_add, Nat.cast_one] at hle
      linarith
    · rw [List.eq_of_mem_replicate he]
      exact ⟨rfl, fun _ => le_rfl⟩
  · rintro hroom pre t ⟨rest, rfl⟩ ht
    have hinv := Calls.exposure_run hcap hs (fun e he => hcosts e (by simp [he]))
      (fun pre' u hpre' hu => hroom pre' u (hpre'.trans (List.prefix_append _ _)) hu) ht
    exact Calls.bounded_of_exposure hM hinv.1 hinv.2

/-- A guard with a cap of one dollar on the consumer `a`. -/
def dollarGuard : BudgetGuard := { caps := [("a", 1)] }

/-- Three calls are let in before any of them ends; each costs a dollar. -/
def threeAtOnce : List CallEvent :=
  List.replicate 3 (.enter "a") ++ List.replicate 3 (.charge "a" (some 1))

/-- Each of the three calls costs a dollar. -/
lemma costAtMost_threeAtOnce : ∀ e ∈ threeAtOnce, e.CostAtMost "a" 1 := by
  intro e he
  rcases List.mem_append.mp he with h | h <;> rw [List.eq_of_mem_replicate h]
  · trivial
  · exact fun _ => le_rfl

/-- The checks let all three calls in, and they spend three dollars. -/
lemma run_threeAtOnce :
    ∃ s, Calls.run Runtime.plain ⟨dollarGuard, fun _ => 0⟩ threeAtOnce = some s ∧
      s.guard.spentBy "a" = 3 := by
  have hspent : (Calls.run Runtime.plain ⟨dollarGuard, fun _ => 0⟩ threeAtOnce).map
      (fun s => s.guard.spentBy "a") = some 3 := by decide +kernel
  exact Option.map_eq_some_iff.mp hspent

/-- The run of the three calls. -/
theorem overshoot_one_call_iff_threeAtOnce :
    (∀ pre t, pre <+: threeAtOnce → Calls.run Runtime.plain ⟨dollarGuard, fun _ => 0⟩ pre = some t →
        t.Bounded Runtime.plain "a" 1 1) ↔
      ∀ pre t, pre ++ [.enter "a"] <+: threeAtOnce →
        Calls.run Runtime.plain ⟨dollarGuard, fun _ => 0⟩ pre = some t → t.Room "a" 1 1 := by
  obtain ⟨s, hs, -⟩ := run_threeAtOnce
  exact overshoot_one_call_iff (by norm_num) (by decide +kernel) (by decide +kernel)
    costAtMost_threeAtOnce hs

/-- Three calls of a dollar each, let in under a cap of one dollar, spend a dollar more than the
cap and one call. -/
theorem threeAtOnce_overshoots :
    (∀ e ∈ threeAtOnce, e.CostAtMost "a" 1) ∧
      ∃ s, Calls.run Runtime.plain ⟨dollarGuard, fun _ => 0⟩ threeAtOnce = some s ∧
        ¬ s.guard.spentBy "a" ≤ 1 + 1 := by
  obtain ⟨s, hs, hspent⟩ := run_threeAtOnce
  refine ⟨costAtMost_threeAtOnce, s, hs, ?_⟩
  rw [hspent]
  norm_num

/-- Without calls in flight the check makes sure of the room, as no call has a negative cost. -/
theorem room_of_idle {s s' : Calls} (hcap : s.guard.caps.get? consumer = some cap)
    (hreserve : 0 ≤ s.guard.reserve consumer) (hidle : s.inFlight consumer = 0)
    (h : s.step py (.enter consumer) = some s') : s.Room consumer cap M := by
  have hlt := BudgetGuard.spentBy_lt_of_check hcap (Calls.step_enter h).1
  simp only [Calls.Room, Calls.exposure, hidle, Nat.cast_zero, zero_mul]
  linarith

end AgentCtl
