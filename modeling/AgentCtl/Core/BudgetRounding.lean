import AgentCtl.Core.BudgetEviction
import AgentCtl.Core.Host
import Mathlib.Algebra.Order.Archimedean.Basic

set_option relaxedAutoImplicit false
set_option autoImplicit false

/-!
# Rounded costs and the budget

The meter rounds the cost of every call to millionths of a dollar before the budget adds it up, and
a cost that is rounded to nothing is not added at all. A consumer whose calls are rounded down
spends more than the budget knows of: the check holds it to its cap only as far as no call is
rounded down.

## Main definitions

* `AgentCtl.MeteredCall` — a finished call, with its exact and its charged cost.
* `AgentCtl.Spending` — a guard, and what was really spent.
* `AgentCtl.GateExact` — the check refuses as soon as the exact total has reached the cap.

## Main results

* `AgentCtl.le_round6_iff` — what is not rounded down.
* `AgentCtl.gateExact_iff` — the check enforces the exact spend if and only if no call is rounded
  down.
-/

namespace AgentCtl

/-! ## What is not rounded down -/

/-- The number is not rounded down: its fraction is zero, above one half, or one half after an odd
whole number. -/
def NotRoundedDown (x : ℚ) : Prop :=
  x - x.floor = 0 ∨ 1 / 2 < x - x.floor ∨ x - x.floor = 1 / 2 ∧ x.floor % 2 = 1

/-- Rounding to an integer does not make such a number smaller. -/
lemma le_roundHalfEven_iff (x : ℚ) : x ≤ roundHalfEven x ↔ NotRoundedDown x := by
  have hlow : (x.floor : ℚ) ≤ x := Int.floor_le x
  have hhigh : x < x.floor + 1 := Int.lt_floor_add_one x
  unfold roundHalfEven NotRoundedDown
  dsimp only
  by_cases hless : x - x.floor < 1 / 2
  · rw [if_pos hless]
    constructor
    · intro hle
      left
      linarith
    · rintro (hzero | habove | ⟨hhalf, -⟩)
      · linarith
      · linarith
      · linarith
  · rw [if_neg hless]
    by_cases habove : 1 / 2 < x - x.floor
    · rw [if_pos habove]
      push_cast
      exact ⟨fun _ => .inr (.inl habove), fun _ => hhigh.le⟩
    · rw [if_neg habove]
      have hhalf : x - x.floor = 1 / 2 := by linarith
      by_cases heven : x.floor % 2 = 0
      · rw [if_pos heven]
        constructor
        · intro hle
          linarith
        · rintro (hzero | habove' | ⟨-, hodd⟩)
          · linarith
          · linarith
          · omega
      · rw [if_neg heven]
        push_cast
        exact ⟨fun _ => .inr (.inr ⟨hhalf, by omega⟩), fun _ => hhigh.le⟩

/-- What is not negative is not rounded below zero. -/
lemma roundHalfEven_nonneg {x : ℚ} (h : 0 ≤ x) : 0 ≤ roundHalfEven x := by
  have hfloor : 0 ≤ x.floor := Int.floor_nonneg.mpr h
  unfold roundHalfEven
  dsimp only
  split
  · exact hfloor
  · split
    · omega
    · split
      · exact hfloor
      · omega

/-- Rounding to millionths makes nothing negative. -/
lemma round6_nonneg {x : ℚ} (h : 0 ≤ x) : 0 ≤ round6 x := by
  have hround : 0 ≤ roundHalfEven (x * 1000000) := roundHalfEven_nonneg (by positivity)
  unfold round6
  positivity

/-- Rounding to millionths does not make a number smaller, if its millionths are not rounded
down. -/
lemma le_round6_iff (x : ℚ) : x ≤ round6 x ↔ NotRoundedDown (x * 1000000) := by
  rw [← le_roundHalfEven_iff, round6, le_div_iff₀ (by norm_num)]

/-! ## Sequential calls -/

/-- A finished call: its model, and the token counts that the provider has reported. -/
structure MeteredCall where
  model : Str
  inputTokens : ℕ
  outputTokens : ℕ

namespace MeteredCall

variable (meter : CostMeter) (c : MeteredCall)

/-- The cost that the budget is told of, in exact arithmetic; none where the meter refuses. -/
def charged : Option ℚ := (meter.exactCost c.model c.inputTokens c.outputTokens).toOption.join

/-- Tokens times prices, the cost of the call in millionths of a dollar; nothing without a price. -/
def micros : ℚ :=
  match meter.priceFor c.model with
  | none => 0
  | some (inPrice, outPrice) => c.inputTokens * inPrice + c.outputTokens * outPrice

/-- The exact cost of the call. -/
def exact : ℚ := c.micros meter / 1000000

variable {meter c}

/-- The charged cost of a priced call is its exact cost, rounded. -/
lemma charged_eq (h : (meter.priceFor c.model).isSome) :
    c.charged meter = some (round6 (c.exact meter)) := by
  unfold charged exact micros CostMeter.exactCost
  cases hprice : meter.priceFor c.model with
  | none => simp [hprice] at h
  | some price =>
    obtain ⟨inPrice, outPrice⟩ := price
    dsimp only
    have hsum : ((c.inputTokens : ℤ) : ℚ) / 1000000 * inPrice +
        ((c.outputTokens : ℤ) : ℚ) / 1000000 * outPrice =
        (c.inputTokens * inPrice + c.outputTokens * outPrice) / 1000000 := by
      push_cast
      ring
    rw [hsum]
    rfl

end MeteredCall

/-- A budget guard, and the exact total of the calls that were let through. -/
structure Spending where
  guard : BudgetGuard
  exact : ℚ := 0

variable (py : Runtime) (meter : CostMeter) (consumer : Str)

namespace Spending

/-- One call: the check, and if it passes, the charge. -/
def call (s : Spending) (c : MeteredCall) : Spending :=
  match s.guard.check py consumer with
  | .error _ => s
  | .ok () => ⟨s.guard.add consumer (c.charged meter), s.exact + c.exact meter⟩

/-- One call after the other. -/
def run (s : Spending) (calls : List MeteredCall) : Spending :=
  calls.foldl (call py meter consumer) s

end Spending

/-- The check refuses as soon as the exact total has reached the cap: for every guard with a
positive cap for the consumer, after every run of calls of the kind. -/
def GateExact (kind : MeteredCall → Prop) : Prop :=
  ∀ caps globalCap maxConsumers consumer cap, caps.get? consumer = some cap → 0 < cap →
    ∀ calls, (∀ c ∈ calls, kind c) →
      let s := Spending.run py meter consumer
        { guard := BudgetGuard.fresh caps globalCap maxConsumers } calls
      cap ≤ s.exact → ∃ msg, s.guard.check py consumer = .error ⟨.budgetExceeded, msg, none⟩

/-- No price is negative. -/
def CostMeter.NonNegative (meter : CostMeter) : Prop :=
  ∀ model inPrice outPrice, meter.priceFor model = some (inPrice, outPrice) →
    0 ≤ inPrice ∧ 0 ≤ outPrice

namespace Spending

variable {py meter consumer} {cap : ℚ} {s : Spending} {c : MeteredCall}

/-- A call that the check refuses. -/
lemma call_refused {e : Exc} (h : s.guard.check py consumer = .error e) :
    s.call py meter consumer c = s := by
  unfold call
  rw [h]

/-- A priced call that the check lets through. -/
lemma call_passed (h : s.guard.check py consumer = .ok ())
    (hpriced : (meter.priceFor c.model).isSome) :
    s.call py meter consumer c =
      ⟨s.guard.add consumer (some (round6 (c.exact meter))), s.exact + c.exact meter⟩ := by
  unfold call
  rw [h, MeteredCall.charged_eq hpriced]

/-- A charge leaves the cap alone. -/
lemma cap_add {b : BudgetGuard} (h : b.caps.get? consumer = some cap) (cost : Option ℚ) :
    (b.add consumer cost).caps.get? consumer = some cap := by
  rw [b.caps_add h]
  exact h

/-- The budget knows of everything that was spent. -/
structure Accounted (s : Spending) (consumer : Str) (cap : ℚ) : Prop where
  cap_eq : s.guard.caps.get? consumer = some cap
  exact_le : s.exact ≤ s.guard.spentBy consumer
  reserve_nonneg : 0 ≤ s.guard.reserve consumer

/-- **One call.** A call that is not rounded down keeps the budget informed. -/
lemma Accounted.call (h : s.Accounted consumer cap) (hpriced : (meter.priceFor c.model).isSome)
    (hnonneg : 0 ≤ c.exact meter) (hup : c.exact meter ≤ round6 (c.exact meter)) :
    (s.call py meter consumer c).Accounted consumer cap := by
  cases hcheck : s.guard.check py consumer with
  | error e =>
    rw [call_refused hcheck]
    exact h
  | ok _ =>
    rw [call_passed hcheck hpriced]
    constructor
    · exact cap_add h.cap_eq _
    · have hspent := s.guard.spentBy_add h.cap_eq consumer (some (round6 (c.exact meter)))
      have hexact := h.exact_le
      rw [if_pos rfl] at hspent
      change s.exact + c.exact meter ≤ (s.guard.add consumer _).spentBy consumer
      rw [hspent]
      exact add_le_add hexact hup
    · change 0 ≤ (s.guard.add consumer _).reserve consumer
      rw [BudgetGuard.reserve_add h.cap_eq]
      split
      · exact h.reserve_nonneg
      · exact hnonneg.trans hup

/-- A run of calls that are not rounded down. -/
lemma Accounted.run (h : s.Accounted consumer cap) {calls : List MeteredCall}
    (hcalls : ∀ c ∈ calls, (meter.priceFor c.model).isSome ∧ 0 ≤ c.exact meter ∧
      c.exact meter ≤ round6 (c.exact meter)) :
    (s.run py meter consumer calls).Accounted consumer cap := by
  induction calls generalizing s with
  | nil => exact h
  | cons c calls ih =>
    obtain ⟨hpriced, hnonneg, hup⟩ := hcalls c List.mem_cons_self
    exact ih (h.call hpriced hnonneg hup) fun c' hc' => hcalls c' (List.mem_cons_of_mem _ hc')

/-! ## One call, again and again -/

/-- The state after `k` calls that are all charged the same. -/
structure Repeated (s : Spending) (consumer : Str) (cap exact charged : ℚ) (k : ℕ) : Prop where
  cap_eq : s.guard.caps.get? consumer = some cap
  uncapped : s.guard.globalCap = none
  exact_eq : s.exact = k * exact
  spent_eq : s.guard.spentBy consumer = k * charged
  reserve_le : s.guard.reserve consumer ≤ charged

/-- The check passes while there is room for one more. -/
lemma Repeated.check (py : Runtime) {exact charged : ℚ} {k : ℕ}
    (h : s.Repeated consumer cap exact charged k) (hroom : k * charged + charged < cap) :
    s.guard.check py consumer = .ok () := by
  have hreserve := h.reserve_le
  have hunder : s.guard.overConsumerCap consumer = false := by
    unfold BudgetGuard.overConsumerCap
    rw [h.cap_eq, h.spent_eq]
    simp only [decide_eq_false_iff_not]
    linarith
  have hglobal : s.guard.overGlobalCap consumer = false := by
    simp [BudgetGuard.overGlobalCap, h.uncapped]
  unfold BudgetGuard.check
  simp [hunder, hglobal]

/-- One more of the calls. -/
lemma Repeated.call (py : Runtime) {k : ℕ}
    (h : s.Repeated consumer cap (c.exact meter) (round6 (c.exact meter)) k)
    (hpriced : (meter.priceFor c.model).isSome)
    (hroom : k * round6 (c.exact meter) + round6 (c.exact meter) < cap) :
    (s.call py meter consumer c).Repeated consumer cap (c.exact meter) (round6 (c.exact meter))
      (k + 1) := by
  rw [call_passed (h.check py hroom) hpriced]
  constructor
  case cap_eq => exact cap_add h.cap_eq _
  case uncapped => exact (BudgetGuard.globalCap_add _ _ _).trans h.uncapped
  case exact_eq =>
    change s.exact + c.exact meter = _
    rw [h.exact_eq]
    push_cast
    ring
  case spent_eq =>
    have hspent := s.guard.spentBy_add h.cap_eq consumer (some (round6 (c.exact meter)))
    rw [if_pos rfl, h.spent_eq] at hspent
    change (s.guard.add consumer _).spentBy consumer = _
    rw [hspent]
    push_cast
    ring_nf
    rfl
  case reserve_le =>
    change (s.guard.add consumer _).reserve consumer ≤ _
    rw [BudgetGuard.reserve_add h.cap_eq]
    split
    · exact h.reserve_le
    · exact le_rfl

/-- So many of the calls as there is room for. -/
lemma repeated_run (py : Runtime) (consumer : Str) (hpriced : (meter.priceFor c.model).isSome)
    (hnonneg : 0 ≤ round6 (c.exact meter)) (k : ℕ)
    (hroom : k * round6 (c.exact meter) + round6 (c.exact meter) < cap) :
    (Spending.run py meter consumer { guard := BudgetGuard.fresh [(consumer, cap)] none 0 }
      (List.replicate k c)).Repeated consumer cap (c.exact meter) (round6 (c.exact meter)) k := by
  induction k with
  | zero =>
    refine ⟨by simp [run, BudgetGuard.fresh], rfl, by simp [run], ?_, hnonneg⟩
    simp [run, BudgetGuard.fresh, BudgetGuard.spentBy, OrderedDict.getD]
  | succ k ih =>
    have hless : k * round6 (c.exact meter) + round6 (c.exact meter) < cap := by
      push_cast at hroom
      linarith
    rw [List.replicate_succ', run, List.foldl_append]
    exact (ih hless).call py hpriced hless

end Spending

variable {meter} {kind : MeteredCall → Prop}

/-- With such prices no call costs less than nothing. -/
lemma MeteredCall.exact_nonneg (h : meter.NonNegative) (c : MeteredCall) : 0 ≤ c.exact meter := by
  unfold exact micros
  cases hprice : meter.priceFor c.model with
  | none => simp
  | some price =>
    obtain ⟨hin, hout⟩ := h c.model price.1 price.2 hprice
    dsimp only
    positivity

/-- A call is charged no less than its exact cost if its millionths are not rounded down. -/
lemma MeteredCall.exact_le_iff (meter : CostMeter) (c : MeteredCall) :
    c.exact meter ≤ round6 (c.exact meter) ↔ NotRoundedDown (c.micros meter) := by
  rw [le_round6_iff, exact, div_mul_cancel₀ _ (by norm_num)]

/-- **The budget gate and the exact spend.** With prices that are not negative, and calls of priced
models: the check refuses as soon as the exact total of the calls that were let through has reached
the cap, after every run of calls of a kind, if and only if the cost of no call of the kind is
rounded down. -/
theorem gateExact_iff (py : Runtime) (hprices : meter.NonNegative)
    (hpriced : ∀ c, kind c → (meter.priceFor c.model).isSome) :
    GateExact py meter kind ↔ ∀ c, kind c → NotRoundedDown (c.micros meter) := by
  constructor
  · intro h c hc
    rw [← c.exact_le_iff]
    by_contra hdown
    have hlt := not_le.mp hdown
    have hnonneg : 0 ≤ round6 (c.exact meter) := round6_nonneg (c.exact_nonneg hprices)
    -- so many calls that their rounding errors add up to more than the reserve
    obtain ⟨n, hn⟩ :=
      exists_nat_gt (round6 (c.exact meter) / (c.exact meter - round6 (c.exact meter)))
    rw [div_lt_iff₀ (by linarith)] at hn
    have hroom : n * round6 (c.exact meter) + round6 (c.exact meter) < n * c.exact meter := by
      linarith
    have hcap : 0 < n * c.exact meter := lt_of_le_of_lt (by positivity) hroom
    have hrepeated := Spending.repeated_run py [] (hpriced c hc) hnonneg n hroom
    obtain ⟨msg, hmsg⟩ := h _ none 0 [] (n * c.exact meter) (by simp) hcap (List.replicate n c)
      (fun c' hc' => List.eq_of_mem_replicate hc' ▸ hc) hrepeated.exact_eq.ge
    rw [hrepeated.check py hroom] at hmsg
    cases hmsg
  · intro h caps globalCap maxConsumers consumer cap hcap _ calls hcalls s hreached
    have haccounted : s.Accounted consumer cap := by
      refine Spending.Accounted.run ⟨hcap, le_rfl, le_rfl⟩ fun c hc => ?_
      exact ⟨hpriced c (hcalls c hc), c.exact_nonneg hprices,
        (c.exact_le_iff meter).mpr (h c (hcalls c hc))⟩
    have hle : cap ≤ s.guard.spentBy consumer + s.guard.reserve consumer := by
      have hexact := haccounted.exact_le
      have hreserve := haccounted.reserve_nonneg
      linarith
    exact ⟨_, BudgetGuard.check_of_cap_le py haccounted.cap_eq hle⟩

/-- A model at fifteen cents for a million tokens read, and sixty for a million written. -/
def cheapMeter : CostMeter := { prices := [("m", (3 / 20, 3 / 5))] }

/-- A call that reads three tokens, and is rounded to nothing. -/
def tinyCall : MeteredCall := ⟨"m", 3, 0⟩

/-- A call that reads twenty tokens, and costs three millionths of a dollar. -/
def evenCall : MeteredCall := ⟨"m", 20, 0⟩

lemma cheapMeter_nonNegative : cheapMeter.NonNegative := by
  intro model inPrice outPrice h
  have hprice : ∀ k, cheapMeter.prices.get? k = some (inPrice, outPrice) →
      (inPrice, outPrice) = (3 / 20, 3 / 5) := by
    intro k hk
    have hmem := OrderedDict.mem_of_get? hk
    simp only [cheapMeter, List.mem_singleton] at hmem
    exact (Prod.mk.inj hmem).2
  have heq : (inPrice, outPrice) = (3 / 20, 3 / 5) := by
    unfold CostMeter.priceFor at h
    split at h
    · next p hp => exact hprice _ (hp.trans h)
    · split at h
      · exact hprice _ h
      · cases h
  cases heq
  norm_num

/-- Calls that read twenty tokens are held to the cap exactly. -/
theorem gateExact_iff_evenCall : GateExact Runtime.plain cheapMeter (· = evenCall) ↔
    ∀ c, c = evenCall → NotRoundedDown (c.micros cheapMeter) :=
  gateExact_iff Runtime.plain cheapMeter_nonNegative (by rintro c rfl; decide)

/-- The tiny call costs nine twentieths of a millionth of a dollar, and is charged nothing. -/
lemma tinyCall_cost : tinyCall.exact cheapMeter = 9 / 20000000 ∧
    round6 (tinyCall.exact cheapMeter) = 0 := by decide +kernel

/-- The budget after so many tiny calls of a consumer with a cap of one dollar. -/
def tinySpending (n : ℕ) : Spending :=
  Spending.run Runtime.plain cheapMeter "a" { guard := BudgetGuard.fresh [("a", 1)] none 0 }
    (List.replicate n tinyCall)

/-- It knows of none of them. -/
lemma tinySpending_spec (n : ℕ) : (tinySpending n).exact = n * (9 / 20000000) ∧
    (tinySpending n).guard.check Runtime.plain "a" = .ok () := by
  obtain ⟨hexact, hround⟩ := tinyCall_cost
  have hroom : (n : ℚ) * round6 (tinyCall.exact cheapMeter) +
      round6 (tinyCall.exact cheapMeter) < 1 := by
    rw [hround]
    norm_num
  have hrepeated := Spending.repeated_run Runtime.plain "a" (c := tinyCall)
    (by decide) hround.ge n hroom
  rw [← hexact]
  exact ⟨hrepeated.exact_eq, hrepeated.check Runtime.plain hroom⟩

/-- **A budget that is never spent.** After two and a half million tiny calls the exact total has
reached the cap, and the check lets the next one in. -/
theorem tinyCalls_not_refused : 1 ≤ (tinySpending 2500000).exact ∧
    (tinySpending 2500000).guard.check Runtime.plain "a" = .ok () := by
  obtain ⟨hexact, hcheck⟩ := tinySpending_spec 2500000
  refine ⟨?_, hcheck⟩
  rw [hexact]
  norm_num

end AgentCtl
