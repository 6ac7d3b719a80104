import AgentCtl.Core.Cost

set_option relaxedAutoImplicit false
set_option autoImplicit false

/-!
# Budget guard

`core/budget.py`: spending per consumer and in total, with a check before each call and a charge
after it. The tables are bounded: consumers without a cap are evicted, the longest unseen first.

Spending is exact here, where the source adds up floats: a check that turns on the last digit of a
sum may end otherwise there. One operation is one step, as the lock of the source makes them.

## Main definitions

* `AgentCtl.BudgetGuard` — caps and accumulated spending.
* `BudgetGuard.check`, `BudgetGuard.add` — the two operations.
-/

namespace AgentCtl

/-- The budget guard. `lastCost` is the reserve of the check: the last cost of each consumer. -/
structure BudgetGuard where
  caps : OrderedDict Str ℚ := []
  globalCap : Option ℚ := none
  maxConsumers : ℕ := 10000
  spent : OrderedDict Str ℚ := []
  globalSpent : ℚ := 0
  lastCost : OrderedDict Str ℚ := []

namespace BudgetGuard

variable (py : Runtime) (b : BudgetGuard) (consumer : Str)

/-- `enabled`. -/
def enabled : Bool := !b.caps.isEmpty || b.globalCap.isSome

/-- The reserve of the check: what the consumer's last call cost. -/
def reserve : ℚ := b.lastCost.getD consumer 0

/-- `spent(consumer)`. -/
def spentBy : ℚ := b.spent.getD consumer 0

/-- Has the consumer, or the whole process, reached its cap? -/
def overConsumerCap : Bool :=
  match b.caps.get? consumer with
  | some cap => cap ≤ b.spentBy consumer + b.reserve consumer
  | none => false

/-- Has the whole process reached its cap, the consumer's reserve included? -/
def overGlobalCap : Bool :=
  match b.globalCap with
  | some cap => cap ≤ b.globalSpent + b.reserve consumer
  | none => false

/-- The text of the exception of a consumer's cap. -/
def consumerMessage : Str :=
  "consumer " ++ (py.repr (.str consumer) ++ (" budget exhausted: spent " ++
    (fixed6 (b.spentBy consumer) ++ (" (+reserve " ++ (fixed6 (b.reserve consumer) ++
      (") >= cap " ++ (fixed6 (b.caps.getD consumer 0) ++ " USD")))))))

/-- The text of the exception of the global cap. -/
def globalMessage : Str :=
  "global budget exhausted: spent " ++ (fixed6 b.globalSpent ++ (" (+reserve " ++
    (fixed6 (b.reserve consumer) ++ (") >= cap " ++ (fixed6 (b.globalCap.getD 0) ++ " USD")))))

/-- `check`: raise if a cap is reached, or would be by one more call like the last. -/
def check : Except Exc Unit :=
  if !b.enabled then .ok ()
  else if b.overConsumerCap consumer then
    .error ⟨.budgetExceeded, b.consumerMessage py consumer, none⟩
  else if b.overGlobalCap consumer then
    .error ⟨.budgetExceeded, b.globalMessage consumer, none⟩
  else .ok ()

/-- The consumer to evict: the longest unseen one without a cap. -/
def victim : Option Str := (b.spent.keys.find? fun k => !b.caps.has k)

/-- `_evict_locked`, for at most `n` evictions. -/
def evictN : ℕ → BudgetGuard → BudgetGuard
  | 0, b => b
  | n + 1, b =>
    if b.maxConsumers < b.spent.length then
      match b.victim with
      | none => b
      | some k => evictN n { b with spent := b.spent.erase k, lastCost := b.lastCost.erase k }
    else b

/-- `_evict_locked`: each round removes an entry, so their number bounds the rounds. -/
def evict : BudgetGuard := evictN b.spent.length b

/-- The tables with one more cost on the consumer's account. -/
def charge (cost : ℚ) : BudgetGuard :=
  { b with spent := (b.spent.insert consumer (b.spentBy consumer + cost)).moveToEnd consumer,
           globalSpent := b.globalSpent + cost,
           lastCost := (b.lastCost.insert consumer cost).moveToEnd consumer }

/-- `add`: account for the cost of a call; no cost and a cost of zero are ignored. -/
def add (cost : Option ℚ) : BudgetGuard :=
  match cost with
  | none => b
  | some c => if !b.enabled || c = 0 then b else (b.charge consumer c).evict

end BudgetGuard

end AgentCtl
