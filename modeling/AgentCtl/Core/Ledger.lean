import AgentCtl.Core.BudgetEviction
import AgentCtl.Core.ErrorText
import AgentCtl.Core.RunnerFrames

set_option relaxedAutoImplicit false
set_option autoImplicit false

/-!
# The budget is kept by the records

With a store, a call charges its budget exactly by the records that it saves: the budget after a
call is the one before it with the costs of these records added, in their order. So the records
alone tell what a guard that has seen nothing else knows: the total, the account and the reserve of
every consumer with a cap, and whether a call of that consumer is refused.

## Main definitions

* `AgentCtl.BudgetGuard.enter` — a guard after some records.
* `AgentCtl.totalOf`, `AgentCtl.spentOf`, `AgentCtl.lastOf` — what records say of costs.
* `AgentCtl.Entered` — the frame: the budget is kept by what is saved.

## Main results

* `AgentCtl.BudgetGuard.check_enter` — the check of a consumer with a cap, told by the records.
* `AgentCtl.Gateway.keeps_entered_invoke`, `keeps_entered_invokeStream`, `keeps_entered_embed` — the
  calls of a gateway.
-/

namespace AgentCtl

/-! ## What records say of costs -/

/-- What records have cost in all. -/
def totalOf (rs : List CallRecord) : ℚ := (rs.map fun r => r.costUsd.getD 0).sum

/-- What the records of a consumer have cost. -/
def spentOf (rs : List CallRecord) (consumer : Str) : ℚ :=
  totalOf (rs.filter fun r => r.consumer = consumer)

/-- The last cost of a consumer that is not zero. -/
def lastOf (rs : List CallRecord) (consumer : Str) : ℚ :=
  rs.foldl (fun x r => if r.consumer = consumer ∧ r.costUsd.getD 0 ≠ 0 then r.costUsd.getD 0 else x)
    0

section Costs

variable (rs : List CallRecord) (r : CallRecord) (consumer : Str)

/-- One more record adds its cost to the total. -/
lemma totalOf_concat : totalOf (rs ++ [r]) = totalOf rs + r.costUsd.getD 0 := by
  simp [totalOf]

/-- One more record, of this consumer or another one. -/
lemma spentOf_concat : spentOf (rs ++ [r]) consumer =
    spentOf rs consumer + if r.consumer = consumer then r.costUsd.getD 0 else 0 := by
  unfold spentOf
  rw [List.filter_append]
  by_cases h : r.consumer = consumer
  · rw [List.filter_singleton, decide_eq_true h, if_pos h]
    exact totalOf_concat _ r
  · rw [List.filter_singleton, decide_eq_false h, if_neg h]
    simp

/-- One more record, of this consumer or another one. -/
lemma lastOf_concat : lastOf (rs ++ [r]) consumer =
    if r.consumer = consumer ∧ r.costUsd.getD 0 ≠ 0 then r.costUsd.getD 0
    else lastOf rs consumer :=
  List.foldl_append

/-- The totals of two parts add up. -/
lemma totalOf_append (rs' : List CallRecord) : totalOf (rs ++ rs') = totalOf rs + totalOf rs' := by
  simp [totalOf]

/-- The order of the records does not matter. -/
lemma totalOf_perm {rs rs' : List CallRecord} (h : rs.Perm rs') : totalOf rs = totalOf rs' :=
  (h.map _).sum_eq

end Costs

/-! ## Entering records -/

/-- The charge of a record. -/
def CallRecord.entry (r : CallRecord) : BudgetOp := .add r.consumer r.costUsd

namespace BudgetGuard

open OrderedDict

/-- The guard after the charges of some records, in their order. -/
def enter (b : BudgetGuard) (rs : List CallRecord) : BudgetGuard :=
  b.replay add (rs.map CallRecord.entry)

/-- Records may be entered in parts. -/
lemma enter_append (b : BudgetGuard) (rs rs' : List CallRecord) :
    b.enter (rs ++ rs') = (b.enter rs).enter rs' := by
  unfold enter replay
  rw [List.map_append, List.foldl_append]

variable {caps : OrderedDict Str ℚ} {globalCap : Option ℚ} {maxConsumers : ℕ}

/-- A guard with given caps that has seen some records, and evicted nobody, knows what they say. -/
structure Tells (caps : OrderedDict Str ℚ) (globalCap : Option ℚ) (u : BudgetGuard)
    (rs : List CallRecord) : Prop where
  caps : u.caps = caps
  globalCap : u.globalCap = globalCap
  total : u.globalSpent = totalOf rs
  spent : ∀ c, u.spentBy c = spentOf rs c
  last : ∀ c, u.reserve c = lastOf rs c

namespace Tells

variable {u : BudgetGuard} {rs : List CallRecord} (h : Tells caps globalCap u rs)

include h

/-- A guard that tells the records tells one more after the charge of its cost. -/
lemma charge {r : CallRecord} {x : ℚ} (hcost : r.costUsd = some x) (hx : x ≠ 0) :
    Tells caps globalCap (u.charge r.consumer x) (rs ++ [r]) where
  caps := h.caps
  globalCap := h.globalCap
  total := by
    rw [totalOf_concat, hcost, ← h.total]
    rfl
  spent c := by
    rw [spentOf_concat, hcost, ← h.spent, spentBy_charge]
    rfl
  last c := by
    rw [lastOf_concat, hcost, ← h.last]
    change (get? (moveToEnd _ _) c).getD 0 = _
    rw [get?_moveToEnd, get?_insert]
    by_cases hc : r.consumer = c
    · rw [if_pos hc, if_pos ⟨hc, hx⟩]
    · rw [if_neg hc, if_neg fun hand => hc hand.1]
      rfl

/-- A record without a cost, or with a cost of zero, says nothing. -/
lemma free {r : CallRecord} (hzero : r.costUsd.getD 0 = 0) :
    Tells caps globalCap u (rs ++ [r]) where
  caps := h.caps
  globalCap := h.globalCap
  total := by rw [totalOf_concat, hzero, add_zero, h.total]
  spent c := by rw [spentOf_concat, hzero, ite_self, add_zero, h.spent]
  last c := by rw [lastOf_concat, if_neg fun hand => hand.2 hzero, h.last]

/-- A guard that tells the records tells one more after its cost is added. -/
lemma addUnbounded (henabled : (fresh caps globalCap maxConsumers).enabled = true)
    (r : CallRecord) :
    Tells caps globalCap (u.addUnbounded r.consumer r.costUsd) (rs ++ [r]) := by
  have hu : u.enabled = true := by
    unfold BudgetGuard.enabled at henabled ⊢
    rw [h.caps, h.globalCap]
    exact henabled
  unfold BudgetGuard.addUnbounded
  split
  · next hnone => exact h.free (by rw [hnone]; rfl)
  · next x hsome =>
    rw [hu]
    by_cases hx : x = 0
    · rw [if_pos (by simp [hx])]
      exact h.free (by rw [hsome, hx]; rfl)
    · rw [if_neg (by simpa using hx)]
      exact h.charge hsome hx

/-- What the check of a consumer with a cap comes to. -/
lemma check_iff (py : Runtime) {c : Str} {cap : ℚ} (hcap : caps.get? c = some cap) :
    u.check py c = .ok () ↔
      spentOf rs c + lastOf rs c < cap ∧
        ∀ g, globalCap = some g → totalOf rs + lastOf rs c < g := by
  have hget : u.caps.get? c = some cap := by rw [h.caps, hcap]
  have hconsumer : u.overConsumerCap c = true ↔ cap ≤ spentOf rs c + lastOf rs c := by
    unfold overConsumerCap
    rw [hget, h.spent, h.last]
    exact decide_eq_true_iff
  have hglobal : u.overGlobalCap c = true ↔
      ∃ g, globalCap = some g ∧ g ≤ totalOf rs + lastOf rs c := by
    unfold overGlobalCap
    rw [h.globalCap, h.total, h.last]
    cases globalCap with
    | none => simp
    | some g => simp
  unfold check
  rw [enabled_of_cap hget, Bool.not_true, if_neg Bool.false_ne_true]
  split
  · next hover =>
    refine iff_of_false nofun fun hand => ?_
    exact absurd hand.1 (not_lt.mpr (hconsumer.mp hover))
  next hbelow =>
  have hbelow' : spentOf rs c + lastOf rs c < cap :=
    lt_of_not_ge fun hle => hbelow (hconsumer.mpr hle)
  split
  · next hover =>
    obtain ⟨g, hg, hle⟩ := hglobal.mp hover
    exact iff_of_false nofun fun hand => absurd (hand.2 g hg) (not_lt.mpr hle)
  · next hunder =>
    refine iff_of_true rfl ⟨hbelow', fun g hg => ?_⟩
    exact lt_of_not_ge fun hle => hunder (hglobal.mpr ⟨g, hg, hle⟩)

end Tells

/-- **What a guard without eviction knows** after some records, and nothing else, is what they
say. -/
lemma tells_replay (henabled : (fresh caps globalCap maxConsumers).enabled = true)
    (rs : List CallRecord) :
    Tells caps globalCap (replay BudgetGuard.addUnbounded (fresh caps globalCap maxConsumers)
      (rs.map CallRecord.entry)) rs := by
  induction rs using List.reverseRecOn with
  | nil => exact ⟨rfl, rfl, rfl, fun _ => rfl, fun _ => rfl⟩
  | append_singleton rs r ih =>
    rw [List.map_append, List.map_singleton, replay_concat]
    exact ih.addUnbounded henabled r

/-- The total of a guard that evicts consumers is still the total of all records. -/
lemma globalSpent_enter (henabled : (fresh caps globalCap maxConsumers).enabled = true)
    (rs : List CallRecord) :
    ((fresh caps globalCap maxConsumers).enter rs).globalSpent = totalOf rs :=
  (mirrors_replay caps globalCap maxConsumers _).globalSpent.trans
    (tells_replay henabled rs).total

/-- **The check of a consumer with a cap.** After some records, and nothing else, its account is
what its records have cost, and it is let through exactly if its records, and all records, stay
below the caps with one more call like its last one. -/
lemma check_enter (py : Runtime) {c : Str} {cap : ℚ} (hcap : caps.get? c = some cap)
    (rs : List CallRecord) :
    ((fresh caps globalCap maxConsumers).enter rs).spentBy c = spentOf rs c ∧
      (((fresh caps globalCap maxConsumers).enter rs).check py c = .ok () ↔
        spentOf rs c + lastOf rs c < cap ∧
          ∀ g, globalCap = some g → totalOf rs + lastOf rs c < g) := by
  have hfresh : (fresh caps globalCap maxConsumers).enabled = true := enabled_of_cap hcap
  have htells := tells_replay hfresh rs
  have hmirrors := mirrors_replay caps globalCap maxConsumers (rs.map CallRecord.entry)
  obtain ⟨hspent, hcheck⟩ := hmirrors.check_capped py (c := c) (by
    rw [hmirrors.caps, htells.caps, hcap]
    rfl)
  exact ⟨hspent.trans (htells.spent c), by rw [enter, hcheck, htells.check_iff py hcap]⟩

end BudgetGuard

/-! ## The calls of a gateway -/

open Prog

variable {σ : Type} {G : Gateway σ}

/-- The budget is kept by what is saved. -/
def Entered (w w' : World σ) (es : List (Event σ)) : Prop :=
  w'.budget = w.budget.enter (savesOf es)

/-- A program whose parts enter what they save into the budget, and nothing else, does so too. -/
lemma frame_entered : Frame (Entered (σ := σ)) where
  refl _ := rfl
  trans h h' := by
    unfold Entered at h h' ⊢
    rw [savesOf_append, BudgetGuard.enter_append, ← h, h']

namespace Gateway

/-- What is saved of a capture, if there is a store. -/
lemma savesOf_savedEvents (hstore : G.hasStore = true) (r : CallRecord) :
    savesOf (G.savedEvents r) = [r] := by
  unfold savedEvents
  rw [hstore]
  rfl

/-- The steps of a call keep the budget by what they save. -/
lemma coversSteps_entered (hstore : G.hasStore = true) :
    CoversSteps G Entered fun _ => True where
  frame := frame_entered
  own _ _ _ hbudget := hbudget
  monotonic _ := rfl
  uniform _ _ _ := rfl
  sleep _ _ := rfl
  report _ _ _ := rfl
  call _ _ _ request slot w := by
    unfold Entered
    rw [savesOf_cons]
    rfl
  streamCall _ _ _ _ _ _ _ := rfl
  embedCall _ _ _ _ _ _ _ := rfl
  record _ _ _ := rfl
  persist request latency c w _ := by
    unfold Entered
    rw [savesOf_savedEvents hstore]
    rfl
  recordEmbed _ _ _ := rfl
  persistEmbed model metadata latency c w _ := by
    unfold Entered
    rw [savesOf_savedEvents hstore]
    rfl

/-- Reading the cache charges nothing. -/
lemma keeps_entered_cacheGet (key : Option Str) : Keeps Entered (G.cacheGet key) := by
  refine .of_run fun w => ?_
  obtain ⟨cached, s, h⟩ := G.run_cacheGet w key
  exact ⟨_, _, _, h, rfl⟩

/-- Writing to the cache charges nothing. -/
lemma keeps_entered_cacheSet (key : Option Str) (resp : NormalizedResponse) :
    Keeps Entered (G.cacheSet key resp) := by
  refine .of_run fun w => ?_
  obtain ⟨s, h⟩ := G.run_cacheSet w key resp
  exact ⟨_, _, _, h, rfl⟩

variable (hstore : G.hasStore = true)

include hstore

/-- A chat call enters what it saves into the budget. -/
lemma keeps_entered_invoke (request : NormalizedRequest) : Keeps Entered (G.invoke request) :=
  (coversSteps_entered hstore).keeps_invoke request keeps_entered_cacheGet keeps_entered_cacheSet
    fun _ _ _ _ _ => trivial

/-- A chat call that streams enters what it saves into the budget. -/
lemma keeps_entered_invokeStream (request : NormalizedRequest) :
    Keeps Entered (G.invokeStream request) := by
  refine (coversSteps_entered hstore).keeps_invokeStream ?_ request fun _ _ _ _ _ => trivial
  intro e w he
  cases e with
  | pull | late | deliver | close => rfl
  | _ => cases he

/-- An embeddings call enters what it saves into the budget. -/
lemma keeps_entered_embed (model : Str) (inputs : List Str) (metadata : Metadata) :
    Keeps Entered (G.embed model inputs metadata) :=
  (coversSteps_entered hstore).keeps_embed model inputs metadata fun _ _ _ _ _ => trivial

end Gateway

end AgentCtl
