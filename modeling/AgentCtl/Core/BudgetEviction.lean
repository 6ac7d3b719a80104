import AgentCtl.Core.BudgetConcurrency
import Mathlib.Data.List.Perm.Subperm

set_option relaxedAutoImplicit false
set_option autoImplicit false

/-!
# Evicted consumers

The budget's tables are bounded: after each charge, consumers without a cap are evicted until the
bound holds or only capped consumers are left. A guard with the same caps that never evicts anybody
keeps every account; the bounded guard agrees with it on all that a cap depends on.

## Main definitions

* `AgentCtl.BudgetGuard.addUnbounded` — `add` without the eviction.
* `AgentCtl.BudgetOp`, `AgentCtl.BudgetGuard.replay` — charges and checks, and a run of them.
* `AgentCtl.BudgetGuard.Mirrors` — a bounded guard next to an unbounded one.

## Main results

* `AgentCtl.BudgetGuard.Mirrors.add` — a charge on both sides.
* `AgentCtl.bounded_refines_unbounded` — what the two guards agree on after every run.
-/

namespace AgentCtl

/-- An operation on a budget guard. -/
inductive BudgetOp where
  | add (consumer : Str) (cost : Option ℚ)
  | check (consumer : Str)

namespace BudgetGuard

open OrderedDict

/-- `add` without `_evict_locked`. -/
def addUnbounded (b : BudgetGuard) (consumer : Str) (cost : Option ℚ) : BudgetGuard :=
  match cost with
  | none => b
  | some c => if !b.enabled || c = 0 then b else b.charge consumer c

/-- The guard after an operation, with the `add` given; a check changes nothing. -/
def perform (add : BudgetGuard → Str → Option ℚ → BudgetGuard) (b : BudgetGuard) :
    BudgetOp → BudgetGuard
  | .add consumer cost => add b consumer cost
  | .check _ => b

/-- The guard after a list of operations. -/
def replay (add : BudgetGuard → Str → Option ℚ → BudgetGuard) (b : BudgetGuard)
    (ops : List BudgetOp) : BudgetGuard :=
  ops.foldl (perform add) b

/-- A guard with its caps and its bound, before the first charge. -/
def fresh (caps : OrderedDict Str ℚ) (globalCap : Option ℚ) (maxConsumers : ℕ) : BudgetGuard :=
  { caps := caps, globalCap := globalCap, maxConsumers := maxConsumers }

variable {b u : BudgetGuard}

/-- One more operation. -/
lemma replay_concat (add : BudgetGuard → Str → Option ℚ → BudgetGuard) (ops : List BudgetOp)
    (op : BudgetOp) : replay add b (ops ++ [op]) = perform add (replay add b ops) op :=
  List.foldl_append

/-! ## One eviction -/

/-- The guard without a consumer. -/
def drop (b : BudgetGuard) (k : Str) : BudgetGuard :=
  { b with spent := b.spent.erase k, lastCost := b.lastCost.erase k }

/-- The consumer to evict is in the table and has no cap. -/
lemma of_victim {k : Str} (h : b.victim = some k) :
    k ∈ keys b.spent ∧ b.caps.get? k = none := by
  have hcap := List.find?_some h
  exact ⟨List.mem_of_find?_eq_some h, by simpa [OrderedDict.has] using hcap⟩

/-- A consumer with a cap is not the one to evict. -/
lemma ne_of_capped {k c : Str} (h : b.victim = some k) (hc : (b.caps.get? c).isSome) : k ≠ c := by
  rintro rfl
  rw [(of_victim h).2] at hc
  cases hc

/-- Evictions change the configuration and the total in nothing. -/
lemma evictN_config (n : ℕ) (b : BudgetGuard) :
    (evictN n b).caps = b.caps ∧ (evictN n b).globalCap = b.globalCap ∧
      (evictN n b).maxConsumers = b.maxConsumers ∧ (evictN n b).globalSpent = b.globalSpent := by
  induction n generalizing b with
  | zero => exact ⟨rfl, rfl, rfl, rfl⟩
  | succ n ih =>
    unfold evictN
    split
    · cases b.victim with
      | none => exact ⟨rfl, rfl, rfl, rfl⟩
      | some k => exact ih (b.drop k)
    · exact ⟨rfl, rfl, rfl, rfl⟩

/-- A charge does not change the global cap. -/
lemma globalCap_add (b : BudgetGuard) (consumer : Str) (cost : Option ℚ) :
    (b.add consumer cost).globalCap = b.globalCap := by
  cases cost with
  | none => rfl
  | some c =>
    unfold add
    dsimp only
    split
    · rfl
    · exact (evictN_config _ _).2.1

/-- With enough rounds the bound holds, or only capped consumers are left. -/
lemma evictN_done (n : ℕ) (b : BudgetGuard) (hn : b.spent.length ≤ n) :
    (evictN n b).spent.length ≤ b.maxConsumers ∨ (evictN n b).victim = none := by
  induction n generalizing b with
  | zero => exact .inl (hn.trans (Nat.zero_le _))
  | succ n ih =>
    unfold evictN
    split
    · cases hv : b.victim with
      | none => exact .inr hv
      | some k =>
        have hlt : (b.spent.erase k).length < b.spent.length :=
          length_erase_lt (of_victim hv).1
        exact ih (b.drop k) (by change (b.spent.erase k).length ≤ n; omega)
    · next h => exact .inl (not_lt.mp h)

/-! ## The two guards side by side -/

/-- A bounded guard next to an unbounded one: they have the same configuration and the same total,
the accounts of capped consumers are the same, and a reserve that the bounded guard still has is the
unbounded one's. -/
structure Mirrors (b u : BudgetGuard) : Prop where
  caps : b.caps = u.caps
  globalCap : b.globalCap = u.globalCap
  globalSpent : b.globalSpent = u.globalSpent
  keys_eq : keys b.spent = keys b.lastCost
  nodup : (keys b.spent).Nodup
  spent : ∀ c, (b.caps.get? c).isSome → b.spent.get? c = u.spent.get? c
  last : ∀ c, (b.caps.get? c).isSome → b.lastCost.get? c = u.lastCost.get? c
  kept : ∀ c, b.lastCost.get? c = none ∨ b.lastCost.get? c = u.lastCost.get? c

namespace Mirrors

variable (h : Mirrors b u)

include h

/-- Both guards are enabled, or neither. -/
lemma enabled : b.enabled = u.enabled := by
  unfold BudgetGuard.enabled
  rw [h.caps, h.globalCap]

/-- A charge on both sides. -/
lemma charge (consumer : Str) (cost : ℚ) :
    Mirrors (b.charge consumer cost) (u.charge consumer cost) where
  caps := h.caps
  globalCap := h.globalCap
  globalSpent := congrArg (· + cost) h.globalSpent
  keys_eq := by
    change keys (moveToEnd _ _) = keys (moveToEnd _ _)
    rw [keys_moveToEnd_insert, keys_moveToEnd_insert, h.keys_eq]
  nodup := by
    change (keys (moveToEnd _ _)).Nodup
    rw [keys_moveToEnd_insert]
    refine (h.nodup.filter _).append (List.nodup_singleton consumer) ?_
    simp
  spent c hc := by
    change get? (moveToEnd _ _) c = get? (moveToEnd _ _) c
    rw [get?_moveToEnd, get?_moveToEnd, get?_insert, get?_insert, h.spent c hc]
    by_cases hcc : consumer = c
    · subst hcc
      unfold spentBy getD
      rw [h.spent consumer hc]
    · rw [if_neg hcc, if_neg hcc]
  last c hc := by
    change get? (moveToEnd _ _) c = get? (moveToEnd _ _) c
    rw [get?_moveToEnd, get?_moveToEnd, get?_insert, get?_insert, h.last c hc]
  kept c := by
    change get? (moveToEnd _ _) c = none ∨ get? (moveToEnd _ _) c = get? (moveToEnd _ _) c
    rw [get?_moveToEnd, get?_moveToEnd, get?_insert, get?_insert]
    by_cases hcc : consumer = c
    · exact .inr (by rw [if_pos hcc, if_pos hcc])
    · rw [if_neg hcc, if_neg hcc]
      exact h.kept c

/-- An eviction on the bounded side. -/
lemma drop {k : Str} (hk : b.victim = some k) : Mirrors (b.drop k) u where
  caps := h.caps
  globalCap := h.globalCap
  globalSpent := h.globalSpent
  keys_eq := by
    change keys (erase _ _) = keys (erase _ _)
    rw [keys_erase, keys_erase, h.keys_eq]
  nodup := by
    change (keys (erase _ _)).Nodup
    rw [keys_erase]
    exact h.nodup.filter _
  spent c hc := by
    change get? (erase _ _) c = _
    rw [get?_erase, if_neg (ne_of_capped hk hc), h.spent c hc]
  last c hc := by
    change get? (erase _ _) c = _
    rw [get?_erase, if_neg (ne_of_capped hk hc), h.last c hc]
  kept c := by
    change get? (erase _ _) c = none ∨ get? (erase _ _) c = _
    rw [get?_erase]
    by_cases hkc : k = c
    · exact .inl (if_pos hkc)
    · rw [if_neg hkc]
      exact h.kept c

/-- Any number of evictions on the bounded side. -/
lemma evictN (n : ℕ) : Mirrors (BudgetGuard.evictN n b) u := by
  induction n generalizing b with
  | zero => exact h
  | succ n ih =>
    unfold BudgetGuard.evictN
    split
    · cases hv : b.victim with
      | none => exact h
      | some k => exact ih (h.drop hv)
    · exact h

/-- **One charge.** The bounded guard charges and evicts, the unbounded one charges. -/
lemma add (consumer : Str) (cost : Option ℚ) :
    Mirrors (b.add consumer cost) (u.addUnbounded consumer cost) := by
  cases cost with
  | none => exact h
  | some c =>
    unfold BudgetGuard.add addUnbounded
    dsimp only
    rw [h.enabled]
    split
    · exact h
    · exact (h.charge consumer c).evictN _

/-- The checks of a capped consumer have one outcome. -/
lemma check_capped (py : Runtime) {c : Str} (hc : (b.caps.get? c).isSome) :
    b.spentBy c = u.spentBy c ∧ b.check py c = u.check py c := by
  have hspent : b.spentBy c = u.spentBy c := by
    unfold spentBy getD
    rw [h.spent c hc]
  have hreserve : b.reserve c = u.reserve c := by
    unfold reserve getD
    rw [h.last c hc]
  refine ⟨hspent, ?_⟩
  unfold check overConsumerCap overGlobalCap consumerMessage globalMessage
  rw [h.enabled, hspent, hreserve, h.caps, h.globalCap, h.globalSpent]

/-- A consumer without a cap whose costs are not negative: its reserve in the bounded guard is at
most the one in the unbounded guard. -/
lemma reserve_le {c : Str} (hcost : ∀ x, u.lastCost.get? c = some x → 0 ≤ x) :
    b.reserve c ≤ u.reserve c := by
  unfold reserve getD
  rcases h.kept c with hnone | hsame
  · rw [hnone]
    cases hu : u.lastCost.get? c with
    | none => exact le_rfl
    | some x => exact hcost x hu
  · rw [hsame]

/-- Such a consumer is refused by the bounded guard only if it is by the unbounded one. -/
lemma check_uncapped (py : Runtime) {c : Str} (hc : b.caps.get? c = none)
    (hcost : ∀ x, u.lastCost.get? c = some x → 0 ≤ x) (hu : u.check py c = .ok ()) :
    b.check py c = .ok () := by
  have hle := h.reserve_le hcost
  have hcapped : b.overConsumerCap c = false := by simp [overConsumerCap, hc]
  have hglobal : b.overGlobalCap c = true → u.overGlobalCap c = true := by
    unfold overGlobalCap
    rw [h.globalCap, h.globalSpent]
    cases u.globalCap with
    | none => exact id
    | some cap =>
      simp only [decide_eq_true_eq]
      intro hcap
      linarith
  have hcapped' : u.overConsumerCap c = false := by simp [overConsumerCap, ← h.caps, hc]
  unfold check at hu ⊢
  rw [h.enabled, hcapped]
  rw [hcapped'] at hu
  by_cases henabled : u.enabled = true
  · simp only [henabled, Bool.not_true, Bool.false_eq_true, if_false] at hu ⊢
    by_cases hover : b.overGlobalCap c = true
    · rw [if_pos (hglobal hover)] at hu
      cases hu
    · rw [if_neg hover]
  · simp [henabled]

end Mirrors

/-! ## Runs -/

variable (caps : OrderedDict Str ℚ) (globalCap : Option ℚ) (maxConsumers : ℕ)

/-- The two guards mirror each other after every run. -/
lemma mirrors_replay (ops : List BudgetOp) :
    Mirrors (replay add (fresh caps globalCap maxConsumers) ops)
      (replay addUnbounded (fresh caps globalCap maxConsumers) ops) := by
  induction ops using List.reverseRecOn with
  | nil => exact ⟨rfl, rfl, rfl, rfl, List.nodup_nil, fun _ _ => rfl, fun _ _ => rfl,
      fun _ => .inl rfl⟩
  | append_singleton ops op ih =>
    rw [replay_concat, replay_concat]
    cases op with
    | add consumer cost => exact ih.add consumer cost
    | check consumer => exact ih

/-- Where only capped consumers are left there are no more of them than caps. -/
lemma length_le_of_victim (hnodup : (keys b.spent).Nodup) (h : b.victim = none) :
    b.spent.length ≤ b.caps.length := by
  have hsub : keys b.spent ⊆ keys b.caps := by
    intro k hk
    have hcap := List.find?_eq_none.mp h k hk
    rw [mem_keys_iff]
    simpa [OrderedDict.has, Option.isSome_iff_ne_none] using hcap
  have hle := (List.Nodup.subperm hnodup hsub).length_le
  simpa [keys] using hle

/-- The configuration of the bounded guard, and the bound on its tables, after every run. -/
lemma bounded_replay (ops : List BudgetOp) :
    let b := replay add (fresh caps globalCap maxConsumers) ops
    b.caps = caps ∧ b.maxConsumers = maxConsumers ∧
      b.spent.length ≤ max maxConsumers caps.length := by
  induction ops using List.reverseRecOn with
  | nil => exact ⟨rfl, rfl, Nat.zero_le _⟩
  | append_singleton ops op ih =>
    rw [replay_concat]
    have hmirrors := mirrors_replay caps globalCap maxConsumers ops
    set b := replay add (fresh caps globalCap maxConsumers) ops
    obtain ⟨hcaps, hmax, hlength⟩ := ih
    cases op with
    | check consumer => exact ⟨hcaps, hmax, hlength⟩
    | add consumer cost =>
      change (b.add consumer cost).caps = _ ∧ (b.add consumer cost).maxConsumers = _ ∧
        (b.add consumer cost).spent.length ≤ _
      cases cost with
      | none => exact ⟨hcaps, hmax, hlength⟩
      | some c =>
        unfold add
        dsimp only
        split
        · exact ⟨hcaps, hmax, hlength⟩
        · obtain ⟨hcaps', -, hmax', -⟩ :=
            evictN_config (b.charge consumer c).spent.length (b.charge consumer c)
          have hnodup := ((hmirrors.charge consumer c).evictN
            (b.charge consumer c).spent.length).nodup
          refine ⟨hcaps'.trans hcaps, hmax'.trans hmax, ?_⟩
          rcases evictN_done _ (b.charge consumer c) le_rfl with hle | hvictim
          · exact (hle.trans_eq hmax).trans (le_max_left _ _)
          · have hle := length_le_of_victim hnodup hvictim
            rw [hcaps'] at hle
            exact (hle.trans_eq (congrArg List.length hcaps)).trans (le_max_right _ _)

/-- The last cost on an account was charged to it. -/
lemma mem_of_lastCost (ops : List BudgetOp) {c : Str} {x : ℚ}
    (h : (replay addUnbounded (fresh caps globalCap maxConsumers) ops).lastCost.get? c = some x) :
    .add c (some x) ∈ ops := by
  induction ops using List.reverseRecOn with
  | nil => cases h
  | append_singleton ops op ih =>
    rw [replay_concat] at h
    set u := replay addUnbounded (fresh caps globalCap maxConsumers) ops
    cases op with
    | check consumer => exact List.mem_append_left _ (ih h)
    | add consumer cost =>
      change (u.addUnbounded consumer cost).lastCost.get? c = some x at h
      cases cost with
      | none => exact List.mem_append_left _ (ih h)
      | some y =>
        unfold addUnbounded at h
        dsimp only at h
        split at h
        · exact List.mem_append_left _ (ih h)
        · change get? (moveToEnd _ _) c = some x at h
          rw [get?_moveToEnd, get?_insert] at h
          by_cases hc : consumer = c
          · subst hc
            rw [if_pos rfl] at h
            obtain rfl := Option.some.inj h
            exact List.mem_append_right _ (List.mem_singleton_self _)
          · rw [if_neg hc] at h
            exact List.mem_append_left _ (ih h)

end BudgetGuard

open BudgetGuard

/-- **Eviction is sound.** After every run of charges and checks, the bounded guard and the same
guard without eviction have the same total, and the same account and check of every consumer with a
cap. A consumer without a cap, on whose account no negative cost is charged, is refused by the
bounded guard only if it is by the unbounded one. The tables of the bounded guard have the same
keys, and no more of them than the larger of its bound and the number of caps. -/
theorem bounded_refines_unbounded (py : Runtime) (caps : OrderedDict Str ℚ) (globalCap : Option ℚ)
    (maxConsumers : ℕ) (ops : List BudgetOp) :
    let b := replay add (fresh caps globalCap maxConsumers) ops
    let u := replay addUnbounded (fresh caps globalCap maxConsumers) ops
    b.globalSpent = u.globalSpent ∧
    (∀ c, (caps.get? c).isSome → b.spentBy c = u.spentBy c ∧ b.check py c = u.check py c) ∧
    (∀ c, caps.get? c = none → (∀ x, .add c (some x) ∈ ops → 0 ≤ x) →
      (∃ e, b.check py c = .error e) → ∃ e, u.check py c = .error e) ∧
    OrderedDict.keys b.spent = OrderedDict.keys b.lastCost ∧
    b.spent.length ≤ max maxConsumers caps.length := by
  intro b u
  have hmirrors : Mirrors b u := mirrors_replay caps globalCap maxConsumers ops
  obtain ⟨hcaps, -, hlength⟩ := bounded_replay caps globalCap maxConsumers ops
  have hcaps : b.caps = caps := hcaps
  refine ⟨hmirrors.globalSpent, fun c hc => ?_, fun c hc hcost => ?_, hmirrors.keys_eq, hlength⟩
  · exact hmirrors.check_capped py (by rwa [hcaps])
  · rintro ⟨e, he⟩
    cases hu : u.check py c with
    | error e' => exact ⟨e', rfl⟩
    | ok a =>
      have hok := hmirrors.check_uncapped py (c := c) (by rw [hcaps]; exact hc) ?_ hu
      · rw [hok] at he
        cases he
      · exact fun x hx => hcost x (mem_of_lastCost caps globalCap maxConsumers ops hx)

end AgentCtl
