import Mathlib.Algebra.BigOperators.Group.List.Basic
import Mathlib.Data.List.Dedup
import Mathlib.Data.List.Forall2
import Mathlib.Data.List.Sort
import Mathlib.Order.Defs.LinearOrder
import Mathlib.Tactic.Common

set_option relaxedAutoImplicit false
set_option autoImplicit false

/-!
# Queries over nullable columns

A column of a table may hold NULL. A comparison with NULL is neither true nor false, a query
selects the rows for which its condition is true, a sum leaves NULLs out and is itself NULL when
nothing is left, and groups are made of the rows with one key, in the order of the keys.

## Main definitions

* `Nullable.eq`, `ge`, `or`, `Holds` — conditions with three truth values.
* `Nullable.sum`, `Nullable.coalesce` — the aggregate and the choice of a default.
* `Nullable.TextLe` — the order of nullable texts: NULL first, then character by character.
* `Nullable.groups` — the groups of a list of rows.

## Main results

* `Nullable.sum_getD` — a sum with a default of zero is the sum of the values, NULL as zero.
* `Nullable.groups_perm`, `Nullable.groups_congr` — groups do not depend on the order of the rows,
  nor on what else the rows hold.
-/

namespace Nullable

variable {α β γ κ : Type}

/-! ## Conditions -/

/-- `column = v`. -/
def eq [DecidableEq α] (column : Option α) (v : α) : Option Bool :=
  column.map fun a => decide (a = v)

/-- `column >= v`. -/
def ge [LE α] [DecidableLE α] (column : Option α) (v : α) : Option Bool :=
  column.map fun a => decide (v ≤ a)

/-- `a OR b`: true as soon as one of them is. -/
def or : Option Bool → Option Bool → Option Bool
  | some true, _ | _, some true => some true
  | some false, some false => some false
  | _, _ => none

/-- A query selects a row for which its condition is true. -/
def Holds (c : Option Bool) : Bool := c = some true

@[simp] lemma holds_eq_some [DecidableEq α] (a v : α) : Holds (eq (some a) v) = decide (a = v) := by
  simp [Holds, eq]

@[simp] lemma holds_eq_none [DecidableEq α] (v : α) : Holds (eq none v) = false := rfl

@[simp] lemma holds_ge_some [LE α] [DecidableLE α] (a v : α) :
    Holds (ge (some a) v) = decide (v ≤ a) := by
  simp [Holds, ge]

@[simp] lemma holds_or (c d : Option Bool) : Holds (or c d) = (Holds c || Holds d) := by
  rcases c with _ | _ | _ <;> rcases d with _ | _ | _ <;> rfl

/-! ## Sums -/

/-- `SUM(column)`: NULL if there is no value. -/
def sum [Add α] [Zero α] (column : List (Option α)) : Option α :=
  match column.filterMap id with
  | [] => none
  | vs => some vs.sum

/-- `COALESCE(column, ..)`: the first value. -/
def coalesce (columns : List (Option α)) : Option α := columns.findSome? id

/-- **A sum with a default of zero** counts a NULL as zero. -/
lemma sum_getD [AddMonoid α] (column : List (Option α)) :
    (sum column).getD 0 = (column.map fun v => v.getD 0).sum := by
  have hsum : (sum column).getD 0 = (column.filterMap id).sum := by
    unfold sum
    cases column.filterMap id with
    | nil => rfl
    | cons v vs => rfl
  rw [hsum]
  clear hsum
  induction column with
  | nil => rfl
  | cons v column ih =>
    cases v with
    | none => simpa using ih
    | some a =>
      rw [List.filterMap_cons_some (by rfl), List.sum_cons, List.map_cons, List.sum_cons, ih]
      rfl

/-! ## The order of nullable texts -/

/-- Texts character by character; a text comes after what it begins with. -/
def LexLe [LinearOrder α] : List α → List α → Prop
  | [], _ => True
  | _ :: _, [] => False
  | a :: as, b :: bs => a < b ∨ a = b ∧ LexLe as bs

/-- NULL comes first. -/
def TextLe [LinearOrder α] : Option (List α) → Option (List α) → Prop
  | none, _ => True
  | some _, none => False
  | some s, some t => LexLe s t

section TextLe

variable [LinearOrder α]

/-- The order of texts can be tested. -/
instance decidableLexLe : ∀ s t : List α, Decidable (LexLe s t)
  | [], _ => inferInstanceAs (Decidable True)
  | _ :: _, [] => inferInstanceAs (Decidable False)
  | a :: as, b :: bs =>
    have := decidableLexLe as bs
    inferInstanceAs (Decidable (a < b ∨ a = b ∧ LexLe as bs))

/-- The order of nullable texts can be tested. -/
instance decidableTextLe : ∀ s t : Option (List α), Decidable (TextLe s t)
  | none, _ => inferInstanceAs (Decidable True)
  | some _, none => inferInstanceAs (Decidable False)
  | some s, some t => inferInstanceAs (Decidable (LexLe s t))

/-- Any two texts are ordered. -/
lemma lexLe_total (s t : List α) : LexLe s t ∨ LexLe t s := by
  induction s generalizing t with
  | nil => exact .inl trivial
  | cons a s ih =>
    cases t with
    | nil => exact .inr trivial
    | cons b t =>
      rcases lt_trichotomy a b with hab | rfl | hba
      · exact .inl (.inl hab)
      · rcases ih t with h | h
        · exact .inl (.inr ⟨rfl, h⟩)
        · exact .inr (.inr ⟨rfl, h⟩)
      · exact .inr (.inl hba)

/-- The order of texts is transitive. -/
lemma LexLe.trans {s t u : List α} (h : LexLe s t) (h' : LexLe t u) : LexLe s u := by
  induction s generalizing t u with
  | nil => trivial
  | cons a s ih =>
    cases t with
    | nil => exact h.elim
    | cons b t =>
      cases u with
      | nil => exact h'.elim
      | cons c u =>
        rcases h with hab | ⟨rfl, hst⟩
        · rcases h' with hbc | ⟨rfl, -⟩
          · exact .inl (hab.trans hbc)
          · exact .inl hab
        · rcases h' with hbc | ⟨rfl, htu⟩
          · exact .inl hbc
          · exact .inr ⟨rfl, ih hst htu⟩

/-- Texts that come before each other are the same. -/
lemma LexLe.antisymm {s t : List α} (h : LexLe s t) (h' : LexLe t s) : s = t := by
  induction s generalizing t with
  | nil =>
    cases t with
    | nil => rfl
    | cons b t => exact h'.elim
  | cons a s ih =>
    cases t with
    | nil => exact h.elim
    | cons b t =>
      rcases h with hab | ⟨rfl, hst⟩
      · rcases h' with hba | ⟨rfl, -⟩
        · exact absurd hab hba.asymm
        · exact absurd hab (lt_irrefl _)
      · rcases h' with haa | ⟨-, hts⟩
        · exact absurd haa (lt_irrefl _)
        · rw [ih hst hts]

instance : Std.Total (α := Option (List α)) TextLe where
  total
    | none, _ => .inl trivial
    | some _, none => .inr trivial
    | some s, some t => lexLe_total s t

instance : IsTrans (Option (List α)) TextLe where
  trans
    | none, _, _, _, _ => trivial
    | some _, none, _, h, _ => h.elim
    | some _, some _, none, _, h' => h'.elim
    | some _, some _, some _, h, h' => LexLe.trans h h'

instance : Std.Antisymm (α := Option (List α)) TextLe where
  antisymm
    | none, none, _, _ => rfl
    | none, some _, _, h' => h'.elim
    | some _, none, h, _ => h.elim
    | some _, some _, h, h' => congrArg some (LexLe.antisymm h h')

end TextLe

/-! ## Groups -/

variable [DecidableEq κ] (r : κ → κ → Prop) [DecidableRel r]

/-- `SELECT key, aggregate GROUP BY key ORDER BY key`. -/
def groups (key : α → κ) (aggregate : List α → β) (rows : List α) : List (κ × β) :=
  ((rows.map key).dedup.insertionSort r).map fun k =>
    (k, aggregate (rows.filter fun row => key row = k))

/-- **The order of the rows does not matter** to an aggregate for which it does not matter. -/
lemma groups_perm [Std.Total r] [IsTrans κ r] [Std.Antisymm r] {key : α → κ}
    {aggregate : List α → β} (haggregate : ∀ xs ys, xs.Perm ys → aggregate xs = aggregate ys)
    {rows rows' : List α} (h : rows.Perm rows') :
    groups r key aggregate rows = groups r key aggregate rows' := by
  have hkeys : (rows.map key).dedup.insertionSort r = (rows'.map key).dedup.insertionSort r := by
    apply List.Perm.eq_of_pairwise' (List.pairwise_insertionSort r _)
      (List.pairwise_insertionSort r _)
    calc List.Perm ((rows.map key).dedup.insertionSort r) (rows.map key).dedup :=
          List.perm_insertionSort r _
      List.Perm _ (rows'.map key).dedup := (h.map key).dedup
      List.Perm _ ((rows'.map key).dedup.insertionSort r) := (List.perm_insertionSort r _).symm
  unfold groups
  rw [hkeys]
  apply List.map_congr_left
  intro k _
  rw [haggregate _ _ (h.filter _)]

/-- **Rows with the same keys and the same aggregates** make the same groups. -/
lemma groups_congr {R : α → γ → Prop} {key : α → κ} {key' : γ → κ} {aggregate : List α → β}
    {aggregate' : List γ → β} (hkey : ∀ x y, R x y → key x = key' y)
    (haggregate : ∀ xs ys, List.Forall₂ R xs ys → aggregate xs = aggregate' ys)
    {rows : List α} {rows' : List γ} (h : List.Forall₂ R rows rows') :
    groups r key aggregate rows = groups r key' aggregate' rows' := by
  have hkeys : rows.map key = rows'.map key' := by
    induction h with
    | nil => rfl
    | cons hxy _ ih => rw [List.map_cons, List.map_cons, hkey _ _ hxy, ih]
  unfold groups
  rw [hkeys]
  apply List.map_congr_left
  intro k _
  have hfilter : List.Forall₂ R (rows.filter fun x => key x = k)
      (rows'.filter fun y => key' y = k) := by
    refine List.rel_filter ?_ h
    intro x y hxy
    dsimp only
    rw [hkey x y hxy]
  rw [haggregate _ _ hfilter]

end Nullable
