import Mathlib.Tactic.Common
import Mathlib.Data.List.Nodup

set_option relaxedAutoImplicit false
set_option autoImplicit false

/-!
# Insertion-ordered dictionaries

Association lists with the operations of Python's `dict` and `OrderedDict`: an assignment to a
present key keeps its place, an assignment to a new key appends it, `moveToEnd` makes a key the
youngest. A lookup finds the first entry of a key.

## Main definitions

* `OrderedDict` — insertion-ordered association lists.
* `OrderedDict.get?`, `insert`, `erase`, `moveToEnd` — the dictionary operations.

## Main results

* `OrderedDict.get?_insert`, `get?_erase`, `get?_moveToEnd` — what a lookup sees after each
  operation.
* `OrderedDict.mem_of_get?`, `mem_keys_iff` — lookups and membership.
-/

/-- A dictionary that remembers the order in which its keys were added. -/
abbrev OrderedDict (κ ν : Type) := List (κ × ν)

namespace OrderedDict

variable {κ ν : Type} [DecidableEq κ]

/-- `d.get(k)`. -/
def get? : OrderedDict κ ν → κ → Option ν
  | [], _ => none
  | (k', v) :: d, k => if k' = k then some v else get? d k

/-- `d.get(k, default)`. -/
def getD (d : OrderedDict κ ν) (k : κ) (default : ν) : ν := (get? d k).getD default

/-- `k in d`. -/
def has (d : OrderedDict κ ν) (k : κ) : Bool := (get? d k).isSome

/-- The keys, oldest first. -/
def keys (d : OrderedDict κ ν) : List κ := d.map Prod.fst

/-- `d[k] = v`: in place if `k` is present, at the end otherwise. -/
def insert : OrderedDict κ ν → κ → ν → OrderedDict κ ν
  | [], k, v => [(k, v)]
  | (k', v') :: d, k, v => if k' = k then (k, v) :: d else (k', v') :: insert d k v

/-- `d.pop(k, None)`. -/
def erase (d : OrderedDict κ ν) (k : κ) : OrderedDict κ ν := d.filter (·.1 ≠ k)

/-- `d.move_to_end(k)`. -/
def moveToEnd (d : OrderedDict κ ν) (k : κ) : OrderedDict κ ν :=
  match get? d k with
  | none => d
  | some v => erase d k ++ [(k, v)]

@[simp] lemma get?_nil (k : κ) : get? ([] : OrderedDict κ ν) k = none := rfl

@[simp] lemma get?_cons (k' k : κ) (v : ν) (d : OrderedDict κ ν) :
    get? ((k', v) :: d) k = if k' = k then some v else get? d k := rfl

/-- A lookup after an assignment. -/
@[simp] lemma get?_insert (d : OrderedDict κ ν) (k k' : κ) (v : ν) :
    get? (insert d k v) k' = if k = k' then some v else get? d k' := by
  induction d with
  | nil => simp [insert]
  | cons p d ih =>
    obtain ⟨k₀, v₀⟩ := p
    by_cases h₀ : k₀ = k
    · subst h₀
      by_cases h : k₀ = k' <;> simp [insert, h]
    · by_cases h : k = k'
      · subst h
        simp [insert, h₀, ih]
      · simp [insert, h₀, ih, h]

/-- Assigning the value that is there changes nothing. -/
lemma insert_eq_self {d : OrderedDict κ ν} {k : κ} {v : ν} (h : get? d k = some v) :
    insert d k v = d := by
  induction d with
  | nil => cases h
  | cons p d ih =>
    obtain ⟨k₀, v₀⟩ := p
    rw [get?_cons] at h
    rw [insert]
    by_cases hk : k₀ = k
    · rw [if_pos hk] at h ⊢
      rw [hk, Option.some.inj h]
    · rw [if_neg hk] at h ⊢
      rw [ih h]

/-- A lookup after a removal. -/
@[simp] lemma get?_erase (d : OrderedDict κ ν) (k k' : κ) :
    get? (erase d k) k' = if k = k' then none else get? d k' := by
  induction d with
  | nil => simp [erase]
  | cons p d ih =>
    obtain ⟨k₀, v₀⟩ := p
    have hcons : erase ((k₀, v₀) :: d) k = if k₀ = k then erase d k else (k₀, v₀) :: erase d k := by
      by_cases h₀ : k₀ = k <;> simp [erase, h₀]
    rw [hcons]
    by_cases h₀ : k₀ = k
    · subst h₀
      rw [if_pos rfl, ih]
      by_cases h : k₀ = k' <;> simp [h]
    · rw [if_neg h₀]
      by_cases h : k = k'
      · subst h
        simp [h₀, ih]
      · simp [ih, h]

/-- A lookup in two dictionaries put one after the other. -/
lemma get?_append (d e : OrderedDict κ ν) (k : κ) :
    get? (d ++ e) k = (get? d k).or (get? e k) := by
  induction d with
  | nil => simp
  | cons p d ih =>
    obtain ⟨k₀, v₀⟩ := p
    by_cases h : k₀ = k <;> simp [h, ih]

/-- Moving a key to the end changes no lookup. -/
@[simp] lemma get?_moveToEnd (d : OrderedDict κ ν) (k k' : κ) :
    get? (moveToEnd d k) k' = get? d k' := by
  unfold moveToEnd
  cases hk : get? d k with
  | none => rfl
  | some v =>
    rw [get?_append, get?_erase]
    by_cases h : k = k'
    · subst h
      simp [hk]
    · simp [h]

/-- What a lookup finds is an entry of the dictionary. -/
lemma mem_of_get? {d : OrderedDict κ ν} {k : κ} {v : ν} (h : get? d k = some v) : (k, v) ∈ d := by
  induction d with
  | nil => cases h
  | cons p d ih =>
    obtain ⟨k₀, v₀⟩ := p
    rw [get?_cons] at h
    split at h
    · next hk =>
      obtain rfl := Option.some.inj h
      exact hk ▸ List.mem_cons_self
    · exact List.mem_cons_of_mem _ (ih h)

/-- Lookups in dictionaries that agree entry by entry on the keys, and in a relation on the
values. -/
lemma rel_get? {μ : Type} {R : ν → μ → Prop} {d : OrderedDict κ ν} {e : OrderedDict κ μ}
    (h : List.Forall₂ (fun p q => q.1 = p.1 ∧ R p.2 q.2) d e) (k : κ) :
    Option.Rel R (get? d k) (get? e k) := by
  induction h with
  | nil => exact .none
  | cons hpq _ ih =>
    obtain ⟨hkey, hR⟩ := hpq
    rw [get?_cons, get?_cons, hkey]
    split
    · exact .some hR
    · exact ih

/-- The keys of a dictionary are the keys a lookup finds. -/
lemma mem_keys_iff (d : OrderedDict κ ν) (k : κ) : k ∈ keys d ↔ (get? d k).isSome := by
  induction d with
  | nil => simp [keys]
  | cons p d ih =>
    obtain ⟨k₀, v₀⟩ := p
    by_cases h : k₀ = k
    · simp [keys, h]
    · have hne : k ≠ k₀ := fun he => h he.symm
      simpa [keys, h, hne] using ih

/-- The entries after an assignment: the new one, and old ones. -/
lemma mem_of_mem_insert {d : OrderedDict κ ν} {k : κ} {v : ν} {p : κ × ν} (h : p ∈ insert d k v) :
    p = (k, v) ∨ p ∈ d := by
  induction d with
  | nil => exact .inl (List.mem_singleton.mp h)
  | cons q d ih =>
    obtain ⟨k₀, v₀⟩ := q
    rw [insert] at h
    split at h
    · rcases List.mem_cons.mp h with h | h
      · exact .inl h
      · exact .inr (List.mem_cons_of_mem _ h)
    · rcases List.mem_cons.mp h with h | h
      · exact .inr (h ▸ List.mem_cons_self)
      · exact (ih h).imp id (List.mem_cons_of_mem _)

/-- A removal adds no entries. -/
lemma mem_of_mem_erase {d : OrderedDict κ ν} {k : κ} {p : κ × ν} (h : p ∈ erase d k) : p ∈ d :=
  List.mem_of_mem_filter h

/-- Moving a key to the end adds no entries. -/
lemma mem_of_mem_moveToEnd {d : OrderedDict κ ν} {k : κ} {p : κ × ν} (h : p ∈ moveToEnd d k) :
    p ∈ d := by
  unfold moveToEnd at h
  split at h
  · exact h
  · next v hv =>
    rcases List.mem_append.mp h with h | h
    · exact mem_of_mem_erase h
    · rw [List.mem_singleton.mp h]
      exact mem_of_get? hv

/-- A lookup in a dictionary whose values were all changed alike. -/
lemma get?_mapValues {μ : Type} (f : ν → μ) (d : OrderedDict κ ν) (k : κ) :
    get? (d.map fun p => (p.1, f p.2)) k = (get? d k).map f := by
  induction d with
  | nil => rfl
  | cons p d ih =>
    obtain ⟨k₀, v₀⟩ := p
    rw [List.map_cons, get?_cons, get?_cons]
    split
    · rfl
    · exact ih

/-- An assignment adds a key that is not there. -/
lemma keys_insert (d : OrderedDict κ ν) (k : κ) (v : ν) :
    keys (insert d k v) = if k ∈ keys d then keys d else keys d ++ [k] := by
  induction d with
  | nil => simp [keys, insert]
  | cons p d ih =>
    obtain ⟨k₀, v₀⟩ := p
    unfold keys at ih ⊢
    by_cases h : k₀ = k
    · subst h
      simp [insert]
    · have hne : k ≠ k₀ := fun he => h he.symm
      simp only [insert, h, if_false, List.map_cons, ih, List.mem_cons, hne, false_or]
      split <;> simp

/-- An assignment keeps the keys distinct. -/
lemma nodup_keys_insert {d : OrderedDict κ ν} (h : (keys d).Nodup) (k : κ) (v : ν) :
    (keys (insert d k v)).Nodup := by
  rw [keys_insert]
  split
  · exact h
  · next hk =>
    refine List.Nodup.append h (List.nodup_singleton k) ?_
    simpa using hk

/-- Where the keys are distinct, a lookup finds every entry. -/
lemma get?_of_mem {d : OrderedDict κ ν} (h : (keys d).Nodup) {k : κ} {v : ν} (hm : (k, v) ∈ d) :
    get? d k = some v := by
  induction d with
  | nil => cases hm
  | cons p d ih =>
    obtain ⟨k₀, v₀⟩ := p
    obtain ⟨hk₀, hd⟩ := List.nodup_cons.mp h
    rw [get?_cons]
    rcases List.mem_cons.mp hm with he | hm
    · cases he
      exact if_pos rfl
    · have hne : k₀ ≠ k := by
        rintro rfl
        exact hk₀ (List.mem_map.mpr ⟨_, hm, rfl⟩)
      rw [if_neg hne]
      exact ih hd hm

/-- The keys after a removal. -/
lemma keys_erase (d : OrderedDict κ ν) (k : κ) : keys (erase d k) = (keys d).filter (· ≠ k) := by
  rw [keys, erase, keys, List.filter_map]
  rfl

/-- A key that is moved to the end comes after the others. -/
lemma keys_moveToEnd (d : OrderedDict κ ν) (k : κ) : keys (moveToEnd d k) =
    if k ∈ keys d then (keys d).filter (· ≠ k) ++ [k] else keys d := by
  have hmem := mem_keys_iff d k
  unfold moveToEnd
  cases hk : get? d k with
  | none => simp [hmem, hk]
  | some v =>
    rw [if_pos (hmem.mpr (by rw [hk]; rfl)), ← keys_erase]
    exact List.map_append

/-- A key that is assigned and moved to the end comes after the others. -/
lemma keys_moveToEnd_insert (d : OrderedDict κ ν) (k : κ) (v : ν) :
    keys (moveToEnd (insert d k v) k) = (keys d).filter (· ≠ k) ++ [k] := by
  rw [keys_moveToEnd, keys_insert]
  by_cases hk : k ∈ keys d
  · simp [hk]
  · simp [hk]

/-- A removal takes one entry at least, if its key is there. -/
lemma length_erase_lt {d : OrderedDict κ ν} {k : κ} (h : k ∈ keys d) :
    (erase d k).length < d.length := by
  obtain ⟨p, hp, rfl⟩ := List.mem_map.mp h
  exact List.length_filter_lt_length_iff_exists.mpr ⟨p, hp, by simp⟩

/-- Moving a key to the end adds no entries. -/
lemma length_moveToEnd_le (d : OrderedDict κ ν) (k : κ) : (moveToEnd d k).length ≤ d.length := by
  have hmem := mem_keys_iff d k
  unfold moveToEnd
  cases hk : get? d k with
  | none => exact Nat.le_refl _
  | some v =>
    have hlt : (erase d k).length < d.length := length_erase_lt (hmem.mpr (by rw [hk]; rfl))
    rw [List.length_append, List.length_singleton]
    omega

end OrderedDict
