import AgentCtl.Library.History
import AgentCtl.Library.OrderedDict
import Mathlib.Data.Finset.Card

set_option relaxedAutoImplicit false
set_option autoImplicit false

/-!
# Dictionaries in the order of use

A dictionary that moves every key it uses to its end, and drops the oldest entries when it grows
too large, keeps the entries of the keys used last. How many other keys have been used since a key
was used last says whether the key is still there.

## Main definitions

* `OrderedDict.trim` — drop the oldest entries of a dictionary.
* `OrderedDict.Recent` — a dictionary in the order in which its keys were used last.

## Main results

* `OrderedDict.Recent.use` — using a key keeps the order.
* `OrderedDict.Recent.get?_trim` — a key survives while few others are used.
-/

namespace OrderedDict

variable {κ ν : Type}

/-- `while len(d) > m: d.popitem(last=False)` -/
def trim (m : ℕ) : OrderedDict κ ν → OrderedDict κ ν
  | [] => []
  | p :: d => if m < (p :: d).length then trim m d else p :: d

/-- The entries that are left are the youngest. -/
lemma trim_suffix (m : ℕ) (d : OrderedDict κ ν) : trim m d <:+ d := by
  induction d with
  | nil => exact List.suffix_rfl
  | cons p d ih =>
    rw [trim]
    split
    · exact ih.trans (List.suffix_cons p d)
    · exact List.suffix_rfl

/-- At most `m` entries are left. -/
lemma length_trim (m : ℕ) (d : OrderedDict κ ν) : (trim m d).length ≤ m := by
  induction d with
  | nil => exact Nat.zero_le m
  | cons p d ih =>
    rw [trim]
    split
    · exact ih
    · next h => exact not_lt.mp h

/-- An entry is left if fewer than `m` are younger. -/
lemma trim_append {m : ℕ} (a : OrderedDict κ ν) (p : κ × ν) {b : OrderedDict κ ν}
    (h : b.length < m) : ∃ a', trim m (a ++ p :: b) = a' ++ p :: b := by
  induction a with
  | nil =>
    refine ⟨[], ?_⟩
    have hfits : ¬ m < (p :: b).length := by
      rw [List.length_cons]
      omega
    exact if_neg hfits
  | cons q a ih =>
    rw [List.cons_append, trim]
    split
    · exact ih
    · exact ⟨q :: a, rfl⟩

variable [DecidableEq κ]

/-- The dictionary is in the order in which its keys were used last: of two keys the younger one
has been used since the last use of the older one. -/
structure Recent (d : OrderedDict κ ν) (uses : List κ) : Prop where
  nodup : (keys d).Nodup
  used : ∀ k ∈ keys d, k ∈ uses
  order : (keys d).Pairwise fun k x => x ∈ uses.since (· = k)

/-- The number of keys used since the last use of a key. -/
def usedSince (uses : List κ) (k : κ) : ℕ := (uses.since (· = k)).toFinset.card

/-- Nothing is used after the last use of the key that is used last. -/
@[simp] lemma usedSince_concat_self (uses : List κ) (k : κ) : usedSince (uses ++ [k]) k = 0 := by
  simp [usedSince, List.since_concat]

/-- A use adds to the keys used since. -/
lemma usedSince_le_concat {uses : List κ} {k x : κ} (h : x ≠ k) :
    usedSince uses k ≤ usedSince (uses ++ [x]) k := by
  unfold usedSince
  refine Finset.card_le_card fun y hy => ?_
  rw [List.mem_toFinset] at hy ⊢
  rw [List.since_concat]
  simp [h, hy]

namespace Recent

variable {d d' : OrderedDict κ ν} {uses : List κ}

/-- An empty dictionary. -/
lemma nil (uses : List κ) : Recent ([] : OrderedDict κ ν) uses :=
  ⟨List.nodup_nil, by simp [keys], List.Pairwise.nil⟩

/-- A dictionary with fewer entries. -/
lemma of_sublist (h : Recent d uses) (hd : (keys d').Sublist (keys d)) : Recent d' uses :=
  ⟨h.nodup.sublist hd, fun k hk => h.used k (hd.subset hk), h.order.sublist hd⟩

/-- The dictionary without a key. -/
lemma erase (h : Recent d uses) (k : κ) : Recent (erase d k) uses :=
  h.of_sublist (by rw [keys_erase]; exact List.filter_sublist)

/-- The dictionary without its oldest entries. -/
lemma trim (h : Recent d uses) (m : ℕ) : Recent (trim m d) uses :=
  h.of_sublist ((trim_suffix m d).sublist.map _)

/-- Using a key makes it the youngest. -/
lemma of_keys (h : Recent d uses) (k : κ) (hd : keys d' = (keys d).filter (· ≠ k) ++ [k]) :
    Recent d' (uses ++ [k]) where
  nodup := by
    rw [hd]
    refine (h.nodup.filter _).append (List.nodup_singleton k) ?_
    simp
  used x hx := by
    rw [hd] at hx
    rcases List.mem_append.mp hx with hx | hx
    · exact List.mem_append_left _ (h.used x (List.mem_filter.mp hx).1)
    · exact List.mem_append_right _ hx
  order := by
    have hsince : ∀ x, x ≠ k → (uses ++ [k]).since (· = x) = uses.since (· = x) ++ [k] := by
      intro x hx
      rw [List.since_concat, if_neg (by simpa using hx.symm)]
    rw [hd, List.pairwise_append]
    refine ⟨(h.order.sublist List.filter_sublist).imp_of_mem ?_, List.pairwise_singleton _ _, ?_⟩
    · intro x y hx _ hy
      rw [hsince x (by simpa using (List.mem_filter.mp hx).2)]
      exact List.mem_append_left _ hy
    · intro x hx y hy
      rw [hsince x (by simpa using (List.mem_filter.mp hx).2)]
      exact List.mem_append_right _ hy

/-- An assignment uses its key. -/
lemma use (h : Recent d uses) (k : κ) (v : ν) :
    Recent (moveToEnd (insert d k v) k) (uses ++ [k]) :=
  h.of_keys k (keys_moveToEnd_insert d k v)

/-- A lookup that finds its key uses it. -/
lemma moveToEnd (h : Recent d uses) {k : κ} (hk : k ∈ keys d) :
    Recent (moveToEnd d k) (uses ++ [k]) :=
  h.of_keys k (by rw [keys_moveToEnd, if_pos hk])

/-- **Retention.** The oldest entries go, and a key stays while fewer than `m` others have been used
since it was used last. -/
lemma get?_trim (h : Recent d uses) {m : ℕ} {k : κ} (hm : usedSince uses k < m) :
    get? (OrderedDict.trim m d) k = get? d k := by
  by_cases hk : k ∈ keys d
  · obtain ⟨⟨k', v⟩, hp, hkey⟩ := List.mem_map.mp hk
    obtain rfl : k' = k := hkey
    obtain ⟨a, b, rfl⟩ := List.append_of_mem hp
    have hsplit : keys (a ++ (k', v) :: b) = keys a ++ k' :: keys b := List.map_append
    have horder := h.order
    have hnodup := h.nodup
    rw [hsplit] at horder hnodup
    have hafter := (List.pairwise_cons.mp (List.pairwise_append.mp horder).2.1).1
    have hlength : b.length < m := by
      have hb : (keys b).Nodup := (List.nodup_cons.mp (List.nodup_append.mp hnodup).2.1).2
      have hcard : (keys b).toFinset.card ≤ usedSince uses k' :=
        Finset.card_le_card fun x hx => by
          rw [List.mem_toFinset] at hx ⊢
          exact hafter x hx
      rw [List.toFinset_card_of_nodup hb, keys, List.length_map] at hcard
      exact lt_of_le_of_lt hcard hm
    obtain ⟨a', ha'⟩ := trim_append a (k', v) hlength
    have htrim := h.trim m
    have hleft : (k', v) ∈ OrderedDict.trim m (a ++ (k', v) :: b) := by
      rw [ha']
      exact List.mem_append_right _ List.mem_cons_self
    rw [get?_of_mem h.nodup hp, get?_of_mem htrim.nodup hleft]
  · have hnone : ∀ {e : OrderedDict κ ν}, k ∉ keys e → get? e k = none := by
      intro e he
      rw [mem_keys_iff] at he
      exact Option.not_isSome_iff_eq_none.mp he
    rw [hnone hk, hnone fun hmem => hk ?_]
    exact ((trim_suffix m d).sublist.map _).subset hmem

end Recent

end OrderedDict
