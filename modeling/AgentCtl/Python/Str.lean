import Mathlib.Tactic.Common
import Mathlib.Data.List.Basic
import Mathlib.Data.List.Infix
import Mathlib.Data.Fin.Basic
import Mathlib.Algebra.GroupWithZero.Nat

set_option relaxedAutoImplicit false
set_option autoImplicit false

/-!
# Python strings

A Python `str` is a sequence of code points. Lone surrogates are code points too: `json.loads`
yields them from `\udXXX` escapes, so a string need not be encodable in UTF-8. This is why the
strings of the model are lists of code points and not Lean's `String`.

## Main definitions

* `CodePoint`, `Str` — code points and strings; Lean string literals coerce to `Str`.
* `Str.startsWith`, `Str.contains`, `Str.partition`, `Str.splitHead` — the string methods the
  source uses.

## Main results

* `Str.ofString_inj` — different literals are different strings.
* `Str.partition_append` — `str.partition` on a string whose head has no separator.
* `Str.partition_join` — the parts make up the string.
-/

/-- A Unicode code point, surrogates included. -/
abbrev CodePoint := Fin 0x110000

/-- There are code points; numerals denote them. -/
instance CodePoint.neZero : NeZero 0x110000 := ⟨by decide⟩

/-- A Python string. -/
abbrev Str := List CodePoint

/-- The code point of a character. -/
def CodePoint.ofChar (c : Char) : CodePoint :=
  ⟨c.toNat, by rcases c.valid with h | ⟨-, h⟩ <;> simp only [Char.toNat] <;> omega⟩

/-- Is the code point a surrogate? UTF-8 encodes every other code point. -/
def CodePoint.isSurrogate (c : CodePoint) : Bool := 0xD800 ≤ c.val && c.val ≤ 0xDFFF

namespace Str

/-- A string literal of the source. -/
def ofString (s : String) : Str := s.toList.map CodePoint.ofChar

instance : Coe String Str := ⟨ofString⟩

/-- Characters are determined by their code points. -/
lemma ofChar_injective : Function.Injective CodePoint.ofChar := by
  intro c d h
  have hv : c.toNat = d.toNat := congrArg (fun x : CodePoint => x.val) h
  exact Char.ext (UInt32.toNat_inj.mp hv)

/-- Two literals are the same string only if they are written the same. -/
@[simp] lemma ofString_inj {s t : String} : ofString s = ofString t ↔ s = t := by
  refine ⟨fun h => ?_, fun h => by rw [h]⟩
  exact String.toList_inj.mp (List.map_injective_iff.mpr ofChar_injective h)

@[simp] lemma ofString_eq_nil {s : String} : ofString s = [] ↔ s = "" := by
  rw [← ofString_inj (s := s) (t := "")]
  rfl

/-- `s.startswith(p)`. -/
def startsWith (s p : Str) : Bool := p.isPrefixOf s

/-- `p in s`. -/
def contains (s p : Str) : Bool := s.tails.any fun t => p.isPrefixOf t

/-- `s.partition(c)` for a one-character separator: the part before the first `c`, whether `c`
occurs, and the part after it. -/
def partition (c : CodePoint) : Str → Str × Bool × Str
  | [] => ([], false, [])
  | x :: xs =>
    if x = c then ([], true, xs)
    else
      let r := partition c xs
      (x :: r.1, r.2.1, r.2.2)

/-- `s.split(c)[0]` for a one-character separator. -/
def splitHead (c : CodePoint) (s : Str) : Str := s.takeWhile (· ≠ c)

/-- A prefix, and what follows it. -/
lemma startsWith_iff {s p : Str} : startsWith s p = true ↔ ∃ t, s = p ++ t := by
  unfold startsWith
  rw [List.isPrefixOf_iff_prefix]
  exact ⟨fun ⟨t, ht⟩ => ⟨t, ht.symm⟩, fun ⟨t, ht⟩ => ⟨t, ht.symm⟩⟩

/-- A string contains every string that occurs in it. -/
lemma contains_of_append (a p b : Str) : contains (a ++ p ++ b) p = true := by
  unfold contains
  rw [List.any_eq_true]
  refine ⟨p ++ b, ?_, List.isPrefixOf_iff_prefix.mpr ⟨b, rfl⟩⟩
  rw [List.mem_tails, List.append_assoc]
  exact List.suffix_append _ _

/-- Partitioning at a separator that the head does not contain. -/
lemma partition_append {c : CodePoint} {a : Str} (b : Str) (h : c ∉ a) :
    partition c (a ++ c :: b) = (a, true, b) := by
  induction a with
  | nil => simp [partition]
  | cons x xs ih =>
    have hx : x ≠ c := fun he => h (by simp [he])
    simp [partition, hx, ih fun hm => h (List.mem_cons_of_mem _ hm)]

/-- The parts of a string and the separator between them make up the string. -/
lemma partition_join (c : CodePoint) (s : Str) :
    s = (partition c s).1 ++ if (partition c s).2.1 then c :: (partition c s).2.2 else [] := by
  induction s with
  | nil => rfl
  | cons x xs ih =>
    by_cases hx : x = c
    · simp [partition, hx]
    · have hcons : partition c (x :: xs) =
          (x :: (partition c xs).1, (partition c xs).2.1, (partition c xs).2.2) := by
        rw [partition, if_neg hx]
      rw [hcons]
      exact congrArg (x :: ·) ih

/-- There is no separator before the first one. -/
lemma not_mem_partition (c : CodePoint) (s : Str) : c ∉ (partition c s).1 := by
  induction s with
  | nil => simp [partition]
  | cons x xs ih =>
    by_cases hx : x = c
    · simp [partition, hx]
    · simp [partition, hx, ih, Ne.symm hx]

/-- Without a separator there is nothing after it. -/
lemma partition_of_not_mem {c : CodePoint} {s : Str} (h : c ∉ s) : (partition c s).2.2 = [] := by
  induction s with
  | nil => rfl
  | cons x xs ih =>
    rw [List.mem_cons, not_or] at h
    simp [partition, Ne.symm h.1, ih h.2]

/-- The first field of a string is what precedes its first separator. -/
lemma splitHead_append {c : CodePoint} {a : Str} (b : Str) (h : c ∉ a) :
    splitHead c (a ++ c :: b) = a := by
  unfold splitHead
  rw [List.takeWhile_append_of_pos]
  · simp
  · intro x hx
    have : x ≠ c := fun he => h (he ▸ hx)
    simpa using this

end Str
