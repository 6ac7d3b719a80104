import AgentCtl.Library.SelfDelimiting
import AgentCtl.Python.JsonText
import Mathlib.Data.Nat.Digits.Lemmas

set_option relaxedAutoImplicit false
set_option autoImplicit false

/-!
# JSON text determines the value

Two values with the same `json.dumps(v, ensure_ascii=False)` are the same value, and two values with
the same `json.dumps(v, sort_keys=True, ensure_ascii=False)` are equal up to the order of object
keys. The text of a value is read off the front of a longer text: strings and containers end by
themselves, and after a number or a word there is a comma, a closing bracket or nothing.

## Main definitions

* `Json.unescapeChar` — the character that a text inside a string literal begins with.
* `Json.isPlain` — characters of numbers and of `null`, `true` and `false`.

## Main results

* `Json.dumps_injective` — the text determines the value.
* `Json.same_of_dumps_sortKeys` — the text with sorted keys determines it up to the order of keys.
-/

open AgentCtl

/-! ## Numbers -/

namespace Str

/-- A decimal digit. -/
def isDecimal (c : CodePoint) : Bool := 48 ≤ c.val && c.val ≤ 57

/-- The number that decimal digits stand for. -/
def natValue (s : Str) : ℕ := Nat.ofDigits 10 (s.reverse.map fun c => c.val - 48)

/-- The digits of a natural number. -/
lemma isDecimal_ofNat (n : ℕ) : ∀ c ∈ ofNat n, isDecimal c = true := by
  unfold ofNat
  split
  · intro c hc
    rw [List.mem_singleton.mp hc]
    decide
  · intro c hc
    obtain ⟨d, hd, rfl⟩ := List.mem_map.mp (List.mem_reverse.mp hc)
    have hlt : d < 10 := Nat.digits_lt_base (by omega) hd
    have hval : (Fin.ofNat 0x110000 (48 + d)).val = 48 + d := Nat.mod_eq_of_lt (by omega)
    simp only [isDecimal, hval, Bool.and_eq_true, decide_eq_true_eq]
    omega

/-- A natural number has digits. -/
lemma ofNat_ne_nil (n : ℕ) : ofNat n ≠ [] := by
  unfold ofNat
  split
  · simp
  · next h =>
    simp only [ne_eq, List.reverse_eq_nil_iff, List.map_eq_nil_iff]
    exact Nat.digits_ne_nil_iff_ne_zero.mpr h

/-- The digits of a natural number stand for it. -/
lemma natValue_ofNat (n : ℕ) : natValue (ofNat n) = n := by
  unfold ofNat natValue
  split
  · next h => rw [h]; rfl
  · rw [List.reverse_reverse, List.map_map]
    have hdigits : (Nat.digits 10 n).map
        ((fun c : CodePoint => c.val - 48) ∘ fun d => Fin.ofNat 0x110000 (48 + d)) =
        Nat.digits 10 n := by
      conv_rhs => rw [← List.map_id (Nat.digits 10 n)]
      refine List.map_congr_left fun d hd => ?_
      have hlt : d < 10 := Nat.digits_lt_base (by omega) hd
      have hval : (Fin.ofNat 0x110000 (48 + d)).val = 48 + d := Nat.mod_eq_of_lt (by omega)
      show (Fin.ofNat 0x110000 (48 + d)).val - 48 = d
      omega
    rw [hdigits, Nat.ofDigits_digits]

/-- Different natural numbers have different digits. -/
lemma ofNat_injective : Function.Injective ofNat :=
  Function.LeftInverse.injective natValue_ofNat

/-- The characters of an integer. -/
lemma mem_ofInt {n : ℤ} {c : CodePoint} (hc : c ∈ ofInt n) : c = 45 ∨ isDecimal c = true := by
  unfold ofInt at hc
  split at hc
  · rcases List.mem_cons.mp hc with hc | hc
    · exact .inl hc
    · exact .inr (isDecimal_ofNat _ c hc)
  · exact .inr (isDecimal_ofNat _ c hc)

/-- An integer has digits. -/
lemma ofInt_ne_nil (n : ℤ) : ofInt n ≠ [] := by
  unfold ofInt
  split
  · exact List.cons_ne_nil _ _
  · exact ofNat_ne_nil _

/-- The text of a natural number does not begin with a sign. -/
lemma ofNat_ne_neg (n : ℕ) (s : Str) : ofNat n ≠ 45 :: s := by
  intro h
  have hdecimal : isDecimal 45 = true := isDecimal_ofNat n 45 (by rw [h]; exact List.mem_cons_self)
  exact absurd hdecimal (by decide)

/-- Different integers have different texts. -/
lemma ofInt_injective : Function.Injective ofInt := by
  intro a b h
  unfold ofInt at h
  split at h <;> split at h
  · have habs : a.natAbs = b.natAbs := ofNat_injective (List.cons.inj h).2
    omega
  · exact absurd h.symm (ofNat_ne_neg _ _)
  · exact absurd h (ofNat_ne_neg _ _)
  · have habs : a.natAbs = b.natAbs := ofNat_injective h
    omega

end Str

namespace PyFloat

/-- The characters of floats. -/
def isNumeral (c : CodePoint) : Bool :=
  Str.isDecimal c || c ∈ ("+-.eNaInfity" : Str)

/-- Digits are digits. -/
lemma isNumeral_of_isDigits {s : Str} (h : isDigits s = true) : ∀ c ∈ s, isNumeral c = true := by
  intro c hc
  unfold isDigits at h
  have hall := List.all_eq_true.mp (Bool.and_eq_true_iff.mp h).2 c hc
  unfold isNumeral Str.isDecimal
  rw [hall, Bool.true_or]

/-- An exponent is made of a sign and digits. -/
lemma isNumeral_of_isExponent {s : Str} (h : isExponent s = true) :
    ∀ c ∈ s, isNumeral c = true := by
  cases s with
  | nil => intro c hc; cases hc
  | cons c ds =>
    obtain ⟨hc, hds⟩ := Bool.and_eq_true_iff.mp h
    intro c' hc'
    rcases List.mem_cons.mp hc' with rfl | hc'
    · rcases Bool.or_eq_true_iff.mp hc with hc | hc
      · rw [of_decide_eq_true hc]; decide
      · rw [of_decide_eq_true hc]; decide
    · exact isNumeral_of_isDigits hds c' hc'

/-- A text with its sign is the sign and the text without it. -/
lemma mem_body {s : Str} {c : CodePoint} (hc : c ∈ s) :
    c = 45 ∨ c ∈ if s.head? = some 45 then s.tail else s := by
  split
  · next h =>
    obtain ⟨t, rfl⟩ := List.head?_eq_some_iff.mp h
    exact List.mem_cons.mp hc
  · exact .inr hc

/-- What stands in a part of a text stands in the text. -/
lemma mem_of_mem_body {s : Str} {c : CodePoint}
    (hc : c ∈ if s.head? = some 45 then s.tail else s) : c ∈ s := by
  split at hc
  · exact List.mem_of_mem_tail hc
  · exact hc

/-- A character of a text stands before the separator, is the separator, or stands behind it. -/
lemma mem_partition {c x : CodePoint} {s : Str} (hx : x ∈ s) :
    x ∈ (Str.partition c s).1 ∨
      (Str.partition c s).2.1 = true ∧ (x = c ∨ x ∈ (Str.partition c s).2.2) := by
  rw [Str.partition_join c s] at hx
  rcases List.mem_append.mp hx with hx | hx
  · exact .inl hx
  · split at hx
    · next h => exact .inr ⟨h, List.mem_cons.mp hx⟩
    · cases hx

/-- A separator that is found stands in the text. -/
lemma mem_of_partition {c : CodePoint} {s : Str} (h : (Str.partition c s).2.1 = true) : c ∈ s := by
  rw [Str.partition_join c s, if_pos h]
  exact List.mem_append_right _ List.mem_cons_self

/-- The part before the separator is part of the text. -/
lemma mem_of_mem_partition {c x : CodePoint} {s : Str} (h : x ∈ (Str.partition c s).1) : x ∈ s := by
  rw [Str.partition_join c s]
  exact List.mem_append_left _ h

/-- A float has the characters of floats only, and one that no integer has. -/
lemma repr_chars (x : PyFloat) :
    (∀ c ∈ x.repr, isNumeral c = true) ∧
      ∃ c ∈ x.repr, c ≠ 45 ∧ Str.isDecimal c = false := by
  obtain ⟨s, hwf⟩ := x
  show (∀ c ∈ s, isNumeral c = true) ∧ ∃ c ∈ s, c ≠ 45 ∧ Str.isDecimal c = false
  unfold isRepr at hwf
  dsimp only at hwf
  simp only [Bool.or_eq_true, decide_eq_true_eq] at hwf
  rcases hwf with ((rfl | rfl) | rfl) | hwf
  · exact ⟨List.all_eq_true.mp (by decide), 78, by decide, by decide, by decide⟩
  · exact ⟨List.all_eq_true.mp (by decide), 73, by decide, by decide, by decide⟩
  · exact ⟨List.all_eq_true.mp (by decide), 73, by decide, by decide, by decide⟩
  simp only [Bool.and_eq_true, Bool.or_eq_true, Bool.not_eq_true'] at hwf
  obtain ⟨⟨⟨hhead, hfraction⟩, hexponent⟩, hmark⟩ := hwf
  constructor
  · intro c hc
    rcases mem_body hc with rfl | hc
    · decide
    rcases mem_partition (c := 101) hc with hc | ⟨he, rfl | hc⟩
    · rcases mem_partition (c := 46) hc with hc | ⟨hf, rfl | hc⟩
      · exact isNumeral_of_isDigits hhead c hc
      · decide
      · refine isNumeral_of_isDigits (hfraction.resolve_left ?_) c hc
        rw [hf]
        decide
    · decide
    · refine isNumeral_of_isExponent (hexponent.resolve_left ?_) c hc
      rw [he]
      decide
  · rcases hmark with hf | he
    · exact ⟨46, mem_of_mem_body (mem_of_mem_partition (mem_of_partition hf)), by decide, by decide⟩
    · exact ⟨101, mem_of_mem_body (mem_of_partition he), by decide, by decide⟩

end PyFloat

namespace Json

/-! ## String literals -/

/-- The value of a hexadecimal digit. -/
def hexValue (c : CodePoint) : ℕ := if c.val < 58 then c.val - 48 else c.val - 87

/-- The character that a text inside a string literal begins with, and what follows it. -/
def unescapeChar : Str → Option (CodePoint × Str)
  | 92 :: c :: s =>
    if c = 110 then some (10, s) else if c = 114 then some (13, s)
    else if c = 116 then some (9, s) else if c = 98 then some (8, s)
    else if c = 102 then some (12, s)
    else if c = 117 then
      match s with
      | _ :: _ :: h :: l :: s => some (Fin.ofNat 0x110000 (16 * hexValue h + hexValue l), s)
      | _ => none
    else some (c, s)
  | c :: s => some (c, s)
  | [] => none

/-- The four digits of a control character. -/
lemma hex4_control : ∀ n < 32, Str.hex4 n =
    [48, 48, Str.hexDigit (n / 16), Str.hexDigit (n % 16)] ∧
      16 * hexValue (Str.hexDigit (n / 16)) + hexValue (Str.hexDigit (n % 16)) = n := by
  decide

/-- Reading a character takes back what writing it did. -/
lemma unescapeChar_escapeChar (c : CodePoint) (x : Str) :
    unescapeChar (escapeChar false c ++ x) = some (c, x) := by
  unfold escapeChar
  by_cases h₁ : c = 34
  · rw [if_pos h₁, h₁]; rfl
  rw [if_neg h₁]
  by_cases h₂ : c = 92
  · rw [if_pos h₂, h₂]; rfl
  rw [if_neg h₂]
  by_cases h₃ : c = 10
  · rw [if_pos h₃, h₃]; rfl
  rw [if_neg h₃]
  by_cases h₄ : c = 13
  · rw [if_pos h₄, h₄]; rfl
  rw [if_neg h₄]
  by_cases h₅ : c = 9
  · rw [if_pos h₅, h₅]; rfl
  rw [if_neg h₅]
  by_cases h₆ : c = 8
  · rw [if_pos h₆, h₆]; rfl
  rw [if_neg h₆]
  by_cases h₇ : c = 12
  · rw [if_pos h₇, h₇]; rfl
  rw [if_neg h₇]
  by_cases h₈ : c.val < 32
  · obtain ⟨htext, hvalue⟩ := hex4_control c.val h₈
    rw [if_pos h₈, htext]
    show some (Fin.ofNat 0x110000 (16 * hexValue (Str.hexDigit (c.val / 16)) +
      hexValue (Str.hexDigit (c.val % 16))), x) = some (c, x)
    rw [hvalue]
    congr 2
    exact Fin.ext (Nat.mod_eq_of_lt c.isLt)
  rw [if_neg h₈, Bool.false_and, if_neg Bool.false_ne_true]
  show unescapeChar (c :: x) = some (c, x)
  unfold unescapeChar
  split
  · next hc => exact absurd (List.cons.inj hc).1 h₂
  · next hc =>
    obtain ⟨rfl, rfl⟩ := List.cons.inj hc
    rfl
  · next hc => cases hc

/-- No character of a string literal begins with a quotation mark. -/
lemma head?_escapeChar (c : CodePoint) (x : Str) : (escapeChar false c ++ x).head? ≠ some 34 := by
  intro h
  obtain ⟨y, hy⟩ := List.head?_eq_some_iff.mp h
  -- what begins with a quotation mark is read as one, and that is written as an escape
  have hread : some (c, x) = some (34, y) := by
    rw [← unescapeChar_escapeChar c x, hy]
    rfl
  obtain rfl : c = 34 := congrArg Prod.fst (Option.some.inj hread)
  exact absurd (List.cons.inj hy).1 (by decide)

/-- String literals end by themselves. -/
lemma selfDelimiting_quote (Q : Str → Prop) : SelfDelimiting Q (quote false) := by
  intro s t x y hx hy h
  have hchars : SelfDelimiting (fun _ : Str => True) (escapeChar false) :=
    .of_decoder unescapeChar unescapeChar_escapeChar
  exact hchars.flatMap_end (Q := Q) head?_escapeChar s t x y hx hy (List.cons.inj h).2

/-! ## Numbers and words -/

/-- A character of a number or of a word. -/
def isPlain (c : CodePoint) : Bool := !([34, 44, 91, 93, 123, 125] : Str).elem c

/-- Numbers and words: the values whose text has no quotation marks and no brackets. -/
def isScalar : Json → Bool
  | null | bool _ | int _ | float _ => true
  | _ => false

/-- The character that opens a string, a list or an object. -/
def opening : Json → Option CodePoint
  | str _ => some 34
  | arr _ => some 91
  | obj _ => some 123
  | _ => none

/-- The characters of floats are plain. -/
lemma isPlain_of_isNumeral {c : CodePoint} (h : PyFloat.isNumeral c = true) : isPlain c = true := by
  unfold isPlain
  rw [Bool.not_eq_true']
  by_contra hne
  rw [Bool.not_eq_false, List.elem_eq_mem, decide_eq_true_eq] at hne
  have hclosed : ∀ c' ∈ ([34, 44, 91, 93, 123, 125] : Str), PyFloat.isNumeral c' = false := by
    have hall :
        (([34, 44, 91, 93, 123, 125] : Str).all fun c' => !PyFloat.isNumeral c') = true := by
      decide
    exact fun c' hc' => Bool.not_eq_true' _ ▸ List.all_eq_true.mp hall c' hc'
  rw [hclosed c hne] at h
  cases h

/-- The characters of an integer are characters of floats. -/
lemma isNumeral_ofInt (n : ℤ) : ∀ c ∈ Str.ofInt n, PyFloat.isNumeral c = true := by
  intro c hc
  rcases Str.mem_ofInt hc with rfl | hc
  · decide
  · unfold PyFloat.isNumeral
    rw [hc, Bool.true_or]

/-- The text of a number or a word is plain, and there is one. -/
lemma dumps_scalar {v : Json} (hv : v.isScalar = true) :
    v.dumps false ≠ [] ∧ ∀ c ∈ v.dumps false, isPlain c = true := by
  cases v with
  | null => exact ⟨by decide, List.all_eq_true.mp (by decide)⟩
  | bool b =>
    cases b with
    | true => exact ⟨by decide, List.all_eq_true.mp (by decide)⟩
    | false => exact ⟨by decide, List.all_eq_true.mp (by decide)⟩
  | int n => exact ⟨Str.ofInt_ne_nil n, fun c hc => isPlain_of_isNumeral (isNumeral_ofInt n c hc)⟩
  | float x =>
    obtain ⟨hchars, c, hc, -⟩ := x.repr_chars
    exact ⟨List.ne_nil_of_mem hc, fun c hc => isPlain_of_isNumeral (hchars c hc)⟩
  | str s => cases hv
  | arr xs => cases hv
  | obj kvs => cases hv

/-- No word is made of the characters of floats. -/
lemma ne_word {s : Str} (hs : ∀ c ∈ s, PyFloat.isNumeral c = true) :
    s ≠ "null" ∧ s ≠ "true" ∧ s ≠ "false" := by
  refine ⟨?_, ?_, ?_⟩
  · rintro rfl
    exact absurd (hs 117 (by decide)) (by decide)
  · rintro rfl
    exact absurd (hs 117 (by decide)) (by decide)
  · rintro rfl
    exact absurd (hs 108 (by decide)) (by decide)

/-- No float is written like an integer. -/
lemma repr_ne_ofInt (x : PyFloat) (n : ℤ) : x.repr ≠ Str.ofInt n := by
  intro h
  obtain ⟨-, c, hc, hsign, hdigit⟩ := x.repr_chars
  rw [h] at hc
  rcases Str.mem_ofInt hc with hc | hc
  · exact hsign hc
  · rw [hc] at hdigit
    cases hdigit

/-- Numbers and words are determined by their texts. -/
lemma eq_of_dumps_scalar {v w : Json} (hv : v.isScalar = true) (hw : w.isScalar = true)
    (h : v.dumps false = w.dumps false) : v = w := by
  have hint : ∀ n : ℤ, _ := fun n => ne_word (isNumeral_ofInt n)
  have hfloat : ∀ x : PyFloat, _ := fun x => ne_word x.repr_chars.1
  cases v with
  | null =>
    cases w with
    | null => rfl
    | bool b => cases b <;> exact absurd h (by decide)
    | int n => exact absurd h.symm (hint n).1
    | float x => exact absurd h.symm (hfloat x).1
    | _ => cases hw
  | bool b =>
    cases w with
    | null => cases b <;> exact absurd h (by decide)
    | bool b' =>
      cases b <;> cases b' <;> first | rfl | exact absurd h (by decide)
    | int n =>
      cases b with
      | true => exact absurd h.symm (hint n).2.1
      | false => exact absurd h.symm (hint n).2.2
    | float x =>
      cases b with
      | true => exact absurd h.symm (hfloat x).2.1
      | false => exact absurd h.symm (hfloat x).2.2
    | _ => cases hw
  | int n =>
    cases w with
    | null => exact absurd h (hint n).1
    | bool b =>
      cases b with
      | true => exact absurd h (hint n).2.1
      | false => exact absurd h (hint n).2.2
    | int m => exact congrArg int (Str.ofInt_injective h)
    | float x => exact absurd h.symm (repr_ne_ofInt x n)
    | _ => cases hw
  | float x =>
    cases w with
    | null => exact absurd h (hfloat x).1
    | bool b =>
      cases b with
      | true => exact absurd h (hfloat x).2.1
      | false => exact absurd h (hfloat x).2.2
    | int n => exact absurd h (repr_ne_ofInt x n)
    | float y =>
      cases x
      cases y
      cases h
      rfl
    | _ => cases hw
  | _ => cases hv

/-! ## Values -/

/-- What may follow a value: nothing, a comma or a closing bracket. -/
def Follows (x : Str) : Prop := ∀ c, x.head? = some c → c = 44 ∨ c = 93 ∨ c = 125

/-- What may follow a value is no part of a number or a word. -/
lemma Follows.not_isPlain {x : Str} (hx : Follows x) {c : CodePoint} (hc : x.head? = some c) :
    isPlain c = false := by
  rcases hx c hc with rfl | rfl | rfl <;> decide

/-- The items that follow one in a list. -/
lemma follows_dumpsItems (vs : List Json) (x : Str) : Follows (dumpsItems false vs ++ x) := by
  intro c hc
  cases vs with
  | nil => exact .inr (.inl (Option.some.inj hc).symm)
  | cons v vs => exact .inl (Option.some.inj hc).symm

/-- The entries that follow one in an object. -/
lemma follows_dumpsEntries (kvs : List (Str × Json)) (x : Str) :
    Follows (dumpsEntries false kvs ++ x) := by
  intro c hc
  rcases kvs with _ | ⟨⟨k, v⟩, kvs⟩
  · exact .inr (.inr (Option.some.inj hc).symm)
  · exact .inl (Option.some.inj hc).symm

/-- The text of a value begins with what opens it, or with a plain character. -/
lemma head?_dumps (v : Json) (x : Str) : ∃ c, (v.dumps false ++ x).head? = some c ∧
    (v.opening = some c ∨ v.opening = none ∧ isPlain c = true) := by
  by_cases hv : v.isScalar = true
  · obtain ⟨hne, hplain⟩ := dumps_scalar hv
    obtain ⟨c, s, hs⟩ := List.exists_cons_of_ne_nil hne
    refine ⟨c, by rw [hs]; rfl, .inr ⟨?_, hplain c (by rw [hs]; exact List.mem_cons_self)⟩⟩
    cases v <;> first | rfl | cases hv
  · cases v with
    | str s => exact ⟨34, rfl, .inl rfl⟩
    | arr xs => cases xs <;> exact ⟨91, rfl, .inl rfl⟩
    | obj kvs => cases kvs <;> exact ⟨123, rfl, .inl rfl⟩
    | _ => exact absurd rfl hv

/-- Values with the same text are opened by the same character. -/
lemma opening_eq {v w : Json} {x y : Str} (h : v.dumps false ++ x = w.dumps false ++ y) :
    v.opening = w.opening := by
  obtain ⟨c, hc, hv⟩ := head?_dumps v x
  obtain ⟨c', hc', hw⟩ := head?_dumps w y
  rw [h, hc'] at hc
  obtain rfl := Option.some.inj hc
  have hplain : ∀ u : Json, u.opening = some c' → isPlain c' = false := by
    intro u hu
    cases u <;> cases hu <;> decide
  rcases hv with hv | ⟨hv, hp⟩ <;> rcases hw with hw | ⟨hw, hp'⟩
  · rw [hv, hw]
  · rw [hplain v hv] at hp'
    cases hp'
  · rw [hplain w hw] at hp
    cases hp
  · rw [hv, hw]

/-- The text of a value does not begin like what may follow one. -/
lemma ne_follows {v : Json} {x y : Str} (hy : Follows y) : v.dumps false ++ x ≠ y := by
  intro h
  obtain ⟨c, hc, hv⟩ := head?_dumps v x
  rw [h] at hc
  have hplain := hy.not_isPlain hc
  rcases hv with hv | ⟨-, hp⟩
  · rcases hy c hc with rfl | rfl | rfl <;> cases v <;> cases hv
  · rw [hp] at hplain
    cases hplain

/-- A number or a word is read off up to the first character that is not plain. -/
lemma eq_of_scalar {v w : Json} {x y : Str} (hv : v.isScalar = true) (hw : w.isScalar = true)
    (hx : Follows x) (hy : Follows y) (h : v.dumps false ++ x = w.dumps false ++ y) :
    v = w ∧ x = y := by
  have htext : v.dumps false = w.dumps false := by
    rw [← SelfDelimiting.takeWhile_append_stop (dumps_scalar hv).2 fun _ => hx.not_isPlain,
      ← SelfDelimiting.takeWhile_append_stop (dumps_scalar hw).2 fun _ => hy.not_isPlain, h]
  rw [htext] at h
  exact ⟨eq_of_dumps_scalar hv hw htext, List.append_cancel_left h⟩

/-- A value that is opened like a number or a word is one. -/
lemma isScalar_of_opening {v : Json} (h : v.opening = none) : v.isScalar = true := by
  cases v <;> first | rfl | cases h

/-- The text of a key and its value, with what follows it. -/
def entryText (k : Str) (v : Json) (x : Str) : Str :=
  quote false k ++ (58 :: 32 :: (v.dumps false ++ x))

mutual

/-- Values are read off the front of a text. -/
lemma dumps_cancel : ∀ (v w : Json) (x y : Str), Follows x → Follows y →
    v.dumps false ++ x = w.dumps false ++ y → v = w ∧ x = y
  | null, w, x, y, hx, hy, h => eq_of_scalar rfl (isScalar_of_opening (opening_eq h).symm) hx hy h
  | bool _, w, x, y, hx, hy, h => eq_of_scalar rfl (isScalar_of_opening (opening_eq h).symm) hx hy h
  | int _, w, x, y, hx, hy, h => eq_of_scalar rfl (isScalar_of_opening (opening_eq h).symm) hx hy h
  | float _, w, x, y, hx, hy, h =>
    eq_of_scalar rfl (isScalar_of_opening (opening_eq h).symm) hx hy h
  | str s, w, x, y, hx, hy, h => by
    cases w with
    | str t =>
      obtain ⟨rfl, hxy⟩ := selfDelimiting_quote Follows s t x y hx hy h
      exact ⟨rfl, hxy⟩
    | _ => cases opening_eq h
  | arr [], w, x, y, hx, hy, h => by
    cases w with
    | arr ws =>
      cases ws with
      | nil => exact ⟨rfl, List.append_cancel_left h⟩
      | cons w ws =>
        have htail : 93 :: x = w.dumps false ++ (dumpsItems false ws ++ y) := by
          rw [← List.append_assoc]
          exact (List.cons.inj h).2
        have hclose : Follows (93 :: x) := fun c hc => .inr (.inl (Option.some.inj hc).symm)
        exact absurd htail.symm (ne_follows hclose)
    | _ => cases opening_eq h
  | arr (v :: vs), w, x, y, hx, hy, h => by
    cases w with
    | arr ws =>
      have htail : v.dumps false ++ (dumpsItems false vs ++ x) =
          ((arr ws).dumps false ++ y).tail := by
        rw [← h, ← List.append_assoc]
        rfl
      cases ws with
      | nil =>
        have hclose : Follows (93 :: y) := fun c hc => .inr (.inl (Option.some.inj hc).symm)
        exact absurd htail (ne_follows hclose)
      | cons w ws =>
        have hwhole : ((arr (w :: ws)).dumps false ++ y).tail =
            w.dumps false ++ (dumpsItems false ws ++ y) := by
          rw [← List.append_assoc]
          rfl
        obtain ⟨rfl, hitems⟩ := dumps_cancel v w _ _ (follows_dumpsItems vs x)
          (follows_dumpsItems ws y) (htail.trans hwhole)
        obtain ⟨rfl, hxy⟩ := dumpsItems_cancel vs ws x y hitems
        exact ⟨rfl, hxy⟩
    | _ => cases opening_eq h
  | obj [], w, x, y, hx, hy, h => by
    cases w with
    | obj kvs =>
      cases kvs with
      | nil => exact ⟨rfl, List.append_cancel_left h⟩
      | cons p kvs => cases (List.cons.inj (List.cons.inj h).2).1
    | _ => cases opening_eq h
  | obj ((k, v) :: kvs), w, x, y, hx, hy, h => by
    cases w with
    | obj kvs' =>
      rcases kvs' with _ | ⟨⟨k', w⟩, kvs'⟩
      · cases (List.cons.inj (List.cons.inj h).2).1
      · have hentries : entryText k v (dumpsEntries false kvs ++ x) =
            entryText k' w (dumpsEntries false kvs' ++ y) := by
          have htail := (List.cons.inj h).2
          simpa [entryText, Str.ofString, CodePoint.ofChar] using htail
        obtain ⟨rfl, hvalue⟩ :=
          selfDelimiting_quote (fun _ => True) k k' _ _ trivial trivial hentries
        obtain ⟨rfl, hrest⟩ := dumps_cancel v w _ _ (follows_dumpsEntries kvs x)
          (follows_dumpsEntries kvs' y) (List.cons.inj (List.cons.inj hvalue).2).2
        obtain ⟨rfl, hxy⟩ := dumpsEntries_cancel kvs kvs' x y hrest
        exact ⟨rfl, hxy⟩
    | _ => cases opening_eq h

/-- The items that follow one in a list are read off the front of a text. -/
lemma dumpsItems_cancel : ∀ (vs ws : List Json) (x y : Str),
    dumpsItems false vs ++ x = dumpsItems false ws ++ y → vs = ws ∧ x = y
  | [], [], x, y, h => ⟨rfl, List.append_cancel_left h⟩
  | [], w :: ws, x, y, h => by cases (List.cons.inj h).1
  | v :: vs, [], x, y, h => by cases (List.cons.inj h).1
  | v :: vs, w :: ws, x, y, h => by
    have htail := (List.cons.inj (List.cons.inj h).2).2
    have hitems : v.dumps false ++ (dumpsItems false vs ++ x) =
        w.dumps false ++ (dumpsItems false ws ++ y) := by
      rw [← List.append_assoc, ← List.append_assoc]
      exact htail
    obtain ⟨rfl, hrest⟩ := dumps_cancel v w _ _ (follows_dumpsItems vs x)
      (follows_dumpsItems ws y) hitems
    obtain ⟨rfl, hxy⟩ := dumpsItems_cancel vs ws x y hrest
    exact ⟨rfl, hxy⟩

/-- The entries that follow one in an object are read off the front of a text. -/
lemma dumpsEntries_cancel : ∀ (kvs kvs' : List (Str × Json)) (x y : Str),
    dumpsEntries false kvs ++ x = dumpsEntries false kvs' ++ y → kvs = kvs' ∧ x = y
  | [], [], x, y, h => ⟨rfl, List.append_cancel_left h⟩
  | [], _ :: _, x, y, h => by cases (List.cons.inj h).1
  | _ :: _, [], x, y, h => by cases (List.cons.inj h).1
  | (k, v) :: kvs, (k', w) :: kvs', x, y, h => by
    have hentries : entryText k v (dumpsEntries false kvs ++ x) =
        entryText k' w (dumpsEntries false kvs' ++ y) := by
      have htail := (List.cons.inj (List.cons.inj h).2).2
      simpa [entryText, Str.ofString, CodePoint.ofChar] using htail
    obtain ⟨rfl, hvalue⟩ := selfDelimiting_quote (fun _ => True) k k' _ _ trivial trivial hentries
    obtain ⟨rfl, hrest⟩ := dumps_cancel v w _ _ (follows_dumpsEntries kvs x)
      (follows_dumpsEntries kvs' y) (List.cons.inj (List.cons.inj hvalue).2).2
    obtain ⟨rfl, hxy⟩ := dumpsEntries_cancel kvs kvs' x y hrest
    exact ⟨rfl, hxy⟩

end

/-- **The text of a value determines it.** -/
theorem dumps_injective : Function.Injective (dumps false) := by
  have hself : SelfDelimiting Follows (dumps false) := dumps_cancel
  refine hself.injective ?_
  rintro c ⟨⟩

/-! ## Sorted keys -/

/-- A lookup after an entry was put in its place. -/
lemma get?_insertEntry (k : Str) (v : Json) (kvs : List (Str × Json)) (k' : Str) :
    OrderedDict.get? (insertEntry k v kvs) k' =
      if k = k' then some v else OrderedDict.get? kvs k' := by
  induction kvs with
  | nil => rfl
  | cons p kvs ih =>
    obtain ⟨k₀, v₀⟩ := p
    unfold insertEntry
    split
    · next hlt =>
      rw [OrderedDict.get?_cons, OrderedDict.get?_cons, ih]
      by_cases h₀ : k₀ = k'
      · have hne : k ≠ k' := by
          rintro rfl
          exact lt_irrefl k (h₀ ▸ hlt)
        rw [if_pos h₀, if_pos h₀, if_neg hne]
      · rw [if_neg h₀, if_neg h₀]
    · rfl

/-- A lookup among sorted entries. -/
lemma get?_sortKeysEntries (kvs : List (Str × Json)) (k : Str) :
    OrderedDict.get? (sortKeysEntries kvs) k = (OrderedDict.get? kvs k).map sortKeys := by
  induction kvs with
  | nil => rfl
  | cons p kvs ih =>
    obtain ⟨k₀, v₀⟩ := p
    show OrderedDict.get? (insertEntry k₀ (sortKeys v₀) (sortKeysEntries kvs)) k = _
    rw [get?_insertEntry, ih, OrderedDict.get?_cons]
    split <;> rfl

mutual

/-- **Sorting forgets the order of the keys only.** -/
lemma same_of_sortKeys : ∀ v w : Json, v.sortKeys = w.sortKeys → Same v w
  | null, w, h => by cases w <;> first | exact .null | cases h
  | bool b, w, h => by
    cases w with
    | bool b' => cases h; exact .bool b
    | _ => cases h
  | int n, w, h => by
    cases w with
    | int m => cases h; exact .int n
    | _ => cases h
  | float x, w, h => by
    cases w with
    | float y => cases h; exact .float x
    | _ => cases h
  | str s, w, h => by
    cases w with
    | str t => cases h; exact .str s
    | _ => cases h
  | arr vs, w, h => by
    cases w with
    | arr ws => exact .arr (same_of_sortKeysList vs ws (arr.inj h))
    | _ => cases h
  | obj kvs, w, h => by
    cases w with
    | obj kvs' =>
      refine .obj fun k => ?_
      have hget : (OrderedDict.get? kvs k).map sortKeys =
          (OrderedDict.get? kvs' k).map sortKeys := by
        rw [← get?_sortKeysEntries, ← get?_sortKeysEntries, obj.inj h]
      cases hv : OrderedDict.get? kvs k with
      | none =>
        rw [hv] at hget
        rw [Option.map_eq_none_iff.mp hget.symm]
        exact .none
      | some v =>
        rw [hv] at hget
        obtain ⟨w, hw, hvw⟩ := Option.map_eq_some_iff.mp hget.symm
        rw [hw]
        exact .some (same_entry_of_sortKeys kvs k v w hv hvw.symm)
    | _ => cases h

/-- Lists that sort alike agree item by item. -/
lemma same_of_sortKeysList : ∀ vs ws : List Json, sortKeysList vs = sortKeysList ws →
    List.Forall₂ Same vs ws
  | [], [], _ => .nil
  | v :: vs, w :: ws, h =>
    .cons (same_of_sortKeys v w (List.cons.inj h).1)
      (same_of_sortKeysList vs ws (List.cons.inj h).2)

/-- An entry of an object equals every value that sorts like it. -/
lemma same_entry_of_sortKeys : ∀ (kvs : List (Str × Json)) (k : Str) (v w : Json),
    OrderedDict.get? kvs k = some v → v.sortKeys = w.sortKeys → Same v w
  | (k₀, v₀) :: kvs, k, v, w, hget, h => by
    by_cases hk : k₀ = k
    · rw [OrderedDict.get?_cons, if_pos hk] at hget
      have hv : v₀.sortKeys = w.sortKeys := by rw [Option.some.inj hget, h]
      exact Option.some.inj hget ▸ same_of_sortKeys v₀ w hv
    · rw [OrderedDict.get?_cons, if_neg hk] at hget
      exact same_entry_of_sortKeys kvs k v w hget h

end

/-- **The text with sorted keys determines the value up to the order of keys.** -/
theorem same_of_dumps_sortKeys {v w : Json}
    (h : v.sortKeys.dumps false = w.sortKeys.dumps false) : Same v w :=
  same_of_sortKeys v w (dumps_injective h)

end Json
