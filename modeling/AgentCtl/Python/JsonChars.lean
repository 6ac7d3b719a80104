import AgentCtl.Python.JsonInjective

set_option relaxedAutoImplicit false
set_option autoImplicit false

/-!
# The characters of JSON text

`json.dumps(v, ensure_ascii=False)` escapes control characters and writes every character beyond
ASCII as it is. So its text has no line breaks, and what is not ASCII in it is what is not ASCII in
the strings of the value. The first makes a line of the text of a value, and of an event a line of a
stream; the second decides whether a text can be encoded, which a lone surrogate prevents.

Both are inductions on the value, with one lemma for a value, one for the items of a list and one
for the entries of an object. Punctuation, numbers and escapes are printable ASCII; what else is in
a text is a character of one of its strings. The order of the entries does not matter, so that
sorting them, as the key of a cache does, changes nothing.

## Main definitions

* `Json.chars` — the characters of the strings of a value, keys included.
* `Json.WrittenFrom` — printable ASCII, and characters given.

## Main results

* `Json.writtenFrom_dumps` — the characters of a text.
* `Json.mem_dumps_of_mem_chars` — characters beyond ASCII are written as they are.
* `Json.mem_chars_sortKeys` — sorting keys keeps the characters.

## Implementation notes

A list of characters stands for the set of those that a text may have, so that texts are put
together by `++` on both sides. The character `127` is not printable and is written as it is: it is
no control character to `json.dumps`.
-/

open AgentCtl

namespace Json

mutual

/-- The characters of the strings of a value, keys included. -/
def chars : Json → Str
  | null | bool _ | int _ | float _ => []
  | str s => s
  | arr vs => charsItems vs
  | obj kvs => charsEntries kvs

/-- The characters of the strings of the items of a list. -/
def charsItems : List Json → Str
  | [] => []
  | v :: vs => v.chars ++ charsItems vs

/-- The characters of the keys and of the strings of the values of an object. -/
def charsEntries : List (Str × Json) → Str
  | [] => []
  | (k, v) :: kvs => k ++ (v.chars ++ charsEntries kvs)

end

/-- A printable character of ASCII. -/
def isPrintable (c : CodePoint) : Bool := 32 ≤ c.val && c.val ≤ 126

/-- The text is made of printable ASCII, and of characters given that are no control characters. -/
def WrittenFrom (chars s : Str) : Prop :=
  ∀ c ∈ s, 32 ≤ c.val ∧ (isPrintable c = true ∨ c ∈ chars)

namespace WrittenFrom

variable {a b s t : Str}

/-- A text of printable ASCII. -/
lemma of_printable (a : Str) (h : ∀ c ∈ s, isPrintable c = true) : WrittenFrom a s := by
  intro c hc
  have hprintable := h c hc
  refine ⟨?_, .inl hprintable⟩
  unfold isPrintable at hprintable
  rw [Bool.and_eq_true, decide_eq_true_eq] at hprintable
  exact hprintable.1

/-- A literal of printable ASCII. -/
lemma of_all (a : Str) (h : s.all isPrintable = true) : WrittenFrom a s :=
  of_printable a (List.all_eq_true.mp h)

/-- More characters given. -/
lemma mono (h : WrittenFrom a s) (hab : ∀ c ∈ a, c ∈ b) : WrittenFrom b s :=
  fun c hc => ⟨(h c hc).1, (h c hc).2.imp id (hab c)⟩

/-- One text after another. -/
lemma append (hs : WrittenFrom a s) (ht : WrittenFrom b t) : WrittenFrom (a ++ b) (s ++ t) := by
  intro c hc
  rcases List.mem_append.mp hc with hc | hc
  · exact hs.mono (fun _ => List.mem_append_left b) c hc
  · exact ht.mono (fun _ => List.mem_append_right a) c hc

/-- A literal before a text. -/
lemma literal (hs : s.all isPrintable = true) (ht : WrittenFrom a t) : WrittenFrom a (s ++ t) :=
  (of_all [] hs).append ht

end WrittenFrom

/-- The characters of numbers are printable. -/
lemma isPrintable_of_isNumeral {c : CodePoint} (h : PyFloat.isNumeral c = true) :
    isPrintable c = true := by
  unfold PyFloat.isNumeral at h
  rcases Bool.or_eq_true_iff.mp h with h | h
  · unfold Str.isDecimal at h
    unfold isPrintable
    rw [Bool.and_eq_true, decide_eq_true_eq, decide_eq_true_eq] at h ⊢
    omega
  · have hall : Str.ofString "+-.eNaInfity" |>.all isPrintable := by decide
    exact List.all_eq_true.mp hall c (of_decide_eq_true h)

/-! ## String literals -/

/-- Hexadecimal digits are printable. -/
lemma isPrintable_hexDigit : ∀ d < 16, isPrintable (Str.hexDigit d) = true := by decide

/-- Four of them are. -/
lemma isPrintable_hex4 (n : ℕ) : ∀ c ∈ Str.hex4 n, isPrintable c = true := by
  intro c hc
  simp only [Str.hex4, List.mem_cons, List.not_mem_nil, or_false] at hc
  rcases hc with rfl | rfl | rfl | rfl
  all_goals exact isPrintable_hexDigit _ (Nat.mod_lt _ (by decide))

/-- A character inside a string literal is an escape, or itself. -/
lemma writtenFrom_escapeChar (c : CodePoint) : WrittenFrom [c] (escapeChar false c) := by
  have hescape : ∀ n : ℕ, ∀ x ∈ Str.ofString "\\u" ++ Str.hex4 n, isPrintable x = true := by
    intro n x hx
    rcases List.mem_append.mp hx with hx | hx
    · exact List.all_eq_true.mp (by decide : (Str.ofString "\\u").all isPrintable = true) x hx
    · exact isPrintable_hex4 n x hx
  unfold escapeChar
  simp only [Bool.false_and, Bool.false_eq_true, if_false]
  split_ifs with _ _ _ _ _ _ _ hcontrol
  -- the escapes of one character are literals
  iterate 7 exact .of_all _ (by decide)
  · exact .of_printable _ (hescape c.val)
  · intro x hx
    obtain rfl := List.mem_singleton.mp hx
    exact ⟨not_lt.mp hcontrol, .inr hx⟩

/-- A string literal is written from the characters of its string. -/
lemma writtenFrom_quote (s : Str) : WrittenFrom s (quote false s) := by
  have hchars : WrittenFrom s (s.flatMap (escapeChar false)) := by
    intro c hc
    obtain ⟨x, hx, hcx⟩ := List.mem_flatMap.mp hc
    refine (writtenFrom_escapeChar x).mono ?_ c hcx
    intro y hy
    rwa [List.mem_singleton.mp hy]
  have hclosed : WrittenFrom (s ++ []) (s.flatMap (escapeChar false) ++ [34]) :=
    hchars.append (.of_all [] (by decide))
  rw [List.append_nil] at hclosed
  exact WrittenFrom.literal (s := [34]) (by decide) hclosed

/-! ## Values -/

mutual

/-- **The text of a value** is written from the characters of its strings. -/
lemma writtenFrom_dumps : ∀ v : Json, WrittenFrom v.chars (v.dumps false)
  | null => .of_all _ (by decide)
  | bool true => .of_all _ (by decide)
  | bool false => .of_all _ (by decide)
  | int n => .of_printable _ fun c hc => isPrintable_of_isNumeral (isNumeral_ofInt n c hc)
  | float x => .of_printable _ fun c hc => isPrintable_of_isNumeral (x.repr_chars.1 c hc)
  | str s => writtenFrom_quote s
  | arr [] => .of_all _ (by decide)
  | arr (v :: vs) =>
    .literal (s := "[") (by decide) ((writtenFrom_dumps v).append (writtenFrom_dumpsItems vs))
  | obj [] => .of_all _ (by decide)
  | obj ((k, v) :: kvs) =>
    .literal (s := "\x7b") (by decide) ((writtenFrom_quote k).append
      (.literal (s := ": ") (by decide)
        ((writtenFrom_dumps v).append (writtenFrom_dumpsEntries kvs))))

/-- The text of the items that follow one in a list is written from their characters. -/
lemma writtenFrom_dumpsItems : ∀ vs : List Json, WrittenFrom (charsItems vs) (dumpsItems false vs)
  | [] => .of_all _ (by decide)
  | v :: vs =>
    .literal (s := ", ") (by decide) ((writtenFrom_dumps v).append (writtenFrom_dumpsItems vs))

/-- The text of the entries that follow one in an object is written from their characters. -/
lemma writtenFrom_dumpsEntries :
    ∀ kvs : List (Str × Json), WrittenFrom (charsEntries kvs) (dumpsEntries false kvs)
  | [] => .of_all _ (by decide)
  | (k, v) :: kvs =>
    .literal (s := ", ") (by decide) ((writtenFrom_quote k).append
      (.literal (s := ": ") (by decide)
        ((writtenFrom_dumps v).append (writtenFrom_dumpsEntries kvs))))

end

/-- A character beyond ASCII is written as it is. -/
lemma mem_quote {s : Str} {c : CodePoint} (hc : c ∈ s) (hascii : 126 < c.val) :
    c ∈ quote false s := by
  have hself : escapeChar false c = [c] := by
    unfold escapeChar
    have hne : ∀ n : CodePoint, n.val ≤ 126 → c ≠ n := by
      rintro n hn rfl
      omega
    rw [if_neg (hne 34 (by decide)), if_neg (hne 92 (by decide)), if_neg (hne 10 (by decide)),
      if_neg (hne 13 (by decide)), if_neg (hne 9 (by decide)), if_neg (hne 8 (by decide)),
      if_neg (hne 12 (by decide)), if_neg (by omega), Bool.false_and, if_neg Bool.false_ne_true]
  unfold quote
  refine List.mem_cons_of_mem _ (List.mem_append_left _ ?_)
  exact List.mem_flatMap.mpr ⟨c, hc, by rw [hself]; exact List.mem_singleton_self c⟩

section Beyond

variable {c : CodePoint}

mutual

/-- **Characters beyond ASCII.** Those of the strings of a value stand in its text. -/
lemma mem_dumps_of_mem_chars (hascii : 126 < c.val) :
    ∀ v : Json, c ∈ v.chars → c ∈ v.dumps false
  | str s, hc => mem_quote hc hascii
  | arr (v :: vs), hc => by
    apply List.mem_append_right
    rw [List.mem_append]
    rcases List.mem_append.mp hc with hc | hc
    · exact .inl (mem_dumps_of_mem_chars hascii v hc)
    · exact .inr (mem_dumpsItems_of_mem_chars hascii vs hc)
  | obj ((k, v) :: kvs), hc => by
    apply List.mem_append_right
    rw [List.mem_append, List.mem_append, List.mem_append]
    rcases List.mem_append.mp hc with hc | hc
    · exact .inl (mem_quote hc hascii)
    · rcases List.mem_append.mp hc with hc | hc
      · exact .inr (.inr (.inl (mem_dumps_of_mem_chars hascii v hc)))
      · exact .inr (.inr (.inr (mem_dumpsEntries_of_mem_chars hascii kvs hc)))

/-- Characters beyond ASCII of the items that follow one in a list stand in their text. -/
lemma mem_dumpsItems_of_mem_chars (hascii : 126 < c.val) :
    ∀ vs : List Json, c ∈ charsItems vs → c ∈ dumpsItems false vs
  | v :: vs, hc => by
    apply List.mem_append_right
    rw [List.mem_append]
    rcases List.mem_append.mp hc with hc | hc
    · exact .inl (mem_dumps_of_mem_chars hascii v hc)
    · exact .inr (mem_dumpsItems_of_mem_chars hascii vs hc)

/-- Characters beyond ASCII of the entries that follow one in an object stand in their text. -/
lemma mem_dumpsEntries_of_mem_chars (hascii : 126 < c.val) :
    ∀ kvs : List (Str × Json), c ∈ charsEntries kvs → c ∈ dumpsEntries false kvs
  | (k, v) :: kvs, hc => by
    apply List.mem_append_right
    rw [List.mem_append, List.mem_append, List.mem_append]
    rcases List.mem_append.mp hc with hc | hc
    · exact .inl (mem_quote hc hascii)
    · rcases List.mem_append.mp hc with hc | hc
      · exact .inr (.inr (.inl (mem_dumps_of_mem_chars hascii v hc)))
      · exact .inr (.inr (.inr (mem_dumpsEntries_of_mem_chars hascii kvs hc)))

end

/-! ## Sorted keys -/

/-- An entry put in its place brings its characters. -/
lemma mem_charsEntries_insertEntry (k : Str) (v : Json) (kvs : List (Str × Json)) :
    c ∈ charsEntries (insertEntry k v kvs) ↔ c ∈ k ∨ c ∈ v.chars ∨ c ∈ charsEntries kvs := by
  induction kvs with
  | nil => simp [insertEntry, charsEntries]
  | cons p kvs ih =>
    obtain ⟨k', v'⟩ := p
    rw [insertEntry]
    split
    · simp only [charsEntries, List.mem_append, ih]
      tauto
    · simp only [charsEntries, List.mem_append]

mutual

/-- Sorting the keys of a value changes the order of its characters only. -/
lemma mem_chars_sortKeys : ∀ v : Json, c ∈ v.sortKeys.chars ↔ c ∈ v.chars
  | null | bool _ | int _ | float _ | str _ => Iff.rfl
  | arr vs => mem_charsItems_sortKeys vs
  | obj kvs => mem_charsEntries_sortKeys kvs

/-- Sorting the keys of the items of a list changes the order of their characters only. -/
lemma mem_charsItems_sortKeys :
    ∀ vs : List Json, c ∈ charsItems (sortKeysList vs) ↔ c ∈ charsItems vs
  | [] => Iff.rfl
  | v :: vs => by
    simp only [sortKeysList, charsItems, List.mem_append, mem_chars_sortKeys v,
      mem_charsItems_sortKeys vs]

/-- Sorting the entries of an object changes the order of their characters only. -/
lemma mem_charsEntries_sortKeys :
    ∀ kvs : List (Str × Json), c ∈ charsEntries (sortKeysEntries kvs) ↔ c ∈ charsEntries kvs
  | [] => Iff.rfl
  | (k, v) :: kvs => by
    simp only [sortKeysEntries, charsEntries, List.mem_append, mem_charsEntries_insertEntry,
      mem_chars_sortKeys v, mem_charsEntries_sortKeys kvs]

end

end Beyond

end Json
