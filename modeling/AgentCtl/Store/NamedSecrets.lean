import AgentCtl.Library.Survival
import AgentCtl.Store.SecondPass

set_option relaxedAutoImplicit false
set_option autoImplicit false

/-!
# Named secrets in nested values

`redact_value` splits an object into its keys and values, and masks each value alone. A value that
flat text names, as in `password=hunter2`, is masked for the sake of its name there; in an entry of
an object, or in the JSON text of one, the name does not help, and the value is masked exactly if it
gives itself away.

## Main definitions

* `AgentCtl.valueAt` — the value at a place of a list of messages.
* `AgentCtl.MasksInText` — the names for whose sake flat text is masked.
* `AgentCtl.MaskedEverywhere` — a value under such a name is kept in no entry and in no JSON text.
* `AgentCtl.HasPattern` — some pattern occurs in a text.

## Main results

* `AgentCtl.valueAt_redactMessages` — redaction keeps the places.
* `AgentCtl.redact_of_survives` — a word that redaction keeps can be read in the redacted text.
* `AgentCtl.masksInText_of_isSecret` — flat text is masked for the sake of the names of secrets.
* `AgentCtl.maskedEverywhere_iff` — which values are masked in every shape.
-/

namespace AgentCtl

open Regex

/-! ## Places in messages -/

/-- A step into a nested value. -/
inductive Step where
  /-- To an item of a list. -/
  | item (i : ℕ)
  /-- To the value of an entry. -/
  | field (k : Str)

/-- The value at a path. -/
def follow : Json → List Step → Option Json
  | v, [] => some v
  | .arr xs, .item i :: p => (xs[i]?).bind fun v => follow v p
  | .obj kvs, .field k :: p => (OrderedDict.get? kvs k).bind fun v => follow v p
  | _, _ => none

@[simp] lemma follow_nil (v : Json) : follow v [] = some v := by
  cases v <;> rfl

/-- A path goes on from where its beginning leads. -/
lemma follow_append (v : Json) (p q : List Step) :
    follow v (p ++ q) = (follow v p).bind fun w => follow w q := by
  induction p generalizing v with
  | nil => simp
  | cons s p ih =>
    cases v with
    | arr xs =>
      cases s with
      | item i =>
        simp only [List.cons_append, follow, Option.bind_assoc]
        congr 1
        funext w
        exact ih w
      | field k => rfl
    | obj kvs =>
      cases s with
      | item i => rfl
      | field k =>
        simp only [List.cons_append, follow, Option.bind_assoc]
        congr 1
        funext w
        exact ih w
    | _ => cases s <;> rfl

/-- The value at a path of one of the messages. -/
def valueAt (messages : List Dict) (i : ℕ) (path : List Step) : Option Json :=
  (messages[i]?).bind fun m => follow (.obj m) path

variable (py : Runtime)

lemma getElem?_redactItems (xs : List Json) (i : ℕ) :
    (redactItems py xs)[i]? = (xs[i]?).map (redactValue py) := by
  induction xs generalizing i with
  | nil => rfl
  | cons v vs ih =>
    cases i with
    | zero => rfl
    | succ i => exact ih i

lemma get?_redactEntries (kvs : List (Str × Json)) (k : Str) :
    OrderedDict.get? (redactEntries py kvs) k =
      (OrderedDict.get? kvs k).map (redactValue py) := by
  induction kvs with
  | nil => rfl
  | cons kv kvs ih =>
    obtain ⟨k', v⟩ := kv
    rw [redactEntries, OrderedDict.get?_cons, OrderedDict.get?_cons, ih]
    split <;> rfl

/-- Masking keeps the paths. The induction is on the path. -/
lemma follow_redactValue (v : Json) (path : List Step) :
    follow (redactValue py v) path = (follow v path).map (redactValue py) := by
  induction path generalizing v with
  | nil => simp
  | cons s path ih =>
    cases v with
    | arr xs =>
      cases s with
      | item i =>
        simp only [redactValue, follow, getElem?_redactItems, Option.bind_map, Option.map_bind]
        congr 1
        funext w
        exact ih w
      | field k => rfl
    | obj kvs =>
      cases s with
      | item i => rfl
      | field k =>
        simp only [redactValue, follow, get?_redactEntries, Option.bind_map, Option.map_bind]
        congr 1
        funext w
        exact ih w
    | _ => cases s <;> rfl

/-- **Redaction keeps the places**, and masks what is at each of them. -/
theorem valueAt_redactMessages (messages : List Dict) (i : ℕ) (path : List Step) :
    valueAt (redactMessages py messages) i path =
      (valueAt messages i path).map (redactValue py) := by
  unfold valueAt redactMessages
  rw [List.getElem?_map, Option.bind_map, Option.map_bind]
  congr 1
  funext m
  exact follow_redactValue py (.obj m) path

/-! ## Names and values -/

/-- A value of the kind that flat text can name: not empty, without white space, quotes, commas and
semicolons. -/
def IsPlainValue (v : Str) : Prop := v ≠ [] ∧ ∀ c ∈ v, isValue py c = true

/-- A name for whose sake flat text is masked: redaction does not keep a value behind it. -/
def MasksInText (k : Str) : Prop :=
  ∀ v, IsPlainValue py v → ¬ Survives redactMask (redactPatterns py) (k ++ Str.ofString "=") v []

/-- What redaction keeps can be read in the redacted text. -/
lemma redact_of_survives {A w B : Str} (h : Survives redactMask (redactPatterns py) A w B) :
    ∃ A' B', redact py (A ++ (w ++ B)) = A' ++ (w ++ B') :=
  h.infix

/-- Some pattern occurs in the text. -/
def HasPattern (t : Str) : Prop := ∃ r ∈ redactPatterns py, Occurs r t

/-- What JSON writes for a string, between the quotes. -/
def jsonText (ensureAscii : Bool) (v : Str) : Str := v.flatMap (Json.escapeChar ensureAscii)

/-- An entry with a string as JSON writes it, and the text behind it. -/
def entryText (ensureAscii : Bool) (k v B : Str) : Str :=
  Json.quote ensureAscii k ++ (Str.ofString ": " ++ (Json.quote ensureAscii v ++ B))

/-- Redaction keeps a word of the string at a place, between the texts on both sides of it. -/
def KeepsWord (messages : List Dict) (i : ℕ) (path : List Step) (A w B : Str) : Prop :=
  ∃ A' B', valueAt (redactMessages py messages) i path = some (.str (A' ++ (w ++ B'))) ∧
    Survives redactMask (redactPatterns py) A w B

/-- The value is masked in every shape. -/
structure MaskedEverywhere (v : Str) : Prop where
  /-- In an entry of an object anywhere in the messages, under a name that flat text is masked for:
  the value is not in what redaction makes of the entry. -/
  entry : ∀ k, MasksInText py k → ∀ messages i path,
    valueAt messages i (path ++ [.field k]) = some (.str v) →
    ∀ s, valueAt (redactMessages py messages) i (path ++ [.field k]) = some (.str s) → ¬ v <:+: s
  /-- In the JSON text of a value with such an entry, inside of any string of the messages: the
  entry is written in the text, and wherever it is, what JSON writes for the value is not kept. -/
  text : ∀ k, MasksInText py k → ∀ value p, follow value (p ++ [.field k]) = some (.str v) →
    ∀ ensureAscii messages i path x y,
      valueAt messages i path = some (.str (x ++ (Json.dumps ensureAscii value ++ y))) →
      (∃ A B, Json.dumps ensureAscii value = A ++ entryText ensureAscii k v B) ∧
        ∀ A B, Json.dumps ensureAscii value = A ++ entryText ensureAscii k v B →
          ¬ KeepsWord py messages i path
            (x ++ (A ++ (Json.quote ensureAscii k ++ Str.ofString ": \""))) (jsonText ensureAscii v)
            (34 :: (B ++ y))

/-! ## Entries in JSON text -/

section Texts

variable (ensureAscii : Bool)

/-- The items behind the first one are in the text. -/
lemma exists_dumpsItems {xs : List Json} {i : ℕ} {v : Json} (h : xs[i]? = some v) :
    ∃ A B, Json.dumpsItems ensureAscii xs = A ++ (Json.dumps ensureAscii v ++ B) := by
  induction xs generalizing i with
  | nil => simp at h
  | cons w ws ih =>
    rw [Json.dumpsItems]
    cases i with
    | zero =>
      obtain rfl : w = v := by simpa using h
      exact ⟨_, _, rfl⟩
    | succ i =>
      obtain ⟨A, B, hAB⟩ := ih (i := i) (by simpa using h)
      exact ⟨Str.ofString ", " ++ (Json.dumps ensureAscii w ++ A), B, by rw [hAB]; simp⟩

/-- An entry is in the text of the entries from some entry on. -/
lemma exists_entry {k' k : Str} {w v : Json} {kvs : List (Str × Json)}
    (h : OrderedDict.get? ((k', w) :: kvs) k = some v) :
    ∃ A B, Json.quote ensureAscii k' ++ (Str.ofString ": " ++
        (Json.dumps ensureAscii w ++ Json.dumpsEntries ensureAscii kvs)) =
      A ++ (Json.quote ensureAscii k ++
        (Str.ofString ": " ++ (Json.dumps ensureAscii v ++ B))) := by
  induction kvs generalizing k' w with
  | nil =>
    rw [OrderedDict.get?_cons] at h
    split at h
    next hk =>
      obtain rfl := Option.some_inj.mp h
      subst hk
      exact ⟨[], _, rfl⟩
    next => cases h
  | cons kv kvs ih =>
    obtain ⟨k'', w'⟩ := kv
    rw [OrderedDict.get?_cons] at h
    split at h
    next hk =>
      obtain rfl := Option.some_inj.mp h
      subst hk
      exact ⟨[], _, rfl⟩
    next =>
      obtain ⟨A, B, hAB⟩ := ih h
      refine ⟨Json.quote ensureAscii k' ++ (Str.ofString ": " ++ (Json.dumps ensureAscii w ++
        (Str.ofString ", " ++ A))), B, ?_⟩
      rw [Json.dumpsEntries, hAB]
      simp

/-- The text of an entry is in the text of its object. -/
lemma exists_dumps_field {kvs : List (Str × Json)} {k : Str} {v : Json}
    (h : OrderedDict.get? kvs k = some v) :
    ∃ A B, Json.dumps ensureAscii (.obj kvs) =
      A ++ (Json.quote ensureAscii k ++
        (Str.ofString ": " ++ (Json.dumps ensureAscii v ++ B))) := by
  cases kvs with
  | nil => cases h
  | cons kv kvs =>
    obtain ⟨k', w⟩ := kv
    obtain ⟨A, B, hAB⟩ := exists_entry ensureAscii h
    rw [Json.dumps, hAB]
    exact ⟨Str.ofString "\x7b" ++ A, B, by simp⟩

/-- The text of what is at a path is in the text of the value. -/
lemma exists_dumps_follow {value v : Json} {path : List Step} (h : follow value path = some v) :
    ∃ A B, Json.dumps ensureAscii value = A ++ (Json.dumps ensureAscii v ++ B) := by
  induction path generalizing value with
  | nil =>
    rw [follow_nil] at h
    obtain rfl := Option.some_inj.mp h
    exact ⟨[], [], by simp⟩
  | cons s path ih =>
    cases value with
    | arr xs =>
      cases s with
      | item i =>
        obtain ⟨w, hw, hfollow⟩ := Option.bind_eq_some_iff.mp h
        obtain ⟨A, B, hAB⟩ := ih hfollow
        cases xs with
        | nil => simp at hw
        | cons x xs =>
          rw [Json.dumps]
          cases i with
          | zero =>
            obtain rfl : x = w := by simpa using hw
            exact ⟨Str.ofString "[" ++ A, B ++ Json.dumpsItems ensureAscii xs, by rw [hAB]; simp⟩
          | succ i =>
            have hitem : xs[i]? = some w := by simpa using hw
            obtain ⟨A', B', hAB'⟩ := exists_dumpsItems ensureAscii hitem
            exact ⟨Str.ofString "[" ++ (Json.dumps ensureAscii x ++ (A' ++ A)), B ++ B', by
              rw [hAB', hAB]
              simp⟩
      | field k => cases h
    | obj kvs =>
      cases s with
      | item i => cases h
      | field k =>
        obtain ⟨w, hw, hfollow⟩ := Option.bind_eq_some_iff.mp h
        obtain ⟨A, B, hAB⟩ := ih hfollow
        obtain ⟨A', B', hAB'⟩ := exists_dumps_field ensureAscii hw
        exact ⟨A' ++ (Json.quote ensureAscii k ++ (Str.ofString ": " ++ A)), B ++ B', by
          rw [hAB', hAB]
          simp⟩
    | _ => cases s <;> cases h

/-- **Every entry is written somewhere** in the JSON text of the value that it is in. -/
theorem exists_dumps_entry {value v : Json} {k : Str} {path : List Step}
    (h : follow value (path ++ [.field k]) = some v) :
    ∃ A B, Json.dumps ensureAscii value =
      A ++ (Json.quote ensureAscii k ++
        (Str.ofString ": " ++ (Json.dumps ensureAscii v ++ B))) := by
  rw [follow_append] at h
  obtain ⟨w, hw, hfield⟩ := Option.bind_eq_some_iff.mp h
  obtain ⟨A, B, hAB⟩ := exists_dumps_follow ensureAscii hw
  cases w with
  | obj kvs =>
    obtain ⟨u, hu, huv⟩ := Option.bind_eq_some_iff.mp hfield
    rw [follow_nil] at huv
    obtain rfl := Option.some_inj.mp huv
    obtain ⟨A', B', hAB'⟩ := exists_dumps_field ensureAscii hu
    exact ⟨A ++ A', B' ++ B, by rw [hAB, hAB']; simp⟩
  | _ => cases hfield

end Texts

/-! ## Which values are masked -/

/-- The hexadecimal digits of an escape are characters of values. -/
lemma isValue_hex4 (hu : UnicodeClasses py) (n : ℕ) : ∀ d ∈ Str.hex4 n, isValue py d = true := by
  have hdigit : ∀ d < 16, isAlnum (Str.hexDigit d) = true := by decide
  intro d hd
  simp only [Str.hex4, List.mem_cons, List.not_mem_nil, or_false] at hd
  apply isValue_of_isWord py hu
  apply isWord_of_isAlnum
  rcases hd with rfl | rfl | rfl | rfl <;> exact hdigit _ (Nat.mod_lt _ (by decide))

/-- What JSON writes for a character of a value has the characters of values. -/
lemma isValue_escapeChar (hu : UnicodeClasses py) (ensureAscii : Bool) {c : CodePoint}
    (h : isValue py c = true) : ∀ d ∈ Json.escapeChar ensureAscii c, isValue py d = true := by
  have hunicode : ∀ n, ∀ d ∈ Str.ofString "\\u" ++ Str.hex4 n, isValue py d = true := by
    intro n d hd
    rcases List.mem_append.mp hd with hd | hd
    · rcases List.mem_pair.mp hd with rfl | rfl <;> rfl
    · exact isValue_hex4 py hu n d hd
  intro d hd
  unfold Json.escapeChar at hd
  split_ifs at hd with hquote hslash hn hr ht hb hf hcontrol hascii hbmp
  · rw [hquote] at h
    cases h
  · rcases List.mem_pair.mp hd with rfl | rfl <;> rfl
  · rw [hn] at h
    cases h
  · rw [hr] at h
    cases h
  · rw [ht] at h
    cases h
  · rcases List.mem_pair.mp hd with rfl | rfl <;> rfl
  · rw [hf] at h
    cases h
  · exact hunicode _ d hd
  · exact hunicode _ d hd
  · rcases List.mem_append.mp hd with hd | hd
    · exact hunicode _ d hd
    · exact hunicode _ d hd
  · rwa [List.mem_singleton.mp hd]

lemma isValue_jsonText (hu : UnicodeClasses py) (ensureAscii : Bool) {v : Str}
    (h : ∀ c ∈ v, isValue py c = true) : ∀ c ∈ jsonText ensureAscii v, isValue py c = true := by
  intro d hd
  obtain ⟨c, hc, hcd⟩ := List.mem_flatMap.mp hd
  exact isValue_escapeChar py hu ensureAscii (h c hc) d hcd

/-- Two sides of a position that tests cannot tell apart. -/
def SameSide (a b : Option CodePoint) : Prop := wordAt py a = wordAt py b

/-- The only tests of the patterns are those for word boundaries. -/
lemma respects_redactPatterns : ∀ r ∈ redactPatterns py, Respects (SameSide py) r := by
  have hboundary : Respects (SameSide py) (wordBoundary py) := by
    intro a a' b b' ha hb
    change (wordAt py a != wordAt py b) = (wordAt py a' != wordAt py b')
    rw [show wordAt py a = wordAt py a' from ha, show wordAt py b = wordAt py b' from hb]
  have hassignment : Respects (SameSide py) (assignment py) :=
    ⟨trivial, trivial, trivial, ⟨trivial, trivial⟩, trivial, trivial⟩
  rw [redactPatterns_eq]
  simp only [List.forall_mem_cons, List.not_mem_nil, false_implies, implies_true, and_true]
  refine ⟨?_, ?_, ?_, ?_, ?_, ?_, ?_, ?_, ?_, ?_, ?_⟩
  · exact ⟨respects_lit _ _, trivial, respects_lit _ _, trivial, respects_lit _ _, trivial,
      respects_lit _ _⟩
  · exact ⟨respects_lit _ _, Respects.rep (by trivial) 8, trivial⟩
  · exact ⟨hboundary, ⟨respects_lit _ _, respects_lit _ _⟩, Respects.rep (by trivial) 16, hboundary⟩
  · exact ⟨hboundary, respects_lit _ _, trivial, respects_lit _ _,
      ⟨Respects.rep (by trivial) 20, trivial⟩, hboundary⟩
  · exact ⟨respects_litIgnoreCase _ _, ⟨trivial, trivial⟩, trivial, trivial⟩
  · exact ⟨respects_lit _ _, ⟨trivial, trivial⟩, respects_lit _ _, ⟨trivial, trivial⟩,
      respects_lit _ _, trivial, trivial⟩
  · exact ⟨hboundary, respects_secretName _, hassignment⟩
  · exact ⟨hboundary, trivial, respects_secretPart _, trivial, hassignment⟩
  · exact ⟨respects_lit _ _, ⟨trivial, trivial⟩, respects_lit _ _, ⟨trivial, trivial⟩,
      respects_lit _ _⟩
  · exact ⟨⟨trivial, trivial⟩, respects_lit _ _, ⟨trivial, trivial⟩, respects_lit _ _,
      Respects.rep (by trivial) 2, trivial⟩
  · exact ⟨hboundary, respects_lit _ _, trivial, Respects.rep (by trivial) 9, hboundary⟩

/-- A value in which some pattern occurs is not in its own redaction. -/
lemma not_infix_redact (hu : UnicodeClasses py) {t : Str} (h : HasPattern py t) :
    ¬ t <:+: redact py t := by
  rw [redact_eq]
  exact Mask.not_infix_foldl (beginsForeign_redactPatterns py hu) h

/-- A text in which no pattern occurs is left alone. -/
lemma redact_of_not_hasPattern (hu : UnicodeClasses py) {t : Str} (h : ¬ HasPattern py t) :
    redact py t = t :=
  (redact_eq_self_iff py hu t).mpr fun r hr hoccurs => h ⟨r, hr, hoccurs⟩

/-- A text in which some pattern occurs is not kept between quotes. -/
lemma not_survives_quoted (hu : UnicodeClasses py) {A w B : Str} (h : HasPattern py w) :
    ¬ Survives redactMask (redactPatterns py) (A ++ [34]) w (34 :: B) := by
  rw [← redactBrackets_text]
  refine not_survives (E := SameSide py) (M := redactBrackets) (fun _ => rfl)
    (respects_redactPatterns py)
    (fun r hr => (beginsForeign_redactPatterns py hu r hr).consumes) rfl rfl ?_ rfl h
  rw [after_append]
  rfl

/-! ## A value in the text of an object -/

/-- What the JSON text of an object has before a value under `password`, in front of the quote. -/
def textBefore : Str := Str.ofString "\x7b\"password\": "

/-- What it has behind the value and the quote, if another entry follows. -/
def textBehind : Str := Str.ofString ", \"n\": 0\x7d"

/-- The text with the value in it. -/
def textAround (e : Str) : Str := textBefore ++ [34] ++ (e ++ 34 :: textBehind)

/-- The text with the value in it is the JSON text of an object. -/
lemma dumps_textAround (ensureAscii : Bool) (v : Str) :
    Json.dumps ensureAscii (.obj [("password", .str v), ("n", .int 0)]) =
      textAround (jsonText ensureAscii v) := by
  have hname : Json.quote ensureAscii "password" = Str.ofString "\"password\"" := by
    cases ensureAscii <;> decide
  have hother : Json.quote ensureAscii "n" = Str.ofString "\"n\"" := by
    cases ensureAscii <;> decide
  have hbefore : Str.ofString "\x7b" ++ (Str.ofString "\"password\"" ++ Str.ofString ": ") =
      textBefore := by decide
  have hbehind : Str.ofString ", " ++ (Str.ofString "\"n\"" ++ (Str.ofString ": " ++
      (Str.ofInt 0 ++ Str.ofString "\x7d"))) = textBehind := by decide
  simp only [Json.dumps, Json.dumpsEntries, hname, hother]
  rw [textAround, ← hbefore, ← hbehind]
  simp [Json.quote, jsonText]

/-- A word without quotes in a text that ends in one is in the text before it. -/
lemma infix_of_quote_behind {A u w y : Str} (hw : (34 : CodePoint) ∉ w) (hne : w ≠ [])
    (h : A ++ [34] = u ++ (w ++ y)) : w <:+: A := by
  rcases List.eq_nil_or_concat' y with rfl | ⟨y, d, rfl⟩
  · obtain ⟨w, c, rfl⟩ := (List.eq_nil_or_concat' w).resolve_left hne
    rw [List.append_nil, ← List.append_assoc] at h
    obtain ⟨-, hc⟩ := List.append_inj' h rfl
    obtain rfl := List.singleton_inj.mp hc
    simp at hw
  · rw [← List.append_assoc, ← List.append_assoc] at h
    obtain ⟨hA, -⟩ := List.append_inj' h rfl
    exact ⟨u, y, hA.symm⟩

/-- A word without quotes in a text that begins with one is in the text behind it. -/
lemma infix_of_quote_before {B u w y : Str} (hw : (34 : CodePoint) ∉ w) (hne : w ≠ [])
    (h : 34 :: B = u ++ (w ++ y)) : w <:+: B := by
  cases u with
  | nil =>
    obtain ⟨c, w, rfl⟩ := List.exists_cons_of_ne_nil hne
    obtain ⟨rfl, -⟩ := List.cons_eq_cons.mp h
    exact absurd List.mem_cons_self hw
  | cons c u =>
    rw [List.cons_append] at h
    obtain ⟨-, hB⟩ := List.cons_eq_cons.mp h
    exact ⟨u, y, by rw [hB, List.append_assoc]⟩

/-- A word without quotes that begins behind a text and before the quote behind that text is in the
text. -/
lemma prefix_of_quote_behind {B e w z : Str} (hw : (34 : CodePoint) ∉ w)
    (h : w ++ z = e ++ 34 :: B) : ∃ y, e = w ++ y ∧ z = y ++ 34 :: B := by
  rcases List.append_eq_append_iff.mp h with ⟨y, rfl, hz⟩ | ⟨y, rfl, hy⟩
  · exact ⟨y, rfl, hz⟩
  · cases y with
    | nil => exact ⟨[], by simp, by simpa using hy.symm⟩
    | cons c y =>
      obtain ⟨rfl, -⟩ := List.cons_eq_cons.mp hy
      simp at hw

/-- A word without quotes in a text with quotes around a part of it is in that part, or in one of
the others. -/
lemma inside_of_quotes {A B e u w z : Str} (hw : (34 : CodePoint) ∉ w) (hA : ¬ w <:+: A)
    (hB : ¬ w <:+: B) (h : A ++ [34] ++ (e ++ 34 :: B) = u ++ (w ++ z)) :
    ∃ x y, e = x ++ (w ++ y) ∧ u = A ++ [34] ++ x ∧ z = y ++ 34 :: B := by
  have hne : w ≠ [] := by
    rintro rfl
    exact hA List.nil_infix
  rcases List.append_eq_append_iff.mp h with ⟨x, rfl, hx⟩ | ⟨x, hx, hz⟩
  · rcases List.append_eq_append_iff.mp hx with ⟨y, rfl, hy⟩ | ⟨y, rfl, hy⟩
    · exact absurd (infix_of_quote_before hw hne hy) hB
    · obtain ⟨t, rfl, rfl⟩ := prefix_of_quote_behind hw hy
      exact ⟨x, t, rfl, rfl, rfl⟩
  · rcases List.append_eq_append_iff.mp hz with ⟨y, rfl, -⟩ | ⟨y, rfl, hy⟩
    · exact absurd (infix_of_quote_behind hw hne hx) hA
    · rcases List.eq_nil_or_concat' x with rfl | ⟨x, c, rfl⟩
      · rw [List.append_nil] at hx
        obtain ⟨t, rfl, rfl⟩ := prefix_of_quote_behind hw hy.symm
        exact ⟨[], t, rfl, by rw [List.append_nil, hx], rfl⟩
      · rw [← List.append_assoc] at hx
        obtain ⟨-, hc⟩ := List.append_inj' hx rfl
        obtain rfl := List.singleton_inj.mp hc
        simp at hw

/-- Behind the quote before the value a text begins. -/
lemma sameSide_inside (x : Str) :
    SameSide py (after none (textBefore ++ [34] ++ x)) (after none x) := by
  have hquote : SameSide py (some 34) none := rfl
  rw [after_append, after_append]
  exact after_related (E := SameSide py) (fun _ => rfl) hquote x

/-- What a pattern spells inside of the value it spells in the value alone. -/
lemma occurs_of_inside {r : Regex CodePoint} (hr : r ∈ redactPatterns py) {x w y : Str}
    (h : Spells r (after none (textBefore ++ [34] ++ x)) w (y ++ 34 :: textBehind)) :
    Occurs r (x ++ (w ++ y)) := by
  refine ⟨x, w, y, rfl, h.congr (respects_redactPatterns py r hr) (fun _ => rfl)
    (sameSide_inside py x) ?_⟩
  cases y with
  | nil => rfl
  | cons c y => rfl

/-- A symbol that stands nowhere around the value. -/
def IsElsewhere (c : CodePoint) : Prop := c ∉ textBefore ∧ c ∉ textBehind

instance (c : CodePoint) : Decidable (IsElsewhere c) := inferInstanceAs (Decidable (_ ∧ _))

/-- A word with such a symbol, and without quotes, is inside of the value. -/
lemma inside_of_elsewhere {e u w z : Str} (hw : (34 : CodePoint) ∉ w)
    (helse : ∃ c ∈ w, IsElsewhere c) (h : textAround e = u ++ (w ++ z)) :
    ∃ x y, e = x ++ (w ++ y) ∧ u = textBefore ++ [34] ++ x ∧ z = y ++ 34 :: textBehind := by
  obtain ⟨c, hc, hbefore, hbehind⟩ := helse
  exact inside_of_quotes hw (fun hin => hbefore (hin.subset hc))
    (fun hin => hbehind (hin.subset hc)) h

/-- A pattern without quotes that needs such a symbol occurs in the value. -/
lemma occurs_of_elsewhere {r : Regex CodePoint} (hr : r ∈ redactPatterns py)
    (havoids : Avoids [34, 91, 93] r) (hneeds : Needs IsElsewhere r) {e : Str}
    (h : Occurs r (textAround e)) : Occurs r e := by
  obtain ⟨u, w, z, ht, hw⟩ := h
  obtain ⟨x, y, rfl, rfl, rfl⟩ :=
    inside_of_elsewhere (hw.avoids havoids 34 List.mem_cons_self) (hw.needs hneeds) ht
  exact occurs_of_inside py hr hw

/-- A private key has a space in it. -/
lemma not_occurs_privateKey {e : Str} (he : ∀ c ∈ e, isValue py c = true) :
    ¬ Occurs privateKey (textAround e) := by
  rintro ⟨u, w, z, ht, hw⟩
  obtain ⟨f, m, l, rfl, ⟨k, rfl, hk⟩, -⟩ := (spells_privateKey _ _ _).mp hw
  have hquote : (34 : CodePoint) ∉ Str.ofString "-----BEGIN " := by decide
  have helse : ∃ c ∈ Str.ofString "-----BEGIN ", IsElsewhere c := ⟨45, by decide, by decide⟩
  simp only [List.append_assoc] at ht
  obtain ⟨x, y, rfl, -, -⟩ := inside_of_elsewhere hquote helse ht
  have hspace := he 32 (by simp [show (32 : CodePoint) ∈ Str.ofString "-----BEGIN " by decide])
  cases hspace

/-- A connection string is inside of the value from its `://` to its `@`. -/
lemma occurs_dsnPassword {e : Str} (h : Occurs (dsnPassword py) (textAround e)) :
    Occurs (dsnPassword py) e := by
  obtain ⟨u, w, z, ht, hw⟩ := h
  obtain ⟨v, rfl⟩ := spells_dsnPassword py hw
  have hquote : (34 : CodePoint) ∉ Str.ofString "://" := by decide
  have helse : ∃ c ∈ Str.ofString "://", IsElsewhere c := ⟨47, by decide, by decide⟩
  rw [List.append_assoc] at ht
  obtain ⟨x, y, rfl, rfl, hy⟩ := inside_of_elsewhere hquote helse ht
  have hsymbol : (64 : CodePoint) ∉ 34 :: textBehind := by decide
  rcases List.append_eq_append_iff.mp hy with ⟨t, rfl, rfl⟩ | ⟨t, ht', hz⟩
  · have hoccurs := occurs_of_inside py (r := dsnPassword py) (x := x) (y := t)
      (by simp [redactPatterns_eq]) hw
    simpa using hoccurs
  · rcases List.eq_nil_or_concat' t with rfl | ⟨t, c, rfl⟩
    · obtain rfl : v ++ [64] = y := by simpa using ht'
      obtain rfl : 34 :: textBehind = z := hz
      have hoccurs := occurs_of_inside py (r := dsnPassword py) (x := x) (y := [])
        (by simp [redactPatterns_eq]) hw
      simpa using hoccurs
    · rw [← List.append_assoc] at ht'
      obtain ⟨-, hc⟩ := List.append_inj' ht' rfl
      obtain rfl := List.singleton_inj.mp hc
      exact absurd (hz ▸ by simp) hsymbol

/-- The sign of an assignment around the value has a quote before it. -/
lemma quote_before_sign {s : CodePoint} (hs : isOneOf ":=" s = true) {A X Y : Str}
    (hA : A = textBefore ∨ A = textBehind) (h : A = X ++ s :: Y) : ∃ Z, X = Z ++ [34] := by
  rw [isOneOf_iff, show Str.ofString ":=" = [58, 61] by decide] at hs
  have hcolon : s = 58 := by
    rcases List.mem_pair.mp hs with rfl | rfl
    · rfl
    · have hmem : (61 : CodePoint) ∈ A := by simp [h]
      rcases hA with rfl | rfl
      · exact absurd hmem (by decide)
      · exact absurd hmem (by decide)
  subst hcolon
  rcases hA with rfl | rfl
  · have hsplit : textBefore = Str.ofString "\x7b\"password\"" ++ 58 :: Str.ofString " " := by
      decide
    rw [hsplit, List.append_cons_inj_of_notMem (by decide) (by decide)] at h
    exact ⟨Str.ofString "\x7b\"password", by rw [← h.1]; decide⟩
  · have hsplit : textBehind = Str.ofString ", \"n\"" ++ 58 :: Str.ofString " 0\x7d" := by decide
    rw [hsplit, List.append_cons_inj_of_notMem (by decide) (by decide)] at h
    exact ⟨Str.ofString ", \"n", by rw [← h.1]; decide⟩

/-- A name and its sign are not around the value. -/
lemma not_infix_around {n sp : Str} {s : CodePoint} (hn : IsPlainName py n)
    (hsp : (34 : CodePoint) ∉ sp) (hs : isOneOf ":=" s = true) {A : Str}
    (hA : A = textBefore ∨ A = textBehind) : ¬ n ++ (sp ++ [s]) <:+: A := by
  rintro ⟨X, Y, hXY⟩
  obtain ⟨Z, hZ⟩ := quote_before_sign hs (X := X ++ (n ++ sp)) (Y := Y) hA (by rw [← hXY]; simp)
  have hne : n ++ sp ≠ [] := by
    obtain ⟨c, m, rfl, -⟩ := hn.first
    simp
  obtain ⟨m, c, hm⟩ := (List.eq_nil_or_concat' (n ++ sp)).resolve_left hne
  rw [hm, ← List.append_assoc] at hZ
  obtain ⟨-, hc⟩ := List.append_inj' hZ rfl
  obtain rfl := List.singleton_inj.mp hc
  have hmem : (34 : CodePoint) ∈ n ++ sp := by simp [hm]
  simp [hn.symbols 34 (by decide), hsp] at hmem

/-- Behind the value there are a quote and a comma: no value begins there. -/
lemma no_value_behind {sp q v z : Str} (hsp : ∀ c ∈ sp, isSpace py c = true)
    (hq : q = [] ∨ ∃ c, q = [c] ∧ isOneOf "'\"" c = true) (hne : v ≠ [])
    (hall : ∀ c ∈ v, isValue py c = true) : sp ++ (q ++ (v ++ z)) ≠ 34 :: textBehind := by
  intro h
  obtain ⟨c, v, rfl⟩ := List.exists_cons_of_ne_nil hne
  have hc := hall c List.mem_cons_self
  cases sp with
  | cons d sp =>
    obtain ⟨rfl, -⟩ := List.cons_eq_cons.mp h
    have hd := hsp 34 List.mem_cons_self
    cases hd
  | nil =>
    rcases hq with rfl | ⟨d, rfl, -⟩
    · obtain ⟨rfl, -⟩ := List.cons_eq_cons.mp h
      cases hc
    · obtain ⟨-, hbehind⟩ := List.cons_eq_cons.mp h
      have hcomma : textBehind = 44 :: Str.ofString " \"n\": 0\x7d" := by decide
      rw [hcomma] at hbehind
      obtain ⟨rfl, -⟩ := List.cons_eq_cons.mp hbehind
      cases hc

/-- An assignment whose name and sign are in the value has its own value there. -/
lemma occurs_assigns {IsName : Str → Prop} (hplain : ∀ n, IsName n → IsPlainName py n)
    {r : Regex CodePoint} (hr : ∀ a w rest, Spells r a w rest ↔ Assigns py IsName a w) {e : Str}
    (he : ∀ c ∈ e, isValue py c = true) (h : Occurs r (textAround e)) : Occurs r e := by
  obtain ⟨u, w, z, ht, hw⟩ := h
  obtain ⟨n, gap, v, rfl, hn, hleft, ⟨sp, s, sp', q, rfl, hsp, hs, hsp', hq⟩, hne, hall⟩ :=
    (hr _ _ _).mp hw
  have hspace : (34 : CodePoint) ∉ sp := not_mem_of_class rfl hsp
  have hsign : (34 : CodePoint) ≠ s := by
    rintro rfl
    cases hs
  have hquote : (34 : CodePoint) ∉ n ++ (sp ++ [s]) := by
    simp [(hplain n hn).symbols 34 (by decide), hspace, hsign]
  have ht' : textBefore ++ [34] ++ (e ++ 34 :: textBehind) =
      u ++ ((n ++ (sp ++ [s])) ++ (sp' ++ (q ++ (v ++ z)))) := by
    rw [← textAround, ht]
    simp
  obtain ⟨x, y, rfl, rfl, hy⟩ := inside_of_quotes hquote
    (not_infix_around py (hplain n hn) hspace hs (.inl rfl))
    (not_infix_around py (hplain n hn) hspace hs (.inr rfl)) ht'
  cases y with
  | nil => exact absurd hy (no_value_behind py hsp' hq hne hall)
  | cons c y =>
    refine ⟨x, n ++ ((sp ++ [s]) ++ [c]), y, by simp, (hr _ _ _).mpr
      ⟨n, sp ++ [s], [c], rfl, hn, (sameSide_inside py x).symm.trans hleft,
        ⟨sp, s, [], [], by simp, hsp, hs, by simp, .inl rfl⟩, by simp,
        by simpa using he c (by simp)⟩⟩

/-- **No pattern occurs around the value** if none occurs in it. -/
theorem not_hasPattern_textAround (hu : UnicodeClasses py) {e : Str}
    (he : ∀ c ∈ e, isValue py c = true) (h : ¬ HasPattern py e) :
    ¬ HasPattern py (textAround e) := by
  rintro ⟨r, hr, hoccurs⟩
  apply h
  refine ⟨r, hr, ?_⟩
  have hmem := hr
  rw [redactPatterns_eq] at hmem
  simp only [List.mem_cons, List.not_mem_nil, or_false] at hmem
  rcases hmem with rfl | rfl | rfl | rfl | rfl | rfl | rfl | rfl | rfl | rfl | rfl
  · exact absurd hoccurs (not_occurs_privateKey py he)
  · exact occurs_of_elsewhere py hr avoids_apiKey (needs_apiKey (by decide)) hoccurs
  · exact occurs_of_elsewhere py hr (avoids_awsAccessKeyId py) (needs_awsAccessKeyId py (by decide))
      hoccurs
  · exact occurs_of_elsewhere py hr (avoids_githubToken py) (needs_githubToken py (by decide))
      hoccurs
  · exact occurs_of_elsewhere py hr (avoids_bearerToken py)
      (needs_bearerToken py (by decide) (by decide)) hoccurs
  · exact occurs_of_elsewhere py hr avoids_jsonWebToken (needs_jsonWebToken (by decide)) hoccurs
  · exact occurs_assigns py (fun n hn => hn.isPlainName py hu) (spells_namedSecret py hu) he hoccurs
  · exact occurs_assigns py (fun n hn => hn.isPlainName py hu) (spells_environmentSecret py hu) he
      hoccurs
  · exact occurs_dsnPassword py hoccurs
  · exact occurs_of_elsewhere py hr avoids_emailAddress (needs_emailAddress (by decide)) hoccurs
  · exact occurs_of_elsewhere py hr (avoids_mobileNumber py) (needs_mobileNumber py (by decide))
      hoccurs

/-! ## The names for whose sake text is masked -/

section Names

variable {k : Str}

/-- The characters of a name, and its length. -/
lemma IsSecretName.short (h : IsSecretName k) :
    (∀ c ∈ k, isWordIgnoreCase c = true ∨ c = 45) ∧ k.length ≤ 8 := by
  have hliteral : ∀ s ∈ ["api", "key", "secret", "token", "password"],
      (Str.ofString s).all (fun l => isLower l || l = 95) = true := by decide
  have hword : ∀ s ∈ ["secret", "token", "password"], ∀ {w : Str},
      List.Forall₂ (fun l c => sameLetter l c = true) (Str.ofString s) w →
        (∀ c ∈ w, isWordIgnoreCase c = true ∨ c = 45) ∧ w.length ≤ 8 := by
    intro s hs w hw
    have hlength : ∀ s ∈ ["secret", "token", "password"], (Str.ofString s).length ≤ 8 := by decide
    refine ⟨fun c hc => .inl ?_, hw.length_eq ▸ hlength s hs⟩
    exact isWordIgnoreCase_of_mem_literal (hliteral s (by simp at hs ⊢; tauto)) hw c hc
  rcases h with ⟨u, _, rfl, hu, g, v, rfl, hg, hv⟩ | h | h | h
  · -- `api`, at most one character of `_-`, and `key`
    rw [spells_litIgnoreCase] at hu
    rw [spells_cat_singleton, spells_litIgnoreCase] at hv
    have hlu : u.length = 3 := hu.length_eq.symm
    have hlv : v.length = 3 := hv.length_eq.symm
    have hg' : (∀ c ∈ g, isWordIgnoreCase c = true ∨ c = 45) ∧ g.length ≤ 1 := by
      rcases hg with ⟨c, rfl, hc⟩ | rfl
      · rw [isOneOf_iff, show Str.ofString "_-" = [95, 45] by decide] at hc
        rcases List.mem_pair.mp hc with rfl | rfl
        · exact ⟨by simp [isWordIgnoreCase], by simp⟩
        · exact ⟨by simp, by simp⟩
      · simp
    refine ⟨?_, by simp only [List.length_append]; omega⟩
    simp only [List.forall_mem_append]
    refine ⟨fun c hc => .inl ?_, hg'.1, fun c hc => .inl ?_⟩
    · exact isWordIgnoreCase_of_mem_literal (hliteral "api" (by simp)) hu c hc
    · exact isWordIgnoreCase_of_mem_literal (hliteral "key" (by simp)) hv c hc
  · exact hword "secret" (by simp) ((spells_litIgnoreCase _ none k []).mp h)
  · exact hword "token" (by simp) ((spells_litIgnoreCase _ none k []).mp h)
  · exact hword "password" (by simp) ((spells_litIgnoreCase _ none k []).mp h)

/-- A name and its sign have no white space, no dot and no colon in them. -/
lemma not_mem_of_isSecret (hu : UnicodeClasses py)
    (h : ∀ c ∈ k, isWordIgnoreCase c = true ∨ c = 45) {c : CodePoint} (hc : c ∈ k ++ [61]) :
    isSpace py c = false ∧ c ≠ 46 ∧ c ≠ 58 := by
  rcases List.mem_append.mp hc with hc | hc
  · rcases h c hc with hword | rfl
    · refine ⟨?_, ?_, ?_⟩
      · by_contra hspace
        rw [Bool.not_eq_false] at hspace
        have hnot := not_isWord_of_isSpace py hu hspace
        rw [isWord_of_isWordIgnoreCase py hu hword] at hnot
        cases hnot
      all_goals
        rintro rfl
        cases hword
    · exact ⟨rfl, by decide, by decide⟩
  · obtain rfl := List.mem_singleton.mp hc
    exact ⟨rfl, by decide, by decide⟩

/-- There is no sign in a name. -/
lemma sign_not_mem (h : ∀ c ∈ k, isWordIgnoreCase c = true ∨ c = 45) : (61 : CodePoint) ∉ k := by
  intro hmem
  rcases h 61 hmem with hword | heq
  · cases hword
  · cases heq

/-- An assignment does not end with its sign, so that none lies in a name and its sign. -/
lemma spares_assigns {IsName : Str → Prop} {r : Regex CodePoint} {v : Str}
    (hu : UnicodeClasses py) (hr : ∀ a w rest, Spells r a w rest ↔ Assigns py IsName a w)
    (h : ∀ c ∈ k, isWordIgnoreCase c = true ∨ c = 45) : Spares r (k ++ [61]) v := by
  rintro x m y heq hm
  obtain ⟨n, gap, w, rfl, -, -, ⟨sp, s, sp', q, rfl, -, hs, -, -⟩, hne, -⟩ := (hr _ _ _).mp hm
  rw [isOneOf_iff, show Str.ofString ":=" = [58, 61] by decide] at hs
  have hmem : s ∈ k ++ [61] := by
    rw [heq]
    simp
  rcases List.mem_pair.mp hs with rfl | rfl
  · exact (not_mem_of_isSecret py hu h hmem).2.2 rfl
  · have hsplit : k ++ 61 :: [] = (x ++ (n ++ sp)) ++ 61 :: (sp' ++ (q ++ (w ++ y))) := by
      rw [heq]
      simp
    rw [List.append_cons_inj_of_notMem (sign_not_mem h) (by simp)] at hsplit
    have hnil := hsplit.2.2
    simp [hne] at hnil

/-- A word between boundaries in a name of word characters and its sign is the whole name. -/
lemma spares_bounded {IsWord : Str → Prop} {r : Regex CodePoint} {v : Str}
    (hr : ∀ a w rest, Spells r a w rest →
      IsWord w ∧ wordAt py a = false ∧ wordAt py rest.head? = false)
    (hword : ∀ w, IsWord w → IsWordLike py w) (hk : ∀ c ∈ k, isWord py c = true)
    (hnot : ¬ IsWord k) : Spares r (k ++ [61]) v := by
  rintro x m y heq hspells
  obtain ⟨hm, hleft, hright⟩ := hr _ _ _ hspells
  obtain ⟨c, m', hlast, hc⟩ := (hword m hm).last
  rcases List.eq_nil_or_concat' y with rfl | ⟨y, d, rfl⟩
  · -- the word would end with the sign
    rw [List.append_nil, hlast, ← List.append_assoc] at heq
    obtain ⟨-, hsign⟩ := List.append_inj' heq rfl
    obtain rfl := List.singleton_inj.mp hsign
    cases hc
  · rw [← List.append_assoc, ← List.append_assoc] at heq
    obtain ⟨rfl, -⟩ := List.append_inj' heq rfl
    have hx : x = [] := by
      rcases List.eq_nil_or_concat' x with hx | ⟨x, e, rfl⟩
      · exact hx
      · rw [after_append] at hleft
        exact absurd (hk e (by simp)) (by simpa using hleft)
    have hy : y = [] := by
      cases y with
      | nil => rfl
      | cons e y => exact absurd (hk e (by simp)) (by simpa using hright)
    subst hx hy
    simp only [List.nil_append, List.append_nil] at hnot
    exact hnot hm

/-- The words of the pattern for API keys have eleven characters at least. -/
lemma length_of_apiKey {a : Option CodePoint} {w rest : Str} (h : Spells apiKey a w rest) :
    11 ≤ w.length := by
  unfold apiKey at h
  obtain ⟨u, v, rfl, hu, hv⟩ := h
  rw [spells_lit] at hu
  obtain ⟨hlength, -⟩ := (spells_atLeast_cls _ _ _ _ _).mp hv
  have hlu : u.length = 3 := by rw [hu]; rfl
  rw [List.length_append]
  omega

/-- Access key ids have twenty characters, tokens of GitHub twenty-four at least. -/
lemma IsAccessKeyId.length_eq {w : Str} (h : IsAccessKeyId w) : w.length = 20 := by
  obtain ⟨v, rfl | rfl, hlength, -⟩ := h
  · rw [List.length_append, hlength]
    rfl
  · rw [List.length_append, hlength]
    rfl

lemma IsGithubToken.le_length {w : Str} (h : IsGithubToken w) : 24 ≤ w.length := by
  obtain ⟨c, v, rfl, -, hlength, -⟩ := h
  have hgh : (Str.ofString "gh").length = 2 := rfl
  have hunderscore : (Str.ofString "_").length = 1 := rfl
  simp only [List.length_append, List.length_cons]
  omega

/-- The patterns before the ones for named secrets spell nothing in a name and its sign. -/
lemma spares_before (hu : UnicodeClasses py) (hk : IsSecretName k ∨ IsSecretVariable k)
    (haws : ¬ IsAccessKeyId k) (hgithub : ¬ IsGithubToken k) (v : Str) :
    ∀ r ∈ [privateKey, apiKey, awsAccessKeyId py, githubToken py, bearerToken py, jsonWebToken],
      Spares r (k ++ [61]) v := by
  have hchars : ∀ c ∈ k, isWordIgnoreCase c = true ∨ c = 45 :=
    hk.elim (fun h => h.short.1) fun h c hc => .inl (h.isWord c hc)
  have hsymbols := fun {c} => not_mem_of_isSecret py hu hchars (c := c)
  have hwords : IsSecretVariable k → ∀ c ∈ k, isWord py c = true := fun h c hc =>
    isWord_of_isWordIgnoreCase py hu (h.isWord c hc)
  have hshort : IsSecretName k → (k ++ [61]).length ≤ 9 := by
    intro h
    have hlength := h.short.2
    simp only [List.length_append, List.length_cons, List.length_nil]
    omega
  simp only [List.forall_mem_cons, List.not_mem_nil, false_implies, implies_true, and_true]
  refine ⟨?_, ?_, ?_, ?_, ?_, ?_⟩
  · refine spares_of_needs (needs_privateKey fun hc => ?_)
    cases (hsymbols hc).1
  · rcases hk with hk | hk
    · refine spares_of_length fun a w rest hw => ?_
      have hlength := length_of_apiKey hw
      have hle := hshort hk
      omega
    · refine spares_of_needs (needs_apiKey fun hc => ?_)
      rcases List.mem_append.mp hc with hc | hc
      · cases hk.isWord _ hc
      · cases List.mem_singleton.mp hc
  · rcases hk with hk | hk
    · refine spares_of_length fun a w rest hw => ?_
      have hlength := ((spells_awsAccessKeyId py _ _ _).mp hw).1.length_eq
      have hle := hshort hk
      omega
    · exact spares_bounded py (fun a w rest => (spells_awsAccessKeyId py a w rest).mp)
        (fun w hw => hw.isWordLike py) (hwords hk) haws
  · rcases hk with hk | hk
    · refine spares_of_length fun a w rest hw => ?_
      have hlength := ((spells_githubToken py _ _ _).mp hw).1.le_length
      have hle := hshort hk
      omega
    · exact spares_bounded py (fun a w rest => (spells_githubToken py a w rest).mp)
        (fun w hw => hw.isWordLike py) (hwords hk) hgithub
  · -- a bearer token has white space behind its first word
    refine spares_of_needs (.inr (.inl (.inl fun c hspace hc => ?_)))
    rw [(hsymbols hc).1] at hspace
    cases hspace
  · -- a token of three parts has dots between them
    have hdot : (46 : CodePoint) ∈ Str.ofString "." := by decide
    exact spares_of_needs (.inr (.inr (.inl (needs_lit hdot fun hc => (hsymbols hc).2.1 rfl))))

/-- **Flat text is masked for the sake of the names** of secrets and of their variables: the
patterns before those for named secrets do not touch the name, unless it is an access key id or a
token itself, and one of those cuts it together with the value. -/
theorem masksInText_of_isSecret (hu : UnicodeClasses py)
    (hk : IsSecretName k ∨ IsSecretVariable k) (haws : ¬ IsAccessKeyId k)
    (hgithub : ¬ IsGithubToken k) : MasksInText py k := by
  intro v hv h
  have hchars : ∀ c ∈ k, isWordIgnoreCase c = true ∨ c = 45 :=
    hk.elim (fun h => h.short.1) fun h c hc => .inl (h.isWord c hc)
  have hgap : IsGap py (Str.ofString "=") :=
    ⟨[], 61, [], [], by decide, by simp, by decide, by simp, .inl rfl⟩
  have hconsumes : ∀ r ∈ redactPatterns py, Consumes r := fun r hr =>
    (beginsForeign_redactPatterns py hu r hr).consumes
  have hoccurs : ∀ {IsName : Str → Prop} {r : Regex CodePoint},
      (∀ a w rest, Spells r a w rest ↔ Assigns py IsName a w) → IsName k →
        Occurs r (k ++ Str.ofString "=" ++ v) := fun hr hname =>
    ⟨[], k ++ (Str.ofString "=" ++ v), [], by simp,
      (hr _ _ _).mpr ⟨k, _, v, rfl, hname, rfl, hgap, hv.1, hv.2⟩⟩
  rw [redactPatterns_eq] at h
  have hspares := spares_before py hu hk haws hgithub v
  simp only [List.forall_mem_cons, List.not_mem_nil, false_implies, implies_true, and_true]
    at hspares
  obtain ⟨h₁, h₂, h₃, h₄, h₅, h₆⟩ := hspares
  obtain ⟨-, h⟩ := h.of_spares h₁
  obtain ⟨-, h⟩ := h.of_spares h₂
  obtain ⟨-, h⟩ := h.of_spares h₃
  obtain ⟨-, h⟩ := h.of_spares h₄
  obtain ⟨-, h⟩ := h.of_spares h₅
  obtain ⟨-, h⟩ := h.of_spares h₆
  obtain ⟨hnamed, h⟩ := h.of_spares (spares_assigns py hu (spells_namedSecret py hu) hchars)
  rcases hk with hk | hk
  · exact hnamed.not_occurs (hconsumes _ (by simp [redactPatterns_eq]))
      (hoccurs (spells_namedSecret py hu) hk)
  · obtain ⟨hvariable, -⟩ :=
      h.of_spares (spares_assigns py hu (spells_environmentSecret py hu) hchars)
    exact hvariable.not_occurs (hconsumes _ (by simp [redactPatterns_eq]))
      (hoccurs (spells_environmentSecret py hu) hk)

end Names

/-- `password` is a name that the pattern for named secrets knows. -/
lemma isSecretName_password : IsSecretName "password" := by
  refine .inr (.inr (.inr ?_))
  change Spells (litIgnoreCase "password") none (Str.ofString "password") []
  rw [spells_litIgnoreCase]
  exact List.forall₂_same.mpr (List.all_eq_true.mp (by decide))

/-- Flat text is masked for the sake of the name `password`. -/
lemma masksInText_password (hu : UnicodeClasses py) : MasksInText py "password" := by
  have hlength : (Str.ofString "password").length = 8 := by decide
  refine masksInText_of_isSecret py hu (.inl isSecretName_password) (fun h => ?_) fun h => ?_
  · have heq := h.length_eq
    omega
  · have hle := h.le_length
    omega

/-! ## The values that are masked in every shape -/

/-- The value at the only place of a message with one entry. -/
lemma valueAt_single (k : Str) (v : Json) : valueAt [[(k, v)]] 0 [.field k] = some v := by
  simp [valueAt, follow]

/-- **Named secrets in nested values.** A value that flat text can name is masked in every shape, as
an entry of an object and in JSON text, if and only if some pattern occurs in the value itself, and
in what JSON writes for it: the name of the entry does not matter. -/
theorem maskedEverywhere_iff (hu : UnicodeClasses py) {v : Str} (hv : IsPlainValue py v) :
    MaskedEverywhere py v ↔
      HasPattern py v ∧ ∀ ensureAscii, HasPattern py (jsonText ensureAscii v) := by
  constructor
  · intro h
    constructor
    · by_contra hnot
      have hplace := valueAt_single "password" (.str v)
      refine h.entry _ (masksInText_password py hu) _ 0 [] hplace v ?_ (List.infix_refl v)
      rw [valueAt_redactMessages, List.nil_append, hplace]
      simp [redactValue, redact_of_not_hasPattern py hu hnot]
    · intro ensureAscii
      by_contra hnot
      have hnone := not_hasPattern_textAround py hu (isValue_jsonText py hu ensureAscii hv.2) hnot
      have hplace := valueAt_single "arguments" (.str (textAround (jsonText ensureAscii v)))
      have hbefore : [] ++ (Str.ofString "\x7b" ++ (Json.quote ensureAscii "password" ++
          Str.ofString ": \"")) = textBefore ++ [34] := by
        cases ensureAscii <;> decide
      refine (h.text _ (masksInText_password py hu)
        (.obj [("password", .str v), ("n", .int 0)]) [] (by simp [follow]) ensureAscii
        [[("arguments", .str (textAround (jsonText ensureAscii v)))]] 0 [.field "arguments"]
        [] [] ?_).2 (Str.ofString "\x7b") textBehind ?_ ?_
      · rw [hplace, dumps_textAround]
        simp
      · rw [dumps_textAround, textAround, ← hbefore, entryText, show Str.ofString ": \"" =
          Str.ofString ": " ++ [34] by decide]
        simp [Json.quote, jsonText]
      · refine ⟨textBefore ++ [34], 34 :: textBehind, ?_, ?_⟩
        · rw [valueAt_redactMessages, hplace, ← textAround, Option.map_some, redactValue,
            redact_of_not_hasPattern py hu hnone]
        · rw [hbefore, List.append_nil]
          exact survives_of_not_occurs fun r hr hoccurs => hnone ⟨r, hr, hoccurs⟩
  · rintro ⟨hentry, htext⟩
    constructor
    · intro k _ messages i path hplace s hs
      rw [valueAt_redactMessages, hplace] at hs
      obtain rfl : redact py v = s := by simpa [redactValue] using hs
      exact not_infix_redact py hu hentry
    · intro k _ value p hentryAt ensureAscii messages i path x y _
      refine ⟨exists_dumps_entry ensureAscii hentryAt, fun A B _ hkeeps => ?_⟩
      obtain ⟨A', B', -, hsurvives⟩ := hkeeps
      rw [show Str.ofString ": \"" = Str.ofString ": " ++ [34] by decide, ← List.append_assoc,
        ← List.append_assoc, ← List.append_assoc] at hsurvives
      exact not_survives_quoted py hu (htext ensureAscii) hsurvives

/-- A text of value characters is a plain value. -/
lemma isPlainValue_of_all {v : Str} (hne : v ≠ []) (h : v.all (isValue py) = true) :
    IsPlainValue py v := ⟨hne, List.all_eq_true.mp h⟩

/-- A mobile number is a pattern of its own. -/
lemma hasPattern_phone : HasPattern Runtime.letters "13800138000" := by
  refine ⟨mobileNumber Runtime.letters, by simp [redactPatterns_eq], [], "13800138000", [],
    by simp, ?_⟩
  refine (spells_mobileNumber _ unicodeClasses_letters _ _ _).mpr ⟨?_, rfl, rfl⟩
  exact ⟨51, "800138000", by decide, by decide, by decide, List.all_eq_true.mp (by decide)⟩

/-- A mobile number as a password is masked in every shape. -/
theorem maskedEverywhere_phone : MaskedEverywhere Runtime.letters "13800138000" := by
  have hvalue : IsPlainValue Runtime.letters "13800138000" :=
    isPlainValue_of_all _ (by decide) (by decide)
  refine (maskedEverywhere_iff _ unicodeClasses_letters hvalue).mpr ⟨hasPattern_phone, ?_⟩
  intro ensureAscii
  have htext : jsonText ensureAscii "13800138000" = Str.ofString "13800138000" := by
    cases ensureAscii <;> decide
  rw [htext]
  exact hasPattern_phone

/-- **A named secret that is kept.** `hunter2` is masked in flat text for the sake of its name. It
is kept in an entry with that name, and in the JSON text of the object. -/
theorem hunter2_kept :
    redact Runtime.letters "password=hunter2" = Str.ofString "[REDACTED]" ∧
      redact Runtime.letters "\x7b\"password\": \"hunter2\"\x7d" =
        Str.ofString "\x7b\"password\": \"hunter2\"\x7d" ∧
      ¬ ∀ v, IsPlainValue Runtime.letters v → MaskedEverywhere Runtime.letters v := by
  refine ⟨by decide +kernel, by decide +kernel, fun h => ?_⟩
  have hvalue : IsPlainValue Runtime.letters "hunter2" :=
    isPlainValue_of_all _ (by decide) (by decide)
  have hplace : valueAt [[("input", .obj [("password", .str "hunter2")])]] 0
      ([.field "input"] ++ [.field "password"]) = some (.str "hunter2") := by
    simp [valueAt, follow]
  have hkept : redact Runtime.letters "hunter2" = Str.ofString "hunter2" := by decide +kernel
  refine (h _ hvalue).entry _ (masksInText_password _ unicodeClasses_letters) _ _ _ hplace
    "hunter2" ?_ (List.infix_refl _)
  rw [valueAt_redactMessages, hplace, Option.map_some, redactValue, hkept]

end AgentCtl
