import AgentCtl.Library.Substitution
import AgentCtl.Store.Redaction

set_option relaxedAutoImplicit false
set_option autoImplicit false

/-!
# The patterns of the redaction

The patterns of `_PATTERNS` one by one: the words that each spells, what of a word cannot be a part
of the mask, and what a pass leaves next to the words that it cuts.

## Main definitions

* `AgentCtl.privateKey`, …, `AgentCtl.mobileNumber` — the patterns, by name.
* `AgentCtl.redactBrackets` — the mask, with its brackets.
* `AgentCtl.UnicodeClasses` — what the character classes have in common outside ASCII.

## Main results

* `AgentCtl.redactPatterns_eq` — the names are those of `redactPatterns`.
* `AgentCtl.beginsForeign_redactPatterns` — every word that a pattern spells begins with one that
  no mask is a part of.
-/

namespace AgentCtl

open Regex

variable (py : Runtime)

/-! ## The patterns by name -/

/-- The block of a private key. -/
def privateKey : Regex CodePoint :=
  let upperSpace := star true (cls fun c => isUpper c || c = 32)
  cat [lit "-----BEGIN ", upperSpace, lit "PRIVATE KEY-----", star false (cls fun _ => true),
    lit "-----END ", upperSpace, lit "PRIVATE KEY-----"]

/-- An API key. -/
def apiKey : Regex CodePoint :=
  seq (lit "sk-") (atLeast (cls fun c => isAlnum c || isOneOf "-_" c) 8)

/-- An AWS access key id. -/
def awsAccessKeyId : Regex CodePoint :=
  cat [wordBoundary py, alt (lit "AKIA") (lit "ASIA"),
    rep (cls fun c => isUpper c || isDecimal c) 16,
    wordBoundary py]

/-- A GitHub token. -/
def githubToken : Regex CodePoint :=
  cat [wordBoundary py, lit "gh", cls (isOneOf "pousr"), lit "_",
    atLeast (cls fun c => isAlnum c || c = 95) 20, wordBoundary py]

/-- A bearer token. -/
def bearerToken : Regex CodePoint :=
  cat [litIgnoreCase "bearer", plus (cls (isSpace py)), plus (cls isTokenIgnoreCase)]

/-- A JWT. -/
def jsonWebToken : Regex CodePoint :=
  cat [lit "eyJ", tokenPart, lit ".", tokenPart, lit ".", tokenPart]

/-- The names that `namedSecret` knows. -/
def secretName : Regex CodePoint :=
  oneOf (cat [litIgnoreCase "api", opt (cls (isOneOf "_-")), litIgnoreCase "key"])
    [litIgnoreCase "secret", litIgnoreCase "token", litIgnoreCase "password"]

/-- The value of a named secret. -/
def namedSecret : Regex CodePoint := cat [wordBoundary py, secretName, assignment py]

/-- The parts of a name that `environmentSecret` knows. -/
def secretPart : Regex CodePoint :=
  oneOf (litIgnoreCase "api_key")
    [litIgnoreCase "secret", litIgnoreCase "token", litIgnoreCase "password"]

/-- The value of a variable of the environment. -/
def environmentSecret : Regex CodePoint :=
  cat [wordBoundary py, star true (cls isWordIgnoreCase), secretPart,
    star true (cls isWordIgnoreCase), assignment py]

/-- The password of a connection string, and what stands around it. -/
def dsnPassword : Regex CodePoint :=
  cat [lit "://", plus (cls fun c => !(isOneOf ":/@" c || isSpace py c)), lit ":",
    plus (cls fun c => !(isOneOf "@/" c || isSpace py c)), lit "@"]

/-- An e-mail address. -/
def emailAddress : Regex CodePoint :=
  cat [plus (cls fun c => isAlnum c || isOneOf "._%+-" c), lit "@",
    plus (cls fun c => isAlnum c || isOneOf ".-" c), lit ".",
    atLeast (cls fun c => isUpper c || isLower c) 2]

/-- A mobile number. -/
def mobileNumber : Regex CodePoint :=
  cat [wordBoundary py, lit "1", cls (isOneOf "3456789"), rep (cls (isUnicodeDigit py)) 9,
    wordBoundary py]

/-- These are the patterns, in their order. -/
lemma redactPatterns_eq :
    redactPatterns py = [privateKey, apiKey, awsAccessKeyId py, githubToken py, bearerToken py,
      jsonWebToken, namedSecret py, environmentSecret py, dsnPassword py, emailAddress,
      mobileNumber py] := rfl

/-- The mask, with its brackets. -/
def redactBrackets : Mask CodePoint := ⟨91, "REDACTED", 93⟩

lemma redactBrackets_text : redactBrackets.text = redactMask := by decide

/-! ## Character classes -/

/-- What the character classes of regular expressions have in common outside ASCII: a digit is a
word character, a space is none, and the letters that equal an ASCII letter in some case are. -/
structure UnicodeClasses : Prop where
  /-- `\d` is a part of `\w`. -/
  digit : ∀ c, py.isDigit c = true → py.isWord c = true
  /-- `\s` and `\w` have no character in common. -/
  space : ∀ c, py.isSpace c = true → py.isWord c = false
  /-- The letters `İ`, `ı`, `ſ` and the Kelvin sign are word characters. -/
  letters : ∀ c ∈ ([0x130, 0x131, 0x17F, 0x212A] : List CodePoint), py.isWord c = true

/-- The run time for concrete runs, with those four letters. -/
def Runtime.letters : Runtime :=
  { Runtime.plain with isWord := fun c => List.elem c [0x130, 0x131, 0x17F, 0x212A] }

/-- It has what the classes have in common. -/
lemma unicodeClasses_letters : UnicodeClasses Runtime.letters where
  digit := by
    intro c h
    cases h
  space := by
    intro c h
    cases h
  letters := fun _ hc => List.elem_iff.mpr hc

/-- Is there a word character on this side of a position? -/
def wordAt (a : Option CodePoint) : Bool := (a.map (isWord py)).getD false

@[simp] lemma wordAt_none : wordAt py none = false := rfl

@[simp] lemma wordAt_some (c : CodePoint) : wordAt py (some c) = isWord py c := rfl

/-- A word boundary has a word character on one side only. -/
lemma spells_wordBoundary (a : Option CodePoint) (w rest : Str) :
    Spells (wordBoundary py) a w rest ↔ w = [] ∧ wordAt py a ≠ wordAt py rest.head? := by
  unfold wordBoundary wordAt
  rw [spells_look, bne_iff_ne]

/-- The characters of a literal class. -/
lemma isOneOf_iff (s : String) (c : CodePoint) : isOneOf s c = true ↔ c ∈ Str.ofString s := by
  unfold isOneOf
  exact List.elem_iff

lemma isAlnum_iff (c : CodePoint) : isAlnum c = true ↔
    (65 ≤ c.val ∧ c.val ≤ 90) ∨ (97 ≤ c.val ∧ c.val ≤ 122) ∨ (48 ≤ c.val ∧ c.val ≤ 57) := by
  simp [isAlnum, isUpper, isLower, isDecimal, inRange, or_assoc]

/-- ASCII letters and digits are word characters. -/
lemma isWord_of_isAlnum {c : CodePoint} (h : isAlnum c = true) : isWord py c = true := by
  have hlt : c.val < 128 := by
    rw [isAlnum_iff] at h
    omega
  simp [isWord, hlt, h]

lemma isWordIgnoreCase_iff (c : CodePoint) : isWordIgnoreCase c = true ↔
    isAlnum c = true ∨ c.val = 95 ∨ c ∈ ([0x130, 0x131, 0x17F, 0x212A] : List CodePoint) := by
  simp [isWordIgnoreCase, or_assoc, Fin.ext_iff]

/-- The characters that names of variables are made of are word characters. -/
lemma isWord_of_isWordIgnoreCase (hu : UnicodeClasses py) {c : CodePoint}
    (h : isWordIgnoreCase c = true) : isWord py c = true := by
  rcases (isWordIgnoreCase_iff c).mp h with h | h | h
  · exact isWord_of_isAlnum py h
  · simp [isWord, h, Fin.ext_iff]
  · have hge : ¬ c.val < 128 := by
      simp only [List.mem_cons, List.not_mem_nil, or_false] at h
      rcases h with rfl | rfl | rfl | rfl <;> decide
    rw [isWord, if_neg hge]
    exact hu.letters c h

/-- Characters that equal a lower-case letter in some case occur in names of variables. -/
lemma isWordIgnoreCase_of_sameLetter {l c : CodePoint} (hl : isLower l = true)
    (h : sameLetter l c = true) : isWordIgnoreCase c = true := by
  rw [isWordIgnoreCase_iff]
  simp only [sameLetter, Bool.or_eq_true, Bool.and_eq_true, decide_eq_true_eq, isLower,
    inRange] at h hl
  rcases h with (((rfl | ⟨-, h⟩) | ⟨-, rfl | rfl⟩) | ⟨-, rfl⟩) | ⟨-, rfl⟩
  · left
    rw [isAlnum_iff]
    omega
  · left
    rw [isAlnum_iff]
    omega
  all_goals exact .inr (.inr (by decide))

/-- An ASCII letter. -/
def isLetter (c : CodePoint) : Bool := isUpper c || isLower c

lemma isAlnum_of_isLetter {c : CodePoint} (h : isLetter c = true) : isAlnum c = true := by
  unfold isLetter at h
  simp [isAlnum, h]

/-- Most letters equal ASCII letters only. -/
lemma isLetter_of_sameLetter {l c : CodePoint}
    (hl : (isLower l && l != 105 && l != 115 && l != 107) = true) (h : sameLetter l c = true) :
    isLetter c = true := by
  simp only [Bool.and_eq_true, bne_iff_ne, ne_eq] at hl
  obtain ⟨⟨⟨hl, hi⟩, hs⟩, hk⟩ := hl
  simp only [sameLetter, hi, hs, hk, Bool.or_eq_true, Bool.and_eq_true, decide_eq_true_eq,
    false_and, or_false] at h
  rcases h with rfl | ⟨-, h⟩
  · simp [isLetter, hl]
  · simp only [isLower, inRange, Bool.and_eq_true, decide_eq_true_eq] at hl
    simp only [isLetter, isUpper, inRange, Bool.or_eq_true, Bool.and_eq_true, decide_eq_true_eq]
    omega

/-- A space is no word character. -/
lemma not_isWord_of_isSpace (hu : UnicodeClasses py) {c : CodePoint} (h : isSpace py c = true) :
    isWord py c = false := by
  unfold isSpace at h
  unfold isWord
  split at h
  next hlt =>
    rw [if_pos hlt]
    simp [isAlnum, isUpper, isLower, isDecimal, inRange, Fin.ext_iff] at h ⊢
    omega
  next hge =>
    rw [if_neg hge]
    exact hu.space c h

/-- A digit is one. -/
lemma isWord_of_isUnicodeDigit (hu : UnicodeClasses py) {c : CodePoint}
    (h : isUnicodeDigit py c = true) : isWord py c = true := by
  unfold isUnicodeDigit at h
  unfold isWord
  split at h
  next hlt => simp [hlt, isAlnum, h]
  next hge =>
    rw [if_neg hge]
    exact hu.digit c h

/-- `[^'\"\s,;]` -/
def isValue (c : CodePoint) : Bool := !(isOneOf "'\",;" c || isSpace py c)

/-- What ends a value is no word character. -/
lemma not_isWord_of_not_isValue (hu : UnicodeClasses py) {c : CodePoint}
    (h : isValue py c = false) : isWord py c = false := by
  simp only [isValue, Bool.not_eq_false', Bool.or_eq_true] at h
  rcases h with h | h
  · rw [isOneOf_iff, show Str.ofString "'\",;" = [39, 34, 44, 59] by decide] at h
    simp only [List.mem_cons, List.not_mem_nil, or_false] at h
    rcases h with rfl | rfl | rfl | rfl <;> rfl
  · exact not_isWord_of_isSpace py hu h
/-! ## Literals -/

/-- A literal is a row of symbols. -/
lemma lit_eq (s : String) :
    lit s = cat (((Str.ofString s).map fun l c => decide (c = l)).map cls) := by
  rw [List.map_map]
  rfl

lemma litIgnoreCase_eq (s : String) :
    litIgnoreCase s = cat (((Str.ofString s).map sameLetter).map cls) := by
  rw [List.map_map]
  rfl

/-- The words of a literal. -/
@[simp] lemma spells_lit (s : String) (a : Option CodePoint) (w rest : Str) :
    Spells (lit s) a w rest ↔ w = Str.ofString s := by
  rw [lit_eq, spells_cat_cls, List.forall₂_map_left_iff]
  simp only [decide_eq_true_eq]
  generalize Str.ofString s = l
  constructor
  · intro h
    induction h with
    | nil => rfl
    | cons hc _ ih => rw [hc, ih]
  · rintro rfl
    exact List.forall₂_same.mpr fun _ _ => rfl

/-- The words of a literal under `(?i)`. -/
@[simp] lemma spells_litIgnoreCase (s : String) (a : Option CodePoint) (w rest : Str) :
    Spells (litIgnoreCase s) a w rest ↔
      List.Forall₂ (fun l c => sameLetter l c = true) (Str.ofString s) w := by
  rw [litIgnoreCase_eq, spells_cat_cls, List.forall₂_map_left_iff]

/-- Each character of a word of a literal equals one of its letters in some case. -/
lemma exists_of_mem_literal {l w : Str}
    (h : List.Forall₂ (fun l c => sameLetter l c = true) l w) :
    ∀ c ∈ w, ∃ x ∈ l, sameLetter x c = true := by
  induction h with
  | nil => simp
  | @cons x c l w hc _ ih =>
    refine List.forall_mem_cons.mpr ⟨⟨x, List.mem_cons_self, hc⟩, fun d hd => ?_⟩
    obtain ⟨y, hy, hsame⟩ := ih d hd
    exact ⟨y, List.mem_cons_of_mem x hy, hsame⟩

/-- There are no tests in a literal. -/
lemma respects_lit (E : Option CodePoint → Option CodePoint → Prop) (s : String) :
    Respects E (lit s) := by
  rw [lit_eq]
  exact respects_cat_cls E _

lemma respects_litIgnoreCase (E : Option CodePoint → Option CodePoint → Prop) (s : String) :
    Respects E (litIgnoreCase s) := by
  rw [litIgnoreCase_eq]
  exact respects_cat_cls E _

/-! ## Assignments -/

/-- What stands between a name and its value: `\s*[:=]\s*['\"]?`. -/
def IsGap (gap : Str) : Prop :=
  ∃ sp e sp' q, gap = sp ++ e :: (sp' ++ q) ∧ (∀ c ∈ sp, isSpace py c = true) ∧
    isOneOf ":=" e = true ∧ (∀ c ∈ sp', isSpace py c = true) ∧
    (q = [] ∨ ∃ c, q = [c] ∧ isOneOf "'\"" c = true)

/-- An assignment is what stands between a name and a value, and the value. -/
lemma spells_assignment (a : Option CodePoint) (w rest : Str) :
    Spells (assignment py) a w rest ↔
      ∃ gap v, w = gap ++ v ∧ IsGap py gap ∧ v ≠ [] ∧ ∀ c ∈ v, isValue py c = true := by
  constructor
  · rintro ⟨sp, _, rfl, hsp, _, _, rfl, ⟨e, rfl, he⟩, sp', _, rfl, hsp', q, v, rfl, hq, hv⟩
    obtain ⟨hne, hall⟩ := (spells_plus_cls _ _ _ _).mp hv
    refine ⟨sp ++ e :: (sp' ++ q), v, by simp, ⟨sp, e, sp', q, rfl, ?_, he, ?_, ?_⟩, hne, hall⟩
    · exact (spells_star_cls _ _ _ _ _).mp hsp
    · exact (spells_star_cls _ _ _ _ _).mp hsp'
    · exact hq.symm
  · rintro ⟨_, v, rfl, ⟨sp, e, sp', q, rfl, hsp, he, hsp', hq⟩, hne, hall⟩
    refine ⟨sp, e :: (sp' ++ (q ++ v)), by simp, (spells_star_cls _ _ _ _ _).mpr hsp, [e], _, rfl,
      ⟨e, rfl, he⟩, sp', q ++ v, rfl, (spells_star_cls _ _ _ _ _).mpr hsp', q, v, rfl, hq.symm, ?_⟩
    exact (spells_plus_cls _ _ _ _).mpr ⟨hne, hall⟩

/-- A name, what stands behind it, and a value, not inside a longer name. -/
def Assigns (IsName : Str → Prop) (a : Option CodePoint) (w : Str) : Prop :=
  ∃ n gap v, w = n ++ (gap ++ v) ∧ IsName n ∧ wordAt py a = false ∧ IsGap py gap ∧ v ≠ [] ∧
    ∀ c ∈ v, isValue py c = true

/-- A name that `namedSecret` knows. -/
def IsSecretName (n : Str) : Prop := Spells secretName none n []

/-- A name that `environmentSecret` knows: a word with one of its parts in it. -/
def IsSecretVariable (n : Str) : Prop :=
  ∃ x k y, n = x ++ (k ++ y) ∧ (∀ c ∈ x, isWordIgnoreCase c = true) ∧
    Spells secretPart none k [] ∧ ∀ c ∈ y, isWordIgnoreCase c = true

/-- There are no tests in the names. -/
lemma respects_secretName (E : Option CodePoint → Option CodePoint → Prop) :
    Respects E secretName :=
  ⟨⟨respects_litIgnoreCase E _, ⟨trivial, trivial⟩, respects_litIgnoreCase E _⟩,
    respects_litIgnoreCase E _, respects_litIgnoreCase E _, respects_litIgnoreCase E _⟩

lemma respects_secretPart (E : Option CodePoint → Option CodePoint → Prop) :
    Respects E secretPart :=
  ⟨respects_litIgnoreCase E _, respects_litIgnoreCase E _, respects_litIgnoreCase E _,
    respects_litIgnoreCase E _⟩

/-- The parts of names: four literals. -/
lemma spells_secretPart (a : Option CodePoint) (w rest : Str) :
    Spells secretPart a w rest ↔ ∃ s ∈ ["api_key", "secret", "token", "password"],
      List.Forall₂ (fun l c => sameLetter l c = true) (Str.ofString s) w := by
  simp only [secretPart, oneOf, spells_alt, spells_litIgnoreCase, List.exists_mem_cons_iff,
    List.not_mem_nil, false_and, exists_false, or_false]

/-- The characters of a literal under `(?i)` are word characters. -/
lemma isWordIgnoreCase_of_mem_literal {s : String}
    (hs : (Str.ofString s).all (fun l => isLower l || l = 95) = true) {w : Str}
    (h : List.Forall₂ (fun l c => sameLetter l c = true) (Str.ofString s) w) :
    ∀ c ∈ w, isWordIgnoreCase c = true := by
  intro c hc
  obtain ⟨l, hl, hsame⟩ := exists_of_mem_literal h c hc
  have hletter := List.all_eq_true.mp hs l hl
  rw [Bool.or_eq_true, decide_eq_true_eq] at hletter
  rcases hletter with hletter | rfl
  · exact isWordIgnoreCase_of_sameLetter hletter hsame
  · obtain rfl : c = 95 := by simpa [sameLetter, isLower, inRange] using hsame
    rfl

/-- The parts of names are words. -/
lemma isWordIgnoreCase_of_secretPart {k : Str} (h : Spells secretPart none k []) :
    ∀ c ∈ k, isWordIgnoreCase c = true := by
  obtain ⟨s, hs, h⟩ := (spells_secretPart _ _ _).mp h
  have hall : ∀ s ∈ ["api_key", "secret", "token", "password"],
      (Str.ofString s).all (fun l => isLower l || l = 95) = true := by decide
  exact isWordIgnoreCase_of_mem_literal (hall s hs) h

/-- A part of a name has a first character. -/
lemma secretPart_ne_nil {k : Str} (h : Spells secretPart none k []) : k ≠ [] := by
  rintro rfl
  obtain ⟨s, hs, h⟩ := (spells_secretPart _ _ _).mp h
  have hnil : Str.ofString s = [] := List.forall₂_nil_right_iff.mp h
  have hall : ∀ s ∈ ["api_key", "secret", "token", "password"], Str.ofString s ≠ [] := by decide
  exact hall s hs hnil

/-- The names of variables are words. -/
lemma IsSecretVariable.isWord {n : Str} (h : IsSecretVariable n) :
    ∀ c ∈ n, isWordIgnoreCase c = true := by
  obtain ⟨x, k, y, rfl, hx, hk, hy⟩ := h
  simp only [List.forall_mem_append]
  exact ⟨hx, isWordIgnoreCase_of_secretPart hk, hy⟩

lemma IsSecretVariable.ne_nil {n : Str} (h : IsSecretVariable n) : n ≠ [] := by
  obtain ⟨x, k, y, rfl, -, hk, -⟩ := h
  simp [secretPart_ne_nil hk]

/-- A name of a secret begins with an ASCII letter, or it is one that variables have too. -/
lemma IsSecretName.cases {n : Str} (h : IsSecretName n) :
    (∃ c m, n = c :: m ∧ isLetter c = true) ∨ IsSecretVariable n := by
  rcases h with ⟨u, v, rfl, hu, -⟩ | h
  · left
    rw [spells_litIgnoreCase, show Str.ofString "api" = [97, 112, 105] by decide] at hu
    cases hu with
    | @cons _ c _ m hc _ => exact ⟨c, m ++ v, rfl, isLetter_of_sameLetter (by decide) hc⟩
  · exact .inr ⟨[], n, [], by simp, by simp, .inr h, by simp⟩

/-- What follows a word boundary, if that begins with a word character. -/
lemma spells_seq_wordBoundary {r : Regex CodePoint} {a : Option CodePoint} {w rest : Str}
    (hr : ∀ w rest, Spells r a w rest → ∃ c v, w = c :: v ∧ isWord py c = true) :
    Spells (seq (wordBoundary py) r) a w rest ↔ wordAt py a = false ∧ Spells r a w rest := by
  constructor
  · rintro ⟨u, v, rfl, hu, hv⟩
    obtain ⟨rfl, hne⟩ := (spells_wordBoundary py _ _ _).mp hu
    obtain ⟨c, v, rfl, hc⟩ := hr _ _ hv
    refine ⟨?_, hv⟩
    simpa [hc] using hne
  · rintro ⟨ha, h⟩
    obtain ⟨c, v, rfl, hc⟩ := hr _ _ h
    refine ⟨[], c :: v, rfl, ?_, h⟩
    rw [spells_wordBoundary]
    simp [ha, hc]

/-! ## Foreign words -/

/-- The symbols that a literal avoids. -/
lemma avoids_lit {s : String} {xs : Str}
    (h : (Str.ofString s).all (fun l => xs.all fun x => !decide (x = l)) = true) :
    Avoids xs (lit s) := by
  rw [lit_eq]
  apply avoids_cat_cls
  simp only [List.forall_mem_map]
  exact List.all_eq_true.mp h

lemma avoids_litIgnoreCase {s : String} {xs : Str}
    (h : (Str.ofString s).all (fun l => xs.all fun x => !sameLetter l x) = true) :
    Avoids xs (litIgnoreCase s) := by
  rw [litIgnoreCase_eq]
  apply avoids_cat_cls
  simp only [List.forall_mem_map]
  exact List.all_eq_true.mp h

/-- What a literal needs. -/
lemma needs_lit {s : String} {q : CodePoint → Prop} {l : CodePoint} (hl : l ∈ Str.ofString s)
    (hq : q l) : Needs q (lit s) := by
  rw [lit_eq]
  refine needs_cat_cls (List.mem_map_of_mem hl) fun c hc => ?_
  rwa [of_decide_eq_true hc]

/-- A symbol that no mask has. -/
def Unmasked (c : CodePoint) : Prop := c ∉ redactBrackets.body

instance (c : CodePoint) : Decidable (Unmasked c) := inferInstanceAs (Decidable (¬ _))

/-- The words of an expression that has no brackets and needs a symbol that no mask has. -/
lemma foreign_of_spells {r : Regex CodePoint} {a : Option CodePoint} {w rest : Str}
    (h : Spells r a w rest) (hr : Avoids [34, 91, 93] r) (hn : Needs Unmasked r) :
    redactBrackets.Foreign w where
  opening := h.avoids hr 91 (by decide)
  closing := h.avoids hr 93 (by decide)
  other := h.needs hn

section Symbols

variable {q : CodePoint → Prop} {a : Option CodePoint} {w rest : Str}

/-- The first line of a private key has a space in it. -/
lemma needs_privateKey (hq : q 32) : Needs q privateKey := .inl (needs_lit (l := 32) (by decide) hq)

lemma avoids_apiKey : Avoids [34, 91, 93] apiKey :=
  ⟨avoids_lit (by decide), Avoids.rep (by rfl) 8, rfl⟩

lemma needs_apiKey (hq : q 45) : Needs q apiKey := .inl (needs_lit (l := 45) (by decide) hq)

lemma foreign_apiKey (h : Spells apiKey a w rest) : redactBrackets.Foreign w :=
  foreign_of_spells h avoids_apiKey (needs_apiKey (by decide))

lemma avoids_awsAccessKeyId : Avoids [34, 91, 93] (awsAccessKeyId py) :=
  ⟨trivial, ⟨avoids_lit (by decide), avoids_lit (by decide)⟩, Avoids.rep (by rfl) 16, trivial⟩

lemma needs_awsAccessKeyId (hq : q 73) : Needs q (awsAccessKeyId py) :=
  .inr (.inl ⟨needs_lit (l := 73) (by decide) hq, needs_lit (l := 73) (by decide) hq⟩)

lemma foreign_awsAccessKeyId (h : Spells (awsAccessKeyId py) a w rest) : redactBrackets.Foreign w :=
  foreign_of_spells h (avoids_awsAccessKeyId py) (needs_awsAccessKeyId py (by decide))

lemma avoids_githubToken : Avoids [34, 91, 93] (githubToken py) :=
  ⟨trivial, avoids_lit (by decide), rfl, avoids_lit (by decide),
    ⟨Avoids.rep (by rfl) 20, rfl⟩, trivial⟩

lemma needs_githubToken (hq : q 103) : Needs q (githubToken py) :=
  .inr (.inl (needs_lit (l := 103) (by decide) hq))

lemma foreign_githubToken (h : Spells (githubToken py) a w rest) : redactBrackets.Foreign w :=
  foreign_of_spells h (avoids_githubToken py) (needs_githubToken py (by decide))

lemma avoids_bearerToken : Avoids [34, 91, 93] (bearerToken py) :=
  ⟨avoids_litIgnoreCase (by decide), ⟨rfl, rfl⟩, rfl, rfl⟩

/-- A bearer token begins with a `b` in either case. -/
lemma needs_bearerToken (hq : q 66) (hq' : q 98) : Needs q (bearerToken py) := by
  have hb : (98 : CodePoint) ∈ Str.ofString "bearer" := by decide
  left
  rw [litIgnoreCase_eq]
  refine needs_cat_cls (List.mem_map_of_mem hb) fun c hc => ?_
  simp only [sameLetter, Bool.or_eq_true, Bool.and_eq_true, decide_eq_true_eq] at hc
  rcases hc with (((rfl | ⟨-, hc⟩) | ⟨hc, -⟩) | ⟨hc, -⟩) | ⟨hc, -⟩
  · exact hq'
  · obtain rfl : c = 66 := Fin.ext (by simpa using hc)
    exact hq
  · cases hc
  · cases hc
  · cases hc

lemma foreign_bearerToken (h : Spells (bearerToken py) a w rest) : redactBrackets.Foreign w :=
  foreign_of_spells h (avoids_bearerToken py) (needs_bearerToken py (by decide) (by decide))

lemma avoids_jsonWebToken : Avoids [34, 91, 93] jsonWebToken :=
  ⟨avoids_lit (by decide), ⟨rfl, rfl⟩, avoids_lit (by decide), ⟨rfl, rfl⟩,
    avoids_lit (by decide), rfl,
    rfl⟩

lemma needs_jsonWebToken (hq : q 74) : Needs q jsonWebToken :=
  .inl (needs_lit (l := 74) (by decide) hq)

lemma foreign_jsonWebToken (h : Spells jsonWebToken a w rest) : redactBrackets.Foreign w :=
  foreign_of_spells h avoids_jsonWebToken (needs_jsonWebToken (by decide))

lemma avoids_emailAddress : Avoids [34, 91, 93] emailAddress :=
  ⟨⟨rfl, rfl⟩, avoids_lit (by decide), ⟨rfl, rfl⟩, avoids_lit (by decide),
    Avoids.rep (by rfl) 2, rfl⟩

lemma needs_emailAddress (hq : q 64) : Needs q emailAddress :=
  .inr (.inl (needs_lit (l := 64) (by decide) hq))

lemma foreign_emailAddress (h : Spells emailAddress a w rest) : redactBrackets.Foreign w :=
  foreign_of_spells h avoids_emailAddress (needs_emailAddress (by decide))

lemma avoids_mobileNumber : Avoids [34, 91, 93] (mobileNumber py) :=
  ⟨trivial, avoids_lit (by decide), rfl, Avoids.rep (by rfl) 9, trivial⟩

lemma needs_mobileNumber (hq : q 49) : Needs q (mobileNumber py) :=
  .inr (.inl (needs_lit (l := 49) (by decide) hq))

lemma foreign_mobileNumber (h : Spells (mobileNumber py) a w rest) : redactBrackets.Foreign w :=
  foreign_of_spells h (avoids_mobileNumber py) (needs_mobileNumber py (by decide))

end Symbols

/-- The first or the last line of a private key. -/
def IsFence (s : String) (w : Str) : Prop :=
  ∃ x, w = Str.ofString s ++ (x ++ Str.ofString "PRIVATE KEY-----") ∧
    ∀ c ∈ x, (isUpper c || c = 32) = true

/-- A private key is what stands between its first line and its last one. -/
lemma spells_privateKey (a : Option CodePoint) (w rest : Str) :
    Spells privateKey a w rest ↔
      ∃ h m e, w = h ++ (m ++ e) ∧ IsFence "-----BEGIN " h ∧ IsFence "-----END " e := by
  unfold privateKey IsFence
  simp only [spells_cat_cons, spells_cat_singleton, spells_lit, spells_star_cls]
  generalize Str.ofString "-----BEGIN " = l
  generalize Str.ofString "-----END " = l'
  generalize Str.ofString "PRIVATE KEY-----" = k
  constructor
  · rintro ⟨_, _, rfl, rfl, x, _, rfl, hx, _, _, rfl, rfl, m, _, rfl, -, _, _, rfl, rfl, y, _, rfl,
      hy, rfl⟩
    refine ⟨_, m, _, ?_, ⟨x, rfl, hx⟩, y, rfl, hy⟩
    simp
  · rintro ⟨_, m, _, rfl, ⟨x, rfl, hx⟩, y, rfl, hy⟩
    exact ⟨l, x ++ (k ++ (m ++ (l' ++ (y ++ k)))), by simp, rfl, x, _, rfl, hx, k, _, rfl, rfl,
      m, _,
      rfl, by simp, l', _, rfl, rfl, y, k, rfl, hy, rfl⟩

/-- A symbol that is not of a class is in no word over the class. -/
lemma not_mem_of_class {p : CodePoint → Bool} {x : CodePoint} (hp : p x = false) {w : Str}
    (hw : ∀ c ∈ w, p c = true) : x ∉ w := by
  intro hx
  have htrue := hw x hx
  rw [hp] at htrue
  cases htrue

/-- The lines are no part of a mask. -/
lemma IsFence.foreign {s : String} (hs : (91 : CodePoint) ∉ Str.ofString s)
    (hs' : (93 : CodePoint) ∉ Str.ofString s) {w : Str} (h : IsFence s w) :
    redactBrackets.Foreign w := by
  obtain ⟨x, rfl, hx⟩ := h
  have hkey : redactBrackets.Foreign (Str.ofString "PRIVATE KEY-----") :=
    ⟨by decide, by decide, 45, by decide, by decide⟩
  have hopening : (91 : CodePoint) ∉ x :=
    not_mem_of_class (p := fun c => isUpper c || c = 32) rfl hx
  have hclosing : (93 : CodePoint) ∉ x :=
    not_mem_of_class (p := fun c => isUpper c || c = 32) rfl hx
  exact (hkey.append hopening hclosing).append hs hs'

/-- A connection string runs from its `://` to its `@`. -/
lemma spells_dsnPassword {a : Option CodePoint} {w rest : Str}
    (h : Spells (dsnPassword py) a w rest) :
    ∃ z, w = Str.ofString "://" ++ (z ++ [64]) := by
  unfold dsnPassword at h
  simp only [spells_cat_cons, spells_cat_singleton, spells_lit] at h
  obtain ⟨_, _, rfl, rfl, u, _, rfl, hu, c, _, rfl, hc, p, e, rfl, hp, rfl⟩ := h
  rw [show Str.ofString "@" = [64] by decide]
  exact ⟨u ++ (c ++ p), by simp⟩

/-- The characters between a name and its value. -/
lemma IsGap.mem {gap : Str} (h : IsGap py gap) :
    ∀ c ∈ gap, isSpace py c = true ∨ c ∈ ([58, 61, 39, 34] : Str) := by
  obtain ⟨sp, e, sp', q, rfl, hsp, he, hsp', hq⟩ := h
  rw [isOneOf_iff, show Str.ofString ":=" = [58, 61] by decide] at he
  intro c hc
  simp only [List.mem_append, List.mem_cons] at hc
  rcases hc with hc | rfl | hc | hc
  · exact .inl (hsp c hc)
  · exact .inr (List.mem_append_left [39, 34] he)
  · exact .inl (hsp' c hc)
  · rcases hq with rfl | ⟨d, rfl, hd⟩
    · cases hc
    · obtain rfl := List.mem_singleton.mp hc
      rw [isOneOf_iff, show Str.ofString "'\"" = [39, 34] by decide] at hd
      exact .inr (List.mem_append_right [58, 61] hd)

/-- What stands between a name and its value is no part of a mask. -/
lemma IsGap.foreign {gap : Str} (h : IsGap py gap) : redactBrackets.Foreign gap where
  opening := by
    intro hmem
    rcases h.mem py _ hmem with hc | hc
    · cases hc
    · revert hc
      decide
  closing := by
    intro hmem
    rcases h.mem py _ hmem with hc | hc
    · cases hc
    · revert hc
      decide
  other := by
    obtain ⟨sp, e, sp', q, rfl, -, he, -, -⟩ := h
    refine ⟨e, by simp, ?_⟩
    rw [isOneOf_iff, show Str.ofString ":=" = [58, 61] by decide] at he
    rcases List.mem_pair.mp he with rfl | rfl <;> decide

/-- A name is a word that has no brackets and no quotes in it and begins with a word character. -/
structure IsPlainName (n : Str) : Prop where
  /-- It begins with a word character. -/
  first : ∃ c m, n = c :: m ∧ isWord py c = true
  /-- There are no brackets and no quotes in it. -/
  symbols : ∀ x ∈ ([34, 91, 93] : Str), x ∉ n

lemma IsSecretVariable.isPlainName (hu : UnicodeClasses py) {n : Str} (h : IsSecretVariable n) :
    IsPlainName py n where
  first := by
    obtain ⟨c, m, rfl⟩ := List.exists_cons_of_ne_nil h.ne_nil
    exact ⟨c, m, rfl, isWord_of_isWordIgnoreCase py hu (h.isWord c List.mem_cons_self)⟩
  symbols := by
    intro x hx
    have hfalse : isWordIgnoreCase x = false := by
      simp only [List.mem_cons, List.not_mem_nil, or_false] at hx
      rcases hx with rfl | rfl | rfl <;> rfl
    exact not_mem_of_class hfalse h.isWord

lemma IsSecretName.isPlainName (hu : UnicodeClasses py) {n : Str} (h : IsSecretName n) :
    IsPlainName py n where
  first := by
    rcases h.cases with ⟨c, m, rfl, hc⟩ | h
    · exact ⟨c, m, rfl, isWord_of_isAlnum py (isAlnum_of_isLetter hc)⟩
    · exact (h.isPlainName py hu).first
  symbols := by
    have havoids : Avoids [34, 91, 93] secretName :=
      ⟨⟨avoids_litIgnoreCase (by decide), ⟨rfl, trivial⟩, avoids_litIgnoreCase (by decide)⟩,
        avoids_litIgnoreCase (by decide), avoids_litIgnoreCase (by decide),
        avoids_litIgnoreCase (by decide)⟩
    exact Spells.avoids havoids h

/-- A named secret assigns a value to a name that it knows. -/
lemma spells_namedSecret (hu : UnicodeClasses py) (a : Option CodePoint) (w rest : Str) :
    Spells (namedSecret py) a w rest ↔ Assigns py IsSecretName a w := by
  have hname : ∀ b n rest, Spells secretName b n rest ↔ IsSecretName n := fun b n rest =>
    ⟨fun h => h.anywhere (respects_secretName _), fun h => h.anywhere (respects_secretName _)⟩
  change Spells (seq (wordBoundary py) (seq secretName (assignment py))) a w rest ↔ _
  rw [spells_seq_wordBoundary]
  · constructor
    · rintro ⟨ha, n, _, rfl, hn, hv⟩
      obtain ⟨gap, v, rfl, hgap, hne, hall⟩ := (spells_assignment py _ _ _).mp hv
      exact ⟨n, gap, v, rfl, (hname _ _ _).mp hn, ha, hgap, hne, hall⟩
    · rintro ⟨n, gap, v, rfl, hn, ha, hgap, hne, hall⟩
      exact ⟨ha, n, gap ++ v, rfl, (hname _ _ _).mpr hn,
        (spells_assignment py _ _ _).mpr ⟨gap, v, rfl, hgap, hne, hall⟩⟩
  · rintro w rest ⟨n, v, rfl, hn, -⟩
    obtain ⟨c, m, rfl, hc⟩ := (((hname _ _ _).mp hn).isPlainName py hu).first
    exact ⟨c, m ++ v, rfl, hc⟩

/-- The secret of a variable assigns a value to a name of a variable. -/
lemma spells_environmentSecret (hu : UnicodeClasses py) (a : Option CodePoint) (w rest : Str) :
    Spells (environmentSecret py) a w rest ↔ Assigns py IsSecretVariable a w := by
  have hpart : ∀ b n rest, Spells secretPart b n rest ↔ Spells secretPart none n [] :=
    fun b n rest => ⟨fun h => h.anywhere (respects_secretPart _),
      fun h => h.anywhere (respects_secretPart _)⟩
  change Spells (seq (wordBoundary py) (cat [star true (cls isWordIgnoreCase), secretPart,
    star true (cls isWordIgnoreCase), assignment py])) a w rest ↔ _
  have hsplit : ∀ b w rest, Spells (cat [star true (cls isWordIgnoreCase), secretPart,
      star true (cls isWordIgnoreCase), assignment py]) b w rest ↔
      ∃ n gap v, w = n ++ (gap ++ v) ∧ IsSecretVariable n ∧ IsGap py gap ∧ v ≠ [] ∧
        ∀ c ∈ v, isValue py c = true := by
    intro b w rest
    simp only [spells_cat_cons, spells_cat_singleton, spells_star_cls, spells_assignment]
    constructor
    · rintro ⟨x, _, rfl, hx, k, _, rfl, hk, y, _, rfl, hy, gap, v, rfl, hgap, hne, hall⟩
      exact ⟨x ++ (k ++ y), gap, v, by simp, ⟨x, k, y, rfl, hx, (hpart _ _ _).mp hk, hy⟩, hgap, hne,
        hall⟩
    · rintro ⟨_, gap, v, rfl, ⟨x, k, y, rfl, hx, hk, hy⟩, hgap, hne, hall⟩
      exact ⟨x, k ++ (y ++ (gap ++ v)), by simp, hx, k, _, rfl, (hpart _ _ _).mpr hk, y, gap ++ v,
        rfl, hy, gap, v, rfl, hgap, hne, hall⟩
  rw [spells_seq_wordBoundary, hsplit]
  · constructor
    · rintro ⟨ha, n, gap, v, rfl, hn, hgap, hne, hall⟩
      exact ⟨n, gap, v, rfl, hn, ha, hgap, hne, hall⟩
    · rintro ⟨n, gap, v, rfl, hn, ha, hgap, hne, hall⟩
      exact ⟨ha, n, gap, v, rfl, hn, hgap, hne, hall⟩
  · intro w rest h
    obtain ⟨n, gap, v, rfl, hn, -⟩ := (hsplit _ _ _).mp h
    obtain ⟨c, m, rfl, hc⟩ := (hn.isPlainName py hu).first
    exact ⟨c, m ++ (gap ++ v), rfl, hc⟩

/-- A name and what stands behind it are no part of a mask. -/
lemma IsPlainName.foreign {n gap : Str} (hn : IsPlainName py n) (hgap : IsGap py gap) :
    redactBrackets.Foreign (n ++ gap) :=
  (hgap.foreign py).append (hn.symbols 91 (by decide)) (hn.symbols 93 (by decide))

/-! ## Words between boundaries -/

/-- A word between boundaries: the word without the tests, and the tests. -/
lemma spells_bounded {r : Regex CodePoint} {rs : List (Regex CodePoint)} {a : Option CodePoint}
    {w rest : Str} :
    Spells (cat (wordBoundary py :: (r :: rs ++ [wordBoundary py]))) a w rest ↔
      wordAt py a ≠ wordAt py (w ++ rest).head? ∧ Spells (cat (r :: rs)) a w rest ∧
        wordAt py (after a w) ≠ wordAt py rest.head? := by
  constructor
  · rintro ⟨u, v, rfl, hu, hv⟩
    obtain ⟨rfl, hne⟩ := (spells_wordBoundary py _ _ _).mp hu
    obtain ⟨x, y, rfl, hx, hy⟩ := (spells_cat_concat _ _ _ _ _).mp hv
    obtain ⟨rfl, hne'⟩ := (spells_wordBoundary py _ _ _).mp hy
    exact ⟨by simpa using hne, by simpa using hx, by simpa using hne'⟩
  · rintro ⟨hne, hw, hne'⟩
    refine ⟨[], w, rfl, (spells_wordBoundary py _ _ _).mpr ⟨rfl, hne⟩, ?_⟩
    refine (spells_cat_concat (r :: rs) _ _ _ _).mpr ⟨w, [], by simp, by simpa using hw, ?_⟩
    exact (spells_wordBoundary py _ _ _).mpr ⟨rfl, hne'⟩

/-- What an AWS access key id looks like. -/
def IsAccessKeyId (w : Str) : Prop :=
  ∃ v, (w = Str.ofString "AKIA" ++ v ∨ w = Str.ofString "ASIA" ++ v) ∧ v.length = 16 ∧
    ∀ c ∈ v, (isUpper c || isDecimal c) = true

/-- What a GitHub token looks like. -/
def IsGithubToken (w : Str) : Prop :=
  ∃ c v, w = Str.ofString "gh" ++ (c :: (Str.ofString "_" ++ v)) ∧ isOneOf "pousr" c = true ∧
    20 ≤ v.length ∧ ∀ c ∈ v, (isAlnum c || c = 95) = true

/-- What a mobile number looks like. -/
def IsMobileNumber (w : Str) : Prop :=
  ∃ c v, w = Str.ofString "1" ++ c :: v ∧ isOneOf "3456789" c = true ∧ v.length = 9 ∧
    ∀ c ∈ v, isUnicodeDigit py c = true

/-- A word that begins with a word character and ends in one, between boundaries. -/
structure IsWordLike (w : Str) : Prop where
  /-- It begins with a word character. -/
  first : ∃ c v, w = c :: v ∧ isWord py c = true
  /-- It ends in a word character. -/
  last : ∃ c v, w = v ++ [c] ∧ isWord py c = true

/-- A word of word characters. -/
lemma isWordLike_of_forall {w : Str} (hne : w ≠ []) (h : ∀ c ∈ w, isWord py c = true) :
    IsWordLike py w where
  first := by
    obtain ⟨c, v, rfl⟩ := List.exists_cons_of_ne_nil hne
    exact ⟨c, v, rfl, h c List.mem_cons_self⟩
  last := by
    obtain ⟨v, c, rfl⟩ := (List.eq_nil_or_concat' w).resolve_left hne
    exact ⟨c, v, rfl, h c (by simp)⟩

/-- Its tests say that there is no word character on either side. -/
lemma IsWordLike.boundaries {w : Str} (h : IsWordLike py w) (a : Option CodePoint) (rest : Str) :
    (wordAt py a ≠ wordAt py (w ++ rest).head? ∧ wordAt py (after a w) ≠ wordAt py rest.head?) ↔
      wordAt py a = false ∧ wordAt py rest.head? = false := by
  have hfirst : wordAt py (w ++ rest).head? = true := by
    obtain ⟨c, v, rfl, hc⟩ := h.first
    exact hc
  have hlast : wordAt py (after a w) = true := by
    obtain ⟨c, v, rfl, hc⟩ := h.last
    rw [after_append]
    exact hc
  rw [hfirst, hlast]
  cases wordAt py a <;> cases wordAt py rest.head? <;> simp

/-- So a word that is like this stands between other characters. -/
lemma spells_bounded_iff {r : Regex CodePoint} (rs : List (Regex CodePoint)) {IsWord : Str → Prop}
    {a : Option CodePoint} {w rest : Str} (hbody : Spells (cat (r :: rs)) a w rest ↔ IsWord w)
    (hword : IsWord w → IsWordLike py w) :
    Spells (cat (wordBoundary py :: (r :: rs ++ [wordBoundary py]))) a w rest ↔
      IsWord w ∧ wordAt py a = false ∧ wordAt py rest.head? = false := by
  rw [spells_bounded, hbody]
  constructor
  · rintro ⟨hne, hw, hne'⟩
    exact ⟨hw, ((hword hw).boundaries py a rest).mp ⟨hne, hne'⟩⟩
  · rintro ⟨hw, hsides⟩
    obtain ⟨hne, hne'⟩ := ((hword hw).boundaries py a rest).mpr hsides
    exact ⟨hne, hw, hne'⟩

lemma IsAccessKeyId.isWordLike {w : Str} (h : IsAccessKeyId w) : IsWordLike py w := by
  obtain ⟨v, hw, -, hv⟩ := h
  have hall : ∀ s : String, (Str.ofString s).all isAlnum = true →
      ∀ c ∈ Str.ofString s ++ v, isWord py c = true := by
    intro s hs c hc
    apply isWord_of_isAlnum
    rcases List.mem_append.mp hc with hc | hc
    · exact List.all_eq_true.mp hs c hc
    · rcases Bool.or_eq_true_iff.mp (hv c hc) with h | h <;> simp [isAlnum, h]
  rcases hw with rfl | rfl
  · exact isWordLike_of_forall py (by simp) (hall "AKIA" (by decide))
  · exact isWordLike_of_forall py (by simp) (hall "ASIA" (by decide))

lemma spells_awsAccessKeyId (a : Option CodePoint) (w rest : Str) :
    Spells (awsAccessKeyId py) a w rest ↔
      IsAccessKeyId w ∧ wordAt py a = false ∧ wordAt py rest.head? = false := by
  refine spells_bounded_iff py [rep (cls fun c => isUpper c || isDecimal c) 16] ?_
    fun h => h.isWordLike py
  simp only [spells_cat_cons, spells_cat_singleton, spells_alt, spells_lit, spells_rep_cls]
  constructor
  · rintro ⟨u, v, rfl, hu, hlen, hv⟩
    exact ⟨v, by simpa using hu, hlen, hv⟩
  · rintro ⟨v, rfl | rfl, hlen, hv⟩
    · exact ⟨_, v, rfl, .inl rfl, hlen, hv⟩
    · exact ⟨_, v, rfl, .inr rfl, hlen, hv⟩

lemma IsGithubToken.isWordLike {w : Str} (h : IsGithubToken w) : IsWordLike py w := by
  obtain ⟨c, v, rfl, hc, -, hv⟩ := h
  refine isWordLike_of_forall py (by simp) ?_
  have hgh : ∀ d ∈ Str.ofString "gh", isWord py d = true := by
    have hall : (Str.ofString "gh").all isAlnum = true := by decide
    exact fun d hd => isWord_of_isAlnum py (List.all_eq_true.mp hall d hd)
  have hkind : isWord py c = true := by
    have hall : (Str.ofString "pousr").all isAlnum = true := by decide
    exact isWord_of_isAlnum py (List.all_eq_true.mp hall c ((isOneOf_iff _ _).mp hc))
  have hunderscore : ∀ d ∈ Str.ofString "_", isWord py d = true := by
    intro d hd
    obtain rfl := List.mem_singleton.mp hd
    rfl
  have hword : ∀ d ∈ v, isWord py d = true := by
    intro d hd
    rcases Bool.or_eq_true_iff.mp (hv d hd) with h | h
    · exact isWord_of_isAlnum py h
    · rw [of_decide_eq_true h]
      rfl
  simp only [List.forall_mem_append, List.forall_mem_cons]
  exact ⟨hgh, hkind, hunderscore, hword⟩

lemma spells_githubToken (a : Option CodePoint) (w rest : Str) :
    Spells (githubToken py) a w rest ↔
      IsGithubToken w ∧ wordAt py a = false ∧ wordAt py rest.head? = false := by
  refine spells_bounded_iff py [cls (isOneOf "pousr"), lit "_",
    atLeast (cls fun c => isAlnum c || c = 95) 20] ?_ fun h => h.isWordLike py
  simp only [spells_cat_cons, spells_cat_singleton, spells_cls, spells_lit, spells_atLeast_cls]
  constructor
  · rintro ⟨_, _, rfl, rfl, _, _, rfl, ⟨c, rfl, hc⟩, _, v, rfl, rfl, hlen, hv⟩
    exact ⟨c, v, rfl, hc, hlen, hv⟩
  · rintro ⟨c, v, rfl, hc, hlen, hv⟩
    exact ⟨_, _, rfl, rfl, [c], _, rfl, ⟨c, rfl, hc⟩, _, v, rfl, rfl, hlen, hv⟩

lemma IsMobileNumber.isWordLike (hu : UnicodeClasses py) {w : Str} (h : IsMobileNumber py w) :
    IsWordLike py w := by
  obtain ⟨c, v, rfl, hc, -, hv⟩ := h
  refine isWordLike_of_forall py (by simp) ?_
  have hone : ∀ d ∈ Str.ofString "1", isWord py d = true := by
    intro d hd
    obtain rfl := List.mem_singleton.mp hd
    rfl
  have hsecond : isWord py c = true := by
    have hall : (Str.ofString "3456789").all isAlnum = true := by decide
    exact isWord_of_isAlnum py (List.all_eq_true.mp hall c ((isOneOf_iff _ _).mp hc))
  simp only [List.forall_mem_append, List.forall_mem_cons]
  exact ⟨hone, hsecond, fun d hd => isWord_of_isUnicodeDigit py hu (hv d hd)⟩

lemma spells_mobileNumber (hu : UnicodeClasses py) (a : Option CodePoint) (w rest : Str) :
    Spells (mobileNumber py) a w rest ↔
      IsMobileNumber py w ∧ wordAt py a = false ∧ wordAt py rest.head? = false := by
  refine spells_bounded_iff py [cls (isOneOf "3456789"), rep (cls (isUnicodeDigit py)) 9] ?_
    fun h => h.isWordLike py hu
  simp only [spells_cat_cons, spells_cat_singleton, spells_cls, spells_lit, spells_rep_cls]
  constructor
  · rintro ⟨_, _, rfl, rfl, _, v, rfl, ⟨c, rfl, hc⟩, hlen, hv⟩
    exact ⟨c, v, rfl, hc, hlen, hv⟩
  · rintro ⟨c, v, rfl, hc, hlen, hv⟩
    exact ⟨_, _, rfl, rfl, [c], v, rfl, ⟨c, rfl, hc⟩, hlen, hv⟩

/-- **No mask is a part** of what a word that a pattern spells begins with. -/
theorem beginsForeign_redactPatterns (hu : UnicodeClasses py) :
    ∀ r ∈ redactPatterns py, redactBrackets.BeginsForeign r := by
  have hassigns : ∀ {IsName : Str → Prop}, (∀ n, IsName n → IsPlainName py n) →
      ∀ {a w}, Assigns py IsName a w → ∃ f, redactBrackets.Foreign f ∧ f <+: w := by
    rintro IsName hplain a _ ⟨n, gap, v, rfl, hn, -, hgap, -⟩
    exact ⟨n ++ gap, (hplain n hn).foreign py hgap, v, by simp⟩
  have hwhole : ∀ {w : Str}, redactBrackets.Foreign w → ∃ f, redactBrackets.Foreign f ∧ f <+: w :=
    fun {w} h => ⟨w, h, List.prefix_refl w⟩
  rw [redactPatterns_eq]
  simp only [List.forall_mem_cons, List.not_mem_nil, false_implies, implies_true, and_true]
  refine ⟨?_, fun _ _ _ h => hwhole (foreign_apiKey h),
    fun _ _ _ h => hwhole (foreign_awsAccessKeyId py h),
    fun _ _ _ h => hwhole (foreign_githubToken py h),
    fun _ _ _ h => hwhole (foreign_bearerToken py h),
    fun _ _ _ h => hwhole (foreign_jsonWebToken h), ?_, ?_, ?_,
    fun _ _ _ h => hwhole (foreign_emailAddress h),
    fun _ _ _ h => hwhole (foreign_mobileNumber py h)⟩
  · intro a w rest h
    obtain ⟨f, m, e, rfl, hf, -⟩ := (spells_privateKey _ _ _).mp h
    exact ⟨f, hf.foreign (by decide) (by decide), List.prefix_append _ _⟩
  · intro a w rest h
    exact hassigns (fun n hn => hn.isPlainName py hu) ((spells_namedSecret py hu _ _ _).mp h)
  · intro a w rest h
    exact hassigns (fun n hn => hn.isPlainName py hu) ((spells_environmentSecret py hu _ _ _).mp h)
  · intro a w rest h
    obtain ⟨z, rfl⟩ := spells_dsnPassword py h
    exact ⟨_, ⟨by decide, by decide, 58, by decide, by decide⟩, List.prefix_append _ _⟩

end AgentCtl
