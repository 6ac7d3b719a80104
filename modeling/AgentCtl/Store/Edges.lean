import AgentCtl.Store.Patterns

set_option relaxedAutoImplicit false
set_option autoImplicit false

/-!
# The edges of a redaction

What a pass of a pattern leaves next to the words that it cuts. The mask puts brackets where word
characters have been, and so it can make a word boundary: a pattern that tests for one can match
behind the mask, or before it, where it could not match before. The patterns are greedy, and most of
them test for a boundary themselves, so that this hardly ever happens.

## Main definitions

* `AgentCtl.ClosesBefore` — what can stand behind a word that has been cut.
* `AgentCtl.OpensApart` — a word that has been cut behind a letter is a longer one by some letters.
* `AgentCtl.BeginsValue` — a word that has been cut begins with a character that values can have.
-/

namespace AgentCtl

open Regex

variable (py : Runtime)

/-- Behind a word that has been cut and ends in a word character, the characters kept are such as
these. -/
def ClosesBefore (q : CodePoint → Prop) (r : Regex CodePoint) : Prop :=
  ∀ a m c ps, Scanned r a (.cut m :: .kept c :: ps) → wordAt py (after a m) = true → q c

/-- `[A-Za-z0-9_]` -/
def isAsciiWord (c : CodePoint) : Bool := isAlnum c || c = 95

lemma isWord_of_isAsciiWord {c : CodePoint} (h : isAsciiWord c = true) : isWord py c = true := by
  rcases Bool.or_eq_true_iff.mp h with h | h
  · exact isWord_of_isAlnum py h
  · rw [of_decide_eq_true h]
    rfl

lemma not_isLetter_of_not_isAlnum {c : CodePoint} (h : isAlnum c = false) : isLetter c = false := by
  simp only [isAlnum, Bool.or_eq_false_iff] at h
  simp [isLetter, h.1.1, h.1.2]

lemma not_isLetter_of_not_isWord {c : CodePoint} (h : isWord py c = false) :
    isLetter c = false := by
  apply not_isLetter_of_not_isAlnum
  by_contra halnum
  rw [isWord_of_isAlnum py (by simpa using halnum)] at h
  cases h

lemma ClosesBefore.imp {q q' : CodePoint → Prop} {r : Regex CodePoint} (h : ClosesBefore py q r)
    (hq : ∀ c, q c → q' c) : ClosesBefore py q' r :=
  fun a m c ps hps hm => hq c (h a m c ps hps hm)

/-- What is no word character is no letter. -/
lemma ClosesBefore.letter {r : Regex CodePoint}
    (h : ClosesBefore py (fun c => isWord py c = false) r) :
    ClosesBefore py (fun c => isLetter c = false) r :=
  h.imp py fun _ => not_isLetter_of_not_isWord py

/-! ## Behind a word that has been cut -/

/-- A word that an expression with a boundary at its end spells has a boundary behind it. -/
lemma boundary_behind (rs : List (Regex CodePoint)) {a : Option CodePoint} {w rest : Str}
    (h : Spells (cat (rs ++ [wordBoundary py])) a w rest) :
    wordAt py (after a w) ≠ wordAt py rest.head? := by
  induction rs generalizing a w with
  | nil =>
    obtain ⟨rfl, hne⟩ := (spells_wordBoundary py _ _ _).mp h
    exact hne
  | cons r rs ih =>
    have hcat : cat (r :: rs ++ [wordBoundary py]) = seq r (cat (rs ++ [wordBoundary py])) := by
      cases rs <;> rfl
    rw [hcat] at h
    obtain ⟨u, v, rfl, -, hv⟩ := h
    rw [after_append]
    exact ih hv

/-- Behind such a word there is no word character. -/
lemma closesBefore_of_boundary (rs : List (Regex CodePoint)) :
    ClosesBefore py (fun c => isWord py c = false) (cat (rs ++ [wordBoundary py])) := by
  intro a m c ps hps hm
  have hne := boundary_behind py rs hps.of_cut.2.1
  rw [hm] at hne
  simpa using hne.symm

/-- Behind a word that ends in a greedy class there is no character of the class. -/
lemma closesBefore_of_endsIn {p : CodePoint → Bool} {r : Regex CodePoint}
    (h : EndsIn (fun y => ∀ c ∈ y.2.head?, p c = false) r) :
    ClosesBefore py (fun c => p c = false) r := by
  intro a m c ps hps _
  exact h _ _ hps.of_cut.2.2 c rfl

/-- A value ends before what no value has in it. -/
lemma endsIn_assignment (rs : List (Regex CodePoint)) :
    EndsIn (fun y => ∀ c ∈ y.2.head?, isValue py c = false) (cat (rs ++ [assignment py])) :=
  ((endsIn_plus (isValue py)).cat [star true (cls (isSpace py)), cls (isOneOf ":="),
    star true (cls (isSpace py)), opt (cls (isOneOf "'\""))]).cat rs

/-- Behind a value there is no word character. -/
lemma closesBefore_assignment (hu : UnicodeClasses py) (rs : List (Regex CodePoint)) :
    ClosesBefore py (fun c => isWord py c = false) (cat (rs ++ [assignment py])) := by
  intro a m c ps hps hm
  apply not_isWord_of_not_isValue py hu
  exact closesBefore_of_endsIn py (endsIn_assignment py rs) a m c ps hps hm

lemma closesBefore_namedSecret (hu : UnicodeClasses py) :
    ClosesBefore py (fun c => isWord py c = false) (namedSecret py) :=
  closesBefore_assignment py hu [wordBoundary py, secretName]

lemma closesBefore_environmentSecret (hu : UnicodeClasses py) :
    ClosesBefore py (fun c => isWord py c = false) (environmentSecret py) :=
  closesBefore_assignment py hu [wordBoundary py, star true (cls isWordIgnoreCase), secretPart,
    star true (cls isWordIgnoreCase)]

lemma closesBefore_awsAccessKeyId :
    ClosesBefore py (fun c => isWord py c = false) (awsAccessKeyId py) :=
  closesBefore_of_boundary py [wordBoundary py, alt (lit "AKIA") (lit "ASIA"),
    rep (cls fun c => isUpper c || isDecimal c) 16]

lemma closesBefore_githubToken :
    ClosesBefore py (fun c => isWord py c = false) (githubToken py) :=
  closesBefore_of_boundary py [wordBoundary py, lit "gh", cls (isOneOf "pousr"), lit "_",
    atLeast (cls fun c => isAlnum c || c = 95) 20]

lemma closesBefore_mobileNumber :
    ClosesBefore py (fun c => isWord py c = false) (mobileNumber py) :=
  closesBefore_of_boundary py [wordBoundary py, lit "1", cls (isOneOf "3456789"),
    rep (cls (isUnicodeDigit py)) 9]

/-- A connection string ends in `@`. -/
lemma closesBefore_dsnPassword :
    ClosesBefore py (fun c => isWord py c = false) (dsnPassword py) := by
  intro a m c ps hps hm
  obtain ⟨z, rfl⟩ := spells_dsnPassword py hps.of_cut.2.1
  rw [after_append, after_append] at hm
  cases hm

/-- A bearer token is followed by no letter, nor is a JWT or an e-mail address. -/
lemma closesBefore_bearerToken :
    ClosesBefore py (fun c => isLetter c = false) (bearerToken py) := by
  have hends := (endsIn_plus isTokenIgnoreCase).cat
    [litIgnoreCase "bearer", plus (cls (isSpace py))]
  refine (closesBefore_of_endsIn py hends).imp py fun c hc => not_isLetter_of_not_isAlnum ?_
  have hword : isWordIgnoreCase c = false := (Bool.or_eq_false_iff.mp hc).1
  by_contra halnum
  rw [(isWordIgnoreCase_iff c).mpr (.inl (by simpa using halnum))] at hword
  cases hword

lemma closesBefore_jsonWebToken : ClosesBefore py (fun c => isLetter c = false) jsonWebToken :=
  (closesBefore_of_endsIn py ((endsIn_plus fun c => isAlnum c || isOneOf "-_" c).cat
    [lit "eyJ", tokenPart, lit ".", tokenPart, lit "."])).imp py fun _ hc =>
      not_isLetter_of_not_isAlnum (Bool.or_eq_false_iff.mp hc).1

lemma closesBefore_emailAddress : ClosesBefore py (fun c => isLetter c = false) emailAddress :=
  closesBefore_of_endsIn py ((endsIn_atLeast (fun c => isUpper c || isLower c) 2).cat
    [plus (cls fun c => isAlnum c || isOneOf "._%+-" c), lit "@",
      plus (cls fun c => isAlnum c || isOneOf ".-" c), lit "."])

/-! ## Before a word that has been cut -/

/-- A word that has been cut behind an ASCII letter, a digit or an underscore: by some more of these
it comes to a character that is no word character. -/
def OpensApart (r : Regex CodePoint) : Prop :=
  ∀ a c m ps, Scanned r a (.kept c :: .cut m :: ps) → isAsciiWord c = true →
    ∃ x y, m ++ source ps = x ++ y ∧ (∀ d ∈ x, isAsciiWord d = true) ∧ wordAt py y.head? = false

/-- The scan goes on behind a symbol that has been kept. -/
lemma scanned_behind_kept {r : Regex CodePoint} {a : Option CodePoint} {c : CodePoint}
    {ps : List (Piece CodePoint)} (h : Scanned r a (.kept c :: ps)) : Scanned r (some c) ps :=
  Scanned.behind [.kept c] h

/-- A word that an expression with a boundary in front spells does not begin behind a word
character with another one. -/
lemma opensApart_wordBoundary (r : Regex CodePoint) : OpensApart py (seq (wordBoundary py) r) := by
  intro a c m ps hps hc
  refine ⟨[], m ++ source ps, rfl, by simp, ?_⟩
  obtain ⟨u, v, rfl, hu, -⟩ := (scanned_behind_kept hps).of_cut.2.1
  obtain ⟨rfl, hne⟩ := (spells_wordBoundary py _ _ _).mp hu
  rw [wordAt_some, isWord_of_isAsciiWord py hc] at hne
  simpa using hne.symm

/-- A word of ASCII word characters and of others that are no word characters. -/
lemma exists_apart {m : Str} (rest : Str)
    (hall : ∀ c ∈ m, isAsciiWord c = true ∨ isWord py c = false)
    (hex : ∃ c ∈ m, isAsciiWord c = false) :
    ∃ x y, m ++ rest = x ++ y ∧ (∀ d ∈ x, isAsciiWord d = true) ∧ wordAt py y.head? = false := by
  induction m with
  | nil =>
    obtain ⟨c, hc, -⟩ := hex
    cases hc
  | cons c m ih =>
    obtain ⟨hc, hm⟩ := List.forall_mem_cons.mp hall
    by_cases hword : isAsciiWord c = true
    · have hex' : ∃ c ∈ m, isAsciiWord c = false := by
        obtain ⟨d, hd, hfalse⟩ := hex
        rcases List.mem_cons.mp hd with rfl | hd
        · rw [hword] at hfalse
          cases hfalse
        · exact ⟨d, hd, hfalse⟩
      obtain ⟨x, y, heq, hx, hy⟩ := ih hm hex'
      exact ⟨c :: x, y, by rw [List.cons_append, heq, List.cons_append],
        List.forall_mem_cons.mpr ⟨hword, hx⟩, hy⟩
    · exact ⟨[], c :: m ++ rest, rfl, by simp, hc.resolve_left hword⟩

/-- The characters of JWTs are ASCII word characters, or no word characters. -/
lemma asciiWord_or_of_token {c : CodePoint} (h : (isAlnum c || isOneOf "-_" c) = true) :
    isAsciiWord c = true ∨ isWord py c = false := by
  rcases Bool.or_eq_true_iff.mp h with h | h
  · exact .inl (by simp [isAsciiWord, h])
  · rw [isOneOf_iff, show Str.ofString "-_" = [45, 95] by decide] at h
    rcases List.mem_pair.mp h with rfl | rfl
    · exact .inr rfl
    · exact .inl rfl

/-- A JWT has a full stop in it, and nothing outside ASCII. -/
lemma opensApart_jsonWebToken : OpensApart py jsonWebToken := by
  intro a c m ps hps _
  have hspells := (scanned_behind_kept hps).of_cut.2.1
  apply exists_apart
  · have hstop : ∀ c ∈ Str.ofString ".", isAsciiWord c = true ∨ isWord py c = false := by
      intro c hc
      obtain rfl := List.mem_singleton.mp hc
      exact .inr rfl
    have hhead : ∀ c ∈ Str.ofString "eyJ", isAsciiWord c = true ∨ isWord py c = false := by
      have hall : (Str.ofString "eyJ").all isAsciiWord = true := by decide
      exact fun c hc => .inl (List.all_eq_true.mp hall c hc)
    unfold jsonWebToken tokenPart at hspells
    simp only [spells_cat_cons, spells_cat_singleton, spells_lit, spells_plus_cls] at hspells
    obtain ⟨_, _, rfl, rfl, u, _, rfl, ⟨-, hu⟩, _, _, rfl, rfl, v, _, rfl, ⟨-, hv⟩, _, w, rfl,
      rfl, -,
      hw⟩ := hspells
    simp only [List.forall_mem_append]
    exact ⟨hhead, fun c hc => asciiWord_or_of_token py (hu c hc), hstop,
      fun c hc => asciiWord_or_of_token py (hv c hc), hstop,
      fun c hc => asciiWord_or_of_token py (hw c hc)⟩
  · have hstop : Needs (fun c => isAsciiWord c = false) jsonWebToken :=
      .inr (.inr (.inl (needs_lit (l := 46) (by decide) (by decide))))
    exact hspells.needs hstop

/-- A bearer token has a space in it, and nothing outside ASCII before that. -/
lemma opensApart_bearerToken (hu : UnicodeClasses py) : OpensApart py (bearerToken py) := by
  intro a c m ps hps _
  have hspells := (scanned_behind_kept hps).of_cut.2.1
  unfold bearerToken at hspells
  simp only [spells_cat_cons, spells_cat_singleton, spells_litIgnoreCase, spells_plus_cls]
    at hspells
  obtain ⟨b, _, rfl, hb, sp, w, rfl, ⟨hne, hsp⟩, -⟩ := hspells
  have hspace : ∀ c ∈ sp, isWord py c = false :=
    fun c hc => not_isWord_of_isSpace py hu (hsp c hc)
  rw [← List.append_assoc, List.append_assoc]
  apply exists_apart
  · refine List.forall_mem_append.mpr ⟨?_, fun c hc => .inr (hspace c hc)⟩
    intro c hc
    obtain ⟨l, hl, hsame⟩ := exists_of_mem_literal hb c hc
    have hplain : (Str.ofString "bearer").all
        (fun l => isLower l && l != 105 && l != 115 && l != 107) = true := by decide
    have hletter := isLetter_of_sameLetter (List.all_eq_true.mp hplain l hl) hsame
    exact .inl (by simp [isAsciiWord, isAlnum_of_isLetter hletter])
  · obtain ⟨d, sp, rfl⟩ := List.exists_cons_of_ne_nil hne
    refine ⟨d, by simp, ?_⟩
    by_contra hword
    have hfalse := hspace d List.mem_cons_self
    rw [isWord_of_isAsciiWord py (by simpa using hword)] at hfalse
    cases hfalse

/-- A connection string begins with a colon. -/
lemma opensApart_dsnPassword : OpensApart py (dsnPassword py) := by
  intro a c m ps hps _
  obtain ⟨z, rfl⟩ := spells_dsnPassword py (scanned_behind_kept hps).of_cut.2.1
  exact ⟨[], _, rfl, by simp, rfl⟩

/-- An e-mail address could begin with the letter too: the leftmost one has been cut. -/
lemma opensApart_emailAddress : OpensApart py emailAddress := by
  intro a c m ps hps hc
  exfalso
  have hspells := (scanned_behind_kept hps).of_cut.2.1
  have hword : (isAlnum c || isOneOf "._%+-" c) = true := by
    rcases Bool.or_eq_true_iff.mp hc with h | h
    · simp [h]
    · rw [of_decide_eq_true h]
      rfl
  obtain ⟨u, v, rfl, hu, hv⟩ := hspells
  obtain ⟨hne, hall⟩ := (spells_plus_cls _ _ _ _).mp hu
  have hlonger : Spells emailAddress a (c :: (u ++ v)) (source ps) := by
    refine ⟨c :: u, v, rfl, (spells_plus_cls _ _ _ _).mpr ⟨by simp, ?_⟩, by rwa [after_cons]⟩
    exact List.forall_mem_cons.mpr ⟨hword, hall⟩
  refine hps.not_spells (fun a w rest h => (foreign_emailAddress h).ne_nil) ?_ hlonger
  simp

/-! ## The beginning of a word that has been cut -/

/-- The words that the expression spells begin with a character that values can have. -/
def BeginsValue (r : Regex CodePoint) : Prop :=
  ∀ a m rest, Spells r a m rest → ∃ c w, m = c :: w ∧ isValue py c = true

/-- Values can have word characters. -/
lemma isValue_of_isWord (hu : UnicodeClasses py) {c : CodePoint} (h : isWord py c = true) :
    isValue py c = true := by
  by_contra hvalue
  rw [not_isWord_of_not_isValue py hu (by simpa using hvalue)] at h
  cases h

/-- A name begins with a word character. -/
lemma beginsValue_of_assigns (hu : UnicodeClasses py) {IsName : Str → Prop}
    (hname : ∀ n, IsName n → IsPlainName py n) {a : Option CodePoint} {w : Str}
    (h : Assigns py IsName a w) : ∃ c v, w = c :: v ∧ isValue py c = true := by
  obtain ⟨n, gap, v, rfl, hn, -⟩ := h
  obtain ⟨c, m, rfl, hc⟩ := (hname n hn).first
  exact ⟨c, m ++ (gap ++ v), rfl, isValue_of_isWord py hu hc⟩

lemma beginsValue_namedSecret (hu : UnicodeClasses py) : BeginsValue py (namedSecret py) :=
  fun _ _ _ h => beginsValue_of_assigns py hu (fun _ hn => hn.isPlainName py hu)
    ((spells_namedSecret py hu _ _ _).mp h)

lemma beginsValue_environmentSecret (hu : UnicodeClasses py) :
    BeginsValue py (environmentSecret py) :=
  fun _ _ _ h => beginsValue_of_assigns py hu (fun _ hn => hn.isPlainName py hu)
    ((spells_environmentSecret py hu _ _ _).mp h)

lemma beginsValue_dsnPassword : BeginsValue py (dsnPassword py) := by
  intro a m rest h
  obtain ⟨z, rfl⟩ := spells_dsnPassword py h
  exact ⟨58, _, rfl, rfl⟩

lemma beginsValue_emailAddress (hu : UnicodeClasses py) : BeginsValue py emailAddress := by
  rintro a _ rest ⟨u, v, rfl, hu', -⟩
  obtain ⟨hne, hall⟩ := (spells_plus_cls _ _ _ _).mp hu'
  obtain ⟨c, u, rfl⟩ := List.exists_cons_of_ne_nil hne
  refine ⟨c, u ++ v, rfl, ?_⟩
  rcases Bool.or_eq_true_iff.mp (hall c List.mem_cons_self) with hc | hc
  · exact isValue_of_isWord py hu (isWord_of_isAlnum py hc)
  · rw [isOneOf_iff, show Str.ofString "._%+-" = [46, 95, 37, 43, 45] by decide] at hc
    simp only [List.mem_cons, List.not_mem_nil, or_false] at hc
    rcases hc with rfl | rfl | rfl | rfl | rfl <;> rfl

lemma beginsValue_mobileNumber (hu : UnicodeClasses py) : BeginsValue py (mobileNumber py) := by
  intro a m rest h
  obtain ⟨c, v, rfl, hc⟩ := (((spells_mobileNumber py hu _ _ _).mp h).1.isWordLike py hu).first
  exact ⟨c, v, rfl, isValue_of_isWord py hu hc⟩

end AgentCtl
