import AgentCtl.Library.Regex
import Mathlib.Data.List.Basic
import Mathlib.Data.List.Forall2

set_option relaxedAutoImplicit false
set_option autoImplicit false

/-!
# What a backtracking expression matches

A backtracking engine lists the ends of the matches from a position. Which ends are listed does not
depend on the order of the search: an end is listed when the text up to it is spelled by the
expression between the symbols around it. The order matters for the first end only, and what ends in
a greedy repetition of a class ends before a symbol that is not of the class.

## Main definitions

* `Regex.Spells` — the expression spells a word, between the symbol before it and the text after it.
* `Regex.Avoids`, `Regex.Needs` — the symbols that no word has, and those that every word has.
* `Regex.Occurs` — a text has a word in it that the expression spells there.
* `Regex.EndsIn` — the first match from any position has an end of some kind.

## Main results

* `Regex.mem_ends_iff` — the ends listed are those of the words spelled.
* `Regex.Spells.congr` — a word is spelled between other symbols too, if the tests cannot tell.
* `Regex.endsIn_star` — a greedy repetition of a class ends before a symbol that is not of it.
-/

namespace Regex

variable {α : Type}

/-- The symbol before the position behind a word. -/
def after (a : Option α) (w : List α) : Option α := w.getLast?.or a

@[simp] lemma after_nil (a : Option α) : after a [] = a := rfl

@[simp] lemma after_cons (a : Option α) (c : α) (w : List α) :
    after a (c :: w) = after (some c) w := by
  cases w with
  | nil => rfl
  | cons d w =>
    unfold after
    rw [List.getLast?_cons_cons]
    cases h : (d :: w).getLast? with
    | none => simp at h
    | some e => rfl

lemma after_append (a : Option α) (u v : List α) : after a (u ++ v) = after (after a u) v := by
  induction u generalizing a with
  | nil => rfl
  | cons c u ih => rw [List.cons_append, after_cons, after_cons, ih]

/-! ## Words -/

/-- A word is a row of words that are not empty, each spelled where it stands. -/
inductive StarSpells (S : Option α → List α → List α → Prop) : Option α → List α → List α → Prop
  | nil (a : Option α) (rest : List α) : StarSpells S a [] rest
  | cons {a : Option α} {u v rest : List α} (hne : u ≠ []) (hu : S a u (v ++ rest))
      (hv : StarSpells S (after a u) v rest) : StarSpells S a (u ++ v) rest

/-- The expression spells a word that stands behind the symbol given and before the text given. -/
def Spells : Regex α → Option α → List α → List α → Prop
  | cls p, _, w, _ => ∃ c, w = [c] ∧ p c = true
  | empty, _, w, _ => w = []
  | seq r s, a, w, rest =>
    ∃ u v, w = u ++ v ∧ Spells r a u (v ++ rest) ∧ Spells s (after a u) v rest
  | alt r s, a, w, rest => Spells r a w rest ∨ Spells s a w rest
  | star _ r, a, w, rest => StarSpells (Spells r) a w rest
  | look t, a, w, rest => w = [] ∧ t a rest.head? = true

/-- The ends of a repetition are those of rows of words, if the ends of the body are those of
words. The induction is on the fuel, which suffices for the text. -/
lemma mem_starEnds_iff {body : Pos α → List (Pos α)} {S : Option α → List α → List α → Prop}
    (hbody : ∀ a t y, y ∈ body (a, t) ↔ ∃ w, t = w ++ y.2 ∧ y.1 = after a w ∧ S a w y.2)
    (greedy : Bool) (fuel : ℕ) (a : Option α) (t : List α) (hfuel : t.length ≤ fuel) (y : Pos α) :
    y ∈ starEnds body greedy fuel (a, t) ↔
      ∃ w, t = w ++ y.2 ∧ y.1 = after a w ∧ StarSpells S a w y.2 := by
  have hstop : ∀ a t, y = (a, t) → ∃ w, t = w ++ y.2 ∧ y.1 = after a w ∧ StarSpells S a w y.2 := by
    rintro a t rfl
    exact ⟨[], rfl, rfl, .nil _ _⟩
  induction fuel generalizing a t with
  | zero =>
    obtain rfl : t = [] := List.length_eq_zero_iff.mp (by omega)
    constructor
    · intro h
      exact hstop a [] (List.mem_singleton.mp h)
    · rintro ⟨w, hw, ha, -⟩
      obtain ⟨rfl, hy⟩ := List.nil_eq_append_iff.mp hw
      exact List.mem_singleton.mpr (Prod.ext ha hy)
  | succ fuel ih =>
    have hsplit : y ∈ starEnds body greedy (fuel + 1) (a, t) ↔
        (∃ z ∈ body (a, t), z.2.length < t.length ∧ y ∈ starEnds body greedy fuel z) ∨
          y = (a, t) := by
      rw [starEnds]
      cases greedy <;> simp [and_assoc, or_comm]
    rw [hsplit]
    constructor
    · rintro (⟨⟨b, s⟩, hz, hlt, hy⟩ | h)
      · obtain ⟨u, rfl, rfl, hu⟩ := (hbody a t (b, s)).mp hz
        have hne : u ≠ [] := by
          rintro rfl
          simp at hlt
        have hs : s.length ≤ fuel := by
          have hlt' : s.length < (u ++ s).length := hlt
          have hfuel' : (u ++ s).length ≤ fuel + 1 := hfuel
          omega
        obtain ⟨v, rfl, ha, hv⟩ := (ih (after a u) s hs).mp hy
        exact ⟨u ++ v, by simp, by rw [after_append, ha], .cons hne hu hv⟩
      · exact hstop a t h
    · rintro ⟨w, rfl, ha, hw⟩
      generalize hrest : y.2 = rest at hw hfuel
      cases hw with
      | nil => exact .inr (Prod.ext ha hrest)
      | @cons _ u v _ hne hu hv =>
        have hpos := List.length_pos_iff.mpr hne
        have hlt : (v ++ rest).length < (u ++ v ++ rest).length := by
          simp only [List.length_append]
          omega
        refine .inl ⟨(after a u, v ++ rest), (hbody _ _ _).mpr ⟨u, by simp, rfl, hu⟩, hlt, ?_⟩
        refine (ih (after a u) (v ++ rest) (by omega)).mpr ⟨v, by rw [hrest], ?_, ?_⟩
        · rw [ha, after_append]
        · rwa [hrest]

/-- **The ends listed** are those of the words that the expression spells. -/
theorem mem_ends_iff (r : Regex α) (a : Option α) (t : List α) (y : Pos α) :
    y ∈ ends r (a, t) ↔ ∃ w, t = w ++ y.2 ∧ y.1 = after a w ∧ Spells r a w y.2 := by
  induction r generalizing a t y with
  | cls p =>
    cases t with
    | nil => simp [ends, Spells]
    | cons c cs =>
      obtain ⟨b, s⟩ := y
      by_cases hc : p c = true
      · simp only [ends, hc, if_true, List.mem_singleton, Spells]
        constructor
        · rintro ⟨⟩
          exact ⟨[c], rfl, rfl, c, rfl, hc⟩
        · rintro ⟨w, h, hb, d, rfl, -⟩
          obtain ⟨rfl, rfl⟩ := List.cons_eq_cons.mp h
          exact Prod.ext hb rfl
      · simp only [ends, hc, Spells]
        refine iff_of_false (by simp) ?_
        rintro ⟨w, h, -, d, rfl, hd⟩
        obtain ⟨rfl, -⟩ := List.cons_eq_cons.mp h
        exact hc hd
  | empty =>
    simp only [ends, List.mem_singleton, Spells]
    constructor
    · rintro rfl
      exact ⟨[], rfl, rfl, rfl⟩
    · rintro ⟨w, rfl, hb, rfl⟩
      exact Prod.ext hb rfl
  | seq r s ihr ihs =>
    simp only [ends, List.mem_flatMap, Spells]
    constructor
    · rintro ⟨⟨b, m⟩, hz, hy⟩
      obtain ⟨u, rfl, rfl, hu⟩ := (ihr _ _ _).mp hz
      obtain ⟨v, rfl, hb, hv⟩ := (ihs _ _ _).mp hy
      exact ⟨u ++ v, by simp, by rw [hb, after_append], u, v, rfl, hu, hv⟩
    · rintro ⟨w, rfl, hb, u, v, rfl, hu, hv⟩
      refine ⟨(after a u, v ++ y.2), (ihr _ _ _).mpr ⟨u, by simp, rfl, hu⟩, ?_⟩
      exact (ihs _ _ _).mpr ⟨v, rfl, by rw [hb, after_append], hv⟩
  | alt r s ihr ihs =>
    simp only [ends, List.mem_append, ihr, ihs, Spells]
    constructor
    · rintro (⟨w, h, hb, hw⟩ | ⟨w, h, hb, hw⟩)
      · exact ⟨w, h, hb, .inl hw⟩
      · exact ⟨w, h, hb, .inr hw⟩
    · rintro ⟨w, h, hb, hw | hw⟩
      · exact .inl ⟨w, h, hb, hw⟩
      · exact .inr ⟨w, h, hb, hw⟩
  | star greedy r ih =>
    exact mem_starEnds_iff (fun a t y => ih a t y) greedy t.length a t (Nat.le_refl _) y
  | look t =>
    simp only [ends, Spells]
    constructor
    · intro h
      split at h
      next ht =>
        obtain rfl := List.mem_singleton.mp h
        exact ⟨[], rfl, rfl, rfl, ht⟩
      next => cases h
    · rintro ⟨w, rfl, hb, rfl, ht⟩
      rw [if_pos (by simpa using ht)]
      exact List.mem_singleton.mpr (Prod.ext hb rfl)

/-- A repetition of a class spells the words over the class. -/
@[simp] lemma spells_star_cls (greedy : Bool) (p : α → Bool) (a : Option α) (w rest : List α) :
    Spells (star greedy (cls p)) a w rest ↔ ∀ c ∈ w, p c = true := by
  constructor
  · intro h
    change StarSpells (Spells (cls p)) a w rest at h
    induction h with
    | nil => simp
    | cons hne hu hv ih =>
      obtain ⟨c, rfl, hc⟩ := hu
      simpa [hc] using ih
  · intro h
    change StarSpells (Spells (cls p)) a w rest
    induction w generalizing a with
    | nil => exact .nil _ _
    | cons c w ih =>
      obtain ⟨hc, hw⟩ := List.forall_mem_cons.mp h
      exact .cons (List.cons_ne_nil c []) ⟨c, rfl, hc⟩ (ih (after a [c]) hw)

@[simp] lemma spells_cls (p : α → Bool) (a : Option α) (w rest : List α) :
    Spells (cls p) a w rest ↔ ∃ c, w = [c] ∧ p c = true := Iff.rfl

@[simp] lemma spells_empty (a : Option α) (w rest : List α) :
    Spells empty a w rest ↔ w = [] := Iff.rfl

lemma spells_cat_singleton (r : Regex α) (a : Option α) (w rest : List α) :
    Spells (cat [r]) a w rest ↔ Spells r a w rest := Iff.rfl

lemma spells_cat_cons (r s : Regex α) (rs : List (Regex α)) (a : Option α) (w rest : List α) :
    Spells (cat (r :: s :: rs)) a w rest ↔
      ∃ u v, w = u ++ v ∧ Spells r a u (v ++ rest) ∧ Spells (cat (s :: rs)) (after a u) v rest :=
  Iff.rfl

/-- An expression behind a row of them. -/
lemma spells_cat_concat (rs : List (Regex α)) (s : Regex α) (a : Option α) (w rest : List α) :
    Spells (cat (rs ++ [s])) a w rest ↔
      ∃ u v, w = u ++ v ∧ Spells (cat rs) a u (v ++ rest) ∧ Spells s (after a u) v rest := by
  induction rs generalizing a w with
  | nil =>
    constructor
    · intro h
      exact ⟨[], w, rfl, rfl, h⟩
    · rintro ⟨u, v, rfl, rfl, hv⟩
      exact hv
  | cons r rs ih =>
    cases rs with
    | nil => exact Iff.rfl
    | cons r' rs =>
      simp only [List.cons_append, spells_cat_cons] at ih ⊢
      constructor
      · rintro ⟨u, v, rfl, hu, hv⟩
        obtain ⟨x, y, rfl, hx, hy⟩ := (ih _ _).mp hv
        refine ⟨u ++ x, y, by simp, ⟨u, x, rfl, by simpa using hu, hx⟩, ?_⟩
        rwa [after_append]
      · rintro ⟨_, y, rfl, ⟨u, x, rfl, hu, hx⟩, hy⟩
        rw [after_append] at hy
        exact ⟨u, x ++ y, by simp, by simpa using hu, (ih _ _).mpr ⟨x, y, rfl, hx, hy⟩⟩

lemma spells_alt (r s : Regex α) (a : Option α) (w rest : List α) :
    Spells (alt r s) a w rest ↔ Spells r a w rest ∨ Spells s a w rest := Iff.rfl

lemma spells_look (t : Option α → Option α → Bool) (a : Option α) (w rest : List α) :
    Spells (look t) a w rest ↔ w = [] ∧ t a rest.head? = true := Iff.rfl

/-- One or more symbols of a class. -/
lemma spells_plus_cls (p : α → Bool) (a : Option α) (w rest : List α) :
    Spells (plus (cls p)) a w rest ↔ w ≠ [] ∧ ∀ c ∈ w, p c = true := by
  constructor
  · rintro ⟨u, v, rfl, ⟨c, rfl, hc⟩, hv⟩
    rw [spells_star_cls] at hv
    exact ⟨by simp, by simpa [hc] using hv⟩
  · rintro ⟨hne, h⟩
    obtain ⟨c, v, rfl⟩ := List.exists_cons_of_ne_nil hne
    obtain ⟨hc, hv⟩ := List.forall_mem_cons.mp h
    exact ⟨[c], v, rfl, ⟨c, rfl, hc⟩, (spells_star_cls true p _ _ _).mpr hv⟩

/-- Some number of symbols of a class. -/
lemma spells_rep_cls (p : α → Bool) (n : ℕ) (a : Option α) (w rest : List α) :
    Spells (rep (cls p) n) a w rest ↔ w.length = n ∧ ∀ c ∈ w, p c = true := by
  induction n generalizing a w with
  | zero =>
    rw [List.length_eq_zero_iff]
    exact ⟨fun h => ⟨h, by simp [show w = [] from h]⟩, fun h => h.1⟩
  | succ n ih =>
    constructor
    · rintro ⟨u, v, rfl, ⟨c, rfl, hc⟩, hv⟩
      obtain ⟨hlen, hall⟩ := (ih _ _).mp hv
      exact ⟨by simp [hlen], by simpa [hc] using hall⟩
    · rintro ⟨hlen, h⟩
      obtain ⟨c, v, rfl⟩ := List.exists_cons_of_length_eq_add_one hlen
      obtain ⟨hc, hv⟩ := List.forall_mem_cons.mp h
      exact ⟨[c], v, rfl, ⟨c, rfl, hc⟩, (ih _ _).mpr ⟨by simpa using hlen, hv⟩⟩

/-- At least some number of symbols of a class. -/
lemma spells_atLeast_cls (p : α → Bool) (n : ℕ) (a : Option α) (w rest : List α) :
    Spells (atLeast (cls p) n) a w rest ↔ n ≤ w.length ∧ ∀ c ∈ w, p c = true := by
  constructor
  · rintro ⟨u, v, rfl, hu, hv⟩
    obtain ⟨hlen, hall⟩ := (spells_rep_cls p n _ _ _).mp hu
    rw [spells_star_cls] at hv
    exact ⟨by simp [hlen], List.forall_mem_append.mpr ⟨hall, hv⟩⟩
  · rintro ⟨hlen, h⟩
    refine ⟨w.take n, w.drop n, (List.take_append_drop n w).symm, ?_, ?_⟩
    · exact (spells_rep_cls p n _ _ _).mpr
        ⟨List.length_take_of_le hlen, fun c hc => h c (List.mem_of_mem_take hc)⟩
    · exact (spells_star_cls true p _ _ _).mpr fun c hc => h c (List.mem_of_mem_drop hc)

/-- Symbols of classes in a row. -/
lemma spells_cat_cls (qs : List (α → Bool)) (a : Option α) (w rest : List α) :
    Spells (cat (qs.map cls)) a w rest ↔ List.Forall₂ (fun q c => q c = true) qs w := by
  induction qs generalizing a w with
  | nil => exact (List.forall₂_nil_left_iff).symm
  | cons q qs ih =>
    cases qs with
    | nil =>
      constructor
      · rintro ⟨c, rfl, hc⟩
        exact .cons hc .nil
      · intro h
        cases h with
        | cons hc hw =>
          cases hw
          exact ⟨_, rfl, hc⟩
    | cons q' qs =>
      constructor
      · rintro ⟨u, v, rfl, ⟨c, rfl, hc⟩, hv⟩
        exact .cons hc ((ih _ _).mp hv)
      · intro h
        cases h with
        | cons hc hw => exact ⟨[_], _, rfl, ⟨_, rfl, hc⟩, (ih _ _).mpr hw⟩

/-! ## Symbols -/

/-- The symbols are in no class of the expression. -/
def Avoids (xs : List α) : Regex α → Prop
  | cls p => xs.all (fun x => !p x) = true
  | empty | look _ => True
  | seq r s | alt r s => Avoids xs r ∧ Avoids xs s
  | star _ r => Avoids xs r

/-- A symbol in no class of the expression is in no word that it spells. -/
lemma Spells.avoids {r : Regex α} {xs : List α} (hr : Avoids xs r) {a : Option α}
    {w rest : List α} (h : Spells r a w rest) : ∀ x ∈ xs, x ∉ w := by
  intro x hx
  induction r generalizing a w rest with
  | cls p =>
    obtain ⟨c, rfl, hc⟩ := h
    rintro hmem
    obtain rfl := List.mem_singleton.mp hmem
    have hall : xs.all (fun x => !p x) = true := hr
    have hnot := List.all_eq_true.mp hall x hx
    rw [hc] at hnot
    cases hnot
  | empty =>
    obtain rfl : w = [] := h
    exact List.not_mem_nil
  | seq r s ihr ihs =>
    obtain ⟨u, v, rfl, hu, hv⟩ := h
    rw [List.mem_append, not_or]
    exact ⟨ihr hr.1 hu, ihs hr.2 hv⟩
  | alt r s ihr ihs => exact h.elim (ihr hr.1) (ihs hr.2)
  | star greedy r ih =>
    change StarSpells (Spells r) a w rest at h
    induction h with
    | nil => exact List.not_mem_nil
    | cons _ hu _ ihv =>
      rw [List.mem_append, not_or]
      exact ⟨ih hr hu, ihv⟩
  | look t =>
    obtain ⟨rfl, -⟩ := h
    exact List.not_mem_nil

lemma Avoids.rep {r : Regex α} {xs : List α} (h : Avoids xs r) (n : ℕ) : Avoids xs (rep r n) := by
  induction n with
  | zero => trivial
  | succ n ih => exact ⟨h, ih⟩

lemma avoids_cat_cls {qs : List (α → Bool)} {xs : List α}
    (h : ∀ q ∈ qs, xs.all (fun x => !q x) = true) : Avoids xs (cat (qs.map cls)) := by
  induction qs with
  | nil => trivial
  | cons q qs ih =>
    obtain ⟨hq, hqs⟩ := List.forall_mem_cons.mp h
    cases qs with
    | nil => exact hq
    | cons q' qs => exact ⟨hq, ih hqs⟩

/-- Whichever word is spelled, some class of the expression that it goes through is of a kind. -/
def Needs (q : α → Prop) : Regex α → Prop
  | cls p => ∀ c, p c = true → q c
  | seq r s => Needs q r ∨ Needs q s
  | alt r s => Needs q r ∧ Needs q s
  | empty | star _ _ | look _ => False

/-- Some symbol of the word is of the kind. -/
lemma Spells.needs {r : Regex α} {q : α → Prop} (hr : Needs q r) {a : Option α} {w rest : List α}
    (h : Spells r a w rest) : ∃ c ∈ w, q c := by
  induction r generalizing a w rest with
  | cls p =>
    obtain ⟨c, rfl, hc⟩ := h
    exact ⟨c, List.mem_singleton_self c, hr c hc⟩
  | seq r s ihr ihs =>
    obtain ⟨u, v, rfl, hu, hv⟩ := h
    rcases hr with hr | hr
    · obtain ⟨c, hc, hq⟩ := ihr hr hu
      exact ⟨c, List.mem_append_left v hc, hq⟩
    · obtain ⟨c, hc, hq⟩ := ihs hr hv
      exact ⟨c, List.mem_append_right u hc, hq⟩
  | alt r s ihr ihs => exact h.elim (ihr hr.1) (ihs hr.2)
  | empty => exact hr.elim
  | star greedy r ih => exact hr.elim
  | look t => exact hr.elim

lemma needs_cat_cls {qs : List (α → Bool)} {q : α → Prop} {p : α → Bool} (hp : p ∈ qs)
    (hq : ∀ c, p c = true → q c) : Needs q (cat (qs.map cls)) := by
  induction qs with
  | nil => cases hp
  | cons p' qs ih =>
    cases qs with
    | nil =>
      obtain rfl := List.mem_singleton.mp hp
      exact hq
    | cons p'' qs =>
      rcases List.mem_cons.mp hp with rfl | hp
      · exact .inl hq
      · exact .inr (ih hp)

/-! ## Other surroundings -/

/-- The tests of the expression cannot tell related symbols apart. -/
def Respects (E : Option α → Option α → Prop) : Regex α → Prop
  | cls _ | empty => True
  | seq r s | alt r s => Respects E r ∧ Respects E s
  | star _ r => Respects E r
  | look t => ∀ a a' b b', E a a' → E b b' → t a b = t a' b'

lemma Respects.rep {E : Option α → Option α → Prop} {r : Regex α} (h : Respects E r) (n : ℕ) :
    Respects E (rep r n) := by
  induction n with
  | zero => trivial
  | succ n ih => exact ⟨h, ih⟩

/-- There are no tests in a row of symbols. -/
lemma respects_cat_cls (E : Option α → Option α → Prop) (qs : List (α → Bool)) :
    Respects E (cat (qs.map cls)) := by
  induction qs with
  | nil => trivial
  | cons q qs ih =>
    cases qs with
    | nil => trivial
    | cons q' qs => exact ⟨trivial, ih⟩

section Congr

variable {E : Option α → Option α → Prop}

/-- The symbol after a position is related to itself, unless the text before the change is used
up. -/
lemma head?_append_related (hrefl : ∀ a, E a a) {rest rest' : List α}
    (hrest : E rest.head? rest'.head?) (v : List α) : E (v ++ rest).head? (v ++ rest').head? := by
  cases v with
  | nil => exact hrest
  | cons c v => exact hrefl _

/-- The symbol before a position is related to itself, unless no text lies between the change and
it. -/
lemma after_related (hrefl : ∀ a, E a a) {a a' : Option α} (ha : E a a') (u : List α) :
    E (after a u) (after a' u) := by
  cases u with
  | nil => exact ha
  | cons c u =>
    rw [after_cons, after_cons]
    exact hrefl _

/-- **Other surroundings.** A word is spelled between related symbols too. -/
theorem Spells.congr {r : Regex α} (hr : Respects E r) (hrefl : ∀ a, E a a) {a a' : Option α}
    {w rest rest' : List α} (ha : E a a') (hrest : E rest.head? rest'.head?)
    (h : Spells r a w rest) : Spells r a' w rest' := by
  induction r generalizing a a' w rest rest' with
  | cls p => exact h
  | empty => exact h
  | seq r s ihr ihs =>
    obtain ⟨u, v, rfl, hu, hv⟩ := h
    exact ⟨u, v, rfl, ihr hr.1 ha (head?_append_related hrefl hrest v) hu,
      ihs hr.2 (after_related hrefl ha u) hrest hv⟩
  | alt r s ihr ihs => exact h.imp (ihr hr.1 ha hrest) (ihs hr.2 ha hrest)
  | star greedy r ih =>
    change StarSpells (Spells r) a w rest at h
    change StarSpells (Spells r) a' w rest'
    induction h generalizing a' rest' with
    | nil => exact .nil _ _
    | @cons a u v rest hne hu _ ihv =>
      exact .cons hne (ih hr ha (head?_append_related hrefl hrest v) hu)
        (ihv (after_related hrefl ha u) hrest)
  | look t =>
    obtain ⟨rfl, ht⟩ := h
    exact ⟨rfl, by rw [← hr _ _ _ _ ha hrest, ht]⟩

/-- Where there are no tests the surroundings do not matter. -/
theorem Spells.anywhere {r : Regex α} (hr : Respects (fun _ _ => True) r) {a a' : Option α}
    {w rest rest' : List α} (h : Spells r a w rest) : Spells r a' w rest' :=
  h.congr hr (fun _ => trivial) trivial trivial

end Congr

/-! ## The first match -/

/-- The first match from any position ends in this way. -/
def EndsIn (Q : Pos α → Prop) (r : Regex α) : Prop := ∀ x y, (ends r x).head? = some y → Q y

/-- What comes last decides how a match ends. -/
lemma EndsIn.seq {Q : Pos α → Prop} {s : Regex α} (h : EndsIn Q s) (r : Regex α) :
    EndsIn Q (seq r s) := by
  intro x y hy
  rw [ends, List.head?_flatMap] at hy
  obtain ⟨z, -, hz⟩ := List.exists_of_findSome?_eq_some hy
  exact h z y hz

/-- The last of a row of expressions decides how a match of the row ends. -/
lemma EndsIn.cat {Q : Pos α → Prop} {s : Regex α} (h : EndsIn Q s) (rs : List (Regex α)) :
    EndsIn Q (cat (rs ++ [s])) := by
  induction rs with
  | nil => exact h
  | cons r rs ih =>
    have hcat : Regex.cat (r :: rs ++ [s]) = Regex.seq r (Regex.cat (rs ++ [s])) := by
      cases rs <;> rfl
    rw [hcat]
    exact ih.seq r

/-- A greedy repetition of a class ends before a symbol that is not of the class. The induction is
on the fuel, which suffices for the text. -/
lemma endsIn_star (p : α → Bool) :
    EndsIn (fun y => ∀ c ∈ y.2.head?, p c = false) (star true (cls p)) := by
  have hfuel : ∀ (fuel : ℕ) (a : Option α) (t : List α) (y : Pos α), t.length ≤ fuel →
      (starEnds (ends (cls p)) true fuel (a, t)).head? = some y →
      ∀ c ∈ y.2.head?, p c = false := by
    intro fuel
    induction fuel with
    | zero =>
      intro a t y hlen hy c hc
      obtain rfl : t = [] := List.length_eq_zero_iff.mp (by omega)
      obtain rfl : (a, []) = y := by simpa [starEnds] using hy
      cases hc
    | succ fuel ih =>
      intro a t y hlen hy c hc
      cases t with
      | nil =>
        obtain rfl : (a, []) = y := by simpa [starEnds, ends] using hy
        cases hc
      | cons d t =>
        have hlen' : t.length ≤ fuel := by simpa using hlen
        by_cases hd : p d = true
        · have hmore : starEnds (ends (cls p)) true (fuel + 1) (a, d :: t) =
              starEnds (ends (cls p)) true fuel (some d, t) ++ [(a, d :: t)] := by
            rw [starEnds]
            simp [ends, hd]
          have hsome : (starEnds (ends (cls p)) true fuel (some d, t)).head? ≠ none := by
            cases fuel <;> simp [starEnds]
          rw [hmore, List.head?_append_of_ne_nil] at hy
          · exact ih (some d) t y hlen' hy c hc
          · simpa using hsome
        · obtain rfl : (a, d :: t) = y := by simpa [starEnds, ends, hd] using hy
          obtain rfl : d = c := by simpa using hc
          simpa using hd
  intro x y hy
  exact hfuel x.2.length x.1 x.2 y (Nat.le_refl _) hy

/-- One or more symbols of a class. -/
lemma endsIn_plus (p : α → Bool) :
    EndsIn (fun y => ∀ c ∈ y.2.head?, p c = false) (plus (cls p)) :=
  (endsIn_star p).seq _

/-- At least some number of symbols of a class. -/
lemma endsIn_atLeast (p : α → Bool) (n : ℕ) :
    EndsIn (fun y => ∀ c ∈ y.2.head?, p c = false) (atLeast (cls p) n) :=
  (endsIn_star p).seq _

/-! ## Occurrences -/

/-- The expression spells no empty word. -/
def Consumes (r : Regex α) : Prop := ∀ a w rest, Spells r a w rest → w ≠ []

/-- A text has a word in it that the expression spells there. -/
def Occurs (r : Regex α) (t : List α) : Prop :=
  ∃ u w rest, t = u ++ (w ++ rest) ∧ Spells r (after none u) w rest

/-- A match is a word that the expression spells, and the first end listed. -/
lemma matchAt_eq_some {r : Regex α} {a : Option α} {t : List α} {y : Pos α}
    (h : matchAt r (a, t) = some y) :
    (ends r (a, t)).head? = some y ∧
      ∃ w, w ≠ [] ∧ t = w ++ y.2 ∧ y.1 = after a w ∧ Spells r a w y.2 := by
  obtain ⟨hhead, hlt⟩ := Option.filter_eq_some_iff.mp h
  obtain ⟨w, rfl, ha, hw⟩ := (mem_ends_iff r a t y).mp (List.mem_of_mem_head? hhead)
  refine ⟨hhead, w, ?_, rfl, ha, hw⟩
  rintro rfl
  simp at hlt

/-- There is no match where no word is spelled. -/
lemma matchAt_eq_none_iff {r : Regex α} (hr : Consumes r) (a : Option α) (t : List α) :
    matchAt r (a, t) = none ↔ ∀ w rest, t = w ++ rest → ¬ Spells r a w rest := by
  unfold matchAt
  constructor
  · rintro h w rest rfl hw
    have hmem : (after a w, rest) ∈ ends r (a, w ++ rest) :=
      (mem_ends_iff r a _ _).mpr ⟨w, rfl, rfl, hw⟩
    cases hhead : (ends r (a, w ++ rest)).head? with
    | none =>
      rw [List.head?_eq_none_iff] at hhead
      rw [hhead] at hmem
      cases hmem
    | some y =>
      obtain ⟨v, hv, -, hspells⟩ := (mem_ends_iff r a _ y).mp (List.mem_of_mem_head? hhead)
      have hlt : y.2.length < (w ++ rest).length := by
        rw [hv, List.length_append]
        have hpos := List.length_pos_iff.mpr (hr _ _ _ hspells)
        omega
      rw [hhead] at h
      simp only [Option.filter, hlt, decide_true, if_true, reduceCtorEq] at h
  · intro h
    cases hhead : (ends r (a, t)).head? with
    | none => rfl
    | some y =>
      obtain ⟨v, hv, -, hspells⟩ := (mem_ends_iff r a _ y).mp (List.mem_of_mem_head? hhead)
      exact absurd hspells (h v y.2 hv)

end Regex
