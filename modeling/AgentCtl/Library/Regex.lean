import Mathlib.Tactic.Common

set_option relaxedAutoImplicit false
set_option autoImplicit false

/-!
# Backtracking regular expressions

Regular expressions as a backtracking engine reads them: the ways an expression can match from a
position form a list, in the order the engine tries them, and the match it reports is the first
one. Substitution replaces the leftmost match, then goes on behind it.

## Main definitions

* `Regex` — expressions over an arbitrary alphabet, with zero-width tests.
* `Regex.ends` — the positions where a match from a position can end, best first.
* `Regex.sub` — replace every match, left to right.

## Main results

* `Regex.sub_ne_nil` — no text is replaced by nothing.
-/

/-- Regular expressions over `α`. -/
inductive Regex (α : Type) where
  /-- One symbol of a class. -/
  | cls (p : α → Bool)
  /-- The empty match. -/
  | empty
  /-- One after the other. -/
  | seq (r s : Regex α)
  /-- The first one, else the second one. -/
  | alt (r s : Regex α)
  /-- Any number of times: as often as possible if greedy, as seldom as possible otherwise. -/
  | star (greedy : Bool) (r : Regex α)
  /-- A zero-width test of the symbols before and after the position. -/
  | look (t : Option α → Option α → Bool)

namespace Regex

variable {α : Type}

/-- A position in a text: the symbol before it, and the text after it. -/
abbrev Pos (α : Type) := Option α × List α

/-- Repetition over a body given by its end positions; `fuel` bounds the number of rounds, and a
round that consumes nothing is not repeated. -/
def starEnds (body : Pos α → List (Pos α)) (greedy : Bool) : ℕ → Pos α → List (Pos α)
  | 0, x => [x]
  | fuel + 1, x =>
    let more := ((body x).filter fun y => y.2.length < x.2.length).flatMap
      (starEnds body greedy fuel)
    if greedy then more ++ [x] else x :: more

/-- Where a match from a position can end, in the order of preference. -/
def ends : Regex α → Pos α → List (Pos α)
  | cls p, (_, c :: rest) => if p c then [(some c, rest)] else []
  | cls _, (_, []) => []
  | empty, x => [x]
  | seq r s, x => (ends r x).flatMap (ends s)
  | alt r s, x => ends r x ++ ends s x
  | star greedy r, x => starEnds (ends r) greedy x.2.length x
  | look t, x => if t x.1 x.2.head? then [x] else []

/-- One or more times, greedily. -/
def plus (r : Regex α) : Regex α := seq r (star true r)

/-- Once or not at all, greedily. -/
def opt (r : Regex α) : Regex α := alt r empty

/-- Exactly `n` times. -/
def rep (r : Regex α) : ℕ → Regex α
  | 0 => empty
  | n + 1 => seq r (rep r n)

/-- At least `n` times, greedily. -/
def atLeast (r : Regex α) (n : ℕ) : Regex α := seq (rep r n) (star true r)

/-- Expressions one after the other. -/
def cat : List (Regex α) → Regex α
  | [] => empty
  | [r] => r
  | r :: rs => seq r (cat rs)

/-- The first expression that matches. -/
def oneOf (r : Regex α) : List (Regex α) → Regex α
  | [] => r
  | s :: rs => alt r (oneOf s rs)

/-- Where the match from a position ends, if there is one that consumes something. -/
def matchAt (r : Regex α) (x : Pos α) : Option (Pos α) :=
  (ends r x).head?.filter fun y => y.2.length < x.2.length

/-- `sub` with a bound on the number of steps. -/
def subFuel (r : Regex α) (mask : List α) : ℕ → Pos α → List α
  | 0, x => x.2
  | fuel + 1, (prev, text) =>
    match matchAt r (prev, text) with
    | some y => mask ++ subFuel r mask fuel y
    | none =>
      match text with
      | [] => []
      | c :: cs => c :: subFuel r mask fuel (some c, cs)

/-- Replace every match by `mask`, from left to right. -/
def sub (r : Regex α) (mask text : List α) : List α :=
  subFuel r mask (text.length + 1) (none, text)

/-- The empty text has no match. -/
@[simp] lemma sub_nil (r : Regex α) (mask : List α) : sub r mask [] = [] := by
  have h : matchAt r (none, []) = none := by
    unfold matchAt
    cases (ends r (none, [])).head? <;> simp
  simp [sub, subFuel, h]

/-- A text does not vanish under substitution, unless the mask is empty. -/
lemma sub_ne_nil (r : Regex α) {mask text : List α} (hmask : mask ≠ []) (htext : text ≠ []) :
    sub r mask text ≠ [] := by
  obtain ⟨c, cs, rfl⟩ := List.exists_cons_of_ne_nil htext
  simp only [sub, subFuel]
  split
  · exact List.append_ne_nil_of_left_ne_nil hmask _
  · exact List.cons_ne_nil _ _

end Regex
