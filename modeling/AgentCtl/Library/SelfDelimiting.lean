import Mathlib.Data.List.TakeWhile
import Mathlib.Tactic.Common

set_option relaxedAutoImplicit false
set_option autoImplicit false

/-!
# Self-delimiting texts

An encoding of values as texts is self-delimiting if a value can be told from the front of a longer
text. What may follow a text is given as a predicate: a string literal ends by itself, a number ends
where something follows that is no part of a number.

## Main definitions

* `SelfDelimiting Q enc` — where texts in `Q` follow, `enc` is read off uniquely.

## Main results

* `SelfDelimiting.injective` — such an encoding is injective.
* `SelfDelimiting.of_decoder` — an encoding with a decoder is self-delimiting.
* `SelfDelimiting.takeWhile_append_stop` — a text that ends where another kind of character stands.
* `SelfDelimiting.flatMap_end` — a sequence of such texts up to an end mark is self-delimiting.
-/

variable {α γ : Type}

/-- The value and what follows it are determined by the whole text. -/
def SelfDelimiting (Q : List γ → Prop) (enc : α → List γ) : Prop :=
  ∀ (a b : α) (x y : List γ), Q x → Q y → enc a ++ x = enc b ++ y → a = b ∧ x = y

namespace SelfDelimiting

variable {Q : List γ → Prop} {enc : α → List γ}

/-- Different values have different texts. -/
lemma injective (h : SelfDelimiting Q enc) (hnil : Q []) : Function.Injective enc := by
  intro a b hab
  have htext : enc a ++ [] = enc b ++ [] := by rw [hab]
  exact (h a b [] [] hnil hnil htext).1

/-- An encoding with a decoder that reads its texts off the front. -/
lemma of_decoder (dec : List γ → Option (α × List γ))
    (hdec : ∀ a x, dec (enc a ++ x) = some (a, x)) : SelfDelimiting Q enc := by
  intro a b x y _ _ h
  have hx := hdec a x
  rw [h, hdec b y] at hx
  obtain ⟨hab, hxy⟩ := Prod.ext_iff.mp (Option.some.inj hx)
  exact ⟨hab.symm, hxy.symm⟩

/-- What is true of the front of a text, and false where its end follows. -/
lemma takeWhile_append_stop {p : γ → Bool} {s x : List γ} (hs : ∀ c ∈ s, p c = true)
    (hx : ∀ c, x.head? = some c → p c = false) : (s ++ x).takeWhile p = s := by
  rw [List.takeWhile_append_of_pos hs]
  cases x with
  | nil => simp
  | cons c x => simp [hx c rfl]

/-- The texts of a sequence and an end mark that none of them begins with. -/
lemma flatMap_end (h : SelfDelimiting (fun _ => True) enc) {t : γ}
    (ht : ∀ a x, (enc a ++ x).head? ≠ some t) :
    SelfDelimiting Q fun s : List α => s.flatMap enc ++ [t] := by
  intro s u x y _ _ heq
  induction s generalizing u with
  | nil =>
    cases u with
    | nil => exact ⟨rfl, List.append_cancel_left heq⟩
    | cons b u =>
      have hhead := ht b (u.flatMap enc ++ [t] ++ y)
      rw [← List.append_assoc, ← List.append_assoc, ← List.flatMap_cons] at hhead
      rw [← heq] at hhead
      exact absurd rfl hhead
  | cons a s ih =>
    cases u with
    | nil =>
      have hhead := ht a (s.flatMap enc ++ [t] ++ x)
      rw [← List.append_assoc, ← List.append_assoc, ← List.flatMap_cons] at hhead
      rw [heq] at hhead
      exact absurd rfl hhead
    | cons b u =>
      simp only [List.flatMap_cons, List.append_assoc] at heq
      obtain ⟨hab, hrest⟩ := h a b _ _ trivial trivial heq
      simp only [← List.append_assoc] at hrest
      obtain ⟨hsu, hxy⟩ := ih u hrest
      exact ⟨by rw [hab, hsu], hxy⟩

end SelfDelimiting
