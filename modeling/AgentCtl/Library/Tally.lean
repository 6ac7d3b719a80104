import AgentCtl.Library.Prog
import Mathlib.Algebra.BigOperators.Pi
import Mathlib.Algebra.BigOperators.Group.List.Basic

set_option relaxedAutoImplicit false
set_option autoImplicit false

/-!
# Programs that only add

A table of numbers is read through a function `value`, and programs add to its entries. What such a
program adds, and whether it raises, does not depend on the table; so what a sequence of them adds
is the sum of what its parts add, up to the first part that raises.

## Main definitions

* `Prog.Adds` — a program that adds a share to every entry, and returns or raises.

## Main results

* `Prog.Adds.bind`, `Prog.Adds.bind_raises`, `Prog.Adds.attempt` — the rules.
* `Prog.Adds.foldl` — what many programs add, each of which returns.
-/

namespace Prog

variable {ε μ ω κ M α β : Type} [AddCommMonoid M] {value : μ → κ → M}

/-- Whatever the table is, the program adds its share `d` to every entry, and it returns exactly if
`returns` is true. -/
def Adds (value : μ → κ → M) (m : Prog ε μ ω α) (returns : Bool) (d : κ → M) : Prop :=
  ∀ s, (m.out s).isOk = returns ∧ ∀ k, value (m.final s) k = value s k + d k

namespace Adds

variable {m : Prog ε μ ω α} {f : α → Prog ε μ ω β} {returns : Bool} {d d' : κ → M}

/-- Returning a value adds nothing. -/
lemma pure (a : α) : Adds value (pure a : Prog ε μ ω α) true 0 := fun _ =>
  ⟨rfl, fun _ => (add_zero _).symm⟩

/-- A sequence whose first part returns. -/
lemma bind (hm : Adds value m true d) (hf : ∀ a, Adds value (f a) returns d') :
    Adds value (m >>= f) returns (d + d') := by
  intro s
  obtain ⟨hok, hadd⟩ := hm s
  unfold out final at *
  rcases hrun : m.run s with ⟨e | a, s₁, es⟩
  · rw [hrun] at hok
    cases hok
  · rw [hrun] at hadd
    rw [run_bind_ok hrun]
    obtain ⟨hok', hadd'⟩ := hf a s₁
    refine ⟨hok', fun k => ?_⟩
    rw [Pi.add_apply, ← add_assoc, ← hadd k]
    exact hadd' k

/-- A sequence whose first part raises. -/
lemma bind_raises (hm : Adds value m false d) : Adds value (m >>= f) false d := by
  intro s
  obtain ⟨hok, hadd⟩ := hm s
  unfold out final at *
  rcases hrun : m.run s with ⟨e | a, s₁, es⟩
  · rw [hrun] at hadd
    rw [run_bind_error hrun]
    exact ⟨rfl, hadd⟩
  · rw [hrun] at hok
    cases hok

/-- A handler keeps what was added. -/
lemma attempt (hm : Adds value m returns d) : Adds value (attempt m) true d := fun s =>
  ⟨rfl, (hm s).2⟩

/-- **Many programs, one after the other**, add what they add together. -/
lemma foldl {ι : Type} {p : ι → Prog ε μ ω Unit} {returns : ι → Bool} {share : ι → κ → M}
    (h : ∀ i, Adds value (p i) (returns i) (share i)) (is : List ι) (s : μ) (k : κ) :
    value (is.foldl (fun s i => (p i).final s) s) k =
      value s k + (is.map fun i => share i k).sum := by
  induction is generalizing s with
  | nil => exact (add_zero _).symm
  | cons i is ih =>
    rw [List.foldl_cons, ih, (h i s).2 k, List.map_cons, List.sum_cons, add_assoc]

end Adds

end Prog
