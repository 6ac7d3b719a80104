import AgentCtl.Library.ExceptList
import AgentCtl.Library.Prog
import Mathlib.Data.List.Forall2

set_option relaxedAutoImplicit false
set_option autoImplicit false

/-!
# Two runs side by side

Two programs are in lockstep when their runs from related states end alike: with related values
or related exceptions, in related states, after traces whose events are related one by one. The
relations are parameters, so that two programs in lockstep under a relation of states that hides
a part of them agree on everything else.

## Main definitions

* `OutcomeRel` — two outcomes of the same kind, with related values or related exceptions.
* `Prog.Lockstep` — programs that run alike from related states.

## Main results

* `Prog.Lockstep.bind` — programs in lockstep may be sequenced.
* `Prog.Lockstep.attempt` — a handler on both sides sees related outcomes.
-/

/-- Outcomes of the same kind, with values in `A` or exceptions in `E`. -/
inductive OutcomeRel {ε α β : Type} (E : ε → ε → Prop) (A : α → β → Prop) :
    Except ε α → Except ε β → Prop
  | ok {a b} : A a b → OutcomeRel E A (.ok a) (.ok b)
  | error {e e'} : E e e' → OutcomeRel E A (.error e) (.error e')

namespace OutcomeRel

/-- Equal outcomes are related. -/
lemma refl {ε α : Type} {E : ε → ε → Prop} (hE : ∀ e, E e e) (x : Except ε α) :
    OutcomeRel E Eq x x := by
  cases x with
  | ok a => exact .ok rfl
  | error e => exact .error (hE e)

/-- Sequences are related if their parts are. -/
lemma bind {ε α α' β β' : Type} {E : ε → ε → Prop} {A : α → α' → Prop} {B : β → β' → Prop}
    {x : Except ε α} {y : Except ε α'} {f : α → Except ε β} {g : α' → Except ε β'}
    (h : OutcomeRel E A x y) (hf : ∀ a b, A a b → OutcomeRel E B (f a) (g b)) :
    OutcomeRel E B (x >>= f) (y >>= g) := by
  cases h with
  | ok hab => exact hf _ _ hab
  | error he => exact .error he

/-- Related outcomes are so under any weaker relation. -/
lemma imp {ε α β : Type} {E : ε → ε → Prop} {A B : α → β → Prop} {x : Except ε α} {y : Except ε β}
    (h : OutcomeRel E A x y) (hAB : ∀ a b, A a b → B a b) : OutcomeRel E B x y := by
  cases h with
  | ok hab => exact .ok (hAB _ _ hab)
  | error he => exact .error he

/-- An outcome is a value if the related one is. -/
lemma returns {ε α β : Type} {E : ε → ε → Prop} {A : α → β → Prop} {x : Except ε α} {y : Except ε β}
    (h : OutcomeRel E A x y) (hy : y.Returns) : x.Returns := by
  cases h with
  | ok _ => exact Except.returns_ok _
  | error _ => exact absurd hy (Except.not_returns_error _)

/-- Outcomes whose values, if there are any, are in `A` under the condition `c` only. -/
lemma iff_of {ε α β : Type} {A D : α → β → Prop} {c : Prop} {x : Except ε α} {y : Except ε β}
    (h : OutcomeRel Eq D x y) (hD : ∀ a b, D a b → (A a b ↔ c)) :
    OutcomeRel Eq A x y ↔ (x.Returns → c) := by
  cases h with
  | @ok a b hab =>
    rw [← hD a b hab]
    constructor
    · rintro (hA | _) -
      exact hA
    · exact fun hA => .ok (hA ⟨a, rfl⟩)
  | @error e e' he =>
    exact iff_of_true (.error he) fun hreturns => absurd hreturns (Except.not_returns_error e)

end OutcomeRel

/-- The last elements of two lists related one by one. -/
lemma List.Forall₂.getLast? {α β : Type} {R : α → β → Prop} {xs : List α} {ys : List β}
    (h : List.Forall₂ R xs ys) : Option.Rel R xs.getLast? ys.getLast? := by
  have hrev : List.Forall₂ R xs.reverse ys.reverse := List.rel_reverse h
  rw [← List.head?_reverse, ← List.head?_reverse]
  generalize xs.reverse = us at hrev ⊢
  generalize ys.reverse = vs at hrev ⊢
  cases hrev with
  | nil => exact .none
  | cons hxy _ => exact .some hxy

namespace Prog

variable {ε σ ω α β γ δ : Type}

/-- From related states, `m` and `m'` end with related outcomes, in related states, after traces
of related events. -/
def Lockstep (E : ε → ε → Prop) (S : σ → σ → Prop) (L : ω → ω → Prop) (A : α → β → Prop)
    (m : Prog ε σ ω α) (m' : Prog ε σ ω β) : Prop :=
  ∀ s s', S s s' → OutcomeRel E A (m.out s) (m'.out s') ∧ S (m.final s) (m'.final s') ∧
    List.Forall₂ L (m.trace s) (m'.trace s')

namespace Lockstep

variable {E : ε → ε → Prop} {S : σ → σ → Prop} {L : ω → ω → Prop} {A : α → β → Prop}
  {B : γ → δ → Prop} {m : Prog ε σ ω α} {m' : Prog ε σ ω β} {f : α → Prog ε σ ω γ}
  {f' : β → Prog ε σ ω δ}

/-- Related values. -/
lemma pure {a : α} {b : β} (h : A a b) :
    Lockstep E S L A (pure a : Prog ε σ ω α) (pure b : Prog ε σ ω β) :=
  fun _ _ hs => ⟨.ok h, hs, .nil⟩

/-- Related exceptions. -/
lemma raise {e e' : ε} (h : E e e') :
    Lockstep E S L A (raise e : Prog ε σ ω α) (raise e' : Prog ε σ ω β) :=
  fun _ _ hs => ⟨.error h, hs, .nil⟩

/-- Related outcomes. -/
lemma ofExcept {x : Except ε α} {y : Except ε β} (h : OutcomeRel E A x y) :
    Lockstep E S L A (ofExcept x : Prog ε σ ω α) (ofExcept y : Prog ε σ ω β) := by
  cases h with
  | ok h => exact pure h
  | error h => exact raise h

/-- Reading a part of the state that the two sides have in common, up to `A`. -/
lemma gets {g : σ → α} {g' : σ → β} (h : ∀ s s', S s s' → A (g s) (g' s')) :
    Lockstep E S L A (gets g : Prog ε σ ω α) (gets g' : Prog ε σ ω β) :=
  fun s s' hs => ⟨.ok (h s s' hs), hs, .nil⟩

/-- Changing both states alike. -/
lemma modify {g g' : σ → σ} (h : ∀ s s', S s s' → S (g s) (g' s')) :
    Lockstep E S L Eq (modify g : Prog ε σ ω Unit) (modify g' : Prog ε σ ω Unit) :=
  fun s s' hs => ⟨.ok rfl, h s s' hs, .nil⟩

/-- Changing both states alike, with values in `A`. -/
lemma modifyGet {g : σ → α × σ} {g' : σ → β × σ}
    (h : ∀ s s', S s s' → A (g s).1 (g' s').1 ∧ S (g s).2 (g' s').2) :
    Lockstep E S L A (modifyGet g : Prog ε σ ω α) (modifyGet g' : Prog ε σ ω β) :=
  fun s s' hs => ⟨.ok (h s s' hs).1, (h s s' hs).2, .nil⟩

/-- Emitting related events. -/
lemma emit {e e' : ω} (h : L e e') :
    Lockstep E S L Eq (emit e : Prog ε σ ω Unit) (emit e' : Prog ε σ ω Unit) :=
  fun _ _ hs => ⟨.ok rfl, hs, .cons h .nil⟩

/-- A handler on both sides sees related outcomes. -/
lemma attempt (h : Lockstep E S L A m m') :
    Lockstep E S L (OutcomeRel E A) (Prog.attempt m) (Prog.attempt m') :=
  fun s s' hs => ⟨.ok (h s s' hs).1, (h s s' hs).2⟩

/-- **Sequencing.** Programs in lockstep, followed by programs in lockstep from related values. -/
lemma bind (hm : Lockstep E S L A m m') (hf : ∀ a b, A a b → Lockstep E S L B (f a) (f' b)) :
    Lockstep E S L B (m >>= f) (m' >>= f') := by
  intro s s' hs
  obtain ⟨hout, hstate, htrace⟩ := hm s s' hs
  unfold out final trace at *
  rcases hr : m.run s with ⟨x, s₁, es⟩
  rcases hr' : m'.run s' with ⟨x', s₁', es'⟩
  rw [hr, hr'] at hout hstate htrace
  cases hout with
  | ok hA =>
    obtain ⟨hout₂, hstate₂, htrace₂⟩ := hf _ _ hA s₁ s₁' hstate
    rw [run_bind_ok hr, run_bind_ok hr']
    exact ⟨hout₂, hstate₂, List.rel_append htrace htrace₂⟩
  | error hE =>
    rw [run_bind_error hr, run_bind_error hr']
    exact ⟨.error hE, hstate, htrace⟩

/-- Sequencing after one program, of equal values. -/
lemma bind_eq {m m' : Prog ε σ ω α} {f f' : α → Prog ε σ ω γ} {C : γ → γ → Prop}
    (hm : Lockstep E S L Eq m m') (hf : ∀ a, Lockstep E S L C (f a) (f' a)) :
    Lockstep E S L C (m >>= f) (m' >>= f') :=
  bind hm fun a _ hab => hab ▸ hf a

/-- Branches taken together. -/
lemma ite {p : Prop} [Decidable p] {m₂ : Prog ε σ ω α} {m₂' : Prog ε σ ω β}
    (h : p → Lockstep E S L A m m') (h₂ : ¬ p → Lockstep E S L A m₂ m₂') :
    Lockstep E S L A (if p then m else m₂) (if p then m' else m₂') := by
  by_cases hp : p
  · rw [if_pos hp, if_pos hp]
    exact h hp
  · rw [if_neg hp, if_neg hp]
    exact h₂ hp

end Lockstep

end Prog
