import Mathlib.Tactic.Common
import Mathlib.Data.List.Infix

set_option relaxedAutoImplicit false
set_option autoImplicit false

/-!
# Runs of a partial step function

A system that is driven by events: in a state an event is either impossible or leads to one next
state. A run performs a list of events; it exists when every one of them is possible in its turn.

## Main definitions

* `PartialRun.run` — the state after a list of events.
* `PartialRun.Along` — every step of a run meets a condition, as a test.

## Main results

* `PartialRun.run_append` — runs compose.
* `PartialRun.invariant` — what the steps of a run preserve holds in its last state.
* `PartialRun.along_iff` — what exactly the steps under a condition preserve.
-/

namespace PartialRun

variable {σ ω : Type} (step : σ → ω → Option σ)

/-- The state after a list of events, if they are possible one after the other. -/
def run (s : σ) : List ω → Option σ
  | [] => some s
  | e :: es => (step s e).bind fun s' => run s' es

@[simp] lemma run_nil (s : σ) : run step s [] = some s := rfl

@[simp] lemma run_cons (s : σ) (e : ω) (es : List ω) :
    run step s (e :: es) = (step s e).bind fun s' => run step s' es := rfl

/-- A run of one list of events after another. -/
lemma run_append (s : σ) (es fs : List ω) :
    run step s (es ++ fs) = (run step s es).bind fun s' => run step s' fs := by
  induction es generalizing s with
  | nil => rfl
  | cons e es ih =>
    cases h : step s e with
    | none => simp [h]
    | some s' => simp [h, ih]

variable {step}

/-- **The rule of invariants.** Let every step under a condition `P` preserve `I`. If every step of
a run meets the condition, a run that begins in `I` ends in `I`. -/
lemma invariant {I : σ → Prop} {P : σ → ω → Prop}
    (hstep : ∀ s e s', I s → P s e → step s e = some s' → I s') {s s' : σ} {es : List ω} (hs : I s)
    (hP : ∀ pre e t, pre ++ [e] <+: es → run step s pre = some t → P t e)
    (hrun : run step s es = some s') : I s' := by
  induction es generalizing s with
  | nil =>
    obtain rfl := Option.some.inj hrun
    exact hs
  | cons e es ih =>
    obtain ⟨t, ht, hrest⟩ := Option.bind_eq_some_iff.mp hrun
    have hP₀ : P s e := hP [] e s (by simp) rfl
    refine ih (hstep s e t hs hP₀ ht) (fun pre e' t' hpre ht' => ?_) hrest
    refine hP (e :: pre) e' t' ?_ ?_
    · simpa using hpre
    · simp [ht, ht']

/-! ## Conditions on every step -/

variable (step) in
/-- Every step of the run meets the condition in the state in which it is taken. -/
def Along (P : σ → ω → Prop) (s : σ) : List ω → Prop
  | [] => True
  | e :: es => P s e ∧ match step s e with
    | none => True
    | some s' => Along P s' es

/-- The condition is tested step by step. -/
instance decidableAlong {P : σ → ω → Prop} [∀ s e, Decidable (P s e)] (s : σ) (es : List ω) :
    Decidable (Along step P s es) :=
  match es with
  | [] => inferInstanceAs (Decidable True)
  | e :: es =>
    have : Decidable (match step s e with
        | none => True
        | some s' => Along step P s' es) :=
      match step s e with
      | none => inferInstanceAs (Decidable True)
      | some s' => decidableAlong s' es
    inferInstanceAs (Decidable (_ ∧ _))

/-- A condition that every step meets holds at every step of every part of the run. -/
lemma Along.at {P : σ → ω → Prop} {s t : σ} {es pre : List ω} {e : ω} (h : Along step P s es)
    (hpre : pre ++ [e] <+: es) (hrun : run step s pre = some t) : P t e := by
  induction es generalizing s pre with
  | nil => simp at hpre
  | cons e' es ih =>
    obtain ⟨he', hrest⟩ := h
    cases pre with
    | nil =>
      obtain rfl := Option.some.inj hrun
      obtain rfl : e = e' := by simpa using hpre
      exact he'
    | cons e'' pre =>
      obtain ⟨rfl, hpre'⟩ := List.cons_prefix_cons.mp hpre
      obtain ⟨s', hs', hrun'⟩ := Option.bind_eq_some_iff.mp hrun
      rw [hs'] at hrest
      exact ih hrest hpre' hrun'

/-- **The rule of exact conditions.** If a step ends in `I` exactly when it begins in `I` and meets
the condition, a run ends in `I` exactly when it begins in `I` and all its steps meet it. -/
lemma along_iff {I : σ → Prop} {P : σ → ω → Prop}
    (hstep : ∀ s e s', step s e = some s' → (I s' ↔ I s ∧ P s e)) {s s' : σ} {es : List ω}
    (hrun : run step s es = some s') : I s' ↔ I s ∧ Along step P s es := by
  induction es generalizing s with
  | nil =>
    obtain rfl := Option.some.inj hrun
    exact (and_iff_left trivial).symm
  | cons e es ih =>
    obtain ⟨t, ht, hrest⟩ := Option.bind_eq_some_iff.mp hrun
    rw [ih hrest, hstep s e t ht, and_assoc, Along, ht]

end PartialRun
