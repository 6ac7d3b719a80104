import AgentCtl.Library.PartialRun

set_option relaxedAutoImplicit false
set_option autoImplicit false

/-!
# Runs that are watched

What can be said about a run of a partial step function by someone who sees the events: an invariant
of the state and of the events so far; and for someone who sees some of the events only, that the
events he does not see may be left out.

## Main results

* `PartialRun.historyInvariant` — an invariant of the state and of the events so far.
* `PartialRun.run_filter` — **unwinding**: if no hidden event changes what can be seen, and what a
  visible event does depends on what can be seen only, then the run without the hidden events is
  possible, and leads to the same as far as can be seen.
-/

namespace PartialRun

variable {σ τ ω : Type} {step : σ → ω → Option σ}

/-- One more event. -/
lemma run_concat (s : σ) (es : List ω) (e : ω) :
    run step s (es ++ [e]) = (run step s es).bind fun s' => step s' e := by
  rw [run_append]
  refine congrArg _ (funext fun s' => ?_)
  rw [run_cons]
  cases step s' e with
  | none => rfl
  | some t => rfl

/-- **Invariants of the state and its history.** What holds at the start, without events, and is
kept when an event takes the state further, holds after every run. -/
lemma historyInvariant {I : List ω → σ → Prop} {s₀ s : σ} {es : List ω} (hinit : I [] s₀)
    (hstep : ∀ es s e s', run step s₀ es = some s → I es s → step s e = some s' → I (es ++ [e]) s')
    (hrun : run step s₀ es = some s) : I es s := by
  induction es using List.reverseRecOn generalizing s with
  | nil =>
    obtain rfl := Option.some.inj hrun
    exact hinit
  | append_singleton es e ih =>
    rw [run_concat] at hrun
    obtain ⟨t, ht, he⟩ := Option.bind_eq_some_iff.mp hrun
    exact hstep es t e s ht (ih ht) he

variable {step' : τ → ω → Option τ}

/-- **Unwinding.** Let `R` be what two states have in common as far as can be seen. If a hidden
event keeps it, and a visible event that is possible in the one state is possible in the other and
keeps it, then the visible events of a run are a run themselves, and its last state has in common
with that of the whole run what can be seen. -/
lemma run_filter {R : σ → τ → Prop} {visible : ω → Bool}
    (hhidden : ∀ s t e s', R s t → visible e = false → step s e = some s' → R s' t)
    (hvisible : ∀ s t e s', R s t → visible e = true → step s e = some s' →
      ∃ t', step' t e = some t' ∧ R s' t')
    {s s' : σ} {t : τ} {es : List ω} (hR : R s t) (hrun : run step s es = some s') :
    ∃ t', run step' t (es.filter visible) = some t' ∧ R s' t' := by
  induction es generalizing s t with
  | nil =>
    obtain rfl := Option.some.inj hrun
    exact ⟨t, rfl, hR⟩
  | cons e es ih =>
    obtain ⟨s₁, hs₁, hrest⟩ := Option.bind_eq_some_iff.mp hrun
    cases hv : visible e with
    | false =>
      rw [List.filter_cons_of_neg (by simp [hv])]
      exact ih (hhidden s t e s₁ hR hv hs₁) hrest
    | true =>
      obtain ⟨t₁, ht₁, hR₁⟩ := hvisible s t e s₁ hR hv hs₁
      obtain ⟨t', ht', hR'⟩ := ih hR₁ hrest
      refine ⟨t', ?_, hR'⟩
      rw [List.filter_cons_of_pos hv, run_cons, ht₁]
      exact ht'

end PartialRun
