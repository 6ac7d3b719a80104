import Mathlib.Tactic.Common

set_option relaxedAutoImplicit false
set_option autoImplicit false

/-!
# Programs with state, exceptions and a trace

A program of an imperative language with exceptions, read as a function: from a state it
returns a value or an exception, the state it leaves, and the list of the events it emitted on
the way. An exception does not undo the state or the events that precede it, so `attempt` is the
`try` of such a language.

## Main definitions

* `Prog ε σ ω α` — programs over states `σ`, exceptions `ε` and events `ω`.
* `Prog.attempt`, `Prog.listen` — run a program and hand over its outcome instead of raising; and
  its events.
* `Prog.Sat` — `Sat m s Q`: the run of `m` from `s` ends with an outcome, a state and a trace
  that satisfy `Q`.
* `Prog.Frame`, `Prog.Keeps` — relations that compose along runs, and programs that stay in one.

## Main results

* `Prog.Sat.bind`, `Prog.Sat.attempt`, `Prog.Sat.imp` — the rules of the logic.
* `Prog.Keeps.bind` — programs in a frame may be sequenced.
-/

/-- A program: from a state, an outcome (a value or an exception), a state and a trace. -/
def Prog (ε σ ω α : Type) : Type := σ → Except ε α × σ × List ω

namespace Prog

variable {ε σ ω α β : Type}

/-- Run a program from a state. -/
def run (m : Prog ε σ ω α) (s : σ) : Except ε α × σ × List ω := m s

/-- The outcome of a run. -/
def out (m : Prog ε σ ω α) (s : σ) : Except ε α := (m.run s).1

/-- The state a run leaves. -/
def final (m : Prog ε σ ω α) (s : σ) : σ := (m.run s).2.1

/-- The events of a run, oldest first. -/
def trace (m : Prog ε σ ω α) (s : σ) : List ω := (m.run s).2.2

/-- Sequencing: the second program starts in the state the first one leaves, and only if the
first one returned a value. -/
def bind (m : Prog ε σ ω α) (f : α → Prog ε σ ω β) : Prog ε σ ω β := fun s =>
  match m s with
  | (.ok a, s₁, e₁) =>
    let r := f a s₁
    (r.1, r.2.1, e₁ ++ r.2.2)
  | (.error e, s₁, e₁) => (.error e, s₁, e₁)

instance : Monad (Prog ε σ ω) where
  pure a := fun s => (.ok a, s, [])
  bind := bind

/-- Raise an exception. -/
def raise (e : ε) : Prog ε σ ω α := fun s => (.error e, s, [])

/-- Read a component of the state. -/
def gets (f : σ → α) : Prog ε σ ω α := fun s => (.ok (f s), s, [])

/-- Change the state and return a value computed from it. -/
def modifyGet (f : σ → α × σ) : Prog ε σ ω α := fun s => (.ok (f s).1, (f s).2, [])

/-- Change the state. -/
def modify (f : σ → σ) : Prog ε σ ω Unit := fun s => (.ok (), f s, [])

/-- Emit one event. -/
def emit (e : ω) : Prog ε σ ω Unit := fun s => (.ok (), s, [e])

/-- Run a program and return its outcome; the state and the events are kept. -/
def attempt (m : Prog ε σ ω α) : Prog ε σ ω (Except ε α) := fun s =>
  (.ok (m s).1, (m s).2.1, (m s).2.2)

/-- Run a program and return its outcome and its events; the state and the events are kept. -/
def listen (m : Prog ε σ ω α) : Prog ε σ ω (Except ε α × List ω) := fun s =>
  (.ok ((m s).1, (m s).2.2), (m s).2.1, (m s).2.2)

/-- Raise if the outcome is an exception. -/
def ofExcept : Except ε α → Prog ε σ ω α
  | .ok a => Pure.pure a
  | .error e => raise e

/-! ## Equations of the runs -/

@[simp] lemma run_pure (a : α) (s : σ) : (pure a : Prog ε σ ω α).run s = (.ok a, s, []) := rfl

@[simp] lemma run_raise (e : ε) (s : σ) : (raise e : Prog ε σ ω α).run s = (.error e, s, []) := rfl

@[simp] lemma run_gets (f : σ → α) (s : σ) :
    (gets f : Prog ε σ ω α).run s = (.ok (f s), s, []) := rfl

@[simp] lemma run_modifyGet (f : σ → α × σ) (s : σ) :
    (modifyGet f : Prog ε σ ω α).run s = (.ok (f s).1, (f s).2, []) := rfl

@[simp] lemma run_modify (f : σ → σ) (s : σ) :
    (modify f : Prog ε σ ω Unit).run s = (.ok (), f s, []) := rfl

@[simp] lemma run_emit (e : ω) (s : σ) :
    (emit e : Prog ε σ ω Unit).run s = (.ok (), s, [e]) := rfl

@[simp] lemma run_attempt (m : Prog ε σ ω α) (s : σ) :
    (attempt m).run s = (.ok (m.run s).1, (m.run s).2.1, (m.run s).2.2) := rfl

/-- The outcome that `attempt` hands over is that of the program. -/
lemma run_of_attempt {m : Prog ε σ ω α} {s s' : σ} {r : Except ε α} {es : List ω}
    (h : (attempt m).run s = (.ok r, s', es)) : m.run s = (r, s', es) := by
  obtain ⟨hr, hrest⟩ := Prod.ext_iff.mp h
  exact Prod.ext (Except.ok.inj hr) hrest

@[simp] lemma run_ofExcept (x : Except ε α) (s : σ) :
    (ofExcept x : Prog ε σ ω α).run s = (x, s, []) := by
  cases x <;> rfl

/-- A sequence whose first program returns. -/
lemma run_bind_ok {m : Prog ε σ ω α} {f : α → Prog ε σ ω β} {s s₁ : σ} {a : α} {e₁ : List ω}
    (h : m.run s = (.ok a, s₁, e₁)) :
    (m >>= f).run s = (((f a).run s₁).1, ((f a).run s₁).2.1, e₁ ++ ((f a).run s₁).2.2) := by
  have h' : m s = (.ok a, s₁, e₁) := h
  change bind m f s = _
  simp only [bind, h']
  rfl

/-- A sequence whose first program raises. -/
lemma run_bind_error {m : Prog ε σ ω α} {f : α → Prog ε σ ω β} {s s₁ : σ} {e : ε} {e₁ : List ω}
    (h : m.run s = (.error e, s₁, e₁)) : (m >>= f).run s = (.error e, s₁, e₁) := by
  have h' : m s = (.error e, s₁, e₁) := h
  change bind m f s = _
  simp only [bind, h']

/-- Sequencing is associative. -/
lemma bind_bind {γ : Type} (m : Prog ε σ ω α) (f : α → Prog ε σ ω β) (g : β → Prog ε σ ω γ) :
    (m >>= f) >>= g = m >>= fun a => f a >>= g := by
  funext s
  change (m >>= f >>= g).run s = (m >>= fun a => f a >>= g).run s
  rcases hm : m.run s with ⟨e | a, s₁, e₁⟩
  · rw [run_bind_error hm, run_bind_error (run_bind_error hm)]
  · rw [run_bind_ok hm]
    rcases hf : (f a).run s₁ with ⟨e | b, s₂, e₂⟩
    · rw [run_bind_error hf]
      have hmf : (m >>= f).run s = (.error e, s₂, e₁ ++ e₂) := by rw [run_bind_ok hm, hf]
      rw [run_bind_error hmf]
    · rw [run_bind_ok hf]
      have hmf : (m >>= f).run s = (.ok b, s₂, e₁ ++ e₂) := by rw [run_bind_ok hm, hf]
      rw [run_bind_ok hmf, List.append_assoc]

/-! ## The logic of one run -/

/-- The run of `m` from `s` satisfies `Q`. -/
def Sat (m : Prog ε σ ω α) (s : σ) (Q : Except ε α → σ → List ω → Prop) : Prop :=
  Q (m.out s) (m.final s) (m.trace s)

namespace Sat

variable {m : Prog ε σ ω α} {f : α → Prog ε σ ω β} {s : σ}
  {Q Q' : Except ε α → σ → List ω → Prop} {R : Except ε β → σ → List ω → Prop}

/-- The postcondition of a run may be weakened. -/
lemma imp (h : Sat m s Q) (himp : ∀ r s' es, Q r s' es → Q' r s' es) : Sat m s Q' :=
  himp _ _ _ h

/-- The rule of sequencing: the second program is judged from the state the first one leaves,
and its events follow those of the first. -/
lemma bind (h : Sat m s Q)
    (hok : ∀ a s₁ e₁, Q (.ok a) s₁ e₁ → Sat (f a) s₁ (fun r s₂ e₂ => R r s₂ (e₁ ++ e₂)))
    (herr : ∀ e s₁ e₁, Q (.error e) s₁ e₁ → R (.error e) s₁ e₁) : Sat (m >>= f) s R := by
  unfold Sat out final trace at h ⊢
  rcases hr : m.run s with ⟨_ | a, s₁, e₁⟩
  · rw [hr] at h
    rw [run_bind_error hr]
    exact herr _ _ _ h
  · rw [hr] at h
    rw [run_bind_ok hr]
    exact hok _ _ _ h

/-- Sequencing after a program that runs in a known way. -/
lemma bind_run {s₁ : σ} {a : α} {e₁ : List ω} (h : m.run s = (.ok a, s₁, e₁))
    (hf : Sat (f a) s₁ (fun r s₂ e₂ => R r s₂ (e₁ ++ e₂))) : Sat (m >>= f) s R := by
  unfold Sat out final trace
  rw [run_bind_ok h]
  exact hf

/-- Sequencing after a program that raises in a known way. -/
lemma bind_error {s₁ : σ} {e : ε} {e₁ : List ω} (h : m.run s = (.error e, s₁, e₁))
    (hR : R (.error e) s₁ e₁) : Sat (m >>= f) s R := by
  unfold Sat out final trace
  rw [run_bind_error h]
  exact hR

/-- `attempt` turns a judgement about a program into one about its outcome. -/
lemma attempt (h : Sat m s Q) :
    Sat (attempt m) s (fun r s' es => ∃ x, r = .ok x ∧ Q x s' es) :=
  ⟨m.out s, rfl, h⟩

/-- Two judgements about one run. -/
lemma and (h : Sat m s Q) (h' : Sat m s Q') : Sat m s fun r s' es => Q r s' es ∧ Q' r s' es :=
  ⟨h, h'⟩

/-- A judgement that no run can fail. -/
lemma of_forall (h : ∀ r s' es, Q r s' es) : Sat m s Q := h _ _ _

/-- A program that runs in a known way. -/
lemma of_run {r : Except ε α} {s' : σ} {es : List ω} (h : m.run s = (r, s', es))
    (hQ : Q r s' es) : Sat m s Q := by
  unfold Sat out final trace
  rw [h]
  exact hQ

end Sat

/-! ## Frames -/

/-- A relation between the state before a program, the state after it and its events that composes
along a run. -/
structure Frame (R : σ → σ → List ω → Prop) : Prop where
  refl : ∀ s, R s s []
  trans : ∀ {s s₁ s₂ es fs}, R s s₁ es → R s₁ s₂ fs → R s s₂ (es ++ fs)

/-- Every run of the program is in the relation. -/
def Keeps (R : σ → σ → List ω → Prop) (m : Prog ε σ ω α) : Prop :=
  ∀ s, R s (m.final s) (m.trace s)

namespace Keeps

variable {R : σ → σ → List ω → Prop} {m : Prog ε σ ω α} {f : α → Prog ε σ ω β}

/-- Returning a value. -/
lemma pure (hR : Frame R) (a : α) : Keeps R (pure a : Prog ε σ ω α) := hR.refl

/-- Raising an exception. -/
lemma raise (hR : Frame R) (e : ε) : Keeps R (raise e : Prog ε σ ω α) := hR.refl

/-- Reading the state. -/
lemma gets (hR : Frame R) (g : σ → α) : Keeps R (gets g : Prog ε σ ω α) := hR.refl

/-- Raising, or not. -/
lemma ofExcept (hR : Frame R) (x : Except ε α) : Keeps R (ofExcept x : Prog ε σ ω α) := by
  cases x
  · exact raise hR _
  · exact pure hR _

/-- A handler does not add to a run. -/
lemma attempt (h : Keeps R m) : Keeps R (attempt m) := h

/-- Watching a run does not add to it. -/
lemma listen (h : Keeps R m) : Keeps R (listen m) := h

/-- Programs in the relation may be sequenced. -/
lemma bind (hR : Frame R) (hm : Keeps R m) (hf : ∀ a, Keeps R (f a)) : Keeps R (m >>= f) := by
  intro s
  refine Sat.bind (Q := fun _ s' es => R s s' es) (R := fun _ s' es => R s s' es) (hm s) ?_ ?_
  · exact fun a s₁ e₁ h => hR.trans h (hf a s₁)
  · exact fun e s₁ e₁ h => h

/-- A program whose runs are known. -/
lemma of_run (h : ∀ s, ∃ r s' es, m.run s = (r, s', es) ∧ R s s' es) : Keeps R m := by
  intro s
  obtain ⟨r, s', es, hrun, hR⟩ := h s
  unfold final trace
  rw [hrun]
  exact hR

/-- A known run of a program in the relation. -/
lemma run_eq {s s' : σ} {r : Except ε α} {es : List ω} (h : Keeps R m)
    (hrun : m.run s = (r, s', es)) : R s s' es := by
  have hR := h s
  unfold final trace at hR
  rwa [hrun] at hR

end Keeps

end Prog
