import Mathlib.Tactic.Common

set_option relaxedAutoImplicit false
set_option autoImplicit false

/-!
# Fallible loops over lists

A loop that maps a fallible function over a list returns exactly when the function returns on
every element; then it returns the list of the results. `Returns x` says that a fallible
computation returns, and `Raises P x` that whatever it raises is in `P`.

## Main definitions

* `Except.Returns` — the computation returns a value.
* `Except.Raises` — the exceptions of the computation have a property.

## Main results

* `List.mapM_ok` — a loop whose rounds all return.
* `List.mapM_related` — a loop whose rounds relate what they read to what they return.
* `List.returns_mapM`, `List.returns_forM` — when a loop returns.
* `Except.raises_bind`, `Except.raises_bind_iff`, `List.raises_mapM` — what sequences and loops
  raise.
-/

namespace Except

variable {ε α β : Type}

/-- The computation returns a value. -/
def Returns (x : Except ε α) : Prop := ∃ a, x = .ok a

@[simp] lemma returns_ok (a : α) : Returns (.ok a : Except ε α) := ⟨a, rfl⟩

@[simp] lemma not_returns_error (e : ε) : ¬ Returns (.error e : Except ε α) := by
  rintro ⟨a, ha⟩
  cases ha

@[simp] lemma returns_pure (a : α) : Returns (pure a : Except ε α) := ⟨a, rfl⟩

@[simp] lemma ok_bind (a : α) (f : α → Except ε β) : ((.ok a : Except ε α) >>= f) = f a := rfl

@[simp] lemma error_bind (e : ε) (f : α → Except ε β) :
    ((.error e : Except ε α) >>= f) = .error e := rfl

@[simp] lemma pure_eq_ok (a : α) : (pure a : Except ε α) = .ok a := rfl

/-- A sequence returns what its second part returns on what the first part returns. -/
lemma bind_eq_ok {x : Except ε α} {f : α → Except ε β} {b : β} :
    (x >>= f) = .ok b ↔ ∃ a, x = .ok a ∧ f a = .ok b := by
  cases x with
  | ok a => exact ⟨fun h => ⟨a, rfl, h⟩, fun ⟨_, ha, h⟩ => Except.ok.inj ha ▸ h⟩
  | error e =>
    constructor
    · rintro ⟨⟩
    · rintro ⟨a, ⟨⟩, -⟩

/-- A computation that does not return raises. -/
lemma not_returns_iff (x : Except ε α) : ¬ x.Returns ↔ ∃ e, x = .error e := by
  cases x with
  | ok a => simp
  | error e => simp

/-- A sequence returns when both of its parts do. -/
lemma returns_bind (x : Except ε α) (f : α → Except ε β) :
    (x >>= f).Returns ↔ ∃ a, x = .ok a ∧ (f a).Returns := by
  cases x with
  | ok a => simp
  | error e => simp

/-- A sequence whose second part cannot fail. -/
lemma returns_bind_pure (x : Except ε α) (f : α → β) :
    (x >>= fun a => (pure (f a) : Except ε β)).Returns ↔ x.Returns := by
  cases x <;> simp

/-- Mapping a function over a result does not change whether there is one. -/
@[simp] lemma returns_map (x : Except ε α) (f : α → β) : (f <$> x).Returns ↔ x.Returns := by
  cases x with
  | ok a => exact iff_of_true ⟨f a, rfl⟩ ⟨a, rfl⟩
  | error e => exact iff_of_false (not_returns_error e) (not_returns_error e)

/-- Whatever the computation raises has the property. -/
def Raises (P : ε → Prop) (x : Except ε α) : Prop := ∀ e, x = .error e → P e

section Raises

variable {P : ε → Prop}

@[simp] lemma raises_ok (a : α) : Raises P (.ok a : Except ε α) := by
  rintro e ⟨⟩

@[simp] lemma raises_pure (a : α) : Raises P (pure a : Except ε α) := raises_ok a

@[simp] lemma raises_error (e : ε) : Raises P (.error e : Except ε α) ↔ P e := by
  refine ⟨fun h => h e rfl, fun h e' he => ?_⟩
  obtain rfl := Except.error.inj he
  exact h

/-- A sequence raises what its parts raise. -/
lemma raises_bind {x : Except ε α} {f : α → Except ε β} (hx : Raises P x)
    (hf : ∀ a, x = .ok a → Raises P (f a)) : Raises P (x >>= f) := by
  cases x with
  | ok a => exact hf a rfl
  | error e => exact (raises_error e).mpr (hx e rfl)

/-- What a sequence raises: what its first part raises, and what the second raises after it. -/
lemma raises_bind_iff {x : Except ε α} {f : α → Except ε β} :
    Raises P (x >>= f) ↔ Raises P x ∧ ∀ a, x = .ok a → Raises P (f a) := by
  cases x with
  | ok a => simp
  | error e => simp

/-- A sequence whose second part raises the same after every result of the first. -/
lemma raises_bind_iff_of_returns {Q : Prop} {x : Except ε α} {f : α → Except ε β}
    (hf : ∀ a, x = .ok a → (Raises P (f a) ↔ Q)) :
    Raises P (x >>= f) ↔ Raises P x ∧ (Returns x → Q) := by
  rw [raises_bind_iff]
  refine and_congr_right fun _ => ⟨?_, fun h a ha => (hf a ha).mpr (h ⟨a, ha⟩)⟩
  rintro h ⟨a, ha⟩
  exact (hf a ha).mp (h a ha)

/-- Mapping a function over a result raises nothing new. -/
lemma raises_map {x : Except ε α} (hx : Raises P x) (f : α → β) : Raises P (f <$> x) := by
  cases x with
  | ok a => exact raises_ok (f a)
  | error e => exact (raises_error e).mpr (hx e rfl)

end Raises

end Except

namespace List

variable {ε α β : Type}

/-- A loop whose rounds all return, by a known function. -/
lemma mapM_ok {f : α → Except ε β} {g : α → β} {xs : List α} (h : ∀ x ∈ xs, f x = .ok (g x)) :
    xs.mapM f = .ok (xs.map g) := by
  induction xs with
  | nil => rfl
  | cons x xs ih =>
    rw [List.mapM_cons, h x List.mem_cons_self, ih fun y hy => h y (List.mem_cons_of_mem _ hy)]
    rfl

/-- What the rounds of a loop that returns have returned. -/
lemma mapM_eq_ok {f : α → Except ε β} {xs : List α} {ys : List β} (h : xs.mapM f = .ok ys) :
    Forall₂ (fun x y => f x = .ok y) xs ys := by
  induction xs generalizing ys with
  | nil =>
    obtain rfl := Except.ok.inj h
    exact .nil
  | cons x xs ih =>
    rw [List.mapM_cons] at h
    cases hx : f x with
    | error e => simp [hx] at h
    | ok y =>
      cases hxs : xs.mapM f with
      | error e => simp [hx, hxs] at h
      | ok zs =>
        simp only [hx, hxs, Except.ok_bind] at h
        obtain rfl := Except.ok.inj h
        exact .cons hx (ih hxs)

/-- What such a loop returns are the results of its rounds. -/
lemma mem_mapM_iff {f : α → Except ε β} {xs : List α} {ys : List β} (h : xs.mapM f = .ok ys)
    (y : β) : y ∈ ys ↔ ∃ x ∈ xs, f x = .ok y := by
  have hrel := mapM_eq_ok h
  clear h
  induction hrel with
  | nil => simp
  | cons hxy _ ih => simp [ih, hxy, eq_comm]

/-- A loop that stops early returns the first results. -/
lemma mapM_take {f : α → Except ε β} {xs : List α} {ys : List β} (h : xs.mapM f = .ok ys) (n : ℕ) :
    (xs.take n).mapM f = .ok (ys.take n) := by
  have hrel := mapM_eq_ok h
  clear h
  induction hrel generalizing n with
  | nil => simp
  | cons hxy _ ih =>
    cases n with
    | zero => simp
    | succ n => simp [List.mapM_cons, hxy, ih n]

/-- A loop in another order returns the same results in another order. -/
lemma mapM_perm {f : α → Except ε β} {xs xs' : List α} {ys : List β} (hperm : xs.Perm xs')
    (h : xs.mapM f = .ok ys) : ∃ ys', xs'.mapM f = .ok ys' ∧ ys.Perm ys' := by
  induction hperm generalizing ys with
  | nil => exact ⟨ys, h, .refl ys⟩
  | cons x _ ih =>
    rw [List.mapM_cons] at h
    obtain ⟨y, hy, h⟩ := Except.bind_eq_ok.mp h
    obtain ⟨zs, hzs, h⟩ := Except.bind_eq_ok.mp h
    obtain rfl := Except.ok.inj h
    obtain ⟨zs', hzs', hsame⟩ := ih hzs
    refine ⟨y :: zs', ?_, hsame.cons y⟩
    rw [List.mapM_cons, hy, hzs']
    rfl
  | swap x x' xs =>
    simp only [List.mapM_cons] at h
    obtain ⟨y', hy', h⟩ := Except.bind_eq_ok.mp h
    obtain ⟨zs', hzs', h⟩ := Except.bind_eq_ok.mp h
    obtain ⟨y, hy, hzs'⟩ := Except.bind_eq_ok.mp hzs'
    obtain ⟨zs, hzs, hzs'⟩ := Except.bind_eq_ok.mp hzs'
    obtain rfl := Except.ok.inj hzs'
    obtain rfl := Except.ok.inj h
    refine ⟨y :: y' :: zs, ?_, .swap _ _ _⟩
    rw [List.mapM_cons, List.mapM_cons, hy, hy', hzs]
    rfl
  | trans _ _ ih ih' =>
    obtain ⟨ys', hys', hsame⟩ := ih h
    obtain ⟨ys'', hys'', hsame'⟩ := ih' hys'
    exact ⟨ys'', hys'', hsame.trans hsame'⟩

/-- A loop whose rounds all return what `R` relates to their element. -/
lemma mapM_related {R : α → β → Prop} {f : α → Except ε β} {xs : List α}
    (h : ∀ x ∈ xs, ∃ y, f x = .ok y ∧ R x y) : ∃ ys, xs.mapM f = .ok ys ∧ Forall₂ R xs ys := by
  induction xs with
  | nil => exact ⟨[], rfl, .nil⟩
  | cons x xs ih =>
    obtain ⟨y, hy, hR⟩ := h x mem_cons_self
    obtain ⟨ys, hys, hRs⟩ := ih fun z hz => h z (mem_cons_of_mem _ hz)
    refine ⟨y :: ys, ?_, .cons hR hRs⟩
    rw [List.mapM_cons, hy, hys]
    rfl

/-- A loop returns when all its rounds do. -/
lemma returns_mapM (f : α → Except ε β) (xs : List α) :
    (xs.mapM f).Returns ↔ ∀ x ∈ xs, (f x).Returns := by
  induction xs with
  | nil => simp [Except.Returns, pure, Except.pure]
  | cons x xs ih =>
    rw [List.mapM_cons, Except.returns_bind, List.forall_mem_cons, ← ih]
    constructor
    · rintro ⟨a, ha, hr⟩
      obtain ⟨ys, hys, -⟩ := (Except.returns_bind _ _).mp hr
      exact ⟨⟨a, ha⟩, ⟨ys, hys⟩⟩
    · rintro ⟨⟨a, ha⟩, ⟨ys, hys⟩⟩
      exact ⟨a, ha, by simp [hys]⟩

/-- A loop without results returns when all its rounds do. -/
lemma returns_forM (f : α → Except ε Unit) (xs : List α) :
    (xs.forM f).Returns ↔ ∀ x ∈ xs, (f x).Returns := by
  induction xs with
  | nil => simp
  | cons x xs ih =>
    have hcons : (x :: xs).forM f = (f x >>= fun _ => xs.forM f) := rfl
    rw [hcons, Except.returns_bind, List.forall_mem_cons, ← ih]
    constructor
    · rintro ⟨a, ha, hr⟩
      exact ⟨⟨a, ha⟩, hr⟩
    · rintro ⟨⟨a, ha⟩, hr⟩
      exact ⟨a, ha, hr⟩

/-- A loop raises what its rounds raise. -/
lemma raises_mapM {P : ε → Prop} {f : α → Except ε β} {xs : List α}
    (h : ∀ x ∈ xs, (f x).Raises P) : (xs.mapM f).Raises P := by
  induction xs with
  | nil => exact Except.raises_pure _
  | cons x xs ih =>
    rw [List.mapM_cons]
    refine Except.raises_bind (h x mem_cons_self) fun y _ => ?_
    refine Except.raises_bind (ih fun z hz => h z (mem_cons_of_mem _ hz)) fun ys _ => ?_
    exact Except.raises_pure _

/-- A loop without results raises what its rounds raise. -/
lemma raises_forM {P : ε → Prop} {f : α → Except ε Unit} {xs : List α}
    (h : ∀ x ∈ xs, (f x).Raises P) : (xs.forM f).Raises P := by
  induction xs with
  | nil => exact Except.raises_ok _
  | cons x xs ih =>
    obtain ⟨hx, hxs⟩ := List.forall_mem_cons.mp h
    exact Except.raises_bind hx fun _ _ => ih hxs

end List
