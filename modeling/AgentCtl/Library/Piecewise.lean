import AgentCtl.Library.ExceptList

set_option relaxedAutoImplicit false
set_option autoImplicit false

/-!
# Translations that work item by item

A translation of lists may raise on an item, and adds to its output what the items become, in order.
What an item adds can be told from the translation alone: it is what the output gains when the item
is appended to those before it. A translation conserves its items if each of them is represented in
what it adds.

## Main definitions

* `Piecewise` — the output is that of the items, one after the other.
* `Conserves` — every item is represented in what it adds to the output.

## Main results

* `Piecewise.conserves_iff` — a translation that works item by item conserves them if it does so one
  by one.
-/

variable {ε α β : Type}

/-- The translation of items of a kind is that of each of them, one after the other. -/
def Piecewise (P : α → Prop) (T : List α → Except ε (List β)) (f : α → Except ε (List β)) : Prop :=
  ∀ xs : List α, (∀ x ∈ xs, P x) → T xs = (do return (← xs.mapM f).flatten)

/-- Every item is represented in what it adds to the output; or the list is refused. -/
def Conserves (refused : ε → Prop) (T : List α → Except ε (List β)) (R : α → List β → Prop)
    (xs : List α) : Prop :=
  match T xs with
  | .error e => refused e
  | .ok out => ∀ pre x post, xs = pre ++ x :: post → ∃ before added after,
      T pre = .ok before ∧ T (pre ++ [x]) = .ok (before ++ added) ∧ out = before ++ added ++ after ∧
        R x added

namespace Piecewise

variable {P : α → Prop} {T : List α → Except ε (List β)} {f : α → Except ε (List β)}
  {R : α → List β → Prop} {refused : ε → Prop}

open Except

/-- The translation of a list of which every item can be translated. -/
lemma eq_ok (hT : Piecewise P T f) {xs : List α} (hxs : ∀ x ∈ xs, P x) {g : α → List β}
    (hg : ∀ x ∈ xs, f x = .ok (g x)) : T xs = .ok (xs.map g).flatten := by
  rw [hT xs hxs, List.mapM_ok hg]
  rfl

/-- A translation raises what it raises on an item. -/
lemma raises (hT : Piecewise P T f) {xs : List α} (hxs : ∀ x ∈ xs, P x) {Q : ε → Prop}
    (hf : ∀ x ∈ xs, (f x).Raises Q) : (T xs).Raises Q := by
  rw [hT xs hxs]
  exact raises_bind (List.raises_mapM hf) fun _ _ => raises_pure _

/-- A list can be translated if every item can. -/
lemma returns_iff (hT : Piecewise P T f) {xs : List α} (hxs : ∀ x ∈ xs, P x) :
    (T xs).Returns ↔ ∀ x ∈ xs, (f x).Returns := by
  rw [hT xs hxs, returns_bind_pure, List.returns_mapM]

/-- **Item by item.** Where no item is refused, the items are conserved if each of them can be
translated and is represented in its own translation. -/
theorem conserves_iff (hT : Piecewise P T f) {xs : List α} (hxs : ∀ x ∈ xs, P x)
    (hf : ∀ x ∈ xs, (f x).Raises fun e => ¬ refused e) :
    Conserves refused T R xs ↔ ∀ x ∈ xs, ∃ ys, f x = .ok ys ∧ R x ys := by
  unfold Conserves
  by_cases hreturns : ∀ x ∈ xs, (f x).Returns
  · -- what an item becomes, chosen for every item of the list
    let g : α → List β := fun x => (f x).toOption.getD []
    have hg : ∀ x ∈ xs, f x = .ok (g x) := by
      intro x hx
      obtain ⟨ys, hys⟩ := hreturns x hx
      show f x = .ok ((f x).toOption.getD [])
      rw [hys]
      rfl
    have hsplit : ∀ pre x post, xs = pre ++ x :: post →
        T pre = .ok (pre.map g).flatten ∧ T (pre ++ [x]) = .ok ((pre.map g).flatten ++ g x) := by
      rintro pre x post rfl
      have hpre : ∀ y ∈ pre ++ [x], y ∈ pre ++ x :: post := by
        intro y hy
        simp only [List.mem_append, List.mem_cons, List.not_mem_nil, or_false] at hy ⊢
        tauto
      refine ⟨hT.eq_ok (fun y hy => hxs y (List.mem_append_left _ hy))
        (fun y hy => hg y (List.mem_append_left _ hy)), ?_⟩
      rw [hT.eq_ok (fun y hy => hxs y (hpre y hy)) (fun y hy => hg y (hpre y hy))]
      simp
    rw [hT.eq_ok hxs hg]
    constructor
    · intro h x hx
      obtain ⟨pre, post, hpost⟩ := List.append_of_mem hx
      obtain ⟨before, added, after, hbefore, hadded, -, hR⟩ := h pre x post hpost
      obtain ⟨hbefore', hadded'⟩ := hsplit pre x post hpost
      rw [hbefore'] at hbefore
      obtain rfl := Except.ok.inj hbefore
      rw [hadded'] at hadded
      have heq : g x = added := List.append_cancel_left (Except.ok.inj hadded)
      exact ⟨g x, hg x hx, heq ▸ hR⟩
    · intro h pre x post hpost
      have hx : x ∈ xs := by rw [hpost]; exact List.mem_append_right _ List.mem_cons_self
      obtain ⟨hbefore, hadded⟩ := hsplit pre x post hpost
      obtain ⟨ys, hys, hR⟩ := h x hx
      rw [hg x hx] at hys
      obtain rfl := Except.ok.inj hys
      refine ⟨_, g x, (post.map g).flatten, hbefore, hadded, ?_, hR⟩
      rw [hpost]
      simp
  · refine iff_of_false ?_ fun h => hreturns fun x hx => ?_
    · have hnot : ¬ (T xs).Returns := fun hr => hreturns ((hT.returns_iff hxs).mp hr)
      obtain ⟨e, he⟩ := (not_returns_iff _).mp hnot
      rw [he]
      exact hT.raises hxs hf e he
    · obtain ⟨ys, hys, -⟩ := h x hx
      exact ⟨ys, hys⟩

end Piecewise
