import Mathlib.Data.List.DropRight
import Mathlib.Tactic.Common

set_option relaxedAutoImplicit false
set_option autoImplicit false

/-!
# Histories

A history is a list of events, oldest first, that grows at its end. Two questions are asked of one:
what has happened since the last event of a kind, and which event of a kind was the last.

## Main definitions

* `List.since` — the events after the last one of a kind.
* `List.latest` — the last event of a kind.
* `List.Past` — a law about every event and the events after it.
* `List.Between` — a law about every two events and the events between them.

## Main results

* `List.since_concat`, `List.latest_concat` — the answers after one more event.
* `List.past_concat`, `List.between_concat` — the laws after one more event.
* `List.rel_latest` — in an ordered history the last event of a kind comes after the others.
-/

namespace List

variable {α : Type} (p : α → Bool) (l : List α)

/-- The events after the last one of the kind; all of them, if there is none. -/
def since : List α := l.rtakeWhile fun x => !p x

/-- The last event of the kind. -/
def latest : Option α := (l.filter p).getLast?

@[simp] lemma since_nil : since p [] = [] := rfl

@[simp] lemma latest_nil : latest p [] = none := rfl

/-- One more event: one of the kind starts anew. -/
lemma since_concat (x : α) : (l ++ [x]).since p = if p x then [] else l.since p ++ [x] := by
  unfold since
  rw [rtakeWhile_concat]
  cases p x <;> rfl

/-- One more event: one of the kind is the last. -/
lemma latest_concat (x : α) : (l ++ [x]).latest p = if p x then some x else l.latest p := by
  unfold latest
  rw [filter_append]
  cases hx : p x with
  | true => simp [hx]
  | false => simp [hx]

variable {p l}

/-- What has happened since an event is part of the history. -/
lemma since_suffix : l.since p <:+ l := rtakeWhile_suffix _ _

/-- What has happened since an event of a kind is of other kinds. -/
lemma not_of_mem_since {x : α} (h : x ∈ l.since p) : p x = false := by
  have hx := mem_rtakeWhile_imp h
  simpa using hx

/-- A history with an event of a kind: the last one, and what has happened since. -/
lemma exists_append_since (h : ∃ x ∈ l, p x = true) :
    ∃ pre a, p a = true ∧ l = pre ++ a :: l.since p := by
  induction l using List.reverseRecOn with
  | nil =>
    obtain ⟨x, hx, -⟩ := h
    cases hx
  | append_singleton l y ih =>
    rw [since_concat]
    by_cases hy : p y = true
    · exact ⟨l, y, hy, by rw [if_pos hy]⟩
    · obtain ⟨x, hx, hpx⟩ := h
      rcases mem_append.mp hx with hx | hx
      · obtain ⟨pre, a, ha, hl⟩ := ih ⟨x, hx, hpx⟩
        refine ⟨pre, a, ha, ?_⟩
        rw [if_neg hy, ← cons_append, ← append_assoc, ← hl]
      · obtain rfl := mem_singleton.mp hx
        exact absurd hpx hy

/-- What has happened since, in a history of images. -/
lemma since_map {β : Type} (f : α → β) (q : β → Bool) (l : List α) :
    (l.map f).since q = (l.since fun x => q (f x)).map f := by
  induction l using List.reverseRecOn with
  | nil => rfl
  | append_singleton l x ih =>
    rw [map_append, map_singleton, since_concat, since_concat, ih]
    split
    · rfl
    · rw [map_append, map_singleton]

/-- The last event of a kind is an event of that kind. -/
lemma mem_of_latest {x : α} (h : l.latest p = some x) : x ∈ l ∧ p x = true :=
  mem_filter.mp (mem_of_getLast? h)

/-- Without a last event of a kind there is none of that kind. -/
lemma latest_eq_none_iff : l.latest p = none ↔ ∀ x ∈ l, p x = false := by
  unfold latest
  rw [getLast?_eq_none_iff, filter_eq_nil_iff]
  simp

/-- In an ordered history the last event of a kind comes after the others. -/
lemma rel_latest {R : α → α → Prop} (hrefl : ∀ x, R x x) (hl : l.Pairwise R) {x y : α}
    (hx : l.latest p = some x) (hy : y ∈ l) (hpy : p y = true) : R y x := by
  induction l using List.reverseRecOn with
  | nil => cases hy
  | append_singleton l z ih =>
    rw [pairwise_append] at hl
    rw [latest_concat] at hx
    rcases mem_append.mp hy with hy | hy
    · by_cases hz : p z = true
      · rw [if_pos hz] at hx
        obtain rfl := Option.some.inj hx
        exact hl.2.2 y hy z (mem_singleton_self z)
      · rw [if_neg hz] at hx
        exact ih hl.1 hx hy
    · obtain rfl := mem_singleton.mp hy
      rw [if_pos hpy] at hx
      obtain rfl := Option.some.inj hx
      exact hrefl y

/-! ## Laws of a history -/

/-- Every event and the events after it are in the relation. -/
def Past (Q : α → List α → Prop) (l : List α) : Prop :=
  ∀ pre a post, l = pre ++ a :: post → Q a post

/-- Every two events and the events between them are in the relation. -/
def Between (R : α → List α → α → Prop) (l : List α) : Prop :=
  ∀ pre a mid b post, l = pre ++ a :: (mid ++ b :: post) → R a mid b

/-- The ways in which an event stands in a history that has grown by one. -/
lemma concat_eq_append_cons {x a : α} {pre post : List α} :
    l ++ [x] = pre ++ a :: post ↔
      (l = pre ∧ x = a ∧ post = []) ∨ ∃ post', post = post' ++ [x] ∧ l = pre ++ a :: post' := by
  induction post using List.reverseRecOn with
  | nil =>
    constructor
    · intro h
      obtain ⟨hl, hx⟩ := append_inj' h rfl
      exact .inl ⟨hl, singleton_inj.mp hx, rfl⟩
    · rintro (⟨rfl, rfl, -⟩ | ⟨post', hpost, -⟩)
      · rfl
      · exact absurd hpost (by simp)
  | append_singleton post y _ =>
    constructor
    · intro h
      have h' : l ++ [x] = (pre ++ a :: post) ++ [y] := by simpa using h
      obtain ⟨hl, hx⟩ := append_inj' h' rfl
      obtain rfl := singleton_inj.mp hx
      exact .inr ⟨post, rfl, hl⟩
    · rintro (⟨-, -, hpost⟩ | ⟨post', hpost, hl⟩)
      · exact absurd hpost (by simp)
      · rw [hl, hpost]
        simp

variable {Q : α → List α → Prop} {R : α → List α → α → Prop}

lemma past_nil : Past Q [] := by
  intro pre a post h
  exact absurd h (by simp)

lemma between_nil : Between R [] := by
  intro pre a mid b post h
  exact absurd h (by simp)

/-- A law about the past after one more event. -/
lemma past_concat {x : α} :
    Past Q (l ++ [x]) ↔ Past (fun a post => Q a (post ++ [x])) l ∧ Q x [] := by
  constructor
  · intro h
    constructor
    · intro pre a post hl
      exact h pre a (post ++ [x]) (by simp [hl])
    · exact h l x [] rfl
  · rintro ⟨hl, hx⟩ pre a post h
    rcases concat_eq_append_cons.mp h with ⟨-, rfl, rfl⟩ | ⟨post', rfl, h'⟩
    · exact hx
    · exact hl pre a post' h'

/-- A law about two events after one more event. -/
lemma between_concat {x : α} :
    Between R (l ++ [x]) ↔ Between R l ∧ Past (fun a mid => R a mid x) l := by
  constructor
  · intro h
    constructor
    · intro pre a mid b post hl
      exact h pre a mid b (post ++ [x]) (by simp [hl])
    · intro pre a mid hl
      exact h pre a mid x [] (by simp [hl])
  · rintro ⟨hl, hx⟩ pre a mid b post h
    have h' : l ++ [x] = (pre ++ a :: mid) ++ b :: post := by simpa using h
    rcases concat_eq_append_cons.mp h' with ⟨rfl, rfl, -⟩ | ⟨post', -, rfl⟩
    · exact hx pre a mid rfl
    · exact hl pre a mid b post' (by simp)

end List
