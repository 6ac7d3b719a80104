import AgentCtl.Store.AsyncStore
import Mathlib.Data.List.Infix
import Mathlib.Tactic.Common

set_option relaxedAutoImplicit false
set_option autoImplicit false

/-!
# Reading what was written

`store/async_store.py`: `list_recent`, `iter_all` and `cost_summary` call `flush` first, which is
`join` of the queue. The queue counts its unfinished tasks: a put adds one, the worker's `task_done`
takes one away once it is through with an item, and `join` returns in a moment in which the count
is zero. The steps of the store are those of `AgentCtl.AsyncStore`; this module adds the count and
the readers.

## Main definitions

* `AgentCtl.ReadableStore`, `ReadableStore.step` — the store with the count of unfinished tasks and
  the `flush` calls that are under way.
* `AgentCtl.ReadableStore.Counted` — the count is that of the items in the queue and in the hand of
  the worker.

## Main results

* `AgentCtl.ReadableStore.step_isSome_of_store` — `task_done` is never called too often.
* `AgentCtl.flush_reads_writes` — when `flush` returns, what was saved before has been handed on.
-/

namespace AgentCtl

/-- The store and its readers. `unfinished` is the queue's count of unfinished tasks, `accepted` are
the records that were put, in this order, `stopInHand` says that the worker has taken a stop mark
and not yet called `task_done` for it. For each `flush` call, `waiting` and `returning` keep the
records that had been accepted when it began: the call waits for the count to be zero, or has found
it to be zero and is about to return. -/
structure ReadableStore (ρ : Type) where
  store : AsyncStore ρ
  unfinished : ℕ := 0
  accepted : List ρ := []
  stopInHand : Bool := false
  waiting : List (List ρ) := []
  returning : List (List ρ) := []

/-- The steps: those of the store, and these. -/
inductive ReadMove (ρ : Type) where
  /-- A step of a `save`, of the worker, or of `close`. -/
  | store (m : StoreMove ρ)
  /-- The worker calls `task_done` for the stop mark. -/
  | ended
  /-- A second `close`, which tested the flag before it was set, puts its stop mark. -/
  | stopAgain
  /-- `flush` is called. -/
  | flush
  /-- The `flush` at a position of `waiting` finds no unfinished task. -/
  | joined (j : ℕ)
  /-- The `flush` at a position of `returning` returns. -/
  | returned (j : ℕ)

namespace ReadableStore

variable {ρ : Type}

/-- `Queue.task_done`: one task less, or a `ValueError` if none is unfinished. -/
def taskDone (unfinished : ℕ) : Option ℕ :=
  if unfinished = 0 then none else some (unfinished - 1)

/-- What a step of the store does to the count and to the accepted records. -/
def account (s : ReadableStore ρ) (store : AsyncStore ρ) : StoreMove ρ → Option (ReadableStore ρ)
  | .put i =>
    if s.store.full then some { s with store := store }
    else some { s with store := store, unfinished := s.unfinished + 1,
                       accepted := s.accepted ++ s.store.pending[i]?.toList }
  | .putStop => some { s with store := store, unfinished := s.unfinished + 1 }
  | .take => some { s with store := store, stopInHand := decide (store.worker = .stopped) }
  | .saved | .died =>  -- the `finally` of the worker calls `task_done` in either case
    (taskDone s.unfinished).map fun n => { s with store := store, unfinished := n }
  | .save _ | .close | .timeout | .join => some { s with store := store }

/-- One step, if it is possible. -/
def step (s : ReadableStore ρ) : ReadMove ρ → Option (ReadableStore ρ)
  | .store m => (s.store.step m).bind fun store => s.account store m
  | .ended =>
    if s.stopInHand then
      (taskDone s.unfinished).map fun n => { s with unfinished := n, stopInHand := false }
    else none
  | .stopAgain =>
    if s.store.closed && !s.store.full then
      some { s with unfinished := s.unfinished + 1,
                    store := { s.store with queue := s.store.queue ++ [.stop] } }
    else none
  | .flush => some { s with waiting := s.waiting ++ [s.accepted] }
  | .joined j =>
    match s.waiting[j]? with
    | none => none
    | some before =>
      if s.unfinished = 0 then
        some { s with waiting := s.waiting.eraseIdx j, returning := s.returning ++ [before] }
      else none
  | .returned j =>
    if j < s.returning.length then some { s with returning := s.returning.eraseIdx j } else none

/-- The state after an interleaving of steps. -/
def run (s : ReadableStore ρ) (ms : List (ReadMove ρ)) : Option (ReadableStore ρ) :=
  PartialRun.run step s ms

/-- The items that the worker has in its hand: a record that it is saving, or a stop mark. -/
def inHand (s : ReadableStore ρ) : ℕ :=
  if s.store.worker = .saving || s.stopInHand then 1 else 0

/-- The states of runs. The unfinished tasks are the items in the queue and in the hand of the
worker; the accepted records are those handed on, followed by those in the queue; a waiting `flush`
began with some of the accepted records, and one that is about to return began with some of those
handed on. -/
structure Counted (s : ReadableStore ρ) : Prop where
  count : s.unfinished = s.store.queue.length + s.inHand
  order : s.accepted = s.store.handed ++ s.store.queued
  ended : s.stopInHand = true → s.store.worker = .stopped
  waiting : ∀ before ∈ s.waiting, before <+: s.accepted
  returning : ∀ before ∈ s.returning, before <+: s.store.handed

variable {s s' : ReadableStore ρ}

/-! ## What one step does -/

/-- `task_done` takes one task away. -/
lemma taskDone_eq_some {n n' : ℕ} (h : taskDone n = some n') : n = n' + 1 := by
  unfold taskDone at h
  split at h
  · cases h
  · have hn := Option.some.inj h
    omega

/-- `task_done` is possible as long as a task is unfinished. -/
lemma taskDone_isSome {n : ℕ} (h : 0 < n) : (taskDone n).isSome := by
  unfold taskDone
  rw [if_neg (by omega)]
  rfl

/-- Records behind those in the queue. -/
lemma queued_append_record (q : List (QueueItem ρ)) (r : ρ) :
    (q ++ [QueueItem.record r]).filterMap AsyncStore.record? =
      q.filterMap AsyncStore.record? ++ [r] := by
  rw [List.filterMap_append]
  rfl

/-- A stop mark is no record. -/
lemma queued_append_stop (q : List (QueueItem ρ)) :
    (q ++ [QueueItem.stop]).filterMap AsyncStore.record? = q.filterMap AsyncStore.record? := by
  rw [List.filterMap_append]
  exact List.append_nil _

/-- A put that finds room, with its record. -/
lemma put_accepted {i : ℕ} {store : AsyncStore ρ} (h : s.store.step (.put i) = some store)
    (hroom : s.store.full = false) :
    ∃ r, s.store.pending[i]? = some r ∧ store.queue = s.store.queue ++ [.record r] ∧
      store.handed = s.store.handed ∧ store.worker = s.store.worker := by
  simp only [AsyncStore.step] at h
  cases hr : s.store.pending[i]? with
  | none => simp [hr] at h
  | some r =>
    have hfull : AsyncStore.full { s.store with
        pending := s.store.pending.eraseIdx i,
        finished := s.store.finished ++ [r] } = false := hroom
    simp only [hr, hfull, Bool.false_eq_true, if_false] at h
    obtain rfl := Option.some.inj h
    exact ⟨r, rfl, rfl, rfl, rfl⟩

/-- A put that finds the queue full leaves it as it is. -/
lemma put_dropped {i : ℕ} {store : AsyncStore ρ} (h : s.store.step (.put i) = some store)
    (hfull : s.store.full = true) :
    store.queue = s.store.queue ∧ store.handed = s.store.handed ∧
      store.worker = s.store.worker := by
  obtain ⟨r, hput⟩ := AsyncStore.step_put h
  rw [if_pos hfull] at hput
  obtain rfl := hput
  exact ⟨rfl, rfl, rfl⟩

/-! ## Counting -/

/-- What the count rests on does not change when the store keeps its queue, what it has handed on
and its worker. -/
lemma Counted.of_same (hs : s.Counted) {store : AsyncStore ρ}
    (hqueue : store.queue = s.store.queue) (hhanded : store.handed = s.store.handed)
    (hworker : store.worker = s.store.worker) : Counted { s with store := store } where
  count := by
    have h := hs.count
    unfold inHand at h ⊢
    rw [hqueue, hworker]
    exact h
  order := by
    have h := hs.order
    unfold AsyncStore.queued at h ⊢
    rw [hqueue, hhanded]
    exact h
  ended := by
    intro hstop
    rw [hworker]
    exact hs.ended hstop
  waiting := hs.waiting
  returning := by
    rw [hhanded]
    exact hs.returning

/-- One item more in the queue, and one unfinished task more. -/
lemma Counted.of_stop (hs : s.Counted) {store : AsyncStore ρ}
    (hqueue : store.queue = s.store.queue ++ [.stop]) (hhanded : store.handed = s.store.handed)
    (hworker : store.worker = s.store.worker) :
    Counted { s with store := store, unfinished := s.unfinished + 1 } where
  count := by
    have h := hs.count
    unfold inHand at h ⊢
    rw [hqueue, hworker, List.length_append, List.length_singleton]
    dsimp only
    omega
  order := by
    have h := hs.order
    unfold AsyncStore.queued at h ⊢
    rw [hqueue, hhanded, queued_append_stop]
    exact h
  ended := by
    intro hstop
    rw [hworker]
    exact hs.ended hstop
  waiting := hs.waiting
  returning := by
    rw [hhanded]
    exact hs.returning

/-- As long as the worker has not stopped, it has no stop mark in its hand. -/
lemma Counted.idle (hs : s.Counted) (hworker : s.store.worker ≠ .stopped) :
    s.stopInHand = false := by
  by_contra hstop
  exact hworker (hs.ended (by simpa using hstop))

/-- A put keeps the count: its record is the last of the accepted ones, and of the queue. -/
lemma Counted.put {i : ℕ} (hs : s.Counted) {store : AsyncStore ρ}
    (hstore : s.store.step (.put i) = some store) (haccount : s.account store (.put i) = some s') :
    s'.Counted := by
  simp only [account] at haccount
  cases hfull : s.store.full with
  | true =>
    rw [if_pos hfull] at haccount
    obtain rfl := Option.some.inj haccount
    obtain ⟨hqueue, hhanded, hworker⟩ := put_dropped hstore hfull
    exact hs.of_same hqueue hhanded hworker
  | false =>
    rw [hfull, if_neg (by decide)] at haccount
    obtain rfl := Option.some.inj haccount
    obtain ⟨r, hr, hqueue, hhanded, hworker⟩ := put_accepted hstore hfull
    refine ⟨?_, ?_, ?_, ?_, ?_⟩
    · have hcount := hs.count
      unfold inHand at hcount ⊢
      rw [hqueue, hworker, List.length_append, List.length_singleton]
      dsimp only
      omega
    · have horder := hs.order
      unfold AsyncStore.queued at horder ⊢
      rw [hr, hqueue, hhanded, queued_append_record, horder, List.append_assoc]
      rfl
    · intro hstop
      rw [hworker]
      exact hs.ended hstop
    · intro before hbefore
      exact (hs.waiting before hbefore).trans (List.prefix_append _ _)
    · rw [hhanded]
      exact hs.returning

/-- The worker takes an item from the queue into its hand. -/
lemma Counted.take (hs : s.Counted) {store : AsyncStore ρ}
    (hstore : s.store.step .take = some store) (haccount : s.account store .take = some s') :
    s'.Counted := by
  obtain rfl := Option.some.inj haccount
  have hcount := hs.count
  have horder := hs.order
  obtain ⟨hworker, ⟨r, rest, hqueue, rfl⟩ | ⟨rest, hqueue, rfl⟩⟩ := AsyncStore.step_take hstore
  all_goals
    have hidle := hs.idle (by simp [hworker])
    simp only [inHand, hworker, hidle, hqueue, List.length_cons] at hcount
    simp only [AsyncStore.queued, hqueue] at horder
  · refine ⟨?_, ?_, ?_, hs.waiting, ?_⟩
    · simpa [inHand] using hcount
    · simpa [AsyncStore.queued, AsyncStore.record?] using horder
    · intro hstop
      simp at hstop
    · intro before hbefore
      exact (hs.returning before hbefore).trans (List.prefix_append _ _)
  · refine ⟨?_, ?_, ?_, hs.waiting, hs.returning⟩
    · simpa [inHand] using hcount
    · exact horder
    · intro _
      rfl

/-- The worker is through with a record, whether it goes on or ends. -/
lemma Counted.done (hs : s.Counted) (hsaving : s.store.worker = .saving) {n : ℕ}
    (hn : taskDone s.unfinished = some n) {w : WorkerState} (hw : w ≠ .saving) :
    Counted { s with store := { s.store with worker := w }, unfinished := n } := by
  have hidle := hs.idle (by simp [hsaving])
  refine ⟨?_, hs.order, ?_, hs.waiting, hs.returning⟩
  · have hcount := hs.count
    rw [taskDone_eq_some hn] at hcount
    simp only [inHand, hsaving, hidle] at hcount
    simpa [inHand, hw, hidle] using hcount
  · intro hstop
    rw [hidle] at hstop
    cases hstop

/-- A step of the store keeps the count. -/
lemma Counted.store {m : StoreMove ρ} (hs : s.Counted) (h : s.step (.store m) = some s') :
    s'.Counted := by
  obtain ⟨store, hstore, haccount⟩ := Option.bind_eq_some_iff.mp h
  cases m with
  | put i => exact hs.put hstore haccount
  | take => exact hs.take hstore haccount
  | saved =>
    obtain ⟨n, hn, rfl⟩ := Option.map_eq_some_iff.mp haccount
    obtain ⟨hsaving, rfl⟩ := AsyncStore.step_saved hstore
    exact hs.done hsaving hn (by decide)
  | died =>
    obtain ⟨n, hn, rfl⟩ := Option.map_eq_some_iff.mp haccount
    obtain ⟨hsaving, rfl⟩ := AsyncStore.step_died hstore
    exact hs.done hsaving hn (by decide)
  | putStop =>
    obtain rfl := Option.some.inj haccount
    obtain ⟨-, rfl⟩ := AsyncStore.step_putStop hstore
    exact hs.of_stop rfl rfl rfl
  | save r =>
    obtain rfl := Option.some.inj haccount
    rcases AsyncStore.step_save hstore with rfl | rfl
    · exact hs.of_same rfl rfl rfl
    · exact hs.of_same rfl rfl rfl
  | close =>
    obtain rfl := Option.some.inj haccount
    rcases AsyncStore.step_close hstore with rfl | ⟨-, rfl⟩
    · exact hs.of_same rfl rfl rfl
    · exact hs.of_same rfl rfl rfl
  | timeout =>
    obtain rfl := Option.some.inj haccount
    obtain ⟨-, rfl⟩ := AsyncStore.step_timeout hstore
    exact hs.of_same rfl rfl rfl
  | join =>
    obtain rfl := Option.some.inj haccount
    obtain ⟨-, rfl⟩ := AsyncStore.step_join hstore
    exact hs.of_same rfl rfl rfl

/-- The worker calls `task_done` for the stop mark. -/
lemma Counted.stopDone (hs : s.Counted) (hstop : s.stopInHand = true) {n : ℕ}
    (hn : taskDone s.unfinished = some n) :
    Counted { s with unfinished := n, stopInHand := false } := by
  have hended := hs.ended hstop
  refine ⟨?_, hs.order, ?_, hs.waiting, hs.returning⟩
  · have hcount := hs.count
    rw [taskDone_eq_some hn] at hcount
    simp only [inHand, hended, hstop] at hcount
    simpa [inHand, hended] using hcount
  · intro hfalse
    cases hfalse

/-- When no task is unfinished, the queue is empty: all that was accepted has been handed on. -/
lemma Counted.accepted_eq_handed (hs : s.Counted) (hzero : s.unfinished = 0) :
    s.accepted = s.store.handed := by
  have hcount := hs.count
  have hempty : s.store.queue = [] := by
    apply List.eq_nil_of_length_eq_zero
    omega
  have horder := hs.order
  rw [AsyncStore.queued, hempty] at horder
  simpa using horder

/-- A `flush` that finds no unfinished task began with records that have been handed on. -/
lemma Counted.joined (hs : s.Counted) (hzero : s.unfinished = 0) {j : ℕ} {before : List ρ}
    (hj : s.waiting[j]? = some before) :
    Counted { s with waiting := s.waiting.eraseIdx j, returning := s.returning ++ [before] } := by
  refine ⟨hs.count, hs.order, hs.ended, ?_, ?_⟩
  · intro f hf
    exact hs.waiting f (List.mem_of_mem_eraseIdx hf)
  · intro f hf
    rcases List.mem_append.mp hf with hold | hnew
    · exact hs.returning f hold
    · obtain rfl := List.mem_singleton.mp hnew
      change f <+: s.store.handed
      rw [← hs.accepted_eq_handed hzero]
      exact hs.waiting f (List.mem_of_getElem? hj)

/-- Every step keeps the count. -/
lemma Counted.step {m : ReadMove ρ} (hs : s.Counted) (h : s.step m = some s') : s'.Counted := by
  cases m with
  | store m => exact hs.store h
  | ended =>
    simp only [ReadableStore.step] at h
    split at h
    · next hstop =>
      obtain ⟨n, hn, rfl⟩ := Option.map_eq_some_iff.mp h
      exact hs.stopDone hstop hn
    · cases h
  | stopAgain =>
    simp only [ReadableStore.step] at h
    split at h
    · obtain rfl := Option.some.inj h
      exact hs.of_stop rfl rfl rfl
    · cases h
  | flush =>
    obtain rfl := Option.some.inj h
    refine ⟨hs.count, hs.order, hs.ended, ?_, hs.returning⟩
    intro before hbefore
    rcases List.mem_append.mp hbefore with hold | hnew
    · exact hs.waiting before hold
    · obtain rfl := List.mem_singleton.mp hnew
      exact List.prefix_rfl
  | joined j =>
    simp only [ReadableStore.step] at h
    cases hj : s.waiting[j]? with
    | none => simp [hj] at h
    | some before =>
      simp only [hj] at h
      split at h
      · next hzero =>
        obtain rfl := Option.some.inj h
        exact hs.joined hzero hj
      · cases h
  | returned j =>
    simp only [ReadableStore.step] at h
    split at h
    · obtain rfl := Option.some.inj h
      refine ⟨hs.count, hs.order, hs.ended, hs.waiting, ?_⟩
      intro f hf
      exact hs.returning f (List.mem_of_mem_eraseIdx hf)
    · cases h

/-- At the start nothing is counted. -/
lemma counted_empty (maxQueue : ℤ) :
    Counted ({ store := { maxQueue := maxQueue } } : ReadableStore ρ) where
  count := rfl
  order := rfl
  ended := by simp
  waiting := by simp
  returning := by simp

/-- **`task_done` is never called too often**: whatever the store can do, it can do with the
count. -/
lemma step_isSome_of_store {m : StoreMove ρ} (hs : s.Counted) (h : (s.store.step m).isSome) :
    (s.step (.store m)).isSome := by
  obtain ⟨store, hstore⟩ := Option.isSome_iff_exists.mp h
  have hstep : s.step (.store m) = s.account store m := by
    simp only [ReadableStore.step, hstore, Option.bind_some]
  rw [hstep]
  have hpos : s.store.worker = .saving → 0 < s.unfinished := by
    intro hsaving
    have hcount := hs.count
    simp only [inHand, hsaving, decide_true, Bool.true_or, if_true] at hcount
    omega
  cases m with
  | put i =>
    simp only [account]
    split
    · rfl
    · rfl
  | saved =>
    simp only [account, Option.isSome_map]
    exact taskDone_isSome (hpos (AsyncStore.step_saved hstore).1)
  | died =>
    simp only [account, Option.isSome_map]
    exact taskDone_isSome (hpos (AsyncStore.step_died hstore).1)
  | save _ | close | timeout | join | take | putStop => rfl

end ReadableStore

variable {ρ : Type} [DecidableEq ρ] {maxQueue : ℤ} {ms : List (ReadMove ρ)} {s : ReadableStore ρ}

/-- **Read your writes.** After any interleaving of `save` calls, `close` calls, the worker and
readers, with an inner store that may raise, the records handed to `inner.save` are the first ones
of the accepted records, in their order. When a `flush` returns, all records that had been accepted
when it began are among them: none of them is handed on less often or more often than it was
accepted, and one that was accepted once is handed on exactly once. -/
theorem flush_reads_writes
    (hrun : ReadableStore.run { store := { maxQueue := maxQueue } } ms = some s) :
    s.store.handed <+: s.accepted ∧
      ∀ j s' before, s.step (.returned j) = some s' → s.returning[j]? = some before →
        before <+: s.store.handed ∧
          (∀ r, before.count r ≤ s.store.handed.count r ∧
            s.store.handed.count r ≤ s.accepted.count r) ∧
          ∀ r ∈ before, s.accepted.count r = 1 → s.store.handed.count r = 1 := by
  have hs : s.Counted := by
    refine PartialRun.invariant (I := ReadableStore.Counted) (P := fun _ _ => True) ?_ ?_ ?_ hrun
    · intro s m s' hs _ hstep
      exact hs.step hstep
    · exact ReadableStore.counted_empty maxQueue
    · intro pre m s₁ _ _
      trivial
  have hhanded : s.store.handed <+: s.accepted := by
    rw [hs.order]
    exact List.prefix_append _ _
  refine ⟨hhanded, ?_⟩
  intro j s' before _ hj
  have hbefore := hs.returning before (List.mem_of_getElem? hj)
  have hcounts : ∀ r, before.count r ≤ s.store.handed.count r ∧
      s.store.handed.count r ≤ s.accepted.count r := fun r =>
    ⟨hbefore.sublist.count_le r, hhanded.sublist.count_le r⟩
  refine ⟨hbefore, hcounts, ?_⟩
  intro r hr honce
  have hpos : 0 < before.count r := List.count_pos_iff.mpr hr
  have := hcounts r
  omega

/-- A queue for one record. The first record is put and the second one dropped, then a `flush`
begins; the third record is put while it waits, the fourth one when it is about to return. -/
def flushAmidSaves : List (ReadMove ℕ) :=
  [.store (.save 1), .store (.save 2), .store (.put 0), .store (.put 0), .flush, .store .take,
    .store (.save 3), .store (.put 0), .store .saved, .store .take, .store .saved, .joined 0,
    .store (.save 4), .store (.put 0)]

/-- A `flush` amid `save` calls. -/
theorem flush_reads_writes_amidSaves :
    ∃ s : ReadableStore ℕ,
      ReadableStore.run { store := { maxQueue := 1 } } flushAmidSaves = some s ∧
        s.accepted = [1, 3, 4] ∧ s.store.handed <+: s.accepted ∧ (s.step (.returned 0)).isSome ∧
        s.returning[0]? = some [1] ∧ [1] <+: s.store.handed := by
  obtain ⟨s, hs⟩ : ∃ s : ReadableStore ℕ,
      ReadableStore.run { store := { maxQueue := 1 } } flushAmidSaves = some s := ⟨_, rfl⟩
  have hmain := flush_reads_writes hs
  obtain ⟨s', hs'⟩ : ∃ s', s.step (.returned 0) = some s' := by
    cases hs
    exact ⟨_, rfl⟩
  have hreturning : s.returning[0]? = some [1] := by
    cases hs
    rfl
  refine ⟨s, hs, ?_, hmain.1, ?_, hreturning, (hmain.2 0 s' [1] hs' hreturning).1⟩
  · cases hs
    rfl
  · rw [hs']
    rfl

end AgentCtl
