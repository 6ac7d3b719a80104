import AgentCtl.Store.ReadYourWrites

set_option relaxedAutoImplicit false
set_option autoImplicit false

/-!
# Readers that wait

A `flush` of `store/async_store.py` has no timeout: it returns when no task of the queue is
unfinished. What stands behind a stop mark, or is left when the worker's thread has died, is taken
by nobody, and its task stays unfinished. So a store is in one of two states: whatever is in its
queue will be taken, and a few steps of the worker end every `flush`; or no `flush` ever returns
again.

Which state a store is in is told by the items that nobody will take, and whether a step makes such
an item by the state before it: a put does if it finds room in the queue behind a stop mark or after
the worker, and the death of the worker does if it leaves a queue behind. All that a step does to
the queue and the worker is said once, by `Turn`; what the steps strand, and how much work they
leave, are then short case analyses.

That every `flush` ends is a statement about runs without fairness: the steps of the worker are
counted by `work`, which every other step but a put leaves as it is, and while a task is unfinished
the worker has a step to take. Its death is a step of its own that it may take while it saves: it is
excluded from what follows, since nothing can be said of a worker that dies later.

## Main definitions

* `AgentCtl.ReadableStore.stranded` — the items that nobody will take.
* `AgentCtl.ReadableStore.InTime` — a step does not strand an item.
* `AgentCtl.ReadableStore.work` — the steps that the worker has before it.
* `AgentCtl.ReadableStore.Turn` — what a step does to the queue and the worker.

## Main results

* `AgentCtl.ReadableStore.stranded_run_iff` — items are stranded by steps that are not in time.
* `AgentCtl.flush_ends_iff` — when a `flush` ends.
-/

namespace AgentCtl

/-- Is the item the stop mark? -/
def QueueItem.isStop {ρ : Type} : QueueItem ρ → Bool
  | record _ => false
  | stop => true

/-- What is behind the first stop mark of a queue. -/
def behindStop {ρ : Type} : List (QueueItem ρ) → List (QueueItem ρ)
  | [] => []
  | .record _ :: rest => behindStop rest
  | .stop :: rest => rest

/-- An item that is put is behind a stop mark if there is one. -/
lemma behindStop_concat {ρ : Type} (q : List (QueueItem ρ)) (x : QueueItem ρ) :
    behindStop (q ++ [x]) = if q.any QueueItem.isStop then behindStop q ++ [x] else [] := by
  induction q with
  | nil =>
    cases x with
    | record r => rfl
    | stop => rfl
  | cons y q ih =>
    cases y with
    | record r => exact ih
    | stop => rfl

/-- Nothing is behind a stop mark that is not there. -/
lemma behindStop_eq_nil {ρ : Type} {q : List (QueueItem ρ)} (h : q.any QueueItem.isStop = false) :
    behindStop q = [] := by
  induction q with
  | nil => rfl
  | cons y q ih =>
    cases y with
    | record r => exact ih h
    | stop => cases h

namespace ReadMove

variable {ρ : Type}

/-- Is it a step of the worker that goes on with its work? -/
def isWork : ReadMove ρ → Bool
  | store .take | store .saved | ended => true
  | _ => false

/-- Does it put an item into the queue? -/
def puts : ReadMove ρ → Bool
  | store (.put _) | store .putStop | stopAgain => true
  | _ => false

/-- A step that puts nothing, and is not the death of the worker. -/
def calm : ReadMove ρ → Bool
  | store .died => false
  | m => !m.puts

end ReadMove

namespace ReadableStore

variable {ρ : Type}

/-- Will the worker take what is put now? -/
def takesAll (s : ReadableStore ρ) : Bool :=
  s.store.worker ≠ .stopped && !s.store.queue.any QueueItem.isStop

/-- The items that nobody will take. -/
def stranded (s : ReadableStore ρ) : List (QueueItem ρ) :=
  if s.store.worker = .stopped then s.store.queue else behindStop s.store.queue

/-- A step strands nothing: a put finds the queue full, or open to the worker, and the worker does
not die before it has emptied the queue. -/
def InTime (s : ReadableStore ρ) : ReadMove ρ → Prop
  | .store (.put _) | .store .putStop | .stopAgain => (s.store.full || s.takesAll) = true
  | .store .died => s.store.queue.isEmpty = true
  | .store _ | .ended | .flush | .joined _ | .returned _ => True

/-- Whether a move is in time can be computed. -/
instance decidableInTime (s : ReadableStore ρ) (m : ReadMove ρ) : Decidable (s.InTime m) :=
  match m with
  | .store (.put _) | .store .putStop | .stopAgain => inferInstanceAs (Decidable (_ = true))
  | .store .died => inferInstanceAs (Decidable (_ = true))
  | .store (.save _) | .store .take | .store .saved | .store .close | .store .timeout
  | .store .join | .ended | .flush | .joined _ | .returned _ => inferInstanceAs (Decidable True)

/-- The steps that the worker has before it: two for an item of the queue, and one for the item in
its hand. -/
def work (s : ReadableStore ρ) : ℕ := 2 * s.store.queue.length + s.inHand

/-! ## What one step does -/

/-- What a step does to the queue and the worker. -/
inductive Turn (s s' : ReadableStore ρ) (m : ReadMove ρ) : Prop where
  /-- Nothing. -/
  | same (hin : s.InTime m) (hm : m.isWork = false) (hqueue : s'.store.queue = s.store.queue)
      (hworker : s'.store.worker = s.store.worker) (hstop : s'.stopInHand = s.stopInHand)
  /-- An item is put. -/
  | put (x : QueueItem ρ) (hin : s.InTime m ↔ s.takesAll = true) (hm : m.puts = true)
      (hqueue : s'.store.queue = s.store.queue ++ [x]) (hworker : s'.store.worker = s.store.worker)
  /-- The worker takes a record. -/
  | record (r : ρ) (hin : s.InTime m) (hm : m.isWork = true)
      (hqueue : s.store.queue = .record r :: s'.store.queue) (hworker : s.store.worker = .waiting)
      (hworker' : s'.store.worker = .saving) (hstop : s'.stopInHand = false)
  /-- The worker takes a stop mark, and ends. -/
  | stop (hin : s.InTime m) (hm : m.isWork = true)
      (hqueue : s.store.queue = .stop :: s'.store.queue) (hworker : s.store.worker = .waiting)
      (hworker' : s'.store.worker = .stopped) (hstop : s'.stopInHand = true)
  /-- The worker is done with a record. -/
  | saved (hin : s.InTime m) (hm : m.isWork = true) (hqueue : s'.store.queue = s.store.queue)
      (hworker : s.store.worker = .saving) (hworker' : s'.store.worker = .waiting)
      (hstop : s'.stopInHand = s.stopInHand)
  /-- The worker is done with a stop mark. -/
  | ended (hin : s.InTime m) (hm : m.isWork = true) (hqueue : s'.store.queue = s.store.queue)
      (hworker : s'.store.worker = s.store.worker) (hstop : s.stopInHand = true)
      (hstop' : s'.stopInHand = false)
  /-- The worker dies. -/
  | died (hin : s.InTime m ↔ s.store.queue = []) (hm : m = .store .died)
      (hqueue : s'.store.queue = s.store.queue) (hworker : s.store.worker = .saving)
      (hworker' : s'.store.worker = .stopped)

variable {s s' : ReadableStore ρ}

/-- A put is in time if it finds the queue full, or open to the worker. -/
lemma inTime_of_room {m : ReadMove ρ} (hm : m.puts = true) (hroom : s.store.full = false) :
    s.InTime m ↔ s.takesAll = true := by
  have hiff : s.InTime m ↔ (s.store.full || s.takesAll) = true := by
    cases m with
    | store m =>
      cases m with
      | put i => exact Iff.rfl
      | putStop => exact Iff.rfl
      | save _ | take | saved | died | close | timeout | join => cases hm
    | stopAgain => exact Iff.rfl
    | ended | flush | joined _ | returned _ => cases hm
  rw [hiff, hroom, Bool.false_or]

/-- Every step of the store is one of the turns. -/
lemma Turn.store {m : StoreMove ρ} (h : s.step (.store m) = some s') : Turn s s' (.store m) := by
  obtain ⟨store, hstore, haccount⟩ := Option.bind_eq_some_iff.mp h
  cases m with
  | save r =>
    obtain rfl := Option.some.inj haccount
    rcases AsyncStore.step_save hstore with rfl | rfl
    · exact .same trivial rfl rfl rfl rfl
    · exact .same trivial rfl rfl rfl rfl
  | put i =>
    simp only [account] at haccount
    split at haccount
    · next hfull =>
      obtain rfl := Option.some.inj haccount
      obtain ⟨hqueue, -, hworker⟩ := put_dropped hstore hfull
      refine .same ?_ rfl hqueue hworker rfl
      change (s.store.full || s.takesAll) = true
      rw [hfull, Bool.true_or]
    · next hroom =>
      obtain rfl := Option.some.inj haccount
      have hroom : s.store.full = false := by simpa using hroom
      obtain ⟨r, -, hqueue, -, hworker⟩ := put_accepted hstore hroom
      exact .put (.record r) (inTime_of_room rfl hroom) rfl hqueue hworker
  | take =>
    obtain rfl := Option.some.inj haccount
    obtain ⟨hworker, ⟨r, rest, hqueue, rfl⟩ | ⟨rest, hqueue, rfl⟩⟩ := AsyncStore.step_take hstore
    · exact .record r trivial rfl hqueue hworker rfl rfl
    · exact .stop trivial rfl hqueue hworker rfl rfl
  | saved =>
    obtain ⟨n, -, rfl⟩ := Option.map_eq_some_iff.mp haccount
    obtain ⟨hworker, rfl⟩ := AsyncStore.step_saved hstore
    exact .saved trivial rfl rfl hworker rfl rfl
  | died =>
    obtain ⟨n, -, rfl⟩ := Option.map_eq_some_iff.mp haccount
    obtain ⟨hworker, rfl⟩ := AsyncStore.step_died hstore
    exact .died List.isEmpty_iff rfl rfl hworker rfl
  | close =>
    obtain rfl := Option.some.inj haccount
    rcases AsyncStore.step_close hstore with rfl | ⟨-, rfl⟩
    · exact .same trivial rfl rfl rfl rfl
    · exact .same trivial rfl rfl rfl rfl
  | putStop =>
    obtain rfl := Option.some.inj haccount
    have hroom : s.store.full = false := by
      simp only [AsyncStore.step] at hstore
      split at hstore
      · next hguard =>
        rw [Bool.and_eq_true, Bool.not_eq_true'] at hguard
        exact hguard.2
      · cases hstore
    obtain ⟨-, rfl⟩ := AsyncStore.step_putStop hstore
    exact .put .stop (inTime_of_room rfl hroom) rfl rfl rfl
  | timeout =>
    obtain rfl := Option.some.inj haccount
    obtain ⟨-, rfl⟩ := AsyncStore.step_timeout hstore
    exact .same trivial rfl rfl rfl rfl
  | join =>
    obtain rfl := Option.some.inj haccount
    obtain ⟨-, rfl⟩ := AsyncStore.step_join hstore
    exact .same trivial rfl rfl rfl rfl

/-- **What a step does** to the queue and the worker. -/
lemma Turn.of_step {m : ReadMove ρ} (h : s.step m = some s') : Turn s s' m := by
  cases m with
  | store m => exact .store h
  | ended =>
    simp only [step] at h
    split at h
    · next hstop =>
      obtain ⟨n, -, rfl⟩ := Option.map_eq_some_iff.mp h
      exact .ended trivial rfl rfl rfl hstop rfl
    · cases h
  | stopAgain =>
    simp only [step] at h
    split at h
    · next hguard =>
      obtain rfl := Option.some.inj h
      rw [Bool.and_eq_true, Bool.not_eq_true'] at hguard
      exact .put .stop (inTime_of_room rfl hguard.2) rfl rfl rfl
    · cases h
  | flush =>
    obtain rfl := Option.some.inj h
    exact .same trivial rfl rfl rfl rfl
  | joined j =>
    simp only [step] at h
    split at h
    · cases h
    · split at h
      · obtain rfl := Option.some.inj h
        exact .same trivial rfl rfl rfl rfl
      · cases h
  | returned j =>
    simp only [step] at h
    split at h
    · obtain rfl := Option.some.inj h
      exact .same trivial rfl rfl rfl rfl
    · cases h

/-! ## What is stranded -/

/-- **One step** leaves nothing stranded exactly if nothing was, and it is in time. -/
lemma Turn.stranded_iff {m : ReadMove ρ} (t : Turn s s' m) :
    s'.stranded = [] ↔ s.stranded = [] ∧ s.InTime m := by
  cases t with
  | same hin _ hqueue hworker _ =>
    unfold stranded
    rw [hqueue, hworker]
    exact (and_iff_left hin).symm
  | put x hin _ hqueue hworker =>
    rw [hin]
    unfold stranded takesAll
    rw [hqueue, hworker]
    by_cases hstopped : s.store.worker = .stopped
    · simp [hstopped]
    · cases hstop : s.store.queue.any QueueItem.isStop with
      | true => simp [hstopped, hstop, behindStop_concat]
      | false => simp [hstopped, hstop, behindStop_concat, behindStop_eq_nil hstop]
  | record r hin _ hqueue hworker hworker' _ =>
    unfold stranded
    rw [hqueue, hworker, hworker']
    exact (and_iff_left hin).symm
  | stop hin _ hqueue hworker hworker' _ =>
    unfold stranded
    rw [hqueue, hworker, hworker']
    exact (and_iff_left hin).symm
  | saved hin _ hqueue hworker hworker' _ =>
    unfold stranded
    rw [hqueue, hworker, hworker']
    exact (and_iff_left hin).symm
  | ended hin _ hqueue hworker _ _ =>
    unfold stranded
    rw [hqueue, hworker]
    exact (and_iff_left hin).symm
  | died hin _ hqueue hworker hworker' =>
    rw [hin]
    unfold stranded
    rw [hqueue, hworker, hworker']
    change s.store.queue = [] ↔ behindStop s.store.queue = [] ∧ s.store.queue = []
    refine ⟨fun hempty => ⟨?_, hempty⟩, And.right⟩
    rw [hempty]
    rfl

/-- **A run** leaves nothing stranded exactly if all its steps are in time. -/
lemma stranded_run_iff {ms : List (ReadMove ρ)} (hrun : s.run ms = some s') :
    s'.stranded = [] ↔ s.stranded = [] ∧ PartialRun.Along step InTime s ms :=
  PartialRun.along_iff (I := fun s => s.stranded = [])
    (fun _ _ _ h => (Turn.of_step h).stranded_iff) hrun

/-- What is stranded is in the queue. -/
lemma queue_ne_nil (h : s.stranded ≠ []) : s.store.queue ≠ [] := by
  intro hempty
  unfold stranded at h
  rw [hempty] at h
  split at h
  · exact h rfl
  · exact h rfl

/-- While something is stranded no `flush` finds all tasks finished. -/
lemma Counted.joined_eq_none (hs : s.Counted) (h : s.stranded ≠ []) (j : ℕ) :
    s.step (.joined j) = none := by
  have hlength := List.length_pos_of_ne_nil (queue_ne_nil h)
  have hcount := hs.count
  simp only [ReadableStore.step]
  split
  · rfl
  · exact if_neg (by omega)

/-! ## The worker's work -/

/-- The worker has nothing in its hand when it waits. -/
lemma Counted.inHand_waiting (hs : s.Counted) (hworker : s.store.worker = .waiting) :
    s.inHand = 0 := by
  have hstop := hs.idle (by rw [hworker]; decide)
  simp [inHand, hworker, hstop]

/-- **One step** that puts nothing: the worker's steps take one from its work, the others none. -/
lemma Counted.work_turn (hs : s.Counted) (hs' : s'.Counted) {m : ReadMove ρ} (t : Turn s s' m)
    (hm : m.calm = true) : s'.work + (if m.isWork then 1 else 0) = s.work := by
  cases t with
  | same _ hm hqueue hworker hstop =>
    simp [work, inHand, hm, hqueue, hworker, hstop]
  | put _ _ hputs _ _ =>
    have hcalm : m.calm = false := by
      cases m with
      | store m => cases m <;> first | rfl | cases hputs
      | stopAgain => rfl
      | ended | flush | joined _ | returned _ => cases hputs
    rw [hcalm] at hm
    cases hm
  | record r _ hm hqueue hworker hworker' _ =>
    have hhand := hs.inHand_waiting hworker
    have hhand' : s'.inHand = 1 := by simp [inHand, hworker']
    simp only [work, hhand, hhand', hm, hqueue, List.length_cons, if_true]
    omega
  | stop _ hm hqueue hworker _ hstop =>
    have hhand := hs.inHand_waiting hworker
    have hhand' : s'.inHand = 1 := by simp [inHand, hstop]
    simp only [work, hhand, hhand', hm, hqueue, List.length_cons, if_true]
    omega
  | saved _ hm hqueue hworker hworker' _ =>
    have hhand : s.inHand = 1 := by simp [inHand, hworker]
    have hhand' := hs'.inHand_waiting hworker'
    simp only [work, hhand, hhand', hm, hqueue, if_true]
  | ended _ hm hqueue hworker hstop hstop' =>
    have hhand : s.inHand = 1 := by simp [inHand, hstop]
    have hhand' : s'.inHand = 0 := by simp [inHand, hworker, hs.ended hstop, hstop']
    simp only [work, hhand, hhand', hm, hqueue, if_true]
  | died _ hdied _ _ _ =>
    rw [hdied] at hm
    cases hm

/-- **A run** that puts nothing has as many steps of the worker as it takes from its work. -/
lemma Counted.work_run (hs : s.Counted) {ms : List (ReadMove ρ)} (hcalm : ∀ m ∈ ms, m.calm = true)
    (hrun : s.run ms = some s') : s'.work + ms.countP ReadMove.isWork = s.work := by
  induction ms generalizing s with
  | nil =>
    obtain rfl := Option.some.inj hrun
    rfl
  | cons m ms ih =>
    obtain ⟨hm, hms⟩ := List.forall_mem_cons.mp hcalm
    obtain ⟨t, ht, hrest⟩ := Option.bind_eq_some_iff.mp hrun
    have hone := hs.work_turn (hs.step ht) (Turn.of_step ht) hm
    have hall := ih (hs.step ht) hms hrest
    rw [List.countP_cons]
    omega

/-- A step that puts nothing accepts nothing. -/
lemma accepted_step {m : ReadMove ρ} (hm : m.calm = true) (h : s.step m = some s') :
    s'.accepted = s.accepted := by
  cases m with
  | store m =>
    obtain ⟨store, -, haccount⟩ := Option.bind_eq_some_iff.mp h
    cases m with
    | saved =>
      obtain ⟨n, -, rfl⟩ := Option.map_eq_some_iff.mp haccount
      rfl
    | save _ | take | close | timeout | join =>
      obtain rfl := Option.some.inj haccount
      rfl
    | put _ | putStop | died => cases hm
  | ended =>
    simp only [ReadableStore.step] at h
    split at h
    · obtain ⟨n, -, rfl⟩ := Option.map_eq_some_iff.mp h
      rfl
    · cases h
  | flush =>
    obtain rfl := Option.some.inj h
    rfl
  | joined j =>
    simp only [ReadableStore.step] at h
    split at h
    · cases h
    · split at h
      · obtain rfl := Option.some.inj h
        rfl
      · cases h
  | returned j =>
    simp only [ReadableStore.step] at h
    split at h
    · obtain rfl := Option.some.inj h
      rfl
    · cases h
  | stopAgain => cases hm

/-- A run whose steps put nothing accepts nothing. -/
lemma accepted_run {ms : List (ReadMove ρ)} (hcalm : ∀ m ∈ ms, m.calm = true)
    (hrun : s.run ms = some s') : s'.accepted = s.accepted := by
  induction ms generalizing s with
  | nil =>
    obtain rfl := Option.some.inj hrun
    rfl
  | cons m ms ih =>
    obtain ⟨hm, hms⟩ := List.forall_mem_cons.mp hcalm
    obtain ⟨t, ht, hrest⟩ := Option.bind_eq_some_iff.mp hrun
    rw [ih hms hrest, accepted_step hm ht]

/-- Steps that put nothing are in time. -/
lemma inTime_of_calm {m : ReadMove ρ} (hm : m.calm = true) : s.InTime m := by
  cases m with
  | store m =>
    cases m with
    | put _ | putStop | died => cases hm
    | save _ | take | saved | close | timeout | join => trivial
  | stopAgain => cases hm
  | ended | flush | joined _ | returned _ => trivial

/-- All steps of a run that puts nothing are in time. -/
lemma along_of_calm {ms : List (ReadMove ρ)} (hcalm : ∀ m ∈ ms, m.calm = true) :
    PartialRun.Along step InTime s ms := by
  induction ms generalizing s with
  | nil => trivial
  | cons m ms ih =>
    obtain ⟨hm, hms⟩ := List.forall_mem_cons.mp hcalm
    refine ⟨inTime_of_calm hm, ?_⟩
    split
    · trivial
    · exact ih hms

/-- The count is kept along runs. -/
lemma counted_run (hs : s.Counted) {ms : List (ReadMove ρ)} (hrun : s.run ms = some s') :
    s'.Counted :=
  PartialRun.invariant (P := fun _ _ => True) (fun _ _ _ hs _ h => hs.step h) hs
    (fun _ _ _ _ _ => trivial) hrun

/-- While a task is unfinished and nothing is stranded, the worker has a step to take. -/
lemma Counted.exists_work (hs : s.Counted) (hstranded : s.stranded = [])
    (hunfinished : s.unfinished ≠ 0) : ∃ m : ReadMove ρ, m.isWork = true ∧ (s.step m).isSome := by
  have hcount := hs.count
  by_cases hstop : s.stopInHand = true
  · refine ⟨.ended, rfl, ?_⟩
    simp only [ReadableStore.step, hstop, if_true, Option.isSome_map]
    exact taskDone_isSome (by omega)
  · cases hworker : s.store.worker with
    | saving =>
      refine ⟨.store .saved, rfl, step_isSome_of_store hs ?_⟩
      simp [AsyncStore.step, hworker]
    | waiting =>
      rw [hs.inHand_waiting hworker] at hcount
      refine ⟨.store .take, rfl, step_isSome_of_store hs ?_⟩
      cases hqueue : s.store.queue with
      | nil =>
        rw [hqueue] at hcount
        exact absurd hcount hunfinished
      | cons x rest => cases x <;> simp [AsyncStore.step, hworker, hqueue]
    | stopped =>
      have hempty : s.store.queue = [] := by simpa [stranded, hworker] using hstranded
      have hhand : s.inHand = 0 := by simp [inHand, hworker, hstop]
      rw [hempty, hhand] at hcount
      exact absurd hcount hunfinished

end ReadableStore

open ReadableStore

/-- **When a `flush` ends.** After any interleaving of `save` calls, `close` calls, the worker and
readers: if all steps were in time, then from here on, as long as nothing more is put and the worker
does not die, the worker takes no more steps than its work, and until all tasks are finished, when
every waiting `flush` can return and all accepted records have been handed on, it has a step to
take. If a step was not in time, no `flush` that waits ever returns, whatever happens. -/
theorem flush_ends_iff {ρ : Type} {maxQueue : ℤ} {ms : List (ReadMove ρ)} {s : ReadableStore ρ}
    (hrun : ReadableStore.run { store := { maxQueue := maxQueue } } ms = some s) :
    (PartialRun.Along ReadableStore.step InTime { store := { maxQueue := maxQueue } } ms →
      ∀ ms' s', (∀ m ∈ ms', m.calm = true) → s.run ms' = some s' →
        ms'.countP ReadMove.isWork ≤ s.work ∧
          if s'.unfinished = 0 then
            s'.store.handed = s.accepted ∧ ∀ j < s'.waiting.length, (s'.step (.joined j)).isSome
          else ∃ m : ReadMove ρ, m.isWork = true ∧ (s'.step m).isSome) ∧
      (¬ PartialRun.Along ReadableStore.step InTime { store := { maxQueue := maxQueue } } ms →
        ∀ ms' s' j, s.run ms' = some s' → s'.step (.joined j) = none) := by
  have hs : s.Counted := counted_run (counted_empty maxQueue) hrun
  have hstranded := stranded_run_iff hrun
  refine ⟨fun hin ms' s' hcalm hrun' => ?_, fun hin ms' s' j hrun' => ?_⟩
  · have hnone : s.stranded = [] := hstranded.mpr ⟨rfl, hin⟩
    have hwork := hs.work_run hcalm hrun'
    have hs' := counted_run hs hrun'
    refine ⟨by omega, ?_⟩
    split
    · next hzero =>
      refine ⟨?_, fun j hj => ?_⟩
      · rw [← hs'.accepted_eq_handed hzero]
        exact accepted_run hcalm hrun'
      · simp [ReadableStore.step, List.getElem?_eq_getElem hj, hzero]
    · next hunfinished =>
      have hnone' : s'.stranded = [] :=
        (stranded_run_iff hrun').mpr ⟨hnone, along_of_calm hcalm⟩
      exact hs'.exists_work hnone' hunfinished
  · have hsome : s.stranded ≠ [] := fun hnone => hin (hstranded.mp hnone).2
    have hsome' : s'.stranded ≠ [] := fun hnone => hsome ((stranded_run_iff hrun').mp hnone).1
    exact (counted_run hs hrun').joined_eq_none hsome' j

/-- A record is put behind the stop mark, and a `flush` begins. -/
def flushBehindStop : List (ReadMove ℕ) :=
  [.store (.save 1), .store .close, .store .putStop, .store (.put 0), .store .take, .ended, .flush]

/-- This `flush` waits for ever; without the late record it would end. -/
theorem flush_ends_iff_behindStop :
    (∃ s, ReadableStore.run { store := { maxQueue := 5 } } flushBehindStop = some s ∧
      s.unfinished = 1 ∧ ∀ ms' s' j, s.run ms' = some s' → s'.step (.joined j) = none) ∧
    ∃ s, ReadableStore.run { store := { maxQueue := 5 } }
        [.store (.save 1), .store (.put 0), .flush] = some s ∧ s.work = 2 ∧
      ∃ m : ReadMove ℕ, m.isWork = true ∧ (s.step m).isSome := by
  refine ⟨?_, ?_⟩
  · obtain ⟨s, hrun, hunfinished⟩ : ∃ s, ReadableStore.run { store := { maxQueue := 5 } }
        flushBehindStop = some s ∧ s.unfinished = 1 := ⟨_, rfl, rfl⟩
    exact ⟨s, hrun, hunfinished, (flush_ends_iff hrun).2 (by decide)⟩
  · obtain ⟨s, hrun, hunfinished, hwork⟩ : ∃ s, ReadableStore.run { store := { maxQueue := 5 } }
        [.store (.save 1), .store (.put 0), .flush] = some s ∧ s.unfinished = 1 ∧ s.work = 2 :=
      ⟨_, rfl, rfl, rfl⟩
    refine ⟨s, hrun, hwork, ?_⟩
    have hends := ((flush_ends_iff hrun).1 (by decide) [] s (by simp) rfl).2
    rwa [if_neg (by rw [hunfinished]; decide)] at hends

end AgentCtl
