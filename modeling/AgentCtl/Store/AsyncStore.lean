import AgentCtl.Library.PartialRun
import Mathlib.Tactic.Common

set_option relaxedAutoImplicit false
set_option autoImplicit false

/-!
# Asynchronous capture

`store/async_store.py`: `save` puts a record into a bounded queue and returns; a worker takes the
records out and hands them to the inner store. A `save` is two steps, the test of the closed flag
and the put, and `close` sends its stop mark through the queue of the records: a `save` that passed
the test before may put its record behind the mark. The worker swallows what `inner.save` raises
only as far as `except Exception` goes: a `SystemExit` ends its thread, and what is in the queue
then has nobody to take it.

## Main definitions

* `AgentCtl.AsyncStore`, `AsyncStore.step` — the store, and the interleaving of the steps of its
  callers and its worker.
* `AgentCtl.AsyncStore.Accounted` — every record of a finished `save` is handed on, queued or
  counted as dropped.
* `AgentCtl.AsyncStore.Drained` — a stopped worker leaves no record behind.
* `AgentCtl.AsyncStore.PutInTime` — no record is put where nobody will take it, and the worker does
  not die with records in the queue.

## Main results

* `AgentCtl.accounted_of_run` — no run loses count.
* `AgentCtl.accounted_drained_of_putInTime` — and no record is left behind if all are put in time.
* `AgentCtl.lateSave_left_behind` — a record that is put behind the stop mark stays there.
-/

namespace AgentCtl

/-- What is in the queue: records, and the stop mark `_STOP`. -/
inductive QueueItem (ρ : Type) where
  | record (r : ρ)
  | stop

/-- The background thread: it waits for the queue, is in `inner.save`, or has ended, at the stop
mark or by an exception of `inner.save`. -/
inductive WorkerState where
  | waiting
  | saving
  | stopped
  deriving DecidableEq

/-- How far `close` has come: it was not called, has set the flag, has put the stop mark and waits
for the worker, or is over, with the stop mark put or not. -/
inductive CloserState where
  | absent
  | flagged
  | joining
  | returned
  | gaveUp
  deriving DecidableEq

/-- Has the stop mark been put? -/
def CloserState.stopSent : CloserState → Bool
  | joining | returned => true
  | _ => false

/-- The store. `pending` are the records of the `save` calls that have passed the test of the flag
and not yet put, `finished` those of the calls that have returned, `handed` those that `inner.save`
was called with. -/
structure AsyncStore (ρ : Type) where
  maxQueue : ℤ
  queue : List (QueueItem ρ) := []
  dropped : ℕ := 0
  closed : Bool := false
  worker : WorkerState := .waiting
  closer : CloserState := .absent
  innerClosed : Bool := false
  pending : List ρ := []
  finished : List ρ := []
  handed : List ρ := []

/-- The steps: of a `save`, of the worker, and of `close`. -/
inductive StoreMove (ρ : Type) where
  /-- `save(r)` tests the flag. -/
  | save (r : ρ)
  /-- The `save` at a position of `pending` puts its record. -/
  | put (i : ℕ)
  /-- The worker takes an item, and hands a record to `inner.save`. -/
  | take
  /-- `inner.save` returns, or raises an exception that is swallowed. -/
  | saved
  /-- `inner.save` raises what `except Exception` does not catch: the thread ends. -/
  | died
  /-- `close` tests and sets the flag. -/
  | close
  /-- `close` puts the stop mark. -/
  | putStop
  /-- `close` gives up putting the stop mark. -/
  | timeout
  /-- `close` stops waiting for the worker, which may have ended or not. -/
  | join

namespace AsyncStore

variable {ρ : Type}

/-- Is the queue full? A bound that is not positive is none. -/
def full (s : AsyncStore ρ) : Bool := 0 < s.maxQueue && s.maxQueue ≤ s.queue.length

/-- One step, if it is possible. -/
def step (s : AsyncStore ρ) : StoreMove ρ → Option (AsyncStore ρ)
  | .save r =>
    if s.closed then some { s with dropped := s.dropped + 1, finished := s.finished ++ [r] }
    else some { s with pending := s.pending ++ [r] }
  | .put i =>
    match s.pending[i]? with
    | none => none
    | some r =>
      let s := { s with pending := s.pending.eraseIdx i, finished := s.finished ++ [r] }
      if s.full then some { s with dropped := s.dropped + 1 }
      else some { s with queue := s.queue ++ [.record r] }
  | .take =>
    match s.worker, s.queue with
    | .waiting, .record r :: rest =>
      some { s with queue := rest, worker := .saving, handed := s.handed ++ [r] }
    | .waiting, .stop :: rest => some { s with queue := rest, worker := .stopped }
    | _, _ => none
  | .saved => if s.worker = .saving then some { s with worker := .waiting } else none
  | .died => if s.worker = .saving then some { s with worker := .stopped } else none
  | .close =>
    if s.closed then some s  -- idempotent
    else some { s with closed := true, closer := .flagged }
  | .putStop =>
    if s.closer = .flagged && !s.full then
      some { s with queue := s.queue ++ [.stop], closer := .joining }
    else none
  | .timeout => if s.closer = .flagged && s.full then some { s with closer := .gaveUp } else none
  | .join =>
    if s.closer = .joining then
      some { s with closer := .returned, innerClosed := decide (s.worker = .stopped) }
    else none

/-- The state after an interleaving of steps. -/
def run (s : AsyncStore ρ) (ms : List (StoreMove ρ)) : Option (AsyncStore ρ) :=
  PartialRun.run step s ms

/-- The record of an item of the queue. -/
def record? : QueueItem ρ → Option ρ
  | .record r => some r
  | .stop => none

/-- The records in the queue. -/
def queued (s : AsyncStore ρ) : List ρ := s.queue.filterMap record?

/-- Every record of a finished `save` was handed to `inner.save`, is in the queue, or is counted as
dropped. -/
def Accounted (s : AsyncStore ρ) : Prop :=
  s.finished.length = s.handed.length + s.queued.length + s.dropped

/-- Once the worker has stopped, the queue holds no record. -/
def Drained (s : AsyncStore ρ) : Prop := s.worker = .stopped → s.queued = []

/-- A put behind the stop mark, or after the worker has ended, finds the queue full; and the worker
dies only when the queue holds no record. -/
def PutInTime (s : AsyncStore ρ) : StoreMove ρ → Prop
  | .put _ => s.closer.stopSent = true ∨ s.worker = .stopped → s.full = true
  | .died => s.queued.isEmpty = true
  | _ => True

/-- The condition can be tested. -/
instance decidablePutInTime (s : AsyncStore ρ) (m : StoreMove ρ) : Decidable (s.PutInTime m) :=
  match m with
  | .put _ => inferInstanceAs (Decidable (_ → _))
  | .died => inferInstanceAs (Decidable (_ = true))
  | .save _ | .take | .saved | .close | .putStop | .timeout | .join =>
    inferInstanceAs (Decidable True)

/-! ## What one step does -/

variable {s s' : AsyncStore ρ}

/-- A `save` tests the flag: it is over at once, or it goes on to its put. -/
lemma step_save {r : ρ} (h : s.step (.save r) = some s') :
    s' = { s with dropped := s.dropped + 1, finished := s.finished ++ [r] } ∨
      s' = { s with pending := s.pending ++ [r] } := by
  simp only [step] at h
  split at h
  · exact .inl (Option.some.inj h).symm
  · exact .inr (Option.some.inj h).symm

/-- A put drops its record if the queue is full, and appends it otherwise. -/
lemma step_put {i : ℕ} (h : s.step (.put i) = some s') :
    ∃ r, if s.full then s' = { s with pending := s.pending.eraseIdx i,
                                      finished := s.finished ++ [r], dropped := s.dropped + 1 }
      else s' = { s with pending := s.pending.eraseIdx i, finished := s.finished ++ [r],
                         queue := s.queue ++ [.record r] } := by
  simp only [step] at h
  cases hr : s.pending[i]? with
  | none => simp [hr] at h
  | some r =>
    simp only [hr] at h
    refine ⟨r, ?_⟩
    have hfull : full { s with pending := s.pending.eraseIdx i, finished := s.finished ++ [r] } =
        s.full := rfl
    rw [hfull] at h
    split at h
    · next hs =>
      rw [if_pos hs]
      exact (Option.some.inj h).symm
    · next hs =>
      rw [if_neg hs]
      exact (Option.some.inj h).symm

/-- The worker takes a record, or the stop mark. -/
lemma step_take (h : s.step .take = some s') :
    s.worker = .waiting ∧
      ((∃ r rest, s.queue = .record r :: rest ∧
        s' = { s with queue := rest, worker := .saving, handed := s.handed ++ [r] }) ∨
      ∃ rest, s.queue = .stop :: rest ∧ s' = { s with queue := rest, worker := .stopped }) := by
  simp only [step] at h
  split at h
  · next r rest hw hq => exact ⟨hw, .inl ⟨r, rest, hq, (Option.some.inj h).symm⟩⟩
  · next rest hw hq => exact ⟨hw, .inr ⟨rest, hq, (Option.some.inj h).symm⟩⟩
  · cases h

/-- The worker is done with a record. -/
lemma step_saved (h : s.step .saved = some s') :
    s.worker = .saving ∧ s' = { s with worker := .waiting } := by
  simp only [step] at h
  split at h
  · next hw => exact ⟨hw, (Option.some.inj h).symm⟩
  · cases h

/-- The worker dies with a record in its hand. -/
lemma step_died (h : s.step .died = some s') :
    s.worker = .saving ∧ s' = { s with worker := .stopped } := by
  simp only [step] at h
  split at h
  · next hw => exact ⟨hw, (Option.some.inj h).symm⟩
  · cases h

/-- `close` sets the flag, once. -/
lemma step_close (h : s.step .close = some s') :
    s' = s ∨ s.closed = false ∧ s' = { s with closed := true, closer := .flagged } := by
  simp only [step] at h
  split at h
  · exact .inl (Option.some.inj h).symm
  · next hc => exact .inr ⟨by simpa using hc, (Option.some.inj h).symm⟩

/-- `close` puts the stop mark. -/
lemma step_putStop (h : s.step .putStop = some s') :
    s.closer = .flagged ∧ s' = { s with queue := s.queue ++ [.stop], closer := .joining } := by
  simp only [step] at h
  split at h
  · next hc =>
    rw [Bool.and_eq_true, decide_eq_true_eq] at hc
    exact ⟨hc.1, (Option.some.inj h).symm⟩
  · cases h

/-- `close` gives up. -/
lemma step_timeout (h : s.step .timeout = some s') :
    s.closer = .flagged ∧ s' = { s with closer := .gaveUp } := by
  simp only [step] at h
  split at h
  · next hc =>
    rw [Bool.and_eq_true, decide_eq_true_eq] at hc
    exact ⟨hc.1, (Option.some.inj h).symm⟩
  · cases h

/-- `close` stops waiting. -/
lemma step_join (h : s.step .join = some s') :
    s.closer = .joining ∧
      s' = { s with closer := .returned, innerClosed := decide (s.worker = .stopped) } := by
  simp only [step] at h
  split at h
  · next hc => exact ⟨hc, (Option.some.inj h).symm⟩
  · cases h

/-! ## Counting -/

/-- Every step keeps count. -/
lemma Accounted.step {m : StoreMove ρ} (hs : s.Accounted) (h : s.step m = some s') :
    s'.Accounted := by
  unfold Accounted queued at hs ⊢
  cases m with
  | save r =>
    rcases step_save h with rfl | rfl
    · simp only [List.length_append, List.length_singleton]
      omega
    · exact hs
  | put i =>
    obtain ⟨r, hput⟩ := step_put h
    split at hput
    · obtain rfl := hput
      simp only [List.length_append, List.length_singleton]
      omega
    · obtain rfl := hput
      simp only [List.length_append, List.length_singleton, List.filterMap_append]
      have hone : ([QueueItem.record r].filterMap record?).length = 1 := rfl
      omega
  | take =>
    obtain ⟨-, ⟨r, rest, hq, rfl⟩ | ⟨rest, hq, rfl⟩⟩ := step_take h
    · have hcons : s.queue.filterMap record? = r :: rest.filterMap record? := by
        rw [hq]
        rfl
      rw [hcons] at hs
      simp only [List.length_append, List.length_cons, List.length_nil] at hs ⊢
      omega
    · have hcons : s.queue.filterMap record? = rest.filterMap record? := by
        rw [hq]
        rfl
      rw [hcons] at hs
      exact hs
  | saved =>
    obtain ⟨-, rfl⟩ := step_saved h
    exact hs
  | died =>
    obtain ⟨-, rfl⟩ := step_died h
    exact hs
  | close =>
    rcases step_close h with rfl | ⟨-, rfl⟩
    · exact hs
    · exact hs
  | putStop =>
    obtain ⟨-, rfl⟩ := step_putStop h
    have hstop : (s.queue ++ [QueueItem.stop]).filterMap record? = s.queue.filterMap record? := by
      rw [List.filterMap_append]
      exact List.append_nil _
    rw [hstop]
    exact hs
  | timeout =>
    obtain ⟨-, rfl⟩ := step_timeout h
    exact hs
  | join =>
    obtain ⟨-, rfl⟩ := step_join h
    exact hs

/-! ## The stop mark -/

/-- The states of runs in which all records are put in time: as long as the worker is there, the
stop mark is the last item of the queue, and when the worker has ended no record is left. -/
structure Ordered (s : AsyncStore ρ) : Prop where
  flag : s.closed = false → s.closer = .absent
  before : s.closer.stopSent = false → s.worker ≠ .stopped → ∃ rs : List ρ, s.queue = rs.map .record
  after : s.closer.stopSent = true → s.worker ≠ .stopped →
    ∃ rs : List ρ, s.queue = rs.map .record ++ [.stop]
  drained : s.Drained

/-- What a worker that waits finds in the queue of such a state: in front of a record or of the
stop mark. -/
lemma Ordered.take (hs : s.Ordered) (h : s.step .take = some s') : s'.Ordered := by
  obtain ⟨hworker, htaken⟩ := step_take h
  have hrunning : s.worker ≠ .stopped := by
    rw [hworker]
    decide
  rcases htaken with ⟨r, rest, hq, rfl⟩ | ⟨rest, hq, rfl⟩
  · refine ⟨hs.flag, ?_, ?_, ?_⟩
    · intro hstop _
      obtain ⟨rs, hrs⟩ := hs.before hstop hrunning
      rw [hq] at hrs
      cases rs with
      | nil => cases hrs
      | cons r' rs => exact ⟨rs, (List.cons.inj hrs).2⟩
    · intro hstop _
      obtain ⟨rs, hrs⟩ := hs.after hstop hrunning
      rw [hq] at hrs
      cases rs with
      | nil => cases hrs
      | cons r' rs => exact ⟨rs, (List.cons.inj hrs).2⟩
    · intro hstopped
      cases hstopped
  · refine ⟨hs.flag, ?_, ?_, ?_⟩
    · intro _ hrunning'
      exact absurd rfl hrunning'
    · intro _ hrunning'
      exact absurd rfl hrunning'
    · intro _
      -- nothing is behind the stop mark, and the mark was sent
      have hrest : rest = [] := by
        cases hstop : s.closer.stopSent with
        | false =>
          obtain ⟨rs, hrs⟩ := hs.before hstop hrunning
          rw [hq] at hrs
          cases rs with
          | nil => cases hrs
          | cons r' rs => cases hrs
        | true =>
          obtain ⟨rs, hrs⟩ := hs.after hstop hrunning
          rw [hq] at hrs
          cases rs with
          | nil => exact (List.cons.inj hrs).2
          | cons r' rs => cases hrs
      rw [queued, hrest]
      rfl

/-- A step that is in time keeps the order. -/
lemma Ordered.step {m : StoreMove ρ} (hs : s.Ordered) (hm : s.PutInTime m)
    (h : s.step m = some s') : s'.Ordered := by
  cases m with
  | save r =>
    rcases step_save h with rfl | rfl
    · exact ⟨hs.flag, hs.before, hs.after, hs.drained⟩
    · exact ⟨hs.flag, hs.before, hs.after, hs.drained⟩
  | put i =>
    obtain ⟨r, hput⟩ := step_put h
    split at hput
    · obtain rfl := hput
      exact ⟨hs.flag, hs.before, hs.after, hs.drained⟩
    · next hfull =>
      obtain rfl := hput
      refine ⟨hs.flag, ?_, ?_, ?_⟩
      · intro hstop hrunning
        obtain ⟨rs, hq⟩ := hs.before hstop hrunning
        refine ⟨rs ++ [r], ?_⟩
        change s.queue ++ [.record r] = _
        rw [hq, List.map_append]
        rfl
      · intro hstop _
        -- behind the stop mark the queue would be full
        exact absurd (hm (.inl hstop)) hfull
      · intro hstopped
        exact absurd (hm (.inr hstopped)) hfull
  | take => exact hs.take h
  | saved =>
    obtain ⟨hsaving, rfl⟩ := step_saved h
    have hrunning : s.worker ≠ .stopped := by
      rw [hsaving]
      decide
    refine ⟨hs.flag, ?_, ?_, ?_⟩
    · intro hstop _
      exact hs.before hstop hrunning
    · intro hstop _
      exact hs.after hstop hrunning
    · intro hstopped
      cases hstopped
  | died =>
    obtain ⟨-, rfl⟩ := step_died h
    refine ⟨hs.flag, ?_, ?_, ?_⟩
    · intro _ hrunning
      exact absurd rfl hrunning
    · intro _ hrunning
      exact absurd rfl hrunning
    · intro _
      exact List.isEmpty_iff.mp hm
  | close =>
    rcases step_close h with rfl | ⟨hopen, rfl⟩
    · exact hs
    · refine ⟨?_, ?_, ?_, hs.drained⟩
      · intro hclosed
        cases hclosed
      · intro _
        have habsent := hs.flag hopen
        exact hs.before (by rw [habsent]; rfl)
      · intro hstop
        cases hstop
  | putStop =>
    obtain ⟨hflagged, rfl⟩ := step_putStop h
    refine ⟨?_, ?_, ?_, ?_⟩
    · intro hopen
      rw [hs.flag hopen] at hflagged
      cases hflagged
    · intro hstop
      cases hstop
    · intro _ hrunning
      obtain ⟨rs, hq⟩ := hs.before (by rw [hflagged]; rfl) hrunning
      refine ⟨rs, ?_⟩
      change s.queue ++ [.stop] = _
      rw [hq]
    · intro hstopped
      have hqueued := hs.drained hstopped
      rw [queued] at hqueued ⊢
      rw [List.filterMap_append, hqueued]
      rfl
  | timeout =>
    obtain ⟨hflagged, rfl⟩ := step_timeout h
    refine ⟨?_, ?_, ?_, hs.drained⟩
    · intro hopen
      rw [hs.flag hopen] at hflagged
      cases hflagged
    · intro _
      exact hs.before (by rw [hflagged]; rfl)
    · intro hstop
      cases hstop
  | join =>
    obtain ⟨hjoining, rfl⟩ := step_join h
    refine ⟨?_, ?_, ?_, hs.drained⟩
    · intro hopen
      rw [hs.flag hopen] at hjoining
      cases hjoining
    · intro hstop
      cases hstop
    · intro _
      exact hs.after (by rw [hjoining]; rfl)

end AsyncStore

variable {ρ : Type} {maxQueue : ℤ} {ms : List (StoreMove ρ)} {s : AsyncStore ρ}

/-- **No run loses count.** After any interleaving of `save` calls, `close` and the worker, every
record of a finished `save` was handed to the inner store, is in the queue, or is counted as
dropped. -/
theorem accounted_of_run (hrun : AsyncStore.run { maxQueue := maxQueue } ms = some s) :
    s.Accounted := by
  refine PartialRun.invariant (I := AsyncStore.Accounted) (P := fun _ _ => True) ?_ ?_ ?_ hrun
  · intro s m s' hs _ hstep
    exact hs.step hstep
  · rfl
  · intro pre m s₁ _ _
    trivial

/-- **No record is left behind.** If no `save` puts its record behind the stop mark or after the
worker has ended, and the worker does not die with records in the queue, every record is accounted
for, and a worker that has ended leaves none in the queue. -/
theorem accounted_drained_of_putInTime
    (hrun : AsyncStore.run { maxQueue := maxQueue } ms = some s)
    (hputs : ∀ pre m s₁, pre ++ [m] <+: ms →
      AsyncStore.run { maxQueue := maxQueue } pre = some s₁ → s₁.PutInTime m) :
    s.Accounted ∧ s.Drained := by
  have hordered : s.Ordered := by
    refine PartialRun.invariant (I := AsyncStore.Ordered) (P := AsyncStore.PutInTime) ?_ ?_ hputs
      hrun
    · intro s m s' hs hm hstep
      exact hs.step hm hstep
    · refine ⟨fun _ => rfl, fun _ _ => ⟨[], rfl⟩, ?_, ?_⟩
      · intro hstop
        cases hstop
      · intro hstopped
        cases hstopped
  exact ⟨accounted_of_run hrun, hordered.drained⟩

/-- Two records in a queue for one, then `close`: the second record is dropped, the first one is
saved before the worker stops. -/
def orderlyClose : List (StoreMove ℕ) :=
  [.save 1, .save 2, .put 0, .put 0, .close, .take, .putStop, .save 3, .saved, .take, .join]

/-- Closing in order. -/
theorem accounted_drained_of_putInTime_orderlyClose :
    ∃ s, AsyncStore.run { maxQueue := 1 } orderlyClose = some s ∧ s.Accounted ∧ s.Drained := by
  have halong : PartialRun.Along AsyncStore.step AsyncStore.PutInTime { maxQueue := 1 }
      orderlyClose := by decide
  obtain ⟨s, hs⟩ : ∃ s, AsyncStore.run { maxQueue := 1 } orderlyClose = some s := ⟨_, rfl⟩
  refine ⟨s, hs, ?_⟩
  exact accounted_drained_of_putInTime hs fun pre m s₁ hpre hrun => halong.at hpre hrun

/-- A `save` has passed the test of the flag when the store is closed, and puts its record when the
worker has stopped. -/
def lateSave : List (StoreMove ℕ) := [.save 1, .close, .putStop, .take, .put 0]

/-- **A late record is left behind.** The worker has stopped, the `save` has returned without
dropping its record, and the record is in the queue. -/
theorem lateSave_left_behind :
    ∃ s, AsyncStore.run { maxQueue := 10000 } lateSave = some s ∧ ¬ s.Drained := by
  refine ⟨_, rfl, ?_⟩
  intro hdrained
  exact absurd (hdrained rfl) (by decide)

end AgentCtl
