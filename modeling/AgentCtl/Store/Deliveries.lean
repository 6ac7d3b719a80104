import AgentCtl.Library.Unwinding
import AgentCtl.Store.ColumnDrift
import AgentCtl.Store.ReadYourWrites

set_option relaxedAutoImplicit false
set_option autoImplicit false

/-!
# Where the records are

Every record that the asynchronous store is asked to save is in one place at every moment: its
`save` has not put it yet, or it was handed to the inner store, or it is in the queue, or it was
dropped and counted. A database that begins without rows has a row for each record that is saved
into it, as long as no two of them have one id.

## Main definitions

* `AgentCtl.ReadMove.askedOf` — the records that `save` is called with.
* `AgentCtl.AsyncStore.Holds` — where they are.
* `AgentCtl.SharedMove.savedOf` — the records that are saved into a database.

## Main results

* `AgentCtl.ReadableStore.holds_run` — no record is lost or duplicated.
* `AgentCtl.SqliteHost.rows_of_savedOf` — the rows of a database.
-/

namespace AgentCtl

/-! ## The queue -/

section Queue

variable {ρ : Type}

namespace ReadMove

/-- The record that a `save` is called with. -/
def asked? : ReadMove ρ → Option ρ
  | .store (.save r) => some r
  | _ => none

/-- The records that `save` is called with. -/
def askedOf (ms : List (ReadMove ρ)) : List ρ := ms.filterMap asked?

/-- One more move. -/
lemma askedOf_concat (ms : List (ReadMove ρ)) (m : ReadMove ρ) :
    askedOf (ms ++ [m]) = askedOf ms ++ m.asked?.toList := by
  unfold askedOf
  rw [List.filterMap_append]
  cases h : m.asked? with
  | none => simp [h]
  | some r => simp [h]

end ReadMove

namespace AsyncStore

/-- Where the records are that `save` was called with; `lost` are those that were dropped. -/
def Holds (s : AsyncStore ρ) (asked lost : List ρ) : Prop :=
  lost.length = s.dropped ∧ asked.Perm (s.pending ++ (s.handed ++ (s.queued ++ lost)))

variable {s s' : AsyncStore ρ} {asked lost : List ρ}

/-- A put takes its record out of the pending ones, into the queue if there is room. -/
lemma pending_of_put {i : ℕ} (h : s.step (.put i) = some s') :
    ∃ r, s.pending.Perm (r :: s'.pending) ∧ s'.handed = s.handed ∧
      (s'.queued = s.queued ∧ s'.dropped = s.dropped + 1 ∨
        s'.queued = s.queued ++ [r] ∧ s'.dropped = s.dropped) := by
  cases hr : s.pending[i]? with
  | none => simp [step, hr] at h
  | some r =>
    obtain ⟨hi, rfl⟩ := List.getElem?_eq_some_iff.mp hr
    have hperm := (List.getElem_cons_eraseIdx_perm hi).symm
    refine ⟨s.pending[i], ?_⟩
    simp only [step, hr] at h
    split at h
    · obtain rfl := Option.some.inj h
      exact ⟨hperm, rfl, .inl ⟨rfl, rfl⟩⟩
    · obtain rfl := Option.some.inj h
      refine ⟨hperm, rfl, .inr ⟨?_, rfl⟩⟩
      unfold queued
      rw [List.filterMap_append]
      rfl

/-- One step of the store. -/
lemma Holds.step {m : StoreMove ρ} (hs : s.Holds asked lost) (h : s.step m = some s') :
    ∃ lost', s'.Holds (asked ++ (ReadMove.store m).asked?.toList) lost' := by
  classical
  obtain ⟨hlost, hperm⟩ := hs
  rw [List.perm_iff_count] at hperm
  -- a move that is not a `save` adds nothing to the records that are asked for
  have hquiet : ∀ {lost'}, lost'.length = s'.dropped →
      (∀ r, s.pending.count r + (s.handed.count r + (s.queued.count r + lost.count r)) =
        s'.pending.count r + (s'.handed.count r + (s'.queued.count r + lost'.count r))) →
      s'.Holds (asked ++ []) lost' := by
    intro lost' hlost' hcount
    refine ⟨hlost', List.perm_iff_count.mpr fun r => ?_⟩
    have hr := hperm r
    have hr' := hcount r
    simp only [List.count_append, List.count_nil] at hr ⊢
    omega
  cases m with
  | save r =>
    rcases step_save h with rfl | rfl
    · refine ⟨lost ++ [r], by simp [hlost], List.perm_iff_count.mpr fun r' => ?_⟩
      have hr := hperm r'
      simp only [queued, ReadMove.asked?, Option.toList, List.count_append] at hr ⊢
      omega
    · refine ⟨lost, hlost, List.perm_iff_count.mpr fun r' => ?_⟩
      have hr := hperm r'
      simp only [queued, ReadMove.asked?, Option.toList, List.count_append] at hr ⊢
      omega
  | put i =>
    obtain ⟨r, hpending, hhanded, ⟨hqueued, hdropped⟩ | ⟨hqueued, hdropped⟩⟩ := pending_of_put h
    · refine ⟨lost ++ [r], hquiet (by simp [hlost, hdropped]) fun r' => ?_⟩
      have hcount := hpending.count_eq r'
      rw [hhanded, hqueued, List.count_append]
      simp only [List.count_cons, List.count_nil] at hcount ⊢
      omega
    · refine ⟨lost, hquiet (by simp [hlost, hdropped]) fun r' => ?_⟩
      have hcount := hpending.count_eq r'
      rw [hhanded, hqueued, List.count_append]
      simp only [List.count_cons, List.count_nil] at hcount ⊢
      omega
  | take =>
    obtain ⟨-, ⟨r, rest, hq, rfl⟩ | ⟨rest, hq, rfl⟩⟩ := step_take h
    · refine ⟨lost, hquiet hlost fun r' => ?_⟩
      have hqueued : s.queued = r :: rest.filterMap record? := by
        unfold queued
        rw [hq]
        rfl
      rw [hqueued]
      simp only [queued, List.count_append, List.count_cons, List.count_nil]
      omega
    · refine ⟨lost, hquiet hlost fun r' => ?_⟩
      have hqueued : s.queued = rest.filterMap record? := by
        unfold queued
        rw [hq]
        rfl
      rw [hqueued]
      rfl
  | saved =>
    obtain ⟨-, rfl⟩ := step_saved h
    exact ⟨lost, hquiet hlost fun _ => rfl⟩
  | died =>
    obtain ⟨-, rfl⟩ := step_died h
    exact ⟨lost, hquiet hlost fun _ => rfl⟩
  | close =>
    rcases step_close h with rfl | ⟨-, rfl⟩
    · exact ⟨lost, hquiet hlost fun _ => rfl⟩
    · exact ⟨lost, hquiet hlost fun _ => rfl⟩
  | putStop =>
    obtain ⟨-, rfl⟩ := step_putStop h
    refine ⟨lost, hquiet hlost fun r' => ?_⟩
    simp only [queued, ReadableStore.queued_append_stop]
  | timeout =>
    obtain ⟨-, rfl⟩ := step_timeout h
    exact ⟨lost, hquiet hlost fun _ => rfl⟩
  | join =>
    obtain ⟨-, rfl⟩ := step_join h
    exact ⟨lost, hquiet hlost fun _ => rfl⟩

end AsyncStore

namespace ReadableStore

variable {s s' : ReadableStore ρ}

/-- The store after one of its own steps. -/
lemma store_of_step {m : StoreMove ρ} (h : s.step (.store m) = some s') :
    s.store.step m = some s'.store := by
  obtain ⟨store, hstore, haccount⟩ := Option.bind_eq_some_iff.mp h
  rw [hstore]
  cases m with
  | put i =>
    simp only [account] at haccount
    split at haccount
    · rw [← Option.some.inj haccount]
    · rw [← Option.some.inj haccount]
  | saved | died =>
    obtain ⟨n, -, rfl⟩ := Option.map_eq_some_iff.mp haccount
    rfl
  | save _ | close | timeout | join | take | putStop => rw [← Option.some.inj haccount]

/-- One step of the store or of its readers. -/
lemma holds_step {m : ReadMove ρ} {asked lost : List ρ} (hs : s.store.Holds asked lost)
    (h : s.step m = some s') : ∃ lost', s'.store.Holds (asked ++ m.asked?.toList) lost' := by
  -- of the other moves only a second stop mark changes the store
  have hsame : s'.store.pending = s.store.pending → s'.store.handed = s.store.handed →
      s'.store.queued = s.store.queued → s'.store.dropped = s.store.dropped →
      s'.store.Holds (asked ++ []) lost := by
    intro hpending hhanded hqueued hdropped
    unfold AsyncStore.Holds at hs ⊢
    rw [hpending, hhanded, hqueued, hdropped, List.append_nil]
    exact hs
  cases m with
  | store m => exact hs.step (store_of_step h)
  | ended =>
    simp only [step] at h
    split at h
    · obtain ⟨n, -, rfl⟩ := Option.map_eq_some_iff.mp h
      exact ⟨lost, hsame rfl rfl rfl rfl⟩
    · cases h
  | stopAgain =>
    simp only [step] at h
    split at h
    · obtain rfl := Option.some.inj h
      exact ⟨lost, hsame rfl rfl (queued_append_stop _) rfl⟩
    · cases h
  | flush =>
    obtain rfl := Option.some.inj h
    exact ⟨lost, hsame rfl rfl rfl rfl⟩
  | joined j =>
    simp only [step] at h
    split at h
    · cases h
    · split at h
      · obtain rfl := Option.some.inj h
        exact ⟨lost, hsame rfl rfl rfl rfl⟩
      · cases h
  | returned j =>
    simp only [step] at h
    split at h
    · obtain rfl := Option.some.inj h
      exact ⟨lost, hsame rfl rfl rfl rfl⟩
    · cases h

/-- **No record is lost or duplicated.** After any interleaving of `save` calls, `close` calls, the
worker and readers, the records that `save` was called with are the pending ones, those handed to
the inner store, those in the queue, and as many others as the store has counted as dropped. -/
lemma holds_run {maxQueue : ℤ} {ms : List (ReadMove ρ)}
    (hrun : run { store := { maxQueue := maxQueue } } ms = some s) :
    ∃ lost, s.store.Holds (ReadMove.askedOf ms) lost := by
  refine PartialRun.historyInvariant
    (I := fun ms (s : ReadableStore ρ) => ∃ lost, s.store.Holds (ReadMove.askedOf ms) lost)
    ⟨[], rfl, List.Perm.refl _⟩ ?_ hrun
  rintro ms s m s' - ⟨lost, hs⟩ hstep
  rw [ReadMove.askedOf_concat]
  exact holds_step hs hstep

end ReadableStore

end Queue

/-! ## The database -/

section Tables

variable {β : Type} {H : SqliteHost β}

namespace SharedMove

/-- The record that a move saves. -/
def saved? : SharedMove β → Option (StoredRecord β)
  | .save _ r => some r
  | _ => none

/-- The records that are saved into a database. -/
def savedOf (ms : List (SharedMove β)) : List (StoredRecord β) := ms.filterMap saved?

end SharedMove

namespace SqliteHost

/-- What reports say of the costs of a row: whose they are, and what they are. -/
def charge (row : Row) : Option Str × Option ℚ := (row.consumer, row.costUsd)

variable {db : Database} {s s' : Shared}

/-- A save that is possible adds the row of its record. -/
lemma savedRow_of_step {m : SharedMove β} (h : H.step s m = some s') (hfresh : s.Fresh m) :
    (H.savedRow m).map (fun row => (row.id, charge row)) =
      m.saved?.map fun r => (r.id, (some r.consumer, r.costUsd)) := by
  cases m with
  | start | exec p | kill p => rfl
  | save p r =>
    obtain ⟨db', hsave, rfl⟩ := step_save h
    obtain ⟨t, doc, -, hdoc, -⟩ := save_eq_some hsave hfresh
    simp only [savedRow, hdoc]
    rfl

/-- **The rows of a database** that begins without rows, with an id of its own for each record that
is saved: one for each of them, with its id, its consumer and its cost. -/
lemma rows_of_savedOf {ms : List (SharedMove β)} (hrun : H.run { db := db } ms = some s)
    (hempty : db.rows = []) (hids : ((SharedMove.savedOf ms).map StoredRecord.id).Nodup) :
    s.db.rows.map (fun row => (row.id, charge row)) =
      (SharedMove.savedOf ms).map fun r => (r.id, (some r.consumer, r.costUsd)) := by
  revert hids
  refine PartialRun.historyInvariant (I := fun ms (s : Shared) =>
    ((SharedMove.savedOf ms).map StoredRecord.id).Nodup →
      s.db.rows.map (fun row => (row.id, charge row)) =
        (SharedMove.savedOf ms).map fun r => (r.id, (some r.consumer, r.costUsd))) ?_ ?_ hrun
  · intro _
    rw [hempty]
    rfl
  · intro ms s m s' _ ih hstep hids
    have hsaved : SharedMove.savedOf (ms ++ [m]) = SharedMove.savedOf ms ++ m.saved?.toList := by
      unfold SharedMove.savedOf
      rw [List.filterMap_append]
      cases h : m.saved? with
      | none => simp [h]
      | some r => simp [h]
    rw [hsaved, List.map_append] at hids
    have hrows := ih (List.Nodup.of_append_left hids)
    have hfresh : s.Fresh m := by
      cases m with
      | start | exec p | kill p => trivial
      | save p r =>
        intro row hrow heq
        have hrowIds : s.db.rows.map Row.id = (SharedMove.savedOf ms).map StoredRecord.id := by
          have := congrArg (List.map Prod.fst) hrows
          rwa [List.map_map, List.map_map] at this
        have hmem : r.id ∈ (SharedMove.savedOf ms).map StoredRecord.id := by
          rw [← hrowIds, ← heq]
          exact List.mem_map_of_mem hrow
        exact (List.disjoint_of_nodup_append hids) hmem (by simp [SharedMove.saved?])
    have hmodels := withoutModels_step hstep hfresh
    have hone := savedRow_of_step hstep hfresh
    -- the columns of the model play no part in ids and costs
    have hnone : ∀ rows : List Row, rows.map (fun row => (row.id, charge row)) =
        (rows.map Row.withoutModels).map fun row => (row.id, charge row) := fun rows => by
      rw [List.map_map]
      rfl
    rw [hnone, hmodels, List.map_append, ← hnone, ← hnone, hrows, hsaved, List.map_append]
    congr 1
    rw [← Option.toList_map, ← Option.toList_map, hone]

end SqliteHost

end Tables

end AgentCtl
