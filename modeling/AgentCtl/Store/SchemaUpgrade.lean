import AgentCtl.Library.PartialRun
import AgentCtl.Store.SqliteStore

set_option relaxedAutoImplicit false
set_option autoImplicit false

/-!
# Opening the SQLite store

`SqliteCaptureStore.__init__` creates what is missing of the schema. A table of an earlier version
lacks `model_requested` and `model_resolved`: an open adds them, fills them from the documents once,
and leaves a marker in `schema_migrations` so that no later open fills them again. Any number of
processes open one database, statement by statement, and each of them may be killed between two
statements. The statements that change the schema take effect at once; what an open writes to the
rows and to `schema_migrations` takes effect when it commits.

## Main definitions

* `AgentCtl.Database`, `AgentCtl.Process` — the database, and how far an open has come.
* `AgentCtl.SqliteHost.exec` — the next statement of an open.
* `AgentCtl.SqliteHost.step`, `run` — the interleaving of opens, kills and saves.

## Main results

* `AgentCtl.SqliteHost.withoutModels_step` — only a save adds a row, and no step changes a document.
-/

namespace AgentCtl

/-- The columns that tables of an earlier version lack. -/
inductive ModelColumn where
  | requested
  | resolved
  deriving DecidableEq

/-- The table `call_record`: does it have the columns of the model, and its rows, oldest first. -/
structure CallTable where
  hasRequested : Bool
  hasResolved : Bool
  rows : List Row

/-- The database: `call_record`, and the versions in `schema_migrations`. -/
structure Database where
  calls : Option CallTable := none
  versions : Option (List ℕ) := none

/-- What the transaction of an open has written: the values of the two columns by the id of the row,
and versions. -/
structure Writes where
  updates : List (Str × Option Str × Option Str) := []
  versions : List ℕ := []

/-- The statement that comes next in a process that opens the database. -/
inductive Process where
  | createTable
  | createMigrations
  | tableInfo
  /-- `ALTER TABLE` for each of the missing columns. -/
  | addColumns (missing : List ModelColumn)
  | readMarker
  | selectRows
  /-- `UPDATE` for each of the selected rows, of which the id and the document are known; then the
  marker. -/
  | update (selected : List (Str × Str)) (w : Writes)
  | markSchema (w : Writes)
  | createIndexes (left : ℕ) (w : Writes)
  | commit (w : Writes)
  /-- The store is open. -/
  | opened
  /-- The process was killed, or a statement raised. -/
  | gone

/-- `SCHEMA_VERSION`. -/
def schemaVersion : ℕ := 1

/-- `_BACKFILL_MARKER_VERSION`. -/
def backfillMarkerVersion : ℕ := 2

/-! ## Rows and tables -/

namespace Row

/-- The row with other values in the columns of the model. -/
def withModels (row : Row) (v : Option Str × Option Str) : Row :=
  { row with modelRequested := v.1, modelResolved := v.2 }

/-- What the row holds besides. -/
def withoutModels (row : Row) : Row := row.withModels (none, none)

/-- `UPDATE call_record SET model_requested = ?, model_resolved = ? WHERE id = ?`, for one row. -/
def setModels (row : Row) (u : Str × Option Str × Option Str) : Row :=
  if row.id = u.1 then row.withModels u.2 else row

@[simp] lemma withModels_id (row : Row) (v : Option Str × Option Str) :
    (row.withModels v).id = row.id := rfl

@[simp] lemma withModels_doc (row : Row) (v : Option Str × Option Str) :
    (row.withModels v).doc = row.doc := rfl

@[simp] lemma withModels_withModels (row : Row) (v w : Option Str × Option Str) :
    (row.withModels v).withModels w = row.withModels w := rfl

@[simp] lemma withoutModels_withModels (row : Row) (v : Option Str × Option Str) :
    (row.withModels v).withoutModels = row.withoutModels := rfl

@[simp] lemma withoutModels_setModels (row : Row) (u : Str × Option Str × Option Str) :
    (row.setModels u).withoutModels = row.withoutModels := by
  unfold setModels
  split
  · rfl
  · rfl

/-- Rows that hold the same besides have the same id and document. -/
lemma id_doc_of_withoutModels {row row' : Row} (h : row.withoutModels = row'.withoutModels) :
    row.id = row'.id ∧ row.doc = row'.doc := by
  have hid : row.withoutModels.id = row'.withoutModels.id := by rw [h]
  have hdoc : row.withoutModels.doc = row'.withoutModels.doc := by rw [h]
  exact ⟨hid, hdoc⟩

/-- Updates with one value for the row: it has this value, if it is updated at all. -/
lemma foldl_setModels {row : Row} {us : List (Str × Option Str × Option Str)}
    {v : Option Str × Option Str} (h : ∀ u ∈ us, u.1 = row.id → u.2 = v) :
    us.foldl setModels row = if row.id ∈ us.map Prod.fst then row.withModels v else row := by
  induction us generalizing row with
  | nil => rfl
  | cons u us ih =>
    have htail : ∀ u' ∈ us, u'.1 = row.id → u'.2 = v :=
      fun u' hu' => h u' (List.mem_cons_of_mem _ hu')
    rw [List.foldl_cons, List.map_cons]
    by_cases hid : row.id = u.1
    · have hv : u.2 = v := h u List.mem_cons_self hid.symm
      have hset : row.setModels u = row.withModels v := by rw [setModels, if_pos hid, hv]
      have hmem : row.id ∈ u.1 :: us.map Prod.fst := by
        rw [hid]
        exact List.mem_cons_self
      rw [hset, @ih (row.withModels v) htail, if_pos hmem, withModels_withModels, ite_self]
    · have hset : row.setModels u = row := by rw [setModels, if_neg hid]
      have hmem : row.id ∈ u.1 :: us.map Prod.fst ↔ row.id ∈ us.map Prod.fst :=
        ⟨fun h => (List.mem_cons.mp h).resolve_left hid, List.mem_cons_of_mem _⟩
      rw [hset, ih htail]
      exact (if_congr hmem rfl rfl).symm

end Row

namespace CallTable

/-- Does the table have the column? -/
def has (t : CallTable) : ModelColumn → Bool
  | .requested => t.hasRequested
  | .resolved => t.hasResolved

/-- `ALTER TABLE call_record ADD COLUMN`: the column is NULL everywhere. If another process has
added it, the error is swallowed. -/
def addColumn (t : CallTable) (c : ModelColumn) : CallTable :=
  if t.has c then t
  else match c with
    | .requested =>
      { t with hasRequested := true,
               rows := t.rows.map fun row => row.withModels (none, row.modelResolved) }
    | .resolved =>
      { t with hasResolved := true,
               rows := t.rows.map fun row => row.withModels (row.modelRequested, none) }

/-- `UPDATE`, for all rows. -/
def setModels (t : CallTable) (u : Str × Option Str × Option Str) : CallTable :=
  { t with rows := t.rows.map fun row => row.setModels u }

/-- The columns stay as they are. -/
lemma has_foldl_setModels (t : CallTable) (us : List (Str × Option Str × Option Str)) :
    (us.foldl setModels t).has = t.has := by
  induction us generalizing t with
  | nil => rfl
  | cons u us ih =>
    rw [List.foldl_cons, ih]
    rfl

/-- Row by row. -/
lemma rows_foldl_setModels (t : CallTable) (us : List (Str × Option Str × Option Str)) :
    (us.foldl setModels t).rows = t.rows.map fun row => us.foldl Row.setModels row := by
  induction us generalizing t with
  | nil => simp
  | cons u us ih =>
    rw [List.foldl_cons, ih]
    simp [setModels]

/-- An added column does not touch the others. -/
lemma withoutModels_addColumn (t : CallTable) (c : ModelColumn) :
    (t.addColumn c).rows.map Row.withoutModels = t.rows.map Row.withoutModels := by
  unfold addColumn
  split
  · rfl
  · cases c with
    | requested => simp [Function.comp_def]
    | resolved => simp [Function.comp_def]

/-- Updates do not touch the other columns. -/
lemma withoutModels_foldl_setModels (t : CallTable) (us : List (Str × Option Str × Option Str)) :
    (us.foldl setModels t).rows.map Row.withoutModels = t.rows.map Row.withoutModels := by
  induction us generalizing t with
  | nil => rfl
  | cons u us ih =>
    rw [List.foldl_cons, ih]
    simp [setModels, Function.comp_def]

end CallTable

/-- `INSERT OR IGNORE INTO schema_migrations`. -/
def insertOrIgnore (versions : List ℕ) (v : ℕ) : List ℕ :=
  if v ∈ versions then versions else versions ++ [v]

namespace Database

/-- The rows of `call_record`, if there are any. -/
def rows (db : Database) : List Row := (db.calls.map CallTable.rows).getD []

/-- Does `call_record` have the column? -/
def has (db : Database) (c : ModelColumn) : Bool := db.calls.any fun t => t.has c

/-- Is the marker there? -/
def marked (db : Database) : Bool := db.versions.any fun vs => backfillMarkerVersion ∈ vs

/-- A transaction takes effect. -/
def commit (db : Database) (w : Writes) : Database where
  calls := db.calls.map fun t => w.updates.foldl CallTable.setModels t
  versions := db.versions.map fun vs => w.versions.foldl insertOrIgnore vs

end Database

namespace SqliteHost

variable {β : Type} (H : SqliteHost β)

/-! ## The statements of an open -/

/-- A parameter of `UPDATE`, as a column of texts keeps it. -/
def bindText (index : ℕ) : Json → Except Exc (Option Str)
  | .null => .ok none
  | .str s => .ok (some s)
  | .int n =>
    if -2 ^ 63 ≤ n ∧ n < 2 ^ 63 then .ok (some (Str.ofInt n))
    else .error ⟨.other "OverflowError", "Python int too large to convert to SQLite INTEGER", none⟩
  | .bool b => .ok (some (if b then "1" else "0"))
  | .float x => .ok (some (H.realText x))
  | v => .error ⟨.other "ProgrammingError", "Error binding parameter " ++ Str.ofNat index ++
      ": type '" ++ v.typeName ++ "' is not supported", none⟩

/-- The values of `UPDATE` for a document that was loaded. -/
def modelValues (data : Json) : Except Exc (Option Str × Option Str) :=
  match data with
  | .obj d => do
    let requested ← H.bindText 1 (Dict.get d "model_requested" (.str ""))
    let resolved ← H.bindText 2 (Dict.get d "model_resolved")
    .ok (requested, resolved)
  | v => .error (v.noAttribute "get")

/-- The next statement of a process, or the end of one of its loops. What raises ends the process:
its transaction is rolled back. -/
def exec (db : Database) : Process → Database × Process
  | .createTable =>
    ({ db with calls := some (db.calls.getD ⟨true, true, []⟩) }, .createMigrations)
  | .createMigrations => ({ db with versions := some (db.versions.getD []) }, .tableInfo)
  | .tableInfo =>
    (db, .addColumns ([ModelColumn.requested, .resolved].filter fun c => !db.has c))
  | .addColumns [] => (db, .readMarker)
  | .addColumns (c :: cs) =>
    match db.calls with
    | none => (db, .gone)
    | some t => ({ db with calls := some (t.addColumn c) }, .addColumns cs)
  | .readMarker =>
    if db.versions.isNone then (db, .gone)
    else (db, if db.marked then .markSchema {} else .selectRows)
  | .selectRows =>
    if db.has .requested && db.has .resolved then
      let unfilled := db.rows.filter fun row =>
        row.modelRequested.isNone || row.modelResolved.isNone
      (db, .update (unfilled.map fun row => (row.id, row.doc)) {})
    else (db, .gone)
  | .update [] w => (db, .markSchema { w with versions := w.versions ++ [backfillMarkerVersion] })
  | .update ((id, doc) :: rest) w =>
    match H.py.loads doc with
    | .error e => (db, if e.cls = .jsonDecodeError then .update rest w else .gone)
    | .ok data =>
      match H.modelValues data with
      | .error _ => (db, .gone)
      | .ok v => (db, .update rest { w with updates := w.updates ++ [(id, v)] })
  | .markSchema w =>
    (db, .createIndexes 4 { w with versions := w.versions ++ [schemaVersion] })
  | .createIndexes left w => (db, if left ≤ 1 then .commit w else .createIndexes (left - 1) w)
  | .commit w => (db.commit w, .opened)
  | .opened => (db, .opened)
  | .gone => (db, .gone)

/-- The row of a record. -/
def rowOf (r : StoredRecord β) (doc : Str) : Row where
  id := r.id
  ts := some r.ts
  consumer := some r.consumer
  status := some r.status
  modelRequested := some r.modelRequested
  modelResolved := r.modelResolved
  inputTokens := some r.inputTokens
  outputTokens := some r.outputTokens
  costUsd := r.costUsd
  doc := doc

/-- `save`: `INSERT OR REPLACE INTO call_record`, and `COMMIT`. -/
def save (db : Database) (r : StoredRecord β) : Option Database :=
  match db.calls, H.dumpJson r with
  | some t, .ok doc =>
    if t.hasRequested && t.hasResolved then
      let others := t.rows.filter fun row => row.id ≠ r.id
      some { db with calls := some { t with rows := others ++ [rowOf r doc] } }
    else none
  | _, _ => none

end SqliteHost

/-! ## Processes side by side -/

/-- A database and the processes that open it. -/
structure Shared where
  db : Database
  processes : List Process := []

/-- The steps of the processes. -/
inductive SharedMove (β : Type) where
  /-- A new process opens the database. -/
  | start
  /-- The next statement of a process. -/
  | exec (p : ℕ)
  /-- A process is killed. -/
  | kill (p : ℕ)
  /-- A process that has opened the store saves a record. -/
  | save (p : ℕ) (r : StoredRecord β)

/-- The id of a record that is saved is not that of a row. -/
def Shared.Fresh {β : Type} (s : Shared) : SharedMove β → Prop
  | .save _ r => ∀ row ∈ s.db.rows, row.id ≠ r.id
  | _ => True

/-- The condition can be tested. -/
instance decidableFresh {β : Type} (s : Shared) (m : SharedMove β) : Decidable (s.Fresh m) :=
  match m with
  | .save _ r => inferInstanceAs (Decidable (∀ row ∈ s.db.rows, row.id ≠ r.id))
  | .start | .exec _ | .kill _ => inferInstanceAs (Decidable True)

namespace SqliteHost

variable {β : Type} (H : SqliteHost β)

/-- One step, if it is possible. -/
def step (s : Shared) : SharedMove β → Option Shared
  | .start => some { s with processes := s.processes ++ [.createTable] }
  | .exec p =>
    match s.processes[p]? with
    | none => none
    | some q =>
      some { db := (H.exec s.db q).1, processes := s.processes.set p (H.exec s.db q).2 }
  | .kill p =>
    if p < s.processes.length then some { s with processes := s.processes.set p .gone } else none
  | .save p r =>
    match s.processes[p]? with
    | some .opened => (H.save s.db r).map fun db => { s with db := db }
    | _ => none

/-- The state after an interleaving of steps. -/
def run (s : Shared) (ms : List (SharedMove β)) : Option Shared := PartialRun.run H.step s ms

/-- The row that a step adds. -/
def savedRow : SharedMove β → Option Row
  | .save _ r =>
    match H.dumpJson r with
    | .ok doc => some (rowOf r doc)
    | .error _ => none
  | _ => none

variable {H} {db db' : Database} {s s' : Shared}

/-- A save of a record with a fresh id appends its row. -/
lemma save_eq_some {r : StoredRecord β} (h : H.save db r = some db')
    (hfresh : ∀ row ∈ db.rows, row.id ≠ r.id) :
    ∃ t doc, db.calls = some t ∧ H.dumpJson r = .ok doc ∧ t.hasRequested = true ∧
      t.hasResolved = true ∧ db' = { db with calls := some { t with
        rows := t.rows ++ [rowOf r doc] } } := by
  unfold save at h
  cases ht : db.calls with
  | none => simp [ht] at h
  | some t =>
    cases hdoc : H.dumpJson r with
    | error e => simp [ht, hdoc] at h
    | ok doc =>
      simp only [ht, hdoc] at h
      split at h
      · next hcolumns =>
        rw [Bool.and_eq_true] at hcolumns
        have hrows : db.rows = t.rows := by
          unfold Database.rows
          rw [ht]
          rfl
        have hothers : t.rows.filter (fun row => row.id ≠ r.id) = t.rows := by
          apply List.filter_eq_self.mpr
          intro row hrow
          rw [← hrows] at hrow
          simpa using hfresh row hrow
        rw [hothers] at h
        exact ⟨t, doc, rfl, rfl, hcolumns.1, hcolumns.2, (Option.some.inj h).symm⟩
      · cases h

/-- A statement of an open changes the columns of the model only. -/
lemma withoutModels_exec (q : Process) :
    (H.exec db q).1.rows.map Row.withoutModels = db.rows.map Row.withoutModels := by
  cases q with
  | createTable =>
    unfold exec Database.rows
    cases db.calls with
    | none => rfl
    | some t => rfl
  | addColumns cs =>
    cases cs with
    | nil => rfl
    | cons c cs =>
      unfold exec Database.rows
      cases ht : db.calls with
      | none => simp [ht]
      | some t => exact t.withoutModels_addColumn c
  | readMarker =>
    simp only [exec]
    split
    · rfl
    · rfl
  | selectRows =>
    simp only [exec]
    split
    · rfl
    · rfl
  | update selected w =>
    cases selected with
    | nil => rfl
    | cons p rest =>
      obtain ⟨id, doc⟩ := p
      simp only [exec]
      cases H.py.loads doc with
      | error e => rfl
      | ok data =>
        dsimp only
        cases H.modelValues data with
        | error e => rfl
        | ok v => rfl
  | commit w =>
    unfold exec Database.rows Database.commit
    cases db.calls with
    | none => rfl
    | some t => exact t.withoutModels_foldl_setModels w.updates
  | createMigrations | tableInfo | markSchema w | createIndexes left w | opened | gone => rfl

/-- A process executes its next statement. -/
lemma step_exec {p : ℕ} (h : H.step s (.exec p) = some s') :
    ∃ q, s.processes[p]? = some q ∧
      s' = { db := (H.exec s.db q).1, processes := s.processes.set p (H.exec s.db q).2 } := by
  simp only [step] at h
  cases hp : s.processes[p]? with
  | none => simp [hp] at h
  | some q =>
    simp only [hp] at h
    exact ⟨q, rfl, (Option.some.inj h).symm⟩

/-- A kill leaves the database as it is. -/
lemma step_kill {p : ℕ} (h : H.step s (.kill p) = some s') :
    s' = { s with processes := s.processes.set p .gone } := by
  simp only [step] at h
  split at h
  · exact (Option.some.inj h).symm
  · cases h

/-- A save leaves the processes as they are. -/
lemma step_save {p : ℕ} {r : StoredRecord β} (h : H.step s (.save p r) = some s') :
    ∃ db, H.save s.db r = some db ∧ s' = { s with db := db } := by
  simp only [step] at h
  split at h
  · obtain ⟨db, hsave, rfl⟩ := Option.map_eq_some_iff.mp h
    exact ⟨db, hsave, rfl⟩
  · cases h

/-- **Only a save adds a row**, and no step loses or changes one, the columns of the model apart. -/
lemma withoutModels_step {m : SharedMove β} (h : H.step s m = some s') (hfresh : s.Fresh m) :
    s'.db.rows.map Row.withoutModels =
      s.db.rows.map Row.withoutModels ++ (H.savedRow m).toList.map Row.withoutModels := by
  cases m with
  | start =>
    obtain rfl := Option.some.inj h
    simp [savedRow]
  | exec p =>
    obtain ⟨q, -, rfl⟩ := step_exec h
    simp [savedRow, withoutModels_exec]
  | kill p =>
    obtain rfl := step_kill h
    simp [savedRow]
  | save p r =>
    obtain ⟨db', hsave, rfl⟩ := step_save h
    obtain ⟨t, doc, ht, hdoc, -, -, rfl⟩ := save_eq_some hsave hfresh
    simp [Database.rows, ht, savedRow, hdoc]

end SqliteHost

end AgentCtl
