import AgentCtl.Store.SchemaUpgrade
import Mathlib.Data.List.Infix
import Mathlib.Data.List.Nodup

set_option relaxedAutoImplicit false
set_option autoImplicit false

/-!
# Databases with a backfill under way

What is true of the database while processes open it. Rows that no backfill has reached hold NULL in
both columns of the model; an open that does not find the marker knows all of them when it has
selected its rows, and commits the marker together with their updates. No step makes a new one.

## Main definitions

* `AgentCtl.SqliteHost.Lawful` — what the store relies on in pydantic.
* `AgentCtl.SqliteHost.Initial` — an empty database, or one with a table of an earlier version.
* `AgentCtl.SqliteHost.Sound` — the databases of runs.
* `AgentCtl.SqliteHost.Upheld` — what a process has found out about the database is still true.
* `AgentCtl.SqliteHost.Grows` — what other processes may do to the database.

## Main results

* `AgentCtl.SqliteHost.Upheld.mono` — no process spoils what another one has found out.
* `AgentCtl.SqliteHost.Sound.commit`, `Sound.save` — commits and saves keep the database sound, and
  only let it grow.
-/

namespace AgentCtl

namespace SqliteHost

variable {β : Type} (H : SqliteHost β)

/-- pydantic, as documented: what `model_dump_json` writes can be read again, and a field of a
record is that of the JSON object, or its default. -/
structure Lawful : Prop where
  roundTrip : ∀ r doc, H.dumpJson r = .ok doc →
    ∃ r', H.recordOf doc = .ok r' ∧ { r' with rest := r.rest } = r
  requested : ∀ data r, H.validate data = .ok r →
    Dict.get data "model_requested" (.str "") = .str r.modelRequested
  resolved : ∀ data r, H.validate data = .ok r →
    Dict.get data "model_resolved" = match r.modelResolved with
      | none => .null
      | some s => .str s

/-- Where runs begin: with nothing, or with a table of an earlier version, whose columns say what
its documents say. -/
inductive Initial : Database → Prop
  | empty : Initial {}
  | legacy (rows : List Row) (versions : Option (List ℕ)) (ids : (rows.map Row.id).Nodup)
      (documents : ∀ row ∈ rows, row.withoutModels = row ∧ ∃ r, H.Documents row r)
      (unmarked : ∀ vs, versions = some vs → backfillMarkerVersion ∉ vs) :
      Initial { calls := some ⟨false, false, rows⟩, versions := versions }

/-- All columns of the row say what its document says. -/
def Good (row : Row) : Prop := ∃ r, H.Agrees row r

/-- The databases of runs. A row that is not good was not touched by a backfill; as long as a column
is missing no row was; with the marker all rows are good. -/
structure Sound (db : Database) : Prop where
  ids : (db.rows.map Row.id).Nodup
  documents : ∀ row ∈ db.rows, ∃ r, H.Documents row r ∧
    (ModelsAgree row r ∨ row.withoutModels = row)
  absent : ∀ c, db.has c = false → ∀ row ∈ db.rows, row.withoutModels = row
  marked : db.marked = true → (∀ c, db.has c = true) ∧ ∀ row ∈ db.rows, H.Good row

/-- The schema is that of this version. -/
def Upgraded (db : Database) : Prop := (∀ c, db.has c = true) ∧ db.versions.isSome = true

/-- The updates are those that the documents ask for. -/
def Updates (db : Database) (w : Writes) : Prop :=
  ∀ u ∈ w.updates, ∃ row ∈ db.rows, row.id = u.1 ∧
    ∃ r, H.recordOf row.doc = .ok r ∧ u.2 = (some r.modelRequested, r.modelResolved)

/-- The transaction may be committed: with it every row is good, and the marker is there. -/
structure Ready (db : Database) (w : Writes) : Prop where
  upgraded : Upgraded db
  updates : H.Updates db w
  covered : ∀ row ∈ db.rows, H.Good row ∨ row.id ∈ w.updates.map Prod.fst
  marker : backfillMarkerVersion ∈ w.versions ∨ db.marked = true

/-- A backfill: the rows that are not good have been updated or are about to be. -/
structure Filling (db : Database) (selected : List (Str × Str)) (w : Writes) : Prop where
  upgraded : Upgraded db
  updates : H.Updates db w
  known : ∀ p ∈ selected, ∃ row ∈ db.rows, row.id = p.1 ∧ row.doc = p.2
  covered : ∀ row ∈ db.rows, H.Good row ∨ row.id ∈ selected.map Prod.fst ∨
    row.id ∈ w.updates.map Prod.fst

/-- What a process has found out about the database is true. -/
def Upheld (db : Database) : Process → Prop
  | .createTable | .gone => True
  | .createMigrations => db.calls.isSome = true
  | .tableInfo => db.calls.isSome = true ∧ db.versions.isSome = true
  | .addColumns cs =>
    db.calls.isSome = true ∧ db.versions.isSome = true ∧ ∀ c, db.has c = true ∨ c ∈ cs
  | .readMarker | .selectRows => Upgraded db
  | .update selected w => H.Filling db selected w
  | .markSchema w | .createIndexes _ w | .commit w => H.Ready db w
  | .opened => db.marked = true

/-- What the database may become: nothing is taken away, and no row turns bad. -/
structure Grows (db db' : Database) : Prop where
  calls : db.calls.isSome = true → db'.calls.isSome = true
  versions : db.versions.isSome = true → db'.versions.isSome = true
  has : ∀ c, db.has c = true → db'.has c = true
  marked : db.marked = true → db'.marked = true
  kept : db.rows.map Row.withoutModels <+: db'.rows.map Row.withoutModels
  good : ∀ row' ∈ db'.rows, H.Good row' ∨ ∃ row ∈ db.rows, row.id = row'.id ∧ ¬ H.Good row

variable {H} {db db' : Database} {row row' : Row} {r : StoredRecord β}

/-! ## Rows -/

/-- The columns that every table has are not those of the model. -/
lemma Documents.of_withoutModels (h : H.Documents row r)
    (hrow : row'.withoutModels = row.withoutModels) : H.Documents row' r where
  doc := by
    rw [(Row.id_doc_of_withoutModels hrow).2]
    exact h.doc
  id := by
    rw [(Row.id_doc_of_withoutModels hrow).1]
    exact h.id
  ts := (congrArg Row.ts hrow).trans h.ts
  consumer := (congrArg Row.consumer hrow).trans h.consumer
  status := (congrArg Row.status hrow).trans h.status
  inputTokens := (congrArg Row.inputTokens hrow).trans h.inputTokens
  outputTokens := (congrArg Row.outputTokens hrow).trans h.outputTokens
  costUsd := (congrArg Row.costUsd hrow).trans h.costUsd

/-- A row without values in the columns of the model. -/
lemma untouched_iff : row.withoutModels = row ↔
    row.modelRequested = none ∧ row.modelResolved = none := by
  constructor
  · intro h
    exact ⟨(congrArg Row.modelRequested h).symm, (congrArg Row.modelResolved h).symm⟩
  · rintro ⟨hrequested, hresolved⟩
    obtain ⟨⟩ := row
    dsimp only at hrequested hresolved
    rw [hrequested, hresolved]
    rfl

/-- The row of a saved record is good. -/
lemma good_rowOf (hH : H.Lawful) {doc : Str} (h : H.dumpJson r = .ok doc) :
    H.Good (rowOf r doc) := by
  obtain ⟨r', hr', hsame⟩ := hH.roundTrip r doc h
  refine ⟨r', ?_⟩
  rw [← hsame]
  exact ⟨⟨hr', rfl, rfl, rfl, rfl, rfl, rfl, rfl⟩, rfl, rfl⟩

/-- A record is validated from a JSON object. -/
lemma recordOf_eq_ok {doc : Str} (h : H.recordOf doc = .ok r) :
    ∃ data, H.py.loads doc = .ok (.obj data) ∧ H.validate data = .ok r := by
  obtain ⟨v, hv, h⟩ := Except.bind_eq_ok.mp h
  cases v with
  | obj data => exact ⟨data, hv, h⟩
  | null | bool b | int n | float x | str s | arr xs => cases h

/-- The backfill takes the values of the record from the document. -/
lemma modelValues_of_validate (hH : H.Lawful) {data : Dict} (h : H.validate data = .ok r) :
    H.modelValues (.obj data) = .ok (some r.modelRequested, r.modelResolved) := by
  unfold modelValues
  dsimp only
  rw [hH.requested data r h, hH.resolved data r h]
  cases r.modelResolved with
  | none => rfl
  | some s => rfl

/-! ## What other processes may do -/

/-- Nothing. -/
lemma Grows.refl (db : Database) : H.Grows db db where
  calls h := h
  versions h := h
  has _ h := h
  marked h := h
  kept := List.prefix_rfl
  good row hrow := by
    by_cases h : H.Good row
    · exact .inl h
    · exact .inr ⟨row, hrow, rfl, h⟩

/-- A row stays, with its id and its document. -/
lemma Grows.mem (h : H.Grows db db') (hrow : row ∈ db.rows) :
    ∃ row' ∈ db'.rows, row'.id = row.id ∧ row'.doc = row.doc := by
  have hmem : row.withoutModels ∈ db'.rows.map Row.withoutModels :=
    h.kept.subset (List.mem_map_of_mem hrow)
  obtain ⟨row', hrow', heq⟩ := List.mem_map.mp hmem
  exact ⟨row', hrow', Row.id_doc_of_withoutModels heq⟩

/-- What covers the bad rows goes on covering them. -/
lemma Grows.covered (h : H.Grows db db') {P : Str → Prop}
    (hcovered : ∀ row ∈ db.rows, H.Good row ∨ P row.id) :
    ∀ row ∈ db'.rows, H.Good row ∨ P row.id := by
  intro row' hrow'
  rcases h.good row' hrow' with hgood | ⟨row, hrow, hid, hbad⟩
  · exact .inl hgood
  · rw [← hid]
    exact .inr ((hcovered row hrow).resolve_left hbad)

/-- The schema stays that of this version. -/
lemma Upgraded.mono (hq : Upgraded db) (h : H.Grows db db') : Upgraded db' :=
  ⟨fun c => h.has c (hq.1 c), h.versions hq.2⟩

/-- The updates stay those that the documents ask for. -/
lemma Updates.mono {w : Writes} (hq : H.Updates db w) (h : H.Grows db db') : H.Updates db' w := by
  intro u hu
  obtain ⟨row, hrow, hid, r, hr, hu⟩ := hq u hu
  obtain ⟨row', hrow', hid', hdoc'⟩ := h.mem hrow
  refine ⟨row', hrow', hid'.trans hid, r, ?_, hu⟩
  rw [hdoc']
  exact hr

/-- A transaction stays ready. -/
lemma Ready.mono {w : Writes} (hq : H.Ready db w) (h : H.Grows db db') : H.Ready db' w where
  upgraded := hq.upgraded.mono h
  updates := Updates.mono hq.updates h
  covered := h.covered hq.covered
  marker := hq.marker.imp_right h.marked

/-- A backfill stays complete. -/
lemma Filling.mono {selected : List (Str × Str)} {w : Writes} (hq : H.Filling db selected w)
    (h : H.Grows db db') : H.Filling db' selected w where
  upgraded := hq.upgraded.mono h
  updates := Updates.mono hq.updates h
  known := by
    intro p hp
    obtain ⟨row, hrow, hid, hdoc⟩ := hq.known p hp
    obtain ⟨row', hrow', hid', hdoc'⟩ := h.mem hrow
    exact ⟨row', hrow', hid'.trans hid, hdoc'.trans hdoc⟩
  covered := h.covered
    (P := fun id => id ∈ selected.map Prod.fst ∨ id ∈ w.updates.map Prod.fst) hq.covered

/-- **No process spoils what another one has found out.** -/
lemma Upheld.mono {q : Process} (hq : H.Upheld db q) (h : H.Grows db db') : H.Upheld db' q := by
  cases q with
  | createTable | gone => trivial
  | createMigrations => exact h.calls hq
  | tableInfo => exact ⟨h.calls hq.1, h.versions hq.2⟩
  | addColumns cs =>
    refine ⟨h.calls hq.1, h.versions hq.2.1, ?_⟩
    intro c
    exact (hq.2.2 c).imp_left (h.has c)
  | readMarker | selectRows => exact Upgraded.mono hq h
  | update selected w => exact Filling.mono hq h
  | markSchema w | createIndexes left w | commit w => exact Ready.mono hq h
  | opened => exact h.marked hq

/-! ## The statements that change the database -/

/-- The schema grows, and the rows stay as they are. -/
lemma Sound.of_rows (hdb : H.Sound db) (hrows : db'.rows = db.rows)
    (hcalls : db.calls.isSome = true → db'.calls.isSome = true)
    (hversions : db.versions.isSome = true → db'.versions.isSome = true)
    (hhas : ∀ c, db.has c = true → db'.has c = true) (hmarked : db'.marked = db.marked) :
    H.Sound db' ∧ H.Grows db db' := by
  constructor
  · refine ⟨?_, ?_, ?_, ?_⟩
    · rw [hrows]
      exact hdb.ids
    · rw [hrows]
      exact hdb.documents
    · intro c hc
      rw [hrows]
      refine hdb.absent c ?_
      by_contra h
      rw [hhas c (by simpa using h)] at hc
      cases hc
    · intro h
      rw [hmarked] at h
      rw [hrows]
      exact ⟨fun c => hhas c ((hdb.marked h).1 c), (hdb.marked h).2⟩
  · refine ⟨hcalls, hversions, hhas, ?_, ?_, ?_⟩
    · rw [hmarked]
      exact fun h => h
    · rw [hrows]
    · rw [hrows]
      exact (Grows.refl db).good

/-- The table is created if it is missing. -/
lemma Sound.createTable (hdb : H.Sound db) :
    H.Sound (H.exec db .createTable).1 ∧ H.Grows db (H.exec db .createTable).1 := by
  apply hdb.of_rows
  · simp only [exec, Database.rows]
    cases db.calls with
    | none => rfl
    | some t => rfl
  · exact fun _ => rfl
  · exact fun h => h
  · intro c hc
    simp only [exec, Database.has] at hc ⊢
    cases hcalls : db.calls with
    | none => simp [hcalls] at hc
    | some t => simpa [hcalls] using hc
  · rfl

/-- `schema_migrations` is created if it is missing. -/
lemma Sound.createMigrations (hdb : H.Sound db) :
    H.Sound (H.exec db .createMigrations).1 ∧ H.Grows db (H.exec db .createMigrations).1 := by
  apply hdb.of_rows
  · rfl
  · exact fun h => h
  · exact fun _ => rfl
  · exact fun _ h => h
  · simp only [exec, Database.marked]
    cases db.versions with
    | none => rfl
    | some vs => rfl

/-- A column that is missing is added: no row had a value there. -/
lemma rows_addColumn {t : CallTable} {c : ModelColumn}
    (h : t.has c = false → ∀ row ∈ t.rows, row.withoutModels = row) :
    (t.addColumn c).rows = t.rows := by
  unfold CallTable.addColumn
  split
  · rfl
  · next hc =>
    have huntouched := h (by simpa using hc)
    have hmap : ∀ f : Row → Row, (∀ row ∈ t.rows, f row = row) → t.rows.map f = t.rows :=
      fun f hf => (List.map_congr_left hf).trans (List.map_id _)
    cases c with
    | requested =>
      apply hmap
      intro row hrow
      rw [(untouched_iff.mp (huntouched row hrow)).2]
      exact huntouched row hrow
    | resolved =>
      apply hmap
      intro row hrow
      rw [(untouched_iff.mp (huntouched row hrow)).1]
      exact huntouched row hrow

/-- What columns there are then. -/
lemma has_addColumn (t : CallTable) (c c' : ModelColumn) :
    (t.addColumn c).has c' = (t.has c' || decide (c' = c)) := by
  unfold CallTable.addColumn
  cases hc : t.has c with
  | true =>
    rw [if_pos rfl]
    by_cases h : c' = c
    · rw [h, hc]
      rfl
    · simp [h]
  | false =>
    rw [if_neg (by simp)]
    cases c <;> cases c' <;> simp [CallTable.has]

/-- A column is added. -/
lemma Sound.addColumn (hdb : H.Sound db) {t : CallTable} (ht : db.calls = some t)
    (c : ModelColumn) :
    H.Sound { db with calls := some (t.addColumn c) } ∧
      H.Grows db { db with calls := some (t.addColumn c) } := by
  have hhas : ∀ c, db.has c = t.has c := by
    intro c
    simp [Database.has, ht]
  have hrows : db.rows = t.rows := by
    simp [Database.rows, ht]
  apply hdb.of_rows
  · rw [hrows]
    refine rows_addColumn fun hc => ?_
    rw [← hrows]
    exact hdb.absent c (by rw [hhas, hc])
  · exact fun _ => rfl
  · exact fun h => h
  · intro c' hc'
    rw [hhas] at hc'
    simp [Database.has, has_addColumn, hc']
  · rfl

/-- With its own updates every row of a ready transaction is good. -/
lemma Ready.good {w : Writes} (hdb : H.Sound db) (hq : H.Ready db w) (hrow : row ∈ db.rows) :
    H.Good (w.updates.foldl Row.setModels row) := by
  obtain ⟨r, hr, -⟩ := hdb.documents row hrow
  -- the id of a row is its own, so all updates of the row are for its document
  have hvalues : ∀ u ∈ w.updates, u.1 = row.id →
      u.2 = (some r.modelRequested, r.modelResolved) := by
    intro u hu hid
    obtain ⟨row₂, hrow₂, hid₂, r₂, hr₂, hu₂⟩ := hq.updates u hu
    obtain rfl : row₂ = row :=
      List.inj_on_of_nodup_map hdb.ids hrow₂ hrow (hid₂.trans hid)
    obtain rfl : r₂ = r := Except.ok.inj (hr₂.symm.trans hr.doc)
    exact hu₂
  rw [Row.foldl_setModels hvalues]
  split
  · exact ⟨r, hr.of_withoutModels rfl, rfl, rfl⟩
  · next hid => exact (hq.covered row hrow).resolve_right hid

/-- Versions stay. -/
lemma mem_foldl_insertOrIgnore {v : ℕ} {vs ws : List ℕ} :
    v ∈ ws.foldl insertOrIgnore vs ↔ v ∈ vs ∨ v ∈ ws := by
  induction ws generalizing vs with
  | nil => simp
  | cons w ws ih =>
    rw [List.foldl_cons, ih, List.mem_cons, insertOrIgnore]
    split
    · next hw =>
      constructor
      · rintro (h | h)
        · exact .inl h
        · exact .inr (.inr h)
      · rintro (h | rfl | h)
        · exact .inl h
        · exact .inl hw
        · exact .inr h
    · simp [or_assoc]

/-- A ready transaction is committed: the marker is there, and every row is good. -/
lemma Sound.commit {w : Writes} (hdb : H.Sound db) (hq : H.Ready db w) :
    H.Sound (db.commit w) ∧ H.Grows db (db.commit w) ∧ (db.commit w).marked = true := by
  obtain ⟨⟨hhas, hversions⟩, -, -, hmarker⟩ := id hq
  obtain ⟨vs, hvs⟩ := Option.isSome_iff_exists.mp hversions
  have hcalls : db.calls.isSome = true := by
    have hc := hhas .requested
    cases ht : db.calls with
    | none => simp [Database.has, ht] at hc
    | some t => rfl
  obtain ⟨t, ht⟩ := Option.isSome_iff_exists.mp hcalls
  have hrows : (db.commit w).rows = db.rows.map fun row => w.updates.foldl Row.setModels row := by
    simp [Database.rows, Database.commit, ht, CallTable.rows_foldl_setModels]
  have hhas' : ∀ c, (db.commit w).has c = true := by
    intro c
    have hc := hhas c
    simp only [Database.has, ht, Option.any_some] at hc
    simp [Database.has, Database.commit, ht, CallTable.has_foldl_setModels, hc]
  have hmarked : (db.commit w).marked = true := by
    have hmem : backfillMarkerVersion ∈ w.versions.foldl insertOrIgnore vs := by
      refine mem_foldl_insertOrIgnore.mpr ?_
      rcases hmarker with hw | hdb
      · exact .inr hw
      · exact .inl (by simpa [Database.marked, hvs] using hdb)
    simp [Database.marked, Database.commit, hvs, hmem]
  have hgood : ∀ row ∈ (db.commit w).rows, H.Good row := by
    intro row' hrow'
    rw [hrows] at hrow'
    obtain ⟨row, hrow, rfl⟩ := List.mem_map.mp hrow'
    exact hq.good hdb hrow
  have hkept : (db.commit w).rows.map Row.withoutModels = db.rows.map Row.withoutModels :=
    withoutModels_exec (H := H) (.commit w)
  refine ⟨⟨?_, ?_, ?_, fun _ => ⟨hhas', hgood⟩⟩,
    ⟨?_, ?_, fun c _ => hhas' c, fun _ => hmarked, ?_, ?_⟩, hmarked⟩
  · have hids := congrArg (List.map Row.id) hkept
    rw [List.map_map, List.map_map] at hids
    have hsame : (db.commit w).rows.map Row.id = db.rows.map Row.id := hids
    rw [hsame]
    exact hdb.ids
  · intro row hrow
    obtain ⟨r, hr, hmodels⟩ := hgood row hrow
    exact ⟨r, hr, .inl hmodels⟩
  · intro c hc
    rw [hhas' c] at hc
    cases hc
  · intro _
    simp [Database.commit, ht]
  · intro _
    simp [Database.commit, hvs]
  · rw [hkept]
  · intro row hrow
    exact .inl (hgood row hrow)

/-- A record with a fresh id is saved. -/
lemma Sound.save (hH : H.Lawful) (hdb : H.Sound db) {r : StoredRecord β}
    (h : H.save db r = some db') (hfresh : ∀ row ∈ db.rows, row.id ≠ r.id) :
    H.Sound db' ∧ H.Grows db db' := by
  obtain ⟨t, doc, ht, hdoc, hrequested, hresolved, rfl⟩ := save_eq_some h hfresh
  have hrows : db.rows = t.rows := by
    simp [Database.rows, ht]
  have hhas : ∀ c, t.has c = true := by
    intro c
    cases c with
    | requested => exact hrequested
    | resolved => exact hresolved
  have hgood := good_rowOf hH hdoc
  have hmem : ∀ row, row ∈ t.rows ++ [rowOf r doc] → row ∈ db.rows ∨ row = rowOf r doc := by
    intro row hrow
    rw [hrows]
    simpa using hrow
  refine ⟨⟨?_, ?_, ?_, ?_⟩, ⟨fun _ => rfl, fun h => h, ?_, fun h => h, ?_, ?_⟩⟩
  · change ((t.rows ++ [rowOf r doc]).map Row.id).Nodup
    rw [← hrows, List.map_append, List.nodup_append']
    refine ⟨hdb.ids, by simp, ?_⟩
    intro id hid hid'
    obtain ⟨row, hrow, rfl⟩ := List.mem_map.mp hid
    simp only [List.map_cons, List.map_nil, List.mem_singleton] at hid'
    exact hfresh row hrow hid'
  · intro row hrow
    rcases hmem row hrow with hold | rfl
    · exact hdb.documents row hold
    · obtain ⟨r', hr', hmodels⟩ := hgood
      exact ⟨r', hr', .inl hmodels⟩
  · intro c hc
    have : t.has c = false := hc
    rw [hhas c] at this
    cases this
  · intro hmarked
    refine ⟨fun c => hhas c, ?_⟩
    intro row hrow
    rcases hmem row hrow with hold | rfl
    · exact (hdb.marked hmarked).2 row hold
    · exact hgood
  · intro c _
    exact hhas c
  · rw [hrows]
    change t.rows.map _ <+: (t.rows ++ [rowOf r doc]).map _
    rw [List.map_append]
    exact List.prefix_append _ _
  · intro row hrow
    rcases hmem row hrow with hold | rfl
    · exact (Grows.refl db).good row hold
    · exact .inl hgood

end SqliteHost

end AgentCtl
