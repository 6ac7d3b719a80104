import AgentCtl.Store.Backfill

set_option relaxedAutoImplicit false
set_option autoImplicit false

/-!
# Columns and documents do not drift apart

The columns `model_requested` and `model_resolved` say what the documents say as soon as one open
has completed, whatever the other processes do, and wherever some of them are killed: reports, which
read the columns, agree with listings, which read the documents.

## Main definitions

* `AgentCtl.SqliteHost.Consistent` — the states of runs.

## Main results

* `AgentCtl.SqliteHost.Sound.exec`, `Consistent.step` — what one statement, and one step, preserves.
* `AgentCtl.SqliteHost.exec_ne_gone` — no open fails by itself.
* `AgentCtl.SqliteHost.withoutModels_run` — only saves add rows.
* `AgentCtl.columns_never_drift` — columns, documents and reports agree once an open has completed.
-/

namespace AgentCtl

namespace SqliteHost

variable {β : Type} {H : SqliteHost β} {db db' : Database} {row row' : Row} {r : StoredRecord β}

/-! ## What one step preserves -/

/-- The rows that are selected for the backfill are all that are not good. -/
lemma filling_selectRows (hdb : H.Sound db) (hq : Upgraded db) :
    H.Upheld db (H.exec db .selectRows).2 := by
  have hcolumns : (db.has .requested && db.has .resolved) = true := by
    rw [hq.1, hq.1]
    rfl
  simp only [exec]
  rw [if_pos hcolumns]
  refine ⟨hq, ?_, ?_, ?_⟩
  · intro u hu
    cases hu
  · intro p hp
    obtain ⟨row, hrow, rfl⟩ := List.mem_map.mp hp
    exact ⟨row, List.mem_of_mem_filter hrow, rfl, rfl⟩
  · intro row hrow
    obtain ⟨r, hr, hmodels | huntouched⟩ := hdb.documents row hrow
    · exact .inl ⟨r, hr, hmodels⟩
    · refine .inr (.inl ?_)
      rw [List.map_map]
      refine List.mem_map.mpr ⟨row, List.mem_filter.mpr ⟨hrow, ?_⟩, rfl⟩
      rw [(untouched_iff.mp huntouched).1]
      rfl

/-- The next row of the backfill: its update is the one its document asks for. -/
lemma exec_update (hH : H.Lawful) (hdb : H.Sound db) {id doc : Str} {rest : List (Str × Str)}
    {w : Writes} (hq : H.Filling db ((id, doc) :: rest) w) :
    ∃ row ∈ db.rows, row.id = id ∧ ∃ r, H.recordOf row.doc = .ok r ∧
      H.exec db (.update ((id, doc) :: rest) w) = (db, .update rest
        { w with updates := w.updates ++ [(id, some r.modelRequested, r.modelResolved)] }) := by
  obtain ⟨row, hrow, hid, hdoc⟩ := hq.known (id, doc) List.mem_cons_self
  dsimp only at hid hdoc
  obtain ⟨r, hr, -⟩ := hdb.documents row hrow
  have hrecord : H.recordOf doc = .ok r := by
    rw [← hdoc]
    exact hr.doc
  obtain ⟨data, hloads, hvalidate⟩ := recordOf_eq_ok hrecord
  refine ⟨row, hrow, hid, r, hr.doc, ?_⟩
  simp only [exec, hloads, modelValues_of_validate hH hvalidate]

/-- The backfill stays complete. -/
lemma filling_update (hH : H.Lawful) (hdb : H.Sound db) {id doc : Str} {rest : List (Str × Str)}
    {w : Writes} (hq : H.Filling db ((id, doc) :: rest) w) :
    H.Upheld db (H.exec db (.update ((id, doc) :: rest) w)).2 := by
  obtain ⟨row, hrow, hid, r, hr, hexec⟩ := exec_update hH hdb hq
  rw [hexec]
  refine ⟨hq.upgraded, ?_, ?_, ?_⟩
  · intro u hu
    rcases List.mem_append.mp hu with hold | hnew
    · exact hq.updates u hold
    · obtain rfl := List.mem_singleton.mp hnew
      exact ⟨row, hrow, hid, r, hr, rfl⟩
  · intro p hp
    exact hq.known p (List.mem_cons_of_mem _ hp)
  · intro row' hrow'
    rcases hq.covered row' hrow' with hgood | hselected | hupdated
    · exact .inl hgood
    · rw [List.map_cons] at hselected
      rcases List.mem_cons.mp hselected with hhere | hlater
      · exact .inr (.inr (by simp [hhere]))
      · exact .inr (.inl hlater)
    · refine .inr (.inr ?_)
      rw [List.map_append]
      exact List.mem_append_left _ hupdated

/-- **One statement** keeps the database as it should be, spoils nothing that other processes rely
on, and what the process goes on with is true. -/
lemma Sound.exec (hH : H.Lawful) (hdb : H.Sound db) {q : Process} (hq : H.Upheld db q) :
    (H.Sound (H.exec db q).1 ∧ H.Grows db (H.exec db q).1) ∧
      H.Upheld (H.exec db q).1 (H.exec db q).2 := by
  cases q with
  | createTable => exact ⟨hdb.createTable, rfl⟩
  | createMigrations => exact ⟨hdb.createMigrations, hq, rfl⟩
  | tableInfo =>
    refine ⟨⟨hdb, .refl db⟩, hq.1, hq.2, ?_⟩
    intro c
    cases hc : db.has c with
    | true => exact .inl hc
    | false =>
      refine .inr (List.mem_filter.mpr ⟨?_, by simp [hc]⟩)
      cases c with
      | requested => exact List.mem_cons_self
      | resolved => exact List.mem_cons_of_mem _ List.mem_cons_self
  | addColumns cs =>
    obtain ⟨hcalls, hversions, hcs⟩ := hq
    cases cs with
    | nil => exact ⟨⟨hdb, .refl db⟩, fun c => (hcs c).resolve_right (by simp), hversions⟩
    | cons c cs =>
      obtain ⟨t, ht⟩ := Option.isSome_iff_exists.mp hcalls
      simp only [SqliteHost.exec, ht]
      refine ⟨hdb.addColumn ht c, rfl, hversions, ?_⟩
      intro c'
      simp only [Database.has, ht, Option.any_some, has_addColumn] at hcs ⊢
      rcases hcs c' with hhas | hmem
      · exact .inl (by rw [hhas, Bool.true_or])
      · rcases List.mem_cons.mp hmem with rfl | hlater
        · exact .inl (by simp)
        · exact .inr hlater
  | readMarker =>
    obtain ⟨vs, hvs⟩ := Option.isSome_iff_exists.mp hq.2
    simp only [SqliteHost.exec, hvs, Option.isNone_some, Bool.false_eq_true, if_false]
    refine ⟨⟨hdb, .refl db⟩, ?_⟩
    cases hmarked : db.marked with
    | true =>
      refine ⟨hq, ?_, ?_, .inr hmarked⟩
      · intro u hu
        cases hu
      · intro row hrow
        exact .inl ((hdb.marked hmarked).2 row hrow)
    | false => exact hq
  | selectRows =>
    have hsame : (H.exec db .selectRows).1 = db := by
      simp only [SqliteHost.exec]
      split
      · rfl
      · rfl
    rw [hsame]
    exact ⟨⟨hdb, .refl db⟩, filling_selectRows hdb hq⟩
  | update selected w =>
    cases selected with
    | nil =>
      refine ⟨⟨hdb, .refl db⟩, hq.upgraded, hq.updates, ?_, .inl (by simp)⟩
      intro row hrow
      rcases hq.covered row hrow with hgood | hselected | hupdated
      · exact .inl hgood
      · cases hselected
      · exact .inr hupdated
    | cons p rest =>
      obtain ⟨id, doc⟩ := p
      have hfilling := filling_update hH hdb hq
      obtain ⟨row, hrow, hid, r, hr, hexec⟩ := exec_update hH hdb hq
      rw [hexec] at hfilling ⊢
      exact ⟨⟨hdb, .refl db⟩, hfilling⟩
  | markSchema w =>
    exact ⟨⟨hdb, .refl db⟩, hq.upgraded, hq.updates, hq.covered,
      hq.marker.imp_left (List.mem_append_left _)⟩
  | createIndexes left w =>
    refine ⟨⟨hdb, .refl db⟩, ?_⟩
    simp only [SqliteHost.exec]
    split
    · exact hq
    · exact hq
  | commit w =>
    obtain ⟨hsound, hgrows, hmarked⟩ := hdb.commit hq
    exact ⟨⟨hsound, hgrows⟩, hmarked⟩
  | opened | gone => exact ⟨⟨hdb, .refl db⟩, hq⟩

/-- **No open fails by itself**: no statement raises, and only a kill ends a process before it has
opened the store. -/
lemma exec_ne_gone (hH : H.Lawful) (hdb : H.Sound db) {q : Process} (hq : H.Upheld db q)
    (hgone : q ≠ .gone) : (H.exec db q).2 ≠ .gone := by
  cases q with
  | gone => exact absurd rfl hgone
  | addColumns cs =>
    cases cs with
    | nil => simp [exec]
    | cons c cs =>
      obtain ⟨t, ht⟩ := Option.isSome_iff_exists.mp hq.1
      simp [exec, ht]
  | readMarker =>
    obtain ⟨vs, hvs⟩ := Option.isSome_iff_exists.mp hq.2
    cases hmarked : db.marked with
    | true => simp [exec, hvs, hmarked]
    | false => simp [exec, hvs, hmarked]
  | selectRows => simp [exec, hq.1]
  | update selected w =>
    cases selected with
    | nil => simp [exec]
    | cons p rest =>
      obtain ⟨id, doc⟩ := p
      obtain ⟨row, hrow, hid, r, hr, hexec⟩ := exec_update hH hdb hq
      rw [hexec]
      simp
  | createIndexes left w =>
    simp only [exec]
    split
    · simp
    · simp
  | createTable | createMigrations | tableInfo | markSchema w | commit w | opened => simp [exec]

/-- The states of runs. -/
structure Consistent (H : SqliteHost β) (s : Shared) : Prop where
  db : H.Sound s.db
  processes : ∀ q ∈ s.processes, H.Upheld s.db q

variable {s s' : Shared}

/-- Every step keeps the states of runs, and takes nothing away. -/
lemma Consistent.step (hH : H.Lawful) {m : SharedMove β} (hs : H.Consistent s) (hm : s.Fresh m)
    (h : H.step s m = some s') : H.Consistent s' ∧ H.Grows s.db s'.db := by
  cases m with
  | start =>
    obtain rfl := Option.some.inj h
    refine ⟨⟨hs.db, ?_⟩, .refl _⟩
    intro q hq
    rcases List.mem_append.mp hq with hold | hnew
    · exact hs.processes q hold
    · obtain rfl := List.mem_singleton.mp hnew
      trivial
  | exec p =>
    obtain ⟨q, hp, rfl⟩ := step_exec h
    obtain ⟨⟨hsound, hgrows⟩, hupheld⟩ :=
      hs.db.exec hH (hs.processes q (List.mem_of_getElem? hp))
    refine ⟨⟨hsound, ?_⟩, hgrows⟩
    intro q' hq'
    rcases List.mem_or_eq_of_mem_set hq' with hother | rfl
    · exact (hs.processes q' hother).mono hgrows
    · exact hupheld
  | kill p =>
    obtain rfl := step_kill h
    refine ⟨⟨hs.db, ?_⟩, .refl _⟩
    intro q hq
    rcases List.mem_or_eq_of_mem_set hq with hother | rfl
    · exact hs.processes q hother
    · trivial
  | save p r =>
    obtain ⟨db', hsave, rfl⟩ := step_save h
    obtain ⟨hsound, hgrows⟩ := hs.db.save hH hsave hm
    exact ⟨⟨hsound, fun q hq => (hs.processes q hq).mono hgrows⟩, hgrows⟩

/-- An initial database is as it should be. -/
lemma Initial.sound (h : H.Initial db) : H.Sound db := by
  cases h with
  | empty =>
    refine ⟨by simp [Database.rows], by simp [Database.rows], by simp [Database.rows], ?_⟩
    intro hmarked
    simp [Database.marked] at hmarked
  | legacy rows versions ids documents unmarked =>
    refine ⟨ids, ?_, fun _ _ row hrow => (documents row hrow).1, ?_⟩
    · intro row hrow
      obtain ⟨huntouched, r, hr⟩ := documents row hrow
      exact ⟨r, hr, .inr huntouched⟩
    · intro hmarked
      cases versions with
      | none => simp [Database.marked] at hmarked
      | some vs => exact absurd (by simpa [Database.marked] using hmarked) (unmarked vs rfl)

/-- **Only saves add rows**, over a whole run. -/
lemma withoutModels_run {ms : List (SharedMove β)} (hrun : H.run s ms = some s')
    (hfresh : ∀ pre m t, pre ++ [m] <+: ms → H.run s pre = some t → t.Fresh m) :
    s'.db.rows.map Row.withoutModels =
      s.db.rows.map Row.withoutModels ++ (ms.filterMap H.savedRow).map Row.withoutModels := by
  induction ms generalizing s with
  | nil =>
    obtain rfl := Option.some.inj hrun
    simp
  | cons m ms ih =>
    obtain ⟨t, ht, hrest⟩ := Option.bind_eq_some_iff.mp hrun
    have hm : s.Fresh m := hfresh [] m s (by simp) rfl
    have hrec := ih hrest fun pre m' t' hpre ht' => hfresh (m :: pre) m' t'
      (List.cons_prefix_cons.mpr ⟨rfl, hpre⟩) (by simpa [run, ht] using ht')
    rw [hrec, withoutModels_step ht hm, List.append_assoc, List.filterMap_cons]
    cases H.savedRow m with
    | none => rfl
    | some row => rfl

end SqliteHost

variable {β : Type} {H : SqliteHost β} {db : Database} {ms₁ ms₂ : List (SharedMove β)}
  {s₁ s : Shared}

/-- **Columns never drift.** Let any number of processes open an empty database, or one of an
earlier version, and save records with fresh ids once they have opened it; each may be killed
between two statements. In every state after some open has completed the columns of the model say of
every row what its document says; besides them, the rows are those of the beginning and those that
were saved; and under every filter `iter_all` returns the records that the filter accepts, and
`cost_summary` is the report that these records give. -/
theorem columns_never_drift (hH : H.Lawful) (hdb : H.Initial db)
    (hrun₁ : H.run { db := db } ms₁ = some s₁) (hopened : .opened ∈ s₁.processes)
    (hrun₂ : H.run s₁ ms₂ = some s)
    (hfresh : ∀ pre m t, pre ++ [m] <+: ms₁ ++ ms₂ → H.run { db := db } pre = some t →
      t.Fresh m) :
    (∀ row ∈ s.db.rows, ∃ r, H.recordOf row.doc = .ok r ∧
        row.modelRequested = some r.modelRequested ∧ row.modelResolved = r.modelResolved) ∧
      s.db.rows.map Row.withoutModels =
        db.rows.map Row.withoutModels ++
          ((ms₁ ++ ms₂).filterMap H.savedRow).map Row.withoutModels ∧
      ∀ f ascending, ∃ all rs, H.iterAll s.db.rows {} ascending = .ok all ∧
        H.iterAll s.db.rows f ascending = .ok rs ∧ rs.Perm (all.filter f.accepts) ∧
        ∀ groupBy, H.costSummary s.db.rows f groupBy = H.summaryOf rs groupBy := by
  have hinitial : H.Consistent { db := db } := ⟨hdb.sound, by simp⟩
  have hs₁ : H.Consistent s₁ := by
    refine PartialRun.invariant (I := H.Consistent) (P := Shared.Fresh) ?_ hinitial ?_ hrun₁
    · intro s m s' hs hm hstep
      exact (hs.step hH hm hstep).1
    · intro pre m t hpre ht
      exact hfresh pre m t (hpre.trans (List.prefix_append ms₁ ms₂)) ht
  have hmarked₁ : s₁.db.marked = true := hs₁.processes _ hopened
  have hs : H.Consistent s ∧ s.db.marked = true := by
    refine PartialRun.invariant (I := fun s => H.Consistent s ∧ s.db.marked = true)
      (P := Shared.Fresh) ?_ ⟨hs₁, hmarked₁⟩ ?_ hrun₂
    · intro s m s' hs hm hstep
      obtain ⟨hs', hgrows⟩ := hs.1.step hH hm hstep
      exact ⟨hs', hgrows.marked hs.2⟩
    · intro pre m t hpre ht
      refine hfresh (ms₁ ++ pre) m t ?_ ?_
      · rw [List.append_assoc]
        exact (List.prefix_append_right_inj ms₁).mpr hpre
      · rw [SqliteHost.run, PartialRun.run_append]
        exact Option.bind_eq_some_iff.mpr ⟨s₁, hrun₁, ht⟩
  have hgood := (hs.1.db.marked hs.2).2
  refine ⟨?_, ?_, ?_⟩
  · intro row hrow
    obtain ⟨r, hr, hmodels⟩ := hgood row hrow
    exact ⟨r, hr.doc, hmodels⟩
  · refine SqliteHost.withoutModels_run (s := { db := db }) ?_ hfresh
    rw [SqliteHost.run, PartialRun.run_append]
    exact Option.bind_eq_some_iff.mpr ⟨s₁, hrun₁, hrun₂⟩
  · intro f ascending
    exact SqliteHost.costSummary_of_agree hgood f ascending

/-! ## A legacy table, a killed open and a save -/

/-- A document of an earlier version. -/
def legacyDoc : Str := "\x7b\"id\":\"a\",\"model_requested\":\"fake/m\"\x7d"

/-- Its row, before the upgrade. -/
def legacyRow : Row where
  id := "a"
  ts := some 0
  consumer := some "unknown"
  status := some "success"
  modelRequested := none
  modelResolved := none
  inputTokens := some 0
  outputTokens := some 0
  costUsd := none
  doc := legacyDoc

/-- A record that has its defaults but for the fields of the model. -/
def defaultRecord (id requested : Str) (resolved : Option Str) : StoredRecord Unit where
  id := id
  ts := 0
  consumer := "unknown"
  status := "success"
  modelRequested := requested
  modelResolved := resolved
  inputTokens := 0
  outputTokens := 0
  costUsd := none
  rest := ()

/-- What is dumped of such a record, as a JSON object. -/
def defaultFields (id : Str) (ts : PyFloat) (requested : Str) (resolved : Json) : Dict :=
  [("id", .str id), ("ts", .float ts), ("latency_ms", .int 0), ("consumer", .str "unknown"),
    ("call_site", .null), ("trace_id", .null), ("model_requested", .str requested),
    ("params", .obj []), ("messages_redacted", .null), ("prompt_version", .null),
    ("model_resolved", resolved), ("attempts", .arr []), ("output_redacted", .null),
    ("finish_reason", .null), ("tool_calls", .int 0), ("input_tokens", .int 0),
    ("output_tokens", .int 0), ("cost_usd", .null), ("cache_hit", .bool false),
    ("cache_key", .null), ("status", .str "success"), ("error_type", .null),
    ("error_message_redacted", .null), ("last_error", .null)]

/-- What is dumped of such a record, as a text; `ts` and `resolved` are texts of JSON values. -/
def defaultDoc (id ts requested resolved : Str) : Str :=
  "\x7b\"id\":\"" ++ id ++ "\",\"ts\":" ++ ts ++ ",\"latency_ms\":0,\"consumer\":\"unknown\"," ++
    "\"call_site\":null,\"trace_id\":null,\"model_requested\":\"" ++ requested ++
    "\",\"params\":\x7b\x7d,\"messages_redacted\":null,\"prompt_version\":null," ++
    "\"model_resolved\":" ++ resolved ++ ",\"attempts\":[],\"output_redacted\":null," ++
    "\"finish_reason\":null,\"tool_calls\":0,\"input_tokens\":0,\"output_tokens\":0," ++
    "\"cost_usd\":null,\"cache_hit\":false,\"cache_key\":null,\"status\":\"success\"," ++
    "\"error_type\":null,\"error_message_redacted\":null,\"last_error\":null\x7d"

/-- The object of the record with the id `b`. -/
def dumpedFields : Dict := defaultFields "b" ⟨"0.0", rfl⟩ "fake/m" (.str "fake/n")

/-- Its text. -/
def dumpedDoc : Str := defaultDoc "b" "0.0" "fake/m" "\"fake/n\""

/-- The code outside, for these two documents. -/
def twoDocuments : SqliteHost Unit where
  py := { Runtime.plain with
    loads := fun s =>
      if s = legacyDoc then .ok (.obj [("id", .str "a"), ("model_requested", .str "fake/m")])
      else if s = dumpedDoc then .ok (.obj dumpedFields)
      else Runtime.plain.loads s }
  validate data :=
    match Dict.get data "id", Dict.get data "model_requested" (.str ""),
      Dict.get data "model_resolved" with
    | .str id, .str requested, .null => .ok (defaultRecord id requested none)
    | .str id, .str requested, .str resolved => .ok (defaultRecord id requested (some resolved))
    | _, _, _ => .error ⟨.other "ValidationError", "1 validation error for CallRecord", none⟩
  dumpJson r :=
    if r = defaultRecord "b" "fake/m" (some "fake/n") then .ok dumpedDoc
    else .error ⟨.other "PydanticSerializationError", "", none⟩
  realText x := x.repr
  date ts := if ts = 0 then some "1970-01-01" else none
  tie _ := 0

/-- The two documents differ in the id. -/
lemma dumpedDoc_ne_legacyDoc : dumpedDoc ≠ legacyDoc := by
  intro h
  have h7 : dumpedDoc[7]? = legacyDoc[7]? := by rw [h]
  exact absurd h7 (by decide)

/-- What was dumped can be read again. -/
lemma recordOf_dumpedDoc : twoDocuments.recordOf dumpedDoc =
    .ok (defaultRecord "b" "fake/m" (some "fake/n")) := by
  have hloads : twoDocuments.py.loads dumpedDoc = .ok (.obj dumpedFields) := by
    simp [twoDocuments, dumpedDoc_ne_legacyDoc]
  unfold SqliteHost.recordOf
  rw [hloads]
  rfl

/-- Both documents can be read again. -/
lemma lawful_twoDocuments : twoDocuments.Lawful where
  roundTrip := by
    intro r doc h
    simp only [twoDocuments] at h
    split at h
    · next hr =>
      obtain rfl := Except.ok.inj h
      rw [hr]
      exact ⟨_, recordOf_dumpedDoc, rfl⟩
    · cases h
  requested := by
    intro data r h
    simp only [twoDocuments] at h
    split at h
    · next hrequested _ =>
      obtain rfl := Except.ok.inj h
      exact hrequested
    · next hrequested _ =>
      obtain rfl := Except.ok.inj h
      exact hrequested
    · cases h
  resolved := by
    intro data r h
    simp only [twoDocuments] at h
    split at h
    · next hresolved =>
      obtain rfl := Except.ok.inj h
      exact hresolved
    · next hresolved =>
      obtain rfl := Except.ok.inj h
      exact hresolved
    · cases h

/-- The first process is killed when it has added one column, the second one completes. -/
def killedAmidUpgrade : List (SharedMove Unit) :=
  [.start, .start, .exec 0, .exec 0, .exec 0, .exec 1, .exec 0, .kill 0] ++
    List.replicate 15 (.exec 1)

/-- A third process opens the upgraded database while the second one saves a record. -/
def saveAmidOpen : List (SharedMove Unit) :=
  [.start, .exec 2, .exec 2, .exec 2, .save 1 (defaultRecord "b" "fake/m" (some "fake/n")), .exec 2,
    .exec 2, .kill 2]

/-- An upgrade in two attempts, and a save. -/
theorem columns_never_drift_killedAmidUpgrade :
    ∃ s₁ s, twoDocuments.run { db := { calls := some ⟨false, false, [legacyRow]⟩ } }
        killedAmidUpgrade = some s₁ ∧
      twoDocuments.run s₁ saveAmidOpen = some s ∧
      (∀ row ∈ s.db.rows, ∃ r, twoDocuments.recordOf row.doc = .ok r ∧
        row.modelRequested = some r.modelRequested ∧ row.modelResolved = r.modelResolved) ∧
      s.db.rows.length = 2 := by
  have hinitial : twoDocuments.Initial { calls := some ⟨false, false, [legacyRow]⟩ } := by
    refine .legacy [legacyRow] none (by simp) ?_ (by simp)
    intro row hrow
    obtain rfl := List.mem_singleton.mp hrow
    exact ⟨rfl, defaultRecord "a" "fake/m" none, rfl, rfl, rfl, rfl, rfl, rfl, rfl, rfl⟩
  obtain ⟨s₁, s, hrun₁, hrun₂, hopened, hlength⟩ : ∃ s₁ s,
      twoDocuments.run { db := { calls := some ⟨false, false, [legacyRow]⟩ } } killedAmidUpgrade =
        some s₁ ∧ twoDocuments.run s₁ saveAmidOpen = some s ∧ .opened ∈ s₁.processes ∧
        s.db.rows.length = 2 :=
    ⟨_, _, rfl, rfl, List.mem_of_getElem? (i := 1) rfl, rfl⟩
  have halong : PartialRun.Along twoDocuments.step Shared.Fresh
      { db := { calls := some ⟨false, false, [legacyRow]⟩ } }
      (killedAmidUpgrade ++ saveAmidOpen) := by decide
  refine ⟨s₁, s, hrun₁, hrun₂, ?_, hlength⟩
  exact (columns_never_drift lawful_twoDocuments hinitial hrun₁ hopened hrun₂
    fun pre m t hpre ht => halong.at hpre ht).1

end AgentCtl
