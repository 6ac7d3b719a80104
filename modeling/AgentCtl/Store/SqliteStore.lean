import AgentCtl.Library.ExceptList
import AgentCtl.Library.NullableColumns
import AgentCtl.Python.JsonText
import Mathlib.Algebra.BigOperators.Group.List.Basic
import Mathlib.Algebra.Order.Field.Rat
import Mathlib.Data.List.Forall2

set_option relaxedAutoImplicit false
set_option autoImplicit false

/-!
# Queries of the SQLite store

`store/sqlite_store.py` keeps a call record twice: as a JSON document, and in columns of its own
for the fields that reports filter and group by. `iter_all` selects rows by their columns and
returns what their documents say; `cost_summary` counts and sums the columns. Times and costs are
rationals: sums are exact.

## Main definitions

* `AgentCtl.StoredRecord`, `AgentCtl.Row` — a record, and a row of `call_record`.
* `AgentCtl.SqliteHost` — the code outside: JSON, pydantic and what SQLite leaves open.
* `AgentCtl.SqliteHost.iterAll`, `costSummary` — the queries.
* `AgentCtl.SqliteHost.summaryOf` — the report that the records themselves give.

## Main results

* `AgentCtl.SqliteHost.costSummary_of_agree` — where the columns agree with the documents, the
  report is that of the records.
-/

namespace AgentCtl

/-- A `CallRecord` with its `id` and `ts`. `rest` are the fields that have no column. -/
structure StoredRecord (β : Type) where
  id : Str
  ts : ℚ
  consumer : Str
  status : Str
  modelRequested : Str
  modelResolved : Option Str
  inputTokens : ℤ
  outputTokens : ℤ
  costUsd : Option ℚ
  rest : β
  deriving DecidableEq

/-- A row of `call_record`; `none` is NULL. -/
structure Row where
  id : Str
  ts : Option ℚ
  consumer : Option Str
  status : Option Str
  modelRequested : Option Str
  modelResolved : Option Str
  inputTokens : Option ℤ
  outputTokens : Option ℤ
  costUsd : Option ℚ
  doc : Str
  deriving DecidableEq

/-- The code outside the store. -/
structure SqliteHost (β : Type) where
  py : Runtime
  /-- `CallRecord(**data)`. -/
  validate : Dict → Except Exc (StoredRecord β)
  /-- `record.model_dump_json()`. -/
  dumpJson : StoredRecord β → Except Exc Str
  /-- The text of a float in a column of texts. -/
  realText : PyFloat → Str
  /-- `date(ts, 'unixepoch')`. -/
  date : ℚ → Option Str
  /-- How SQLite orders rows with the same `ts`. -/
  tie : Row → ℕ

/-- The filters of a query. -/
structure CallFilter where
  consumer : Option Str := none
  status : Option Str := none
  model : Option Str := none
  since : Option ℚ := none

/-- What `group_by` may be. -/
inductive GroupKey where
  | consumer
  | status
  | model
  | day

/-- Counts and sums of a report. -/
structure Totals where
  calls : ℕ
  totalCostUsd : ℚ
  totalInputTokens : ℤ
  totalOutputTokens : ℤ
  deriving DecidableEq

/-- A report: of all selected rows, or of their groups. -/
inductive CostSummary where
  | totals (t : Totals)
  | groups (gs : List (Option Str × Totals))
  deriving DecidableEq

/-- `group_by` as it is given. -/
def GroupKey.ofName (name : Str) : Option GroupKey :=
  if name = "consumer" then some .consumer
  else if name = "status" then some .status
  else if name = "model" then some .model
  else if name = "day" then some .day
  else none

namespace CallFilter

/-- `if v:` of an optional string. -/
def given (v : Option Str) : Option Str := v.filter fun s => s ≠ []

/-- `_filters`: the clauses of the query. -/
def filters (f : CallFilter) : List (Row → Option Bool) :=
  ((given f.consumer).map fun v row => Nullable.eq row.consumer v).toList ++
    ((given f.status).map fun v row => Nullable.eq row.status v).toList ++
    ((given f.model).map fun v row =>
      Nullable.or (Nullable.eq row.modelResolved v) (Nullable.eq row.modelRequested v)).toList ++
    (f.since.map fun v row => Nullable.ge row.ts v).toList

/-- `WHERE` the clauses, all of them. -/
def selects (f : CallFilter) (row : Row) : Bool :=
  f.filters.all fun clause => Nullable.Holds (clause row)

/-- A clause that is only there if its value is. -/
lemma all_clause {α : Type} (v : Option α) (clause : α → Row → Option Bool) (row : Row) :
    ((v.map clause).toList.all fun c => Nullable.Holds (c row)) =
      v.all fun a => Nullable.Holds (clause a row) := by
  cases v with
  | none => rfl
  | some a => simp

/-- What the filter says of a record. -/
def accepts {β : Type} (f : CallFilter) (r : StoredRecord β) : Bool :=
  ((given f.consumer).all fun v => r.consumer = v) &&
    ((given f.status).all fun v => r.status = v) &&
    ((given f.model).all fun v => r.modelResolved = some v || r.modelRequested = v) &&
    f.since.all fun v => v ≤ r.ts

end CallFilter

namespace Totals

/-- `COUNT(*)` and the sums of three columns. -/
def ofRows (rows : List Row) : Totals where
  calls := rows.length
  totalCostUsd := (Nullable.sum (rows.map Row.costUsd)).getD 0
  totalInputTokens := (Nullable.sum (rows.map Row.inputTokens)).getD 0
  totalOutputTokens := (Nullable.sum (rows.map Row.outputTokens)).getD 0

variable {β : Type}

/-- The number of records and the sums of their fields. -/
def ofRecords (rs : List (StoredRecord β)) : Totals where
  calls := rs.length
  totalCostUsd := (rs.map fun r => r.costUsd.getD 0).sum
  totalInputTokens := (rs.map StoredRecord.inputTokens).sum
  totalOutputTokens := (rs.map StoredRecord.outputTokens).sum

/-- The totals do not depend on the order of the records. -/
lemma ofRecords_perm {rs rs' : List (StoredRecord β)} (h : rs.Perm rs') :
    ofRecords rs = ofRecords rs' := by
  unfold ofRecords
  rw [h.length_eq, (h.map _).sum_eq, (h.map StoredRecord.inputTokens).sum_eq,
    (h.map StoredRecord.outputTokens).sum_eq]

end Totals

/-- `ts` comes before `ts'`; NULL comes first. -/
def tsBefore : Option ℚ → Option ℚ → Bool
  | none, some _ => true
  | some t, some t' => t < t'
  | _, none => false

namespace SqliteHost

variable {β : Type} (H : SqliteHost β)

/-- `CallRecord(**json.loads(doc))`. -/
def recordOf (doc : Str) : Except Exc (StoredRecord β) := do
  match ← H.py.loads doc with
  | .obj data => H.validate data
  | v => .error ⟨.typeError, "agent_ctl.models.CallRecord() argument after ** must be a mapping, "
      ++ ("not " ++ v.typeName), none⟩

/-- The rows in the order of `ts`. -/
def orderByTs (ascending : Bool) (rows : List Row) : List Row :=
  rows.insertionSort fun a b =>
    (if ascending then tsBefore a.ts b.ts else tsBefore b.ts a.ts) = true ∨
      a.ts = b.ts ∧ H.tie a ≤ H.tie b

/-- `iter_all`. -/
def iterAll (rows : List Row) (f : CallFilter) (ascending : Bool) :
    Except Exc (List (StoredRecord β)) :=
  (H.orderByTs ascending (rows.filter f.selects)).mapM fun row => H.recordOf row.doc

/-- The expression that `group_by` stands for. -/
def bucket (row : Row) : GroupKey → Option Str
  | .consumer => row.consumer
  | .status => row.status
  | .model => Nullable.coalesce [row.modelResolved, row.modelRequested, some []]
  | .day => row.ts.bind H.date

/-- `cost_summary`. -/
def costSummary (rows : List Row) (f : CallFilter) (groupBy : Option Str) :
    Except Exc CostSummary :=
  let selected := rows.filter f.selects
  match groupBy with
  | none => .ok (.totals (.ofRows selected))
  | some name =>
    match GroupKey.ofName name with
    | none => .error ⟨.valueError, "bad group_by: " ++ H.py.repr (.str name), none⟩
    | some key =>
      .ok (.groups (Nullable.groups Nullable.TextLe (fun row => H.bucket row key) Totals.ofRows
        selected))

/-- The group of a record. -/
def bucketOf (r : StoredRecord β) : GroupKey → Option Str
  | .consumer => some r.consumer
  | .status => some r.status
  | .model => some (r.modelResolved.getD r.modelRequested)
  | .day => H.date r.ts

/-- The report that a list of records gives. -/
def summaryOf (rs : List (StoredRecord β)) (groupBy : Option Str) : Except Exc CostSummary :=
  match groupBy with
  | none => .ok (.totals (.ofRecords rs))
  | some name =>
    match GroupKey.ofName name with
    | none => .error ⟨.valueError, "bad group_by: " ++ H.py.repr (.str name), none⟩
    | some key =>
      .ok (.groups (Nullable.groups Nullable.TextLe (fun r => H.bucketOf r key) Totals.ofRecords
        rs))

/-- The columns that every table has say what the document says. -/
structure Documents (row : Row) (r : StoredRecord β) : Prop where
  doc : H.recordOf row.doc = .ok r
  id : row.id = r.id
  ts : row.ts = some r.ts
  consumer : row.consumer = some r.consumer
  status : row.status = some r.status
  inputTokens : row.inputTokens = some r.inputTokens
  outputTokens : row.outputTokens = some r.outputTokens
  costUsd : row.costUsd = r.costUsd

/-- The two columns of the model say what the document says. -/
def ModelsAgree (row : Row) (r : StoredRecord β) : Prop :=
  row.modelRequested = some r.modelRequested ∧ row.modelResolved = r.modelResolved

/-- All columns of the row say what its document says. -/
def Agrees (row : Row) (r : StoredRecord β) : Prop := H.Documents row r ∧ ModelsAgree row r

variable {H} {row : Row} {r : StoredRecord β} {rows : List Row} {rs : List (StoredRecord β)}

/-! ## Rows that agree with their documents -/

/-- A document has one record. -/
lemma agrees_rightUnique : Relator.RightUnique H.Agrees := by
  intro row r r' h h'
  have hdoc := h.1.doc.symm.trans h'.1.doc
  exact Except.ok.inj hdoc

/-- The clauses select a row when the filter accepts its record. -/
lemma selects_eq_accepts (f : CallFilter) (h : H.Agrees row r) : f.selects row = f.accepts r := by
  obtain ⟨hdoc, hrequested, hresolved⟩ := h
  have hmodel : ∀ v, Nullable.Holds (Nullable.eq r.modelResolved v) =
      decide (r.modelResolved = some v) := by
    intro v
    cases r.modelResolved with
    | none => simp
    | some s => simp
  unfold CallFilter.selects CallFilter.filters CallFilter.accepts
  rw [List.all_append, List.all_append, List.all_append]
  simp only [CallFilter.all_clause, hdoc.ts, hdoc.consumer, hdoc.status, hrequested, hresolved,
    Nullable.holds_eq_some, Nullable.holds_or, Nullable.holds_ge_some, hmodel]

/-- A row is in the group of its record. -/
lemma bucket_eq_bucketOf (h : H.Agrees row r) (key : GroupKey) :
    H.bucket row key = H.bucketOf r key := by
  obtain ⟨hdoc, hrequested, hresolved⟩ := h
  cases key with
  | consumer => exact hdoc.consumer
  | status => exact hdoc.status
  | model =>
    unfold bucket bucketOf
    simp only [hrequested, hresolved]
    cases r.modelResolved with
    | none => rfl
    | some s => rfl
  | day =>
    unfold bucket bucketOf
    simp only [hdoc.ts]
    rfl

/-- Rows sum up to what their records sum up to. -/
lemma ofRows_eq_ofRecords (h : List.Forall₂ H.Agrees rows rs) :
    Totals.ofRows rows = Totals.ofRecords rs := by
  unfold Totals.ofRows Totals.ofRecords
  rw [Nullable.sum_getD, Nullable.sum_getD, Nullable.sum_getD]
  induction h with
  | nil => rfl
  | cons hrow _ ih =>
    simp only [Totals.mk.injEq] at ih
    obtain ⟨hcalls, hcost, hinput, houtput⟩ := ih
    simp only [List.map_cons, List.sum_cons, List.length_cons, hcalls, hcost, hinput, houtput,
      hrow.1.costUsd, hrow.1.inputTokens, hrow.1.outputTokens, Option.getD_some]

/-- **The report is that of the records.** If the columns of every row agree with its document,
`iter_all` returns the records that the filter accepts, and `cost_summary` is the report that these
records give. -/
lemma costSummary_of_agree (h : ∀ row ∈ rows, ∃ r, H.Agrees row r) (f : CallFilter)
    (ascending : Bool) :
    ∃ all rs, H.iterAll rows {} ascending = .ok all ∧ H.iterAll rows f ascending = .ok rs ∧
      rs.Perm (all.filter f.accepts) ∧
      ∀ groupBy, H.costSummary rows f groupBy = H.summaryOf rs groupBy := by
  -- what a query returns, against the selected rows in the order of the table
  have hquery : ∀ f : CallFilter, ∃ rs selected, H.iterAll rows f ascending = .ok rs ∧
      List.Forall₂ H.Agrees (rows.filter f.selects) selected ∧ rs.Perm selected := by
    intro f
    have hperm : (H.orderByTs ascending (rows.filter f.selects)).Perm (rows.filter f.selects) :=
      List.perm_insertionSort _ _
    have hreturns : ∀ row ∈ H.orderByTs ascending (rows.filter f.selects),
        ∃ r, H.recordOf row.doc = .ok r ∧ H.Agrees row r := by
      intro row hrow
      obtain ⟨r, hr⟩ := h row (List.mem_of_mem_filter (hperm.mem_iff.mp hrow))
      exact ⟨r, hr.1.doc, hr⟩
    obtain ⟨rs, hrs, hagree⟩ := List.mapM_related hreturns
    obtain ⟨selected, hselected, hsame⟩ := List.perm_comp_forall₂ hperm.symm hagree
    exact ⟨rs, selected, hrs, hselected, hsame.symm⟩
  obtain ⟨all, table, hall, htable, hallPerm⟩ := hquery {}
  obtain ⟨rs, selected, hrs, hselected, hrsPerm⟩ := hquery f
  have hfilter : selected = table.filter f.accepts := by
    have hnone : rows.filter (CallFilter.selects {}) = rows := List.filter_true rows
    rw [hnone] at htable
    have haccepted : List.Forall₂ H.Agrees (rows.filter f.selects) (table.filter f.accepts) := by
      refine List.rel_filter ?_ htable
      intro row r hr
      dsimp only
      rw [selects_eq_accepts f hr]
    exact List.right_unique_forall₂' agrees_rightUnique hselected haccepted
  refine ⟨all, rs, hall, hrs, ?_, ?_⟩
  · calc List.Perm rs selected := hrsPerm
      List.Perm _ (table.filter f.accepts) := by rw [hfilter]
      List.Perm _ (all.filter f.accepts) := (hallPerm.symm.filter _)
  · intro groupBy
    unfold costSummary summaryOf
    cases groupBy with
    | none =>
      dsimp only
      rw [ofRows_eq_ofRecords hselected, Totals.ofRecords_perm hrsPerm]
    | some name =>
      dsimp only
      cases GroupKey.ofName name with
      | none => rfl
      | some key =>
        dsimp only
        rw [Nullable.groups_perm Nullable.TextLe (fun _ _ => Totals.ofRecords_perm) hrsPerm]
        rw [Nullable.groups_congr Nullable.TextLe (fun _ _ hr => bucket_eq_bucketOf hr key)
          (fun _ _ => ofRows_eq_ofRecords) hselected]

end SqliteHost

end AgentCtl
