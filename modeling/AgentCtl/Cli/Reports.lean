import AgentCtl.Python.JsonChars
import AgentCtl.Store.Listing

set_option relaxedAutoImplicit false
set_option autoImplicit false

/-!
# The reports of the command line

`agent-ctl captures`, `cost` and `export` of `cli.py` open the database and print what they find
under the same filters: the last records, sums over the records, and all of them as JSON, a line for
each. Whoever reads the lines of an export gets the records back, and the three commands speak of
the same records: those that were saved.

The saved records come back up to the fields that have no column. What becomes of the others
(messages, output, attempts, parameters) is left to pydantic: a `NaN` among the parameters is dumped
as `null`, so that no more can be asked of it. Costs are finite and sums are exact.

## Main definitions

* `AgentCtl.ReportHost` — pydantic's `model_dump`, next to what the store uses.
* `AgentCtl.ReportHost.cmdExport` — the file that `export` writes, and how it ends.
* `AgentCtl.ReportHost.readExport` — the records that the lines of a file hold.

## Main results

* `AgentCtl.ReportHost.readExport_exportFrom` — what is written is read back.
* `AgentCtl.reports_agree` — the three commands after a run.
-/

namespace AgentCtl

/-- The code outside the commands. -/
structure ReportHost (β : Type) extends SqliteHost β where
  /-- `rec.model_dump(mode="json")`. -/
  modelDump : StoredRecord β → Except Exc Dict

namespace ReportHost

variable {β : Type} (E : ReportHost β)

/-- pydantic and `json`, as documented: the store can read what it writes, and a record that was
read can be dumped, to a JSON object that gives the same record. -/
structure Lawful : Prop where
  store : E.toSqliteHost.Lawful
  dumps : ∀ doc r, E.recordOf doc = .ok r →
    ∃ d, E.modelDump r = .ok d ∧ E.validate d = .ok r ∧ E.py.LoadsDumps (.obj d)

/-- `json.dumps(rec.model_dump(mode="json"), ensure_ascii=False)` -/
def exportText (r : StoredRecord β) : Except Exc Str := do
  let d ← E.modelDump r
  return (Json.obj d).dumps false

/-- `out.write(line + "\n")`, with `encoding="utf-8"`: the text that is written, unless it cannot be
encoded. -/
def writeLine (line : Str) : Except Exc Str :=
  if line.any CodePoint.isSurrogate then
    .error ⟨.unicodeEncodeError, "'utf-8' codec can't encode: surrogates not allowed", none⟩
  else .ok (line ++ [10])

/-- The loop of `_cmd_export` over the documents that the query gives, when `n` records have been
written: what it writes, and the number of records, or what is raised. -/
def exportFrom (n : ℕ) : List Str → Str × Except Exc ℕ
  | [] => ([], .ok n)
  | doc :: docs =>
    match E.recordOf doc >>= fun r => E.exportText r >>= writeLine with
    | .error e => ([], .error e)
    | .ok line => (line ++ (exportFrom (n + 1) docs).1, (exportFrom (n + 1) docs).2)

/-- `_cmd_export`: the file, and the number of records that it reports. -/
def cmdExport (rows : List Row) (f : CallFilter) : Str × Except Exc ℕ :=
  E.exportFrom 0 ((E.orderByTs true (rows.filter f.selects)).map Row.doc)

/-- The records of a file, a line for each. -/
def readExport (text : Str) : Except Exc (List (StoredRecord β)) :=
  (text.splitOn 10).dropLast.mapM E.recordOf

/-- Can the record be written? -/
def writable (r : StoredRecord β) : Bool := (E.exportText r >>= writeLine).isOk

variable {E}

/-! ## The lines of a file -/

/-- No text of a JSON value has a line break in it. -/
lemma newline_not_mem_dumps (v : Json) : 10 ∉ v.dumps false := by
  intro hmem
  have hprintable := (Json.writtenFrom_dumps v 10 hmem).1
  exact absurd hprintable (by decide)

/-- The lines of a file that begins with a line. -/
lemma splitOn_line {line : Str} (h : 10 ∉ line) (text : Str) :
    ((line ++ [10]) ++ text).splitOn 10 = line :: text.splitOn 10 := by
  rw [List.append_assoc]
  exact List.splitOn_append_cons_self_of_not_mem h text

/-- A record that can be written: its line holds what is read as the record. -/
lemma Lawful.writeLine_of_writable (hE : E.Lawful) {doc : Str} {r : StoredRecord β}
    (hr : E.recordOf doc = .ok r) (hwritable : E.writable r = true) :
    ∃ line, (E.exportText r >>= writeLine) = .ok (line ++ [10]) ∧ 10 ∉ line ∧
      E.recordOf line = .ok r := by
  obtain ⟨d, hd, hvalidate, hloads⟩ := hE.dumps doc r hr
  have htext : E.exportText r = .ok ((Json.obj d).dumps false) := by
    unfold exportText
    rw [hd]
    rfl
  refine ⟨(Json.obj d).dumps false, ?_, newline_not_mem_dumps _, ?_⟩
  · unfold writable at hwritable
    rw [htext, Except.ok_bind] at hwritable ⊢
    unfold writeLine at hwritable ⊢
    split at hwritable
    · cases hwritable
    · next hnone => rw [if_neg hnone]
  · unfold Runtime.LoadsDumps at hloads
    unfold SqliteHost.recordOf
    rw [hloads]
    exact hvalidate

/-- A record that cannot be written has a character that is half of one. -/
lemma Lawful.error_of_not_writable (hE : E.Lawful) {doc : Str} {r : StoredRecord β}
    (hr : E.recordOf doc = .ok r) (hwritable : E.writable r = false) :
    ∃ e, (E.exportText r >>= writeLine) = .error e ∧ e.cls = .unicodeEncodeError := by
  obtain ⟨d, hd, -, -⟩ := hE.dumps doc r hr
  have htext : E.exportText r = .ok ((Json.obj d).dumps false) := by
    unfold exportText
    rw [hd]
    rfl
  unfold writable at hwritable
  rw [htext, Except.ok_bind] at hwritable ⊢
  unfold writeLine at hwritable ⊢
  split at hwritable
  · next hsurrogate => exact ⟨_, if_pos hsurrogate, rfl⟩
  · cases hwritable

/-- **What is written is read back**: the records up to the first one that cannot be written, which
ends the command. -/
lemma readExport_exportFrom (hE : E.Lawful) {docs : List Str} {rs : List (StoredRecord β)}
    (hrs : docs.mapM E.recordOf = .ok rs) (n : ℕ) :
    E.readExport (E.exportFrom n docs).1 = .ok (rs.takeWhile E.writable) ∧
      if rs.all E.writable then (E.exportFrom n docs).2 = .ok (n + rs.length)
      else ∃ e, (E.exportFrom n docs).2 = .error e ∧ e.cls = .unicodeEncodeError := by
  have hread := List.mapM_eq_ok hrs
  clear hrs
  induction hread generalizing n with
  | nil => exact ⟨rfl, rfl⟩
  | @cons doc r docs rs hr hrest ih =>
    obtain ⟨htext, hcount⟩ := ih (n + 1)
    cases hwritable : E.writable r with
    | true =>
      obtain ⟨line, hline, hbreak, hback⟩ := hE.writeLine_of_writable hr hwritable
      have hexport : E.exportFrom n (doc :: docs) =
          (line ++ [10] ++ (E.exportFrom (n + 1) docs).1, (E.exportFrom (n + 1) docs).2) := by
        rw [exportFrom, hr, Except.ok_bind, hline]
      rw [hexport]
      refine ⟨?_, ?_⟩
      · unfold readExport at htext ⊢
        have hsplit : (E.exportFrom (n + 1) docs).1.splitOn 10 ≠ [] := List.splitOn_ne_nil _ _
        rw [splitOn_line hbreak, List.dropLast_cons_of_ne_nil hsplit, List.mapM_cons, hback, htext,
          List.takeWhile_cons_of_pos hwritable]
        rfl
      · rw [List.all_cons, hwritable, Bool.true_and]
        rw [show n + (r :: rs).length = n + 1 + rs.length by rw [List.length_cons]; omega]
        exact hcount
    | false =>
      obtain ⟨e, he, hcls⟩ := hE.error_of_not_writable hr hwritable
      have hexport : E.exportFrom n (doc :: docs) = ([], .error e) := by
        rw [exportFrom, hr, Except.ok_bind, he]
      rw [hexport, List.takeWhile_cons_of_neg (by rw [hwritable]; decide), List.all_cons, hwritable,
        Bool.false_and]
      exact ⟨rfl, e, rfl, hcls⟩

end ReportHost

/-! ## The three commands -/

/-- **The reports agree**, in exact sums of finite costs. Let any number of processes open a
database, of this version or of an earlier one, save records with fresh ids, and be killed between
two statements; then let the commands look at it under one filter. They speak of the same records:
in the fields that have a column those that the filter accepts of the records that were there and
those that were saved, in the order of time. The lines of `export` are read back as these records,
up to the first one that cannot be encoded, if there is one, and their number is reported;
`captures` shows the last ones of them, at most as many as asked for; and `cost` is the report that
they give. -/
theorem reports_agree {β : Type} {E : ReportHost β} {db : Database} {ms : List (SharedMove β)}
    {s : Shared} (hE : E.Lawful) (hdb : E.Initial db) (hrun : E.run { db := db } ms = some s)
    (hfresh : PartialRun.Along E.step Shared.Fresh { db := db } ms)
    (hopened : .opened ∈ s.processes) (f : CallFilter) {limit : ℤ} (hlimit : 0 ≤ limit)
    (hbound : limit < 2 ^ 63) :
    ∃ old rs, db.rows.mapM (fun row => E.recordOf row.doc) = .ok old ∧
      (rs.map StoredRecord.columns).Perm
        (((old ++ SharedMove.savedOf ms).filter f.accepts).map StoredRecord.columns) ∧
      rs.Pairwise (fun r r' => r.ts ≤ r'.ts) ∧
      E.readExport (E.cmdExport s.db.rows f).1 = .ok (rs.takeWhile E.writable) ∧
      (if rs.all E.writable then (E.cmdExport s.db.rows f).2 = .ok rs.length
        else ∃ e, (E.cmdExport s.db.rows f).2 = .error e ∧ e.cls = .unicodeEncodeError) ∧
      (∃ recent older, E.listRecent s.db.rows limit f = .ok recent ∧ (recent ++ older).Perm rs ∧
        recent.length = min limit.toNat rs.length ∧ recent.Pairwise (fun r r' => r'.ts ≤ r.ts) ∧
        ∀ r ∈ recent, ∀ r' ∈ older, r'.ts ≤ r.ts) ∧
      ∀ groupBy, E.costSummary s.db.rows f groupBy = E.summaryOf rs groupBy := by
  obtain ⟨old, hold⟩ := hdb.mapM_recordOf
  have hgood := SqliteHost.good_run hE.store hdb hrun hfresh hopened
  obtain ⟨rs, hrs, hperm, hsummary⟩ :=
    SqliteHost.listed_run hE.store hdb hrun hfresh hopened hold f true
  have hdocs : ((E.orderByTs true (s.db.rows.filter f.selects)).map Row.doc).mapM E.recordOf =
      .ok rs := by
    rw [List.mapM_map]
    exact hrs
  obtain ⟨hread, hcount⟩ := ReportHost.readExport_exportFrom hE hdocs 0
  rw [Nat.zero_add] at hcount
  exact ⟨old, rs, hold, hperm, SqliteHost.pairwise_iterAll hgood hrs, hread, hcount,
    SqliteHost.listRecent_latest hgood f hlimit hbound hrs, hsummary⟩

/-! ## Two records -/

/-- A record with the document that the store writes and the object that `export` dumps. -/
structure DumpedRecord where
  doc : Str
  fields : Dict
  record : StoredRecord Unit

/-- Two records, one second after the other. -/
def twoRecords : List DumpedRecord :=
  [⟨defaultDoc "a" "1.0" "fake/m" "null", defaultFields "a" ⟨"1.0", rfl⟩ "fake/m" .null,
      { defaultRecord "a" "fake/m" none with ts := 1 }⟩,
    ⟨defaultDoc "b" "2.0" "fake/m" "null", defaultFields "b" ⟨"2.0", rfl⟩ "fake/m" .null,
      { defaultRecord "b" "fake/m" none with ts := 2 }⟩]

/-- The code outside, for these two records. -/
def twoRecordsHost : ReportHost Unit where
  py := { Runtime.plain with
    loads := fun s =>
      match twoRecords.find? fun p => p.doc = s ∨ (Json.obj p.fields).dumps false = s with
      | some p => .ok (.obj p.fields)
      | none => .error ⟨.jsonDecodeError, "Expecting value: line 1 column 1 (char 0)", none⟩ }
  validate data :=
    match twoRecords.find? fun p =>
      (Json.obj p.fields).dumps false = (Json.obj data).dumps false with
    | some p => .ok p.record
    | none => .error ⟨.other "ValidationError", "1 validation error for CallRecord", none⟩
  dumpJson r :=
    match twoRecords.find? fun p => p.record = r with
    | some p => .ok p.doc
    | none => .error ⟨.other "PydanticSerializationError", "", none⟩
  modelDump r :=
    match twoRecords.find? fun p => p.record = r with
    | some p => .ok p.fields
    | none => .error ⟨.other "PydanticSerializationError", "", none⟩
  realText x := x.repr
  date ts := if ts = 1 ∨ ts = 2 then some "1970-01-01" else none
  tie _ := 0

/-- What is validated is one of the two. -/
lemma exists_of_validate {data : Dict} {r : StoredRecord Unit}
    (h : twoRecordsHost.validate data = .ok r) :
    ∃ p ∈ twoRecords, p.fields = data ∧ p.record = r := by
  simp only [twoRecordsHost] at h
  split at h
  · next p hp =>
    have hdata : p.fields = data :=
      Json.obj.inj (Json.dumps_injective (by simpa using List.find?_some hp))
    exact ⟨p, List.mem_of_find?_eq_some hp, hdata, Except.ok.inj h⟩
  · cases h

set_option maxRecDepth 4000 in
/-- Each of the two can be dumped and read, from its document and from its line. -/
lemma twoRecords_read : ∀ p ∈ twoRecords,
    twoRecordsHost.modelDump p.record = .ok p.fields ∧
      twoRecordsHost.validate p.fields = .ok p.record ∧
      twoRecordsHost.py.loads p.doc = .ok (.obj p.fields) ∧
      twoRecordsHost.py.LoadsDumps (.obj p.fields) := by
  intro p hp
  simp only [twoRecords, List.mem_cons, List.not_mem_nil, or_false] at hp
  rcases hp with rfl | rfl
  · exact ⟨rfl, rfl, rfl, rfl⟩
  · exact ⟨rfl, rfl, rfl, rfl⟩

/-- The host reads the documents of the two records as documented. -/
lemma lawful_twoRecordsHost : twoRecordsHost.Lawful where
  store := by
    refine ⟨?_, ?_, ?_⟩
    · intro r doc h
      simp only [twoRecordsHost] at h
      split at h
      · next p hp =>
        obtain rfl := Except.ok.inj h
        obtain ⟨-, hvalidate, hloads, -⟩ := twoRecords_read p (List.mem_of_find?_eq_some hp)
        have hr : p.record = r := by simpa using List.find?_some hp
        refine ⟨p.record, ?_, ?_⟩
        · unfold SqliteHost.recordOf
          rw [hloads]
          exact hvalidate
        · rw [hr]
      · cases h
    · intro data r h
      obtain ⟨p, hp, rfl, rfl⟩ := exists_of_validate h
      simp only [twoRecords, List.mem_cons, List.not_mem_nil, or_false] at hp
      rcases hp with rfl | rfl
      · rfl
      · rfl
    · intro data r h
      obtain ⟨p, hp, rfl, rfl⟩ := exists_of_validate h
      simp only [twoRecords, List.mem_cons, List.not_mem_nil, or_false] at hp
      rcases hp with rfl | rfl
      · rfl
      · rfl
  dumps := by
    intro doc r h
    obtain ⟨v, -, h⟩ := Except.bind_eq_ok.mp h
    cases v with
    | obj d =>
      obtain ⟨p, hp, rfl, rfl⟩ := exists_of_validate h
      obtain ⟨hdump, hvalidate, -, hloads⟩ := twoRecords_read p hp
      exact ⟨p.fields, hdump, hvalidate, hloads⟩
    | null | bool _ | int _ | float _ | str _ | arr _ => cases h

/-- The later record is saved first. -/
def saveBoth : List (SharedMove Unit) :=
  .start :: List.replicate 13 (.exec 0) ++
    [.save 0 { defaultRecord "b" "fake/m" none with ts := 2 },
      .save 0 { defaultRecord "a" "fake/m" none with ts := 1 }]

/-- The file has both records, the earlier one first; the last record is the later one. -/
theorem reports_agree_twoRecords :
    ∃ s, twoRecordsHost.run { db := {} } saveBoth = some s ∧ ∃ rs recent older,
      twoRecordsHost.readExport (twoRecordsHost.cmdExport s.db.rows {}).1 =
        .ok (rs.takeWhile twoRecordsHost.writable) ∧
      rs.Pairwise (fun r r' => r.ts ≤ r'.ts) ∧ rs.length = 2 ∧
      twoRecordsHost.listRecent s.db.rows 1 {} = .ok recent ∧ (recent ++ older).Perm rs ∧
      recent.length = 1 := by
  obtain ⟨s, hrun, hopened⟩ : ∃ s, twoRecordsHost.run { db := {} } saveBoth = some s ∧
      .opened ∈ s.processes :=
    ⟨_, rfl, .head _⟩
  obtain ⟨old, rs, hold, hperm, hsorted, hread, -, hlatest, -⟩ :=
    reports_agree lawful_twoRecordsHost .empty hrun (by decide +kernel) hopened {}
      (by decide : (0 : ℤ) ≤ 1) (by decide)
  obtain ⟨recent, older, hrecent, hsame, hlength, -⟩ := hlatest
  obtain rfl : old = [] := (Except.ok.inj hold).symm
  have htwo : rs.length = 2 := by
    have := hperm.length_eq
    rw [List.length_map] at this
    exact this
  refine ⟨s, hrun, rs, recent, older, hread, hsorted, htwo, hrecent, hsame, ?_⟩
  rw [hlength, htwo]
  rfl

end AgentCtl
