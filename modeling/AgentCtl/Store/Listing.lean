import AgentCtl.Store.ColumnDrift
import AgentCtl.Store.Deliveries

set_option relaxedAutoImplicit false
set_option autoImplicit false

/-!
# Listing what was saved

The queries of `store/sqlite_store.py` that return records: `iter_all` returns those that a filter
accepts in the order of their times, and `list_recent` the last of them. What they return is what
the processes have saved, besides the records of a table of an earlier version.

## Main definitions

* `AgentCtl.SqliteHost.listRecent` — `list_recent`.
* `AgentCtl.StoredRecord.columns` — a record without the fields that have no column.

## Main results

* `AgentCtl.SqliteHost.pairwise_iterAll` — `iter_all` is in the order of time.
* `AgentCtl.SqliteHost.listRecent_latest` — `list_recent` returns the last records.
* `AgentCtl.SqliteHost.listed_run` — what a query returns after a run.
-/

namespace AgentCtl

variable {β : Type}

/-- What the columns hold of a record. -/
def StoredRecord.columns (r : StoredRecord β) : StoredRecord Unit := { r with rest := () }

/-- NULL comes first, and times in their order. -/
lemma tsBefore_iff (a b : Option ℚ) : tsBefore a b = true ↔ (show WithBot ℚ from a) < b := by
  cases a with
  | none =>
    cases b with
    | none => exact iff_of_false (by simp [tsBefore]) (lt_irrefl _)
    | some t => exact iff_of_true rfl (WithBot.bot_lt_coe t)
  | some t =>
    cases b with
    | none => exact iff_of_false (by simp [tsBefore]) not_lt_bot
    | some t' => exact decide_eq_true_iff.trans WithBot.coe_lt_coe.symm

namespace SqliteHost

variable (H : SqliteHost β)

/-- `list_recent`. A limit that is negative is none. -/
def listRecent (rows : List Row) (limit : ℤ) (f : CallFilter) :
    Except Exc (List (StoredRecord β)) :=
  let ordered := H.orderByTs false (rows.filter f.selects)
  if -2 ^ 63 ≤ limit ∧ limit < 2 ^ 63 then
    (if limit < 0 then ordered else ordered.take limit.toNat).mapM fun row => H.recordOf row.doc
  else
    .error ⟨.other "OverflowError", "Python int too large to convert to SQLite INTEGER", none⟩

variable {H} {rows : List Row} {rs : List (StoredRecord β)}

/-! ## The order -/

/-- Sorting by a key, and by another one where they are the same, sorts by the key. -/
lemma pairwise_key {α κ : Type} [LinearOrder κ] (key : α → κ) (tie : α → ℕ)
    {before : α → α → Prop} [DecidableRel before]
    (hbefore : ∀ a b, before a b ↔ key a < key b ∨ key a = key b ∧ tie a ≤ tie b) (xs : List α) :
    (xs.insertionSort before).Pairwise fun a b => key a ≤ key b := by
  have htotal : Std.Total before := by
    refine ⟨fun a b => ?_⟩
    rw [hbefore, hbefore]
    rcases lt_trichotomy (key a) (key b) with hlt | heq | hgt
    · exact .inl (.inl hlt)
    · rcases Nat.le_total (tie a) (tie b) with hle | hle
      · exact .inl (.inr ⟨heq, hle⟩)
      · exact .inr (.inr ⟨heq.symm, hle⟩)
    · exact .inr (.inl hgt)
  have htrans : IsTrans α before := by
    refine ⟨fun a b c => ?_⟩
    rw [hbefore, hbefore, hbefore]
    rintro (hab | ⟨hab, htie⟩) (hbc | ⟨hbc, htie'⟩)
    · exact .inl (hab.trans hbc)
    · exact .inl (hbc ▸ hab)
    · exact .inl (hab ▸ hbc)
    · exact .inr ⟨hab.trans hbc, htie.trans htie'⟩
  refine (List.pairwise_insertionSort before xs).imp fun {a b} hab => ?_
  rcases (hbefore a b).mp hab with hlt | ⟨heq, -⟩
  · exact hlt.le
  · exact heq.le

/-- No row comes before an earlier one. -/
lemma pairwise_orderByTs (ascending : Bool) (rows : List Row) :
    (H.orderByTs ascending rows).Pairwise fun a b =>
      (if ascending then tsBefore b.ts a.ts else tsBefore a.ts b.ts) = false := by
  have hbefore : ∀ a b : Row, tsBefore a.ts b.ts = false ↔
      (show WithBot ℚ from b.ts) ≤ (show WithBot ℚ from a.ts) := by
    intro a b
    rw [← Bool.not_eq_true, tsBefore_iff]
    exact not_lt
  cases ascending with
  | true =>
    refine (pairwise_key (fun row : Row => (show WithBot ℚ from row.ts)) H.tie ?_ rows).imp ?_
    · intro a b
      rw [if_pos rfl, tsBefore_iff]
      rfl
    · intro a b hab
      exact (hbefore b a).mpr hab
  | false =>
    refine (pairwise_key (fun row : Row => OrderDual.toDual (show WithBot ℚ from row.ts))
      H.tie ?_ rows).imp ?_
    · intro a b
      rw [if_neg (by decide), tsBefore_iff]
      rfl
    · intro a b hab
      exact (hbefore a b).mpr hab

/-- **`iter_all` is in the order of time**, where the rows say what their documents say. -/
lemma pairwise_iterAll (h : ∀ row ∈ rows, H.Good row) {f : CallFilter} {ascending : Bool}
    (hrs : H.iterAll rows f ascending = .ok rs) :
    rs.Pairwise fun r r' => if ascending then r.ts ≤ r'.ts else r'.ts ≤ r.ts := by
  have hsorted := H.pairwise_orderByTs ascending (rows.filter f.selects)
  have hgood : ∀ row ∈ H.orderByTs ascending (rows.filter f.selects), H.Good row := fun row hrow =>
    h row (List.mem_of_mem_filter ((List.perm_insertionSort _ _).mem_iff.mp hrow))
  have hread := List.mapM_eq_ok hrs
  generalize H.orderByTs ascending (rows.filter f.selects) = ordered at hsorted hgood hread
  -- the time of a record is that of its row
  have hts : ∀ row r, H.Good row → H.recordOf row.doc = .ok r → row.ts = some r.ts := by
    rintro row r ⟨r', hr'⟩ hr
    obtain rfl := Except.ok.inj (hr'.1.doc.symm.trans hr)
    exact hr'.1.ts
  clear hrs h
  induction hread with
  | nil => exact .nil
  | @cons row r ordered rs hrow hrest ih =>
    obtain ⟨hfirst, hsorted⟩ := List.pairwise_cons.mp hsorted
    obtain ⟨hgoodRow, hgood⟩ := List.forall_mem_cons.mp hgood
    refine List.pairwise_cons.mpr ⟨fun r' hr' => ?_, ih hsorted hgood⟩
    obtain ⟨row', hrow', hread'⟩ : ∃ row' ∈ ordered, H.recordOf row'.doc = .ok r' := by
      obtain ⟨i, hi, rfl⟩ := List.getElem_of_mem hr'
      have hi' : i < ordered.length := by rwa [hrest.length_eq]
      exact ⟨ordered[i], List.getElem_mem hi', hrest.get hi' hi⟩
    have hle := hfirst row' hrow'
    rw [hts row r hgoodRow hrow, hts row' r' (hgood row' hrow') hread'] at hle
    cases ascending with
    | true => simpa [tsBefore] using hle
    | false => simpa [tsBefore] using hle

/-- **`list_recent` returns the last records**: at most `limit` of those that `iter_all` returns,
none of them older than one that it leaves out. -/
lemma listRecent_latest (h : ∀ row ∈ rows, H.Good row) (f : CallFilter) {limit : ℤ}
    (hlimit : 0 ≤ limit) (hbound : limit < 2 ^ 63) {ascending : Bool}
    (hrs : H.iterAll rows f ascending = .ok rs) :
    ∃ recent older, H.listRecent rows limit f = .ok recent ∧ (recent ++ older).Perm rs ∧
      recent.length = min limit.toNat rs.length ∧
      recent.Pairwise (fun r r' => r'.ts ≤ r.ts) ∧
      ∀ r ∈ recent, ∀ r' ∈ older, r'.ts ≤ r.ts := by
  have hperm : (H.orderByTs false (rows.filter f.selects)).Perm
      (H.orderByTs ascending (rows.filter f.selects)) :=
    (List.perm_insertionSort _ _).trans (List.perm_insertionSort _ _).symm
  obtain ⟨descending, hdescending, hsame⟩ := List.mapM_perm hperm.symm hrs
  have hall : H.iterAll rows f false = .ok descending := hdescending
  have hsorted : descending.Pairwise fun r r' => r'.ts ≤ r.ts := H.pairwise_iterAll h hall
  rw [← List.take_append_drop limit.toNat descending] at hsorted
  obtain ⟨hrecent, -, hcross⟩ := List.pairwise_append.mp hsorted
  refine ⟨descending.take limit.toNat, descending.drop limit.toNat, ?_, ?_, ?_, hrecent, hcross⟩
  · have hguard : -2 ^ 63 ≤ limit ∧ limit < 2 ^ 63 := ⟨by omega, hbound⟩
    unfold listRecent
    rw [if_pos hguard, if_neg (by omega)]
    exact List.mapM_take hdescending _
  · rw [List.take_append_drop]
    exact hsame.symm
  · rw [List.length_take, hsame.length_eq]

/-! ## After a run -/

variable {db : Database} {s s' : Shared} {ms : List (SharedMove β)}

/-- After any run in which a store is open, the columns of every row say what its document says. -/
lemma good_run (hH : H.Lawful) (hdb : H.Initial db) (hrun : H.run { db := db } ms = some s)
    (hfresh : PartialRun.Along H.step Shared.Fresh { db := db } ms)
    (hopened : .opened ∈ s.processes) : ∀ row ∈ s.db.rows, H.Good row := by
  have hs : H.Consistent s := by
    refine PartialRun.invariant (I := H.Consistent) (P := Shared.Fresh) ?_ ⟨hdb.sound, by simp⟩ ?_
      hrun
    · intro s m s' hs hm hstep
      exact (hs.step hH hm hstep).1
    · intro pre m t hpre ht
      exact hfresh.at hpre ht
  exact (hs.db.marked (hs.processes _ hopened)).2

/-- What is in the database at the beginning can be read. -/
lemma Initial.mapM_recordOf (h : H.Initial db) :
    ∃ old, db.rows.mapM (fun row => H.recordOf row.doc) = .ok old := by
  cases h with
  | empty => exact ⟨[], rfl⟩
  | legacy rows versions ids documents unmarked =>
    obtain ⟨old, hold, -⟩ := List.mapM_related (R := fun _ _ => True)
      (f := fun row : Row => H.recordOf row.doc) fun row hrow => by
        obtain ⟨-, r, hr⟩ := documents row hrow
        exact ⟨r, hr.doc, trivial⟩
    exact ⟨old, hold⟩

/-- What is read of the rows that a run adds are the records that were saved. -/
lemma mapM_savedRow (hH : H.Lawful) (hrun : H.run s ms = some s') :
    ∃ new, (ms.filterMap H.savedRow).mapM (fun row => H.recordOf row.doc) = .ok new ∧
      new.map StoredRecord.columns = (SharedMove.savedOf ms).map StoredRecord.columns := by
  induction ms generalizing s with
  | nil => exact ⟨[], rfl, rfl⟩
  | cons m ms ih =>
    obtain ⟨t, ht, hrest⟩ := Option.bind_eq_some_iff.mp hrun
    obtain ⟨new, hnew, hsame⟩ := ih hrest
    cases m with
    | start | exec p | kill p => exact ⟨new, hnew, hsame⟩
    | save p r =>
      obtain ⟨doc, hdoc⟩ : ∃ doc, H.dumpJson r = .ok doc := by
        obtain ⟨db', hsave, -⟩ := step_save ht
        unfold save at hsave
        cases hdoc : H.dumpJson r with
        | ok doc => exact ⟨doc, rfl⟩
        | error e => simp [hdoc] at hsave
      obtain ⟨r', hr', hcolumns⟩ := hH.roundTrip r doc hdoc
      refine ⟨r' :: new, ?_, ?_⟩
      · have hrow : H.savedRow (.save p r) = some (rowOf r doc) := by simp [savedRow, hdoc]
        have hread : H.recordOf (rowOf r doc).doc = .ok r' := hr'
        rw [List.filterMap_cons, hrow, List.mapM_cons, hread, hnew]
        rfl
      · change r'.columns :: new.map StoredRecord.columns =
          r.columns :: (SharedMove.savedOf ms).map StoredRecord.columns
        rw [hsame, ← hcolumns]
        rfl

/-- **What a query returns after a run**: the records that the filter accepts, of those that were
there at the beginning and those that were saved. -/
lemma listed_run (hH : H.Lawful) (hdb : H.Initial db) (hrun : H.run { db := db } ms = some s)
    (hfresh : PartialRun.Along H.step Shared.Fresh { db := db } ms)
    (hopened : .opened ∈ s.processes) {old : List (StoredRecord β)}
    (hold : db.rows.mapM (fun row => H.recordOf row.doc) = .ok old) (f : CallFilter)
    (ascending : Bool) :
    ∃ rs, H.iterAll s.db.rows f ascending = .ok rs ∧
      (rs.map StoredRecord.columns).Perm
        (((old ++ SharedMove.savedOf ms).filter f.accepts).map StoredRecord.columns) ∧
      ∀ groupBy, H.costSummary s.db.rows f groupBy = H.summaryOf rs groupBy := by
  obtain ⟨all, rs, hall, hrs, hperm, hsummary⟩ :=
    costSummary_of_agree (good_run hH hdb hrun hfresh hopened) f ascending
  refine ⟨rs, hrs, ?_, hsummary⟩
  obtain ⟨new, hnew, hsame⟩ := mapM_savedRow hH hrun
  -- the documents of the rows, in the order of the table
  have hdocs : s.db.rows.map Row.doc =
      (db.rows ++ ms.filterMap H.savedRow).map Row.doc := by
    have hmodels := withoutModels_run hrun fun pre m t hpre ht => hfresh.at hpre ht
    have hdoc := congrArg (List.map Row.doc) hmodels
    rw [← List.map_append, List.map_map, List.map_map] at hdoc
    exact hdoc
  have htable : s.db.rows.mapM (fun row => H.recordOf row.doc) = .ok (old ++ new) := by
    have hmap : ∀ rows : List Row, rows.mapM (fun row => H.recordOf row.doc) =
        (rows.map Row.doc).mapM H.recordOf := fun rows => by
      rw [List.mapM_map]
      rfl
    rw [hmap, hdocs, ← hmap, List.mapM_append, hold, hnew]
    rfl
  have hselected : s.db.rows.filter (CallFilter.selects {}) = s.db.rows :=
    List.filter_eq_self.mpr fun _ _ => rfl
  have hordered : s.db.rows.Perm
      (H.orderByTs ascending (s.db.rows.filter (CallFilter.selects {}))) := by
    rw [hselected]
    exact (List.perm_insertionSort _ _).symm
  obtain ⟨all', hall', hsameAll⟩ := List.mapM_perm hordered htable
  obtain rfl : all' = all := Except.ok.inj (hall'.symm.trans hall)
  have hfilter : ∀ xs : List (StoredRecord β), (xs.filter f.accepts).map StoredRecord.columns =
      (xs.map StoredRecord.columns).filter f.accepts := fun xs => by
    rw [List.filter_map]
    rfl
  have hcolumns : (old ++ new).map StoredRecord.columns =
      (old ++ SharedMove.savedOf ms).map StoredRecord.columns := by
    rw [List.map_append, List.map_append, hsame]
  refine (hperm.map _).trans (((hsameAll.symm.filter _).map _).trans ?_)
  rw [hfilter, hfilter, hcolumns]

end SqliteHost

end AgentCtl
