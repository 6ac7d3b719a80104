import AgentCtl.Server.Ledger
import AgentCtl.Store.Deliveries

set_option relaxedAutoImplicit false
set_option autoImplicit false

/-!
# The budget and the report reconcile

A server charges its budget while it answers; the records of the calls go through the asynchronous
queue into the database, and the cost report is computed there. The three are different ledgers of
the same calls. They agree up to what is known to be under way or lost: the budget is the report
plus the costs of the records that are not yet put, are in the queue, were dropped, or could not be
saved.

This is said of runs in which no two calls of the gateway overlap, and of exact sums of finite
costs. In the source the budget is a running sum of floats, and SQLite sums the column with a
compensation of its own: for ten records of 0.1 the two differ in the last digit.

## Main definitions

* `AgentCtl.CallRecord.stored` — a record with its `id` and `ts`.
* `AgentCtl.PipelineRun` — runs of a server, a queue and a database that belong together.

## Main results

* `AgentCtl.PipelineRun.located` — where the records of the server are.
* `AgentCtl.ledgers_reconcile` — the budget and the report.
-/

namespace AgentCtl

/-- A record with its `id` and `ts`, as the store gets it. -/
def CallRecord.stored (r : CallRecord) (id : Str) (ts : ℚ) : StoredRecord CallRecord where
  id := id
  ts := ts
  consumer := r.consumer
  status := r.status.text
  modelRequested := r.modelRequested
  modelResolved := r.modelResolved
  inputTokens := r.inputTokens
  outputTokens := r.outputTokens
  costUsd := r.costUsd
  rest := r

/-- A server, the queue that its records go through, and the database behind it. What the server
saves is what `save` is called with, with an `id` of its own for each record, and what the worker
hands on is saved into the database, or its `save` raises an exception (`failed`). -/
structure PipelineRun {σ : Type} (S : HttpServer σ) (H : SqliteHost CallRecord) (w : World σ) where
  requests : List HttpMove
  hub : Hub σ
  hub_run : S.run { world := w } requests = some hub
  maxQueue : ℤ
  queueMoves : List (ReadMove (StoredRecord CallRecord))
  queue : ReadableStore (StoredRecord CallRecord)
  queue_run : ReadableStore.run { store := { maxQueue := maxQueue } } queueMoves = some queue
  db : Database
  db_empty : db.rows = []
  saves : List (SharedMove CallRecord)
  shared : Shared
  shared_run : H.run { db := db } saves = some shared
  failed : List (StoredRecord CallRecord)
  captured : ((ReadMove.askedOf queueMoves).map StoredRecord.rest).Perm (S.savedBy w hub.served)
  stamped : ∀ r ∈ ReadMove.askedOf queueMoves, r = r.rest.stored r.id r.ts
  ids : ((ReadMove.askedOf queueMoves).map StoredRecord.id).Nodup
  handed : queue.store.handed.Perm (SharedMove.savedOf saves ++ failed)

/-! ## Reports of costs -/

namespace SqliteHost

variable {β : Type} {H : SqliteHost β} {rows : List Row} {rs : List (StoredRecord β)}

/-- The filter of a report on one consumer. -/
lemma selects_consumer {c : Str} (hc : c ≠ []) (row : Row) :
    CallFilter.selects { consumer := some c } row = decide (row.consumer = some c) := by
  have hgiven : CallFilter.given (some c) = some c := by
    simp [CallFilter.given, Option.filter_some, hc]
  unfold CallFilter.selects CallFilter.filters
  rw [hgiven]
  change (Nullable.Holds (Nullable.eq row.consumer c) && true) = _
  rw [Bool.and_true]
  cases row.consumer with
  | none => rfl
  | some d => simp

/-- The rows of some consumers cost what their records do. -/
lemma sum_filter_charge (p : Option Str → Bool)
    (h : rows.map charge = rs.map fun r => (some r.consumer, r.costUsd)) :
    ((rows.filter fun row => p row.consumer).map fun row => row.costUsd.getD 0).sum =
      ((rs.filter fun r => p (some r.consumer)).map fun r => r.costUsd.getD 0).sum := by
  induction rows generalizing rs with
  | nil =>
    obtain rfl : rs = [] := List.map_eq_nil_iff.mp h.symm
    rfl
  | cons row rows ih =>
    cases rs with
    | nil => cases h
    | cons r rs =>
      obtain ⟨hrow, hrows⟩ := List.cons.inj h
      obtain ⟨hconsumer, hcost⟩ := Prod.mk.inj hrow
      rw [List.filter_cons, List.filter_cons, hconsumer]
      cases p (some r.consumer) with
      | true => simp [hcost, ih hrows]
      | false => simpa using ih hrows

/-- The total of the report on some consumers. -/
lemma totalCost_of_charges {f : CallFilter} {p : Option Str → Bool}
    (hf : ∀ row, f.selects row = p row.consumer)
    (h : rows.map charge = rs.map fun r => (some r.consumer, r.costUsd)) :
    ∃ t, H.costSummary rows f none = .ok (.totals t) ∧
      t.totalCostUsd = ((rs.filter fun r => p (some r.consumer)).map fun r => r.costUsd.getD 0).sum
    := by
  refine ⟨_, rfl, ?_⟩
  rw [← sum_filter_charge p h]
  unfold Totals.ofRows
  rw [Nullable.sum_getD, List.map_map, List.filter_congr fun row _ => hf row]
  rfl

end SqliteHost

namespace PipelineRun

variable {σ : Type} {S : HttpServer σ} {H : SqliteHost CallRecord} {w : World σ}
  (p : PipelineRun S H w)

/-! ## Where the records of the server are -/

/-- The records whose `save` was called and that are not in the database: not yet put, in the queue,
dropped, or not to be saved. -/
def missing (lost : List (StoredRecord CallRecord)) : List CallRecord :=
  (p.queue.store.pending ++ (p.queue.store.queued ++ (lost ++ p.failed))).map StoredRecord.rest

/-- **Where the records are**: in the database or missing. As many as the queue has counted are
lost. -/
lemma located : ∃ lost, lost.length = p.queue.store.dropped ∧
    (ReadMove.askedOf p.queueMoves).Perm (SharedMove.savedOf p.saves ++
      (p.queue.store.pending ++ (p.queue.store.queued ++ (lost ++ p.failed)))) := by
  classical
  obtain ⟨lost, hlength, hperm⟩ := ReadableStore.holds_run p.queue_run
  refine ⟨lost, hlength, List.perm_iff_count.mpr fun r => ?_⟩
  have hasked := hperm.count_eq r
  have hhanded := p.handed.count_eq r
  simp only [List.count_append] at hasked hhanded ⊢
  omega

/-- Every record that the server has saved is in the database or missing. -/
lemma savedBy_perm {lost : List (StoredRecord CallRecord)}
    (hlost : (ReadMove.askedOf p.queueMoves).Perm (SharedMove.savedOf p.saves ++
      (p.queue.store.pending ++ (p.queue.store.queued ++ (lost ++ p.failed))))) :
    (S.savedBy w p.hub.served).Perm
      ((SharedMove.savedOf p.saves).map StoredRecord.rest ++ p.missing lost) := by
  refine p.captured.symm.trans ?_
  rw [missing, ← List.map_append]
  exact hlost.map _

/-- What is in the database, as the rows tell it. -/
lemma charges {lost : List (StoredRecord CallRecord)}
    (hlost : (ReadMove.askedOf p.queueMoves).Perm (SharedMove.savedOf p.saves ++
      (p.queue.store.pending ++ (p.queue.store.queued ++ (lost ++ p.failed))))) :
    p.shared.db.rows.map SqliteHost.charge =
      (SharedMove.savedOf p.saves).map fun r => (some r.consumer, r.costUsd) := by
  have hids : ((SharedMove.savedOf p.saves).map StoredRecord.id).Nodup := by
    have hnodup := (hlost.map StoredRecord.id).nodup_iff.mp p.ids
    rw [List.map_append] at hnodup
    exact hnodup.of_append_left
  have hrows := congrArg (List.map Prod.snd)
    (SqliteHost.rows_of_savedOf p.shared_run p.db_empty hids)
  rwa [List.map_map, List.map_map] at hrows

/-- The records in the database have the consumers and the costs of the records of the server. -/
lemma saved_costs {lost : List (StoredRecord CallRecord)}
    (hlost : (ReadMove.askedOf p.queueMoves).Perm (SharedMove.savedOf p.saves ++
      (p.queue.store.pending ++ (p.queue.store.queued ++ (lost ++ p.failed)))))
    (q : Str → Bool) :
    (((SharedMove.savedOf p.saves).filter fun r => q r.consumer).map fun r =>
        r.costUsd.getD 0).sum =
      totalOf (((SharedMove.savedOf p.saves).map StoredRecord.rest).filter fun r =>
        q r.consumer) := by
  have hstamped : ∀ r ∈ SharedMove.savedOf p.saves, r = r.rest.stored r.id r.ts := fun r hr =>
    p.stamped r (hlost.mem_iff.mpr (List.mem_append_left _ hr))
  generalize SharedMove.savedOf p.saves = rs at hstamped
  unfold totalOf
  rw [List.filter_map, List.map_map]
  have hfilter : rs.filter (fun r => q r.consumer) =
      rs.filter ((fun r : CallRecord => q r.consumer) ∘ StoredRecord.rest) := by
    refine List.filter_congr fun r hr => ?_
    rw [hstamped r hr]
    rfl
  rw [hfilter]
  refine congrArg List.sum (List.map_congr_left fun r hr => ?_)
  rw [hstamped r (List.mem_of_mem_filter hr)]
  rfl

end PipelineRun

/-- **The ledgers reconcile.** At every moment of every run of a server whose budget and database
begin empty, in which no two of its gateway calls overlap, and in exact arithmetic: the total of the
budget is that of the report plus the costs of the missing records,
and the account of a consumer with a cap is the report on this consumer plus the costs of its
missing records. Of the missing records as many are lost as the queue has counted, and the others
are on their way or could not be saved. -/
theorem ledgers_reconcile {σ : Type} {S : HttpServer σ} {H : SqliteHost CallRecord} {w : World σ}
    (p : PipelineRun S H w) (hstore : S.gateway.hasStore = true)
    {caps : OrderedDict Str ℚ} {globalCap : Option ℚ} {maxConsumers : ℕ}
    (hw : w.budget = .fresh caps globalCap maxConsumers) :
    ∃ lost, lost.length = p.queue.store.dropped ∧
      (w.budget.enabled = true →
        ∃ t, H.costSummary p.shared.db.rows {} none = .ok (.totals t) ∧
          p.hub.world.budget.globalSpent = t.totalCostUsd + totalOf (p.missing lost)) ∧
      ∀ c cap, caps.get? c = some cap → c ≠ [] →
        ∃ t, H.costSummary p.shared.db.rows { consumer := some c } none = .ok (.totals t) ∧
          p.hub.world.budget.spentBy c = t.totalCostUsd + spentOf (p.missing lost) c := by
  obtain ⟨lost, hlength, hlost⟩ := p.located
  have hcharges := p.charges hlost
  have hperm := p.savedBy_perm hlost
  have hbudget : p.hub.world.budget =
      (BudgetGuard.fresh caps globalCap maxConsumers).enter (S.savedBy w p.hub.served) := by
    rw [HttpServer.budget_run hstore p.hub_run, hw]
  refine ⟨lost, hlength, fun henabled => ?_, fun c cap hcap hc => ?_⟩
  · obtain ⟨t, ht, hcost⟩ := SqliteHost.totalCost_of_charges (H := H) (f := {})
      (p := fun _ => true) (fun _ => rfl) hcharges
    refine ⟨t, ht, ?_⟩
    rw [hw] at henabled
    rw [hbudget, BudgetGuard.globalSpent_enter henabled, totalOf_perm hperm, totalOf_append, hcost,
      p.saved_costs hlost fun _ => true, List.filter_true]
  · obtain ⟨t, ht, hcost⟩ := SqliteHost.totalCost_of_charges (H := H)
      (f := { consumer := some c }) (p := fun o => o = some c) (SqliteHost.selects_consumer hc)
      hcharges
    refine ⟨t, ht, ?_⟩
    have hspent : ((BudgetGuard.fresh caps globalCap maxConsumers).enter
        (S.savedBy w p.hub.served)).spentBy c = spentOf (S.savedBy w p.hub.served) c :=
      (BudgetGuard.check_enter S.gateway.py hcap _).1
    rw [hbudget, hspent]
    unfold spentOf
    rw [totalOf_perm (hperm.filter _), List.filter_append, totalOf_append, hcost,
      ← p.saved_costs hlost fun consumer => consumer = c]
    simp only [Option.some.injEq]

/-! ## One record -/

/-- The record of the call that is made: an answer of the second target, after two failures. -/
def paidCall : CallRecord where
  latencyMs := 3200
  consumer := noUser
  callSite := none
  traceId := none
  modelRequested := "m"
  params := [("max_tokens", .int 1024), ("temperature", .null), ("has_tools", .bool false)]
  messagesRedacted := some [[("role", .str "user"), ("content", .str "hi")]]
  modelResolved := some "q/b"
  attempts := [⟨"p", "a", .retriable, 1000, some "busy"⟩, ⟨"p", "a", .retriable, 1000, some "busy"⟩,
    ⟨"q", "b", .success, 1000, none⟩]
  outputRedacted := some "hi"
  inputTokens := 10
  outputTokens := 20
  costUsd := some (1 / 20000)
  status := .fallbackSuccess
  errorType := none
  errorMessageRedacted := none
  lastError := none

/-- What is dumped of its attempts. -/
def paidAttempts : Json :=
  .arr [.obj [("provider", .str "p"), ("model", .str "a"), ("outcome", .str "retriable"),
      ("latency_ms", .int 1000), ("error", .str "busy")],
    .obj [("provider", .str "p"), ("model", .str "a"), ("outcome", .str "retriable"),
      ("latency_ms", .int 1000), ("error", .str "busy")],
    .obj [("provider", .str "q"), ("model", .str "b"), ("outcome", .str "success"),
      ("latency_ms", .int 1000), ("error", .null)]]

/-- Its instant as `repr` gives it. -/
lemma isRepr_paidTs : PyFloat.isRepr "0.0" = true := rfl

/-- Its cost as `repr` gives it. -/
lemma isRepr_paidCost : PyFloat.isRepr "5e-05" = true := rfl

/-- What is dumped of it under the id `1`, as a JSON object. -/
def paidFields : Dict :=
  [("id", .str "1"), ("ts", .float ⟨"0.0", isRepr_paidTs⟩), ("latency_ms", .int 3200),
    ("consumer", .str noUser), ("call_site", .null), ("trace_id", .null),
    ("model_requested", .str "m"), ("params", .obj paidCall.params),
    ("messages_redacted", .arr [.obj [("role", .str "user"), ("content", .str "hi")]]),
    ("prompt_version", .null), ("model_resolved", .str "q/b"), ("attempts", paidAttempts),
    ("output_redacted", .str "hi"), ("finish_reason", .null), ("tool_calls", .int 0),
    ("input_tokens", .int 10), ("output_tokens", .int 20),
    ("cost_usd", .float ⟨"5e-05", isRepr_paidCost⟩), ("cache_hit", .bool false),
    ("cache_key", .null), ("status", .str "fallback_success"),
    ("error_type", .null), ("error_message_redacted", .null), ("last_error", .null)]

/-- What is dumped of it under the id `1`, as a text. -/
def paidDoc : Str :=
  "\x7b\"id\":\"1\",\"ts\":0.0,\"latency_ms\":3200,\"consumer\":\"openai-compat-server\"," ++
    "\"call_site\":null,\"trace_id\":null,\"model_requested\":\"m\",\"params\":" ++
    "\x7b\"max_tokens\":1024,\"temperature\":null,\"has_tools\":false\x7d," ++
    "\"messages_redacted\":[\x7b\"role\":\"user\",\"content\":\"hi\"\x7d]," ++
    "\"prompt_version\":null,\"model_resolved\":\"q/b\",\"attempts\":[" ++
    "\x7b\"provider\":\"p\",\"model\":\"a\",\"outcome\":\"retriable\",\"latency_ms\":1000," ++
    "\"error\":\"busy\"\x7d," ++
    "\x7b\"provider\":\"p\",\"model\":\"a\",\"outcome\":\"retriable\",\"latency_ms\":1000," ++
    "\"error\":\"busy\"\x7d," ++
    "\x7b\"provider\":\"q\",\"model\":\"b\",\"outcome\":\"success\",\"latency_ms\":1000," ++
    "\"error\":null\x7d],\"output_redacted\":\"hi\",\"finish_reason\":null,\"tool_calls\":0," ++
    "\"input_tokens\":10,\"output_tokens\":20,\"cost_usd\":5e-5,\"cache_hit\":false," ++
    "\"cache_key\":null,\"status\":\"fallback_success\",\"error_type\":null," ++
    "\"error_message_redacted\":null,\"last_error\":null\x7d"

/-- The code outside, for a database with this record under the id `1`. -/
def paidCallHost : SqliteHost CallRecord where
  py := { Runtime.plain with
    loads := fun s =>
      if s = paidDoc then .ok (.obj paidFields)
      else Runtime.plain.loads s }
  validate data :=
    match Dict.get data "id" with
    | .str id =>
      if id = "1" then .ok (paidCall.stored "1" 0)
      else .error ⟨.other "ValidationError", "1 validation error for CallRecord", none⟩
    | _ => .error ⟨.other "ValidationError", "1 validation error for CallRecord", none⟩
  dumpJson r :=
    if r.id = "1" then .ok paidDoc
    else .error ⟨.other "PydanticSerializationError", "", none⟩
  realText x := x.repr
  date ts := if ts = 0 then some "1970-01-01" else none
  tie _ := 0

/-- An open that runs to its end, and a save. -/
def openAndSave (r : StoredRecord CallRecord) : List (SharedMove CallRecord) :=
  .start :: List.replicate 13 (.exec 0) ++ [.save 0 r]

/-- A record that goes through the queue. -/
def passOn (r : StoredRecord CallRecord) : List (ReadMove (StoredRecord CallRecord)) :=
  [.store (.save r), .store (.put 0), .store .take, .store .saved]

/-- The record of the one call that is made reaches the database, and the report on its consumer is
what the budget has charged. -/
theorem ledgers_reconcile_threeRequests :
    ∃ (p : PipelineRun tokenServer paidCallHost { failThenAnswer with budget := narrowBudget })
      (lost : List (StoredRecord CallRecord)) (t : Totals),
      p.requests = threeRequests ∧ p.shared.db.rows.length = 1 ∧ lost = [] ∧
        paidCallHost.costSummary p.shared.db.rows { consumer := some noUser } none =
          .ok (.totals t) ∧
        p.hub.world.budget.spentBy noUser = t.totalCostUsd + spentOf (p.missing lost) noUser := by
  have hlength : (tokenServer.run { world := { failThenAnswer with budget := narrowBudget } }
      threeRequests).map (fun h =>
        (tokenServer.savedBy { failThenAnswer with budget := narrowBudget } h.served).length) =
      some 1 := by decide +kernel
  obtain ⟨h, hrun, hone⟩ := Option.map_eq_some_iff.mp hlength
  obtain ⟨rec, hrec⟩ := List.length_eq_one_iff.mp hone
  let r := rec.stored "1" 0
  let p : PipelineRun tokenServer paidCallHost { failThenAnswer with budget := narrowBudget } :=
    { requests := threeRequests
      hub := h
      hub_run := hrun
      maxQueue := 0
      queueMoves := passOn r
      queue := _
      queue_run := rfl
      db := {}
      db_empty := rfl
      saves := openAndSave r
      shared := _
      shared_run := rfl
      failed := []
      captured := by
        rw [hrec]
        exact List.Perm.refl _
      stamped := by
        intro r' hr'
        obtain rfl := List.mem_singleton.mp hr'
        rfl
      ids := List.nodup_singleton _
      handed := List.Perm.refl _ }
  obtain ⟨lost, hlost, -, hcapped⟩ := ledgers_reconcile p rfl rfl
  obtain ⟨t, ht, hspent⟩ := hcapped noUser (1 / 10000) rfl (by decide)
  exact ⟨p, lost, t, rfl, rfl, List.length_eq_zero_iff.mp hlost, ht, hspent⟩

end AgentCtl
