import AgentCtl.Obs.Metrics
import AgentCtl.Server.Ledger
import Mathlib.Algebra.BigOperators.Group.Finset.Piecewise

set_option relaxedAutoImplicit false
set_option autoImplicit false

/-!
# The metrics and the budget

`Capturer` charges the budget and calls `record_call` with the fields of the record that it saves.
So the counters of a server are a third ledger of its calls: every call is counted once under its
labels and its status, and the cost counters add up to the budget, but for calls whose counting was
cut short by an amount that a counter refuses. Costs are exact numbers here; the floats of the
source are summed in another order by the counters than by the budget, and the sums may differ in
their last digits.

## Main results

* `AgentCtl.PrometheusClient.value_meterAll` — the counters after some calls.
* `AgentCtl.metrics_match_budget` — the counters and the budget of a server.
-/

namespace AgentCtl

/-- Statuses are told apart by their texts. -/
lemma Status.text_injective : Function.Injective Status.text := by
  intro a b h
  cases a <;> cases b <;> first | rfl | exact absurd h (by decide)

/-- The counter of another family. -/
lemma oneCounter_of_ne {family : Family} {k : CounterKey} (h : k.1 ≠ family) (labels : List Str)
    (x : ℚ) : oneCounter family labels x k = 0 :=
  if_neg fun heq => h (congrArg Prod.fst heq)

namespace CallRecord

variable (r : CallRecord) {k : CounterKey}

/-- Errors are counted in their own counters. -/
lemma shareOfError_of_ne (h : k.1 ≠ .errorsTotal) : r.shareOfError k = 0 := by
  unfold shareOfError
  cases r.errorType with
  | none => rfl
  | some e => exact oneCounter_of_ne h _ _

/-- What comes from the cost on, in a counter that is not of errors. -/
lemma shareOfCost_of_ne (h : k.1 ≠ .errorsTotal) :
    r.shareOfCost k = if 0 ≤ r.costUsd.getD 0 then
      oneCounter .costUsdTotal [r.labels.1, r.labels.2] (r.costUsd.getD 0) k else 0 := by
  unfold shareOfCost
  split
  · rw [Pi.add_apply, r.shareOfError_of_ne h, add_zero]
  · rfl

/-- What comes from the tokens on, in a counter that is not of tokens. -/
lemma shareOfTokens_of_ne (h : k.1 ≠ .tokensTotal) :
    r.shareOfTokens k =
      if countable r.inputTokens ∧ countable r.outputTokens then r.shareOfCost k else 0 := by
  unfold shareOfTokens shareOfOutput
  by_cases hinput : countable r.inputTokens
  · by_cases houtput : countable r.outputTokens
    · rw [if_pos hinput, if_pos houtput, if_pos ⟨hinput, houtput⟩, Pi.add_apply, Pi.add_apply,
        oneCounter_of_ne h, oneCounter_of_ne h, zero_add, zero_add]
    · rw [if_pos hinput, if_neg houtput, if_neg fun hand => houtput hand.2, Pi.add_apply,
        oneCounter_of_ne h, zero_add]
      rfl
  · rw [if_neg hinput, if_neg fun hand => hinput hand.1]
    rfl

/-- What a call adds to a counter that is not of cache hits. -/
lemma share_of_ne (h : k.1 ≠ .cacheHitsTotal) :
    r.share k = oneCounter .requestsTotal [r.labels.1, r.labels.2, r.status.text] 1 k +
      r.shareOfTokens k := by
  have hhit : (if r.cacheHit then oneCounter .cacheHitsTotal [] 1 else 0 : CounterKey → ℚ) k =
      0 := by
    cases r.cacheHit with
    | true => exact oneCounter_of_ne h _ _
    | false => rfl
  unfold share
  rw [Pi.add_apply, Pi.add_apply, hhit, zero_add]

/-- What a call adds to a counter of requests: one, if the labels and the status are its own. -/
lemma share_requests (provider model : Str) (status : Status) :
    r.share (.requestsTotal, [provider, model, status.text]) =
      if r.labels = (provider, model) ∧ r.status = status then 1 else 0 := by
  have hcost : oneCounter .costUsdTotal [r.labels.1, r.labels.2] (r.costUsd.getD 0)
      (.requestsTotal, [provider, model, status.text]) = 0 := oneCounter_of_ne (by simp) _ _
  rw [r.share_of_ne (by simp), r.shareOfTokens_of_ne (by simp), r.shareOfCost_of_ne (by simp),
    hcost, ite_self, ite_self, add_zero]
  unfold oneCounter
  refine if_congr ?_ rfl rfl
  have hstatus : status.text = r.status.text ↔ r.status = status :=
    Status.text_injective.eq_iff.trans eq_comm
  simp [Prod.ext_iff, hstatus, eq_comm, and_assoc]

/-- What a call adds to a counter of costs: its cost, if the labels are its own and the counting
gets so far. -/
lemma share_cost (q : Str × Str) :
    r.share (.costUsdTotal, [q.1, q.2]) =
      if q = r.labels then (if r.metered then r.costUsd.getD 0 else 0) else 0 := by
  rw [r.share_of_ne (by simp), r.shareOfTokens_of_ne (by simp), r.shareOfCost_of_ne (by simp),
    oneCounter_of_ne (by simp), zero_add]
  have hlabels : ((Family.costUsdTotal, [q.1, q.2]) : CounterKey) =
      (.costUsdTotal, [r.labels.1, r.labels.2]) ↔ q = r.labels := by
    simp [Prod.ext_iff]
  unfold oneCounter metered
  rw [if_congr hlabels rfl rfl]
  by_cases hq : q = r.labels
  · simp [hq, and_assoc, ite_and]
  · simp [hq]

end CallRecord

/-! ## The counters after some calls -/

namespace PrometheusClient

variable {μ : Type} {C : PrometheusClient μ}

/-- **The counters after some calls**: every call has added its share. -/
lemma value_meterAll (hC : C.Lawful) (rs : List CallRecord) (m : μ) (k : CounterKey) :
    C.value (C.meterAll rs m) k = C.value m k + (rs.map fun r => r.share k).sum :=
  Prog.Adds.foldl (fun r => adds_recordCall hC r) rs m k

/-- The counters of requests count the calls. -/
lemma sum_share_requests (rs : List CallRecord) (provider model : Str) (status : Status) :
    (rs.map fun r => r.share (.requestsTotal, [provider, model, status.text])).sum =
      (rs.countP fun r => r.labels = (provider, model) ∧ r.status = status : ℚ) := by
  induction rs with
  | nil => rfl
  | cons r rs ih =>
    rw [List.map_cons, List.sum_cons, ih, r.share_requests, List.countP_cons]
    by_cases h : r.labels = (provider, model) ∧ r.status = status
    · simp [h, add_comm]
    · simp [h]

/-- The counters of costs add up to the costs that are counted. -/
lemma sum_share_cost (rs : List CallRecord) {pairs : Finset (Str × Str)}
    (hpairs : ∀ r ∈ rs, r.labels ∈ pairs) :
    ∑ q ∈ pairs, (rs.map fun r => r.share (.costUsdTotal, [q.1, q.2])).sum =
      totalOf (rs.filter CallRecord.metered) := by
  induction rs with
  | nil => simp [totalOf]
  | cons r rs ih =>
    obtain ⟨hr, hrs⟩ := List.forall_mem_cons.mp hpairs
    simp only [List.map_cons, List.sum_cons, Finset.sum_add_distrib, ih hrs, r.share_cost]
    rw [Finset.sum_ite_eq', if_pos hr, List.filter_cons]
    cases r.metered with
    | true => simp [totalOf]
    | false => simp

end PrometheusClient

/-! ## The counters and the budget -/

/-- **The metrics match the budget.** Whatever requests a server with a store gets, in runs in which
no two of its gateway calls overlap, and in exact arithmetic: each of its calls is counted in the
counter of requests with its labels and its status, once, whatever is raised later on; and the
counters of costs add up to the total of the budget, but for the costs of calls that are not counted
because a counter refuses an amount. -/
theorem metrics_match_budget {σ : Type} {S : HttpServer σ} (hstore : S.gateway.hasStore = true)
    {caps : OrderedDict Str ℚ} {globalCap : Option ℚ} {maxConsumers : ℕ}
    {w : World σ} (hw : w.budget = .fresh caps globalCap maxConsumers)
    (henabled : w.budget.enabled = true)
    {ms : List HttpMove} {h : Hub σ} (hrun : S.run { world := w } ms = some h)
    {μ : Type} {C : PrometheusClient μ} (hC : C.Lawful) {m : μ} (hm : ∀ k, C.value m k = 0) :
    let rs := S.savedBy w h.served
    (∀ provider model status,
      C.value (C.meterAll rs m) (.requestsTotal, [provider, model, Status.text status]) =
        (rs.countP fun r => r.labels = (provider, model) ∧ r.status = status : ℚ)) ∧
      ∀ pairs : Finset (Str × Str), (∀ r ∈ rs, r.labels ∈ pairs) →
        ∑ q ∈ pairs, C.value (C.meterAll rs m) (.costUsdTotal, [q.1, q.2]) +
            totalOf (rs.filter fun r => !r.metered) = h.world.budget.globalSpent := by
  intro rs
  have htotal : h.world.budget.globalSpent = totalOf rs := by
    rw [hw] at henabled
    rw [HttpServer.budget_run hstore hrun, hw]
    exact BudgetGuard.globalSpent_enter henabled rs
  refine ⟨fun provider model status => ?_, fun pairs hpairs => ?_⟩
  · rw [PrometheusClient.value_meterAll hC, hm, zero_add]
    exact PrometheusClient.sum_share_requests rs provider model status
  · have hsum : ∑ q ∈ pairs, C.value (C.meterAll rs m) (.costUsdTotal, [q.1, q.2]) =
        totalOf (rs.filter CallRecord.metered) := by
      rw [← PrometheusClient.sum_share_cost rs hpairs]
      refine Finset.sum_congr rfl fun q _ => ?_
      rw [PrometheusClient.value_meterAll hC, hm, zero_add]
    rw [hsum, htotal, ← totalOf_append]
    exact totalOf_perm (List.filter_append_perm _ rs)

/-- Counters as a table. -/
def tableClient : PrometheusClient (CounterKey → ℚ) where
  inc k x m :=
    if x < 0 then
      (.error ⟨.valueError, "Counters can only be incremented by non-negative amounts.", none⟩, m)
    else (.ok (), fun k' => m k' + if k' = k then x else 0)
  observe _ _ m := m
  value m k := m k

/-- The table keeps the promises. -/
lemma lawful_tableClient : tableClient.Lawful where
  inc_of_nonneg k x m hx := by simp [tableClient, not_lt.mpr hx]
  value_of_nonneg k x m k' hx := by simp [tableClient, not_lt.mpr hx]
  inc_of_neg k x m hx := ⟨_, by simp only [tableClient, if_pos hx]; rfl⟩
  value_of_neg k x m k' hx := by simp [tableClient, hx]
  value_observe _ _ _ _ := rfl

/-- The one call that is made is counted once, and the counter of its cost is the budget's total. -/
theorem metrics_match_budget_threeRequests :
    ∃ h rs, tokenServer.run { world := { failThenAnswer with budget := narrowBudget } }
        threeRequests = some h ∧
      rs = tokenServer.savedBy { failThenAnswer with budget := narrowBudget } h.served ∧
      tableClient.value (tableClient.meterAll rs fun _ => 0)
        (.requestsTotal, ["q", "b", Status.text .fallbackSuccess]) = 1 ∧
      ∑ q ∈ {(Str.ofString "q", Str.ofString "b")},
          tableClient.value (tableClient.meterAll rs fun _ => 0) (.costUsdTotal, [q.1, q.2]) =
        h.world.budget.globalSpent := by
  have hrecord : (tokenServer.run { world := { failThenAnswer with budget := narrowBudget } }
      threeRequests).map (fun h =>
        (tokenServer.savedBy { failThenAnswer with budget := narrowBudget } h.served).map fun r =>
          (r.labels, r.status, r.metered)) =
      some [((Str.ofString "q", Str.ofString "b"), .fallbackSuccess, true)] := by decide +kernel
  obtain ⟨h, hrun, hrecord⟩ := Option.map_eq_some_iff.mp hrecord
  obtain ⟨r, hr, hfields⟩ := List.map_eq_singleton_iff.mp hrecord
  obtain ⟨hlabels, hrest⟩ := Prod.mk.inj hfields
  obtain ⟨hstatus, hmetered⟩ := Prod.mk.inj hrest
  obtain ⟨hrequests, hcosts⟩ := metrics_match_budget rfl rfl rfl hrun lawful_tableClient
    (m := fun _ => 0) fun _ => rfl
  refine ⟨h, [r], hrun, hr.symm, ?_, ?_⟩
  · have hone := hrequests "q" "b" .fallbackSuccess
    rw [hr] at hone
    simpa [hlabels, hstatus] using hone
  · have hall := hcosts {(Str.ofString "q", Str.ofString "b")} fun r' hr' => by
      rw [hr] at hr'
      rw [List.mem_singleton.mp hr', hlabels]
      exact Finset.mem_singleton_self _
    rw [hr] at hall
    simpa [hmetered, totalOf] using hall

end AgentCtl
