import AgentCtl.Library.Tally
import AgentCtl.Models

set_option relaxedAutoImplicit false
set_option autoImplicit false

/-!
# Metrics

`obs/metrics.py`: what a call adds to the counters of Prometheus. A counter refuses a negative
amount with an exception, and a count of tokens that is too large for a float; `record_call` ignores
every exception, and what comes after it is not counted. The client library is a parameter, and its
counters are exact numbers where the library holds floats.

## Main definitions

* `AgentCtl.PrometheusClient`, `PrometheusClient.Lawful` — the client library, and what it promises.
* `AgentCtl.PrometheusClient.recordRequest`, `recordCall` — `record_request` and `record_call`.
* `AgentCtl.CallRecord.share` — what a call adds.

## Main results

* `AgentCtl.PrometheusClient.adds_recordCall` — what `record_call` adds, whatever it raises inside.
-/

namespace AgentCtl

/-- The counters of `Metrics`. -/
inductive Family where
  | requestsTotal
  | tokensTotal
  | costUsdTotal
  | errorsTotal
  | cacheHitsTotal
  deriving DecidableEq

/-- A counter with its labels. -/
abbrev CounterKey := Family × List Str

/-- The client library: its state is `μ`. -/
structure PrometheusClient (μ : Type) where
  /-- `counter.labels(*labels).inc(amount)` -/
  inc : CounterKey → ℚ → μ → Except Exc Unit × μ
  /-- `request_duration_seconds.labels(provider).observe(seconds)` -/
  observe : Str → ℚ → μ → μ
  /-- The value of a counter, as it is exported. -/
  value : μ → CounterKey → ℚ

namespace PrometheusClient

variable {μ : Type} (C : PrometheusClient μ)

/-- A counter adds what is not negative and refuses what is; a histogram is no counter. -/
structure Lawful : Prop where
  inc_of_nonneg : ∀ k x m, 0 ≤ x → (C.inc k x m).1 = .ok ()
  value_of_nonneg : ∀ k x m k', 0 ≤ x →
    C.value (C.inc k x m).2 k' = C.value m k' + if k' = k then x else 0
  inc_of_neg : ∀ k x m, x < 0 → ∃ e, (C.inc k x m).1 = .error e
  value_of_neg : ∀ k x m k', x < 0 → C.value (C.inc k x m).2 k' = C.value m k'
  value_observe : ∀ p x m k, C.value (C.observe p x m) k = C.value m k

/-- `counter.labels(*labels).inc(amount)` -/
def add (family : Family) (labels : List Str) (x : ℚ) : Prog Exc μ Empty Unit := do
  let r ← Prog.modifyGet (C.inc (family, labels) x)
  Prog.ofExcept r

/-- `tokens_total.labels(*labels).inc(n)`: a count that is not refused is added to a float. -/
def addTokens (labels : List Str) (n : ℤ) : Prog Exc μ Empty Unit :=
  if 0 ≤ n && floatOverflows n then Prog.raise (.overflow "int too large to convert to float")
  else C.add .tokensTotal labels n

/-- `if cost_usd:` the cost is counted. -/
def addCost (model provider : Str) (cost : Option ℚ) : Prog Exc μ Empty Unit :=
  if cost.getD 0 = 0 then pure () else C.add .costUsdTotal [provider, model] (cost.getD 0)

/-- `if error_type:` the error is counted. -/
def addError (provider : Str) (errorType : Option ErrorType) : Prog Exc μ Empty Unit :=
  match errorType with
  | some e => C.add .errorsTotal [provider, e.text] 1
  | none => pure ()

/-- `Metrics.record_request` -/
def recordRequest (model provider : Str) (r : CallRecord) : Prog Exc μ Empty Unit := do
  C.add .requestsTotal [provider, model, r.status.text] 1
  Prog.modify (C.observe provider (r.latencyMs / 1000))
  C.addTokens [provider, model, Str.ofString "input"] r.inputTokens
  C.addTokens [provider, model, Str.ofString "output"] r.outputTokens
  C.addCost model provider r.costUsd
  C.addError provider r.errorType

/-- `Metrics.record_cache_hit` -/
def recordCacheHit : Prog Exc μ Empty Unit := C.add .cacheHitsTotal [] 1

/-- `if cache_hit:` the hit is counted. -/
def addCacheHit (cacheHit : Bool) : Prog Exc μ Empty Unit :=
  if cacheHit then C.recordCacheHit else pure ()

end PrometheusClient

/-- The labels `provider` and `model` of a call. -/
def CallRecord.labels (r : CallRecord) : Str × Str :=
  if r.cacheHit then ("cache", "cache")
  else
    match r.modelResolved with
    | none | some [] => ("none", "none")
    | some name =>
      let parts := Str.partition 47 name
      (parts.1, if parts.2.2 = [] then name else parts.2.2)

namespace PrometheusClient

variable {μ : Type} (C : PrometheusClient μ)

/-- `record_call`, with the client library installed: the fields of the call are those of the record
that `Capturer` saves. Every exception is ignored. -/
def recordCall (r : CallRecord) : Prog Exc μ Empty Unit := do
  let _ ← Prog.attempt do
    C.addCacheHit r.cacheHit
    C.recordRequest r.labels.2 r.labels.1 r

/-- The counters after some calls, one after the other. -/
def meterAll (rs : List CallRecord) (m : μ) : μ := rs.foldl (fun m r => (C.recordCall r).final m) m

end PrometheusClient

/-! ## What a call adds -/

/-- The share of one counter. -/
def oneCounter (family : Family) (labels : List Str) (x : ℚ) (k : CounterKey) : ℚ :=
  if k = (family, labels) then x else 0

/-- Adding nothing. -/
lemma oneCounter_zero (family : Family) (labels : List Str) : oneCounter family labels 0 = 0 := by
  funext k
  exact ite_self 0

/-- The counts of tokens that a counter takes. -/
def countable (n : ℤ) : Bool := 0 ≤ n && !floatOverflows n

namespace CallRecord

variable (r : CallRecord)

/-- The share of the error. -/
def shareOfError : CounterKey → ℚ :=
  match r.errorType with
  | some e => oneCounter .errorsTotal [r.labels.1, e.text] 1
  | none => 0

/-- What the call adds after its tokens. -/
def shareOfCost : CounterKey → ℚ :=
  if 0 ≤ r.costUsd.getD 0 then
    oneCounter .costUsdTotal [r.labels.1, r.labels.2] (r.costUsd.getD 0) + r.shareOfError
  else 0

/-- What the call adds from its output tokens on. -/
def shareOfOutput : CounterKey → ℚ :=
  if countable r.outputTokens then
    oneCounter .tokensTotal [r.labels.1, r.labels.2, Str.ofString "output"] r.outputTokens +
      r.shareOfCost
  else 0

/-- What the call adds from its tokens on. -/
def shareOfTokens : CounterKey → ℚ :=
  if countable r.inputTokens then
    oneCounter .tokensTotal [r.labels.1, r.labels.2, Str.ofString "input"] r.inputTokens +
      r.shareOfOutput
  else 0

/-- What the call adds to the counters: what comes after a refused amount is not counted. -/
def share : CounterKey → ℚ :=
  (if r.cacheHit then oneCounter .cacheHitsTotal [] 1 else 0) +
    (oneCounter .requestsTotal [r.labels.1, r.labels.2, r.status.text] 1 + r.shareOfTokens)

/-- Is the cost of the call counted? Nothing up to it may be refused. -/
def metered : Bool :=
  countable r.inputTokens && countable r.outputTokens && 0 ≤ r.costUsd.getD 0

end CallRecord

namespace PrometheusClient

open Prog

variable {μ : Type} {C : PrometheusClient μ}

/-- Adding what is not negative. -/
lemma adds_add (hC : C.Lawful) (family : Family) (labels : List Str) {x : ℚ} (hx : 0 ≤ x) :
    Adds C.value (C.add family labels x) true (oneCounter family labels x) := by
  intro m
  have hok := hC.inc_of_nonneg (family, labels) x m hx
  have hrun : (C.add family labels x).run m = (.ok (), (C.inc (family, labels) x m).2, []) := by
    unfold add
    rw [run_bind_ok (run_modifyGet _ m), run_ofExcept, hok]
    rfl
  unfold out final
  rw [hrun]
  exact ⟨rfl, fun k => hC.value_of_nonneg _ x m k hx⟩

/-- Adding what is negative raises. -/
lemma adds_add_neg (hC : C.Lawful) (family : Family) (labels : List Str) {x : ℚ} (hx : x < 0) :
    Adds C.value (C.add family labels x) false 0 := by
  intro m
  obtain ⟨e, he⟩ := hC.inc_of_neg (family, labels) x m hx
  have hrun : (C.add family labels x).run m = (.error e, (C.inc (family, labels) x m).2, []) := by
    unfold add
    rw [run_bind_ok (run_modifyGet _ m), run_ofExcept, he]
    rfl
  unfold out final
  rw [hrun]
  refine ⟨rfl, fun k => ?_⟩
  rw [Pi.zero_apply, add_zero]
  exact hC.value_of_neg _ x m k hx

/-- Observing a duration adds to no counter. -/
lemma adds_observe (hC : C.Lawful) (provider : Str) (x : ℚ) :
    Adds C.value (Prog.modify (C.observe provider x) : Prog Exc μ Empty Unit) true 0 := fun m =>
  ⟨rfl, fun k => (hC.value_observe provider x m k).trans (add_zero _).symm⟩

/-- Adding an amount, and what follows: nothing if it is negative. -/
lemma adds_add_bind (hC : C.Lawful) (family : Family) (labels : List Str) (x : ℚ)
    {p : Prog Exc μ Empty Unit} {returns : Bool} {d : CounterKey → ℚ}
    (hp : Adds C.value p returns d) :
    ∃ returns', Adds C.value (C.add family labels x >>= fun _ => p) returns'
      (if 0 ≤ x then oneCounter family labels x + d else 0) := by
  split
  · next hx => exact ⟨_, (adds_add hC family labels hx).bind fun _ => hp⟩
  · next hx => exact ⟨_, (adds_add_neg hC family labels (not_le.mp hx)).bind_raises⟩

/-- Raising adds nothing. -/
lemma adds_raise (e : Exc) : Adds C.value (Prog.raise e : Prog Exc μ Empty Unit) false 0 := fun _ =>
  ⟨rfl, fun _ => (add_zero _).symm⟩

/-- Adding tokens, and what follows. -/
lemma adds_addTokens (hC : C.Lawful) (labels : List Str) (n : ℤ) {p : Prog Exc μ Empty Unit}
    {returns : Bool} {d : CounterKey → ℚ} (hp : Adds C.value p returns d) :
    ∃ returns', Adds C.value (C.addTokens labels n >>= fun _ => p) returns'
      (if countable n then oneCounter .tokensTotal labels n + d else 0) := by
  unfold addTokens countable
  cases hover : floatOverflows n with
  | true =>
    by_cases hn : 0 ≤ n
    · exact ⟨_, by simpa [hn] using (adds_raise _).bind_raises⟩
    · have hneg : (n : ℚ) < 0 := Int.cast_lt_zero.mpr (not_le.mp hn)
      exact ⟨_, by simpa [hn] using (adds_add_neg hC .tokensTotal labels hneg).bind_raises⟩
  | false =>
    obtain ⟨returns', h⟩ := adds_add_bind hC .tokensTotal labels n hp
    exact ⟨returns', by simpa using h⟩

/-- The error. -/
lemma adds_addError (hC : C.Lawful) (r : CallRecord) :
    Adds C.value (C.addError r.labels.1 r.errorType) true r.shareOfError := by
  unfold addError CallRecord.shareOfError
  cases r.errorType with
  | none => exact .pure ()
  | some e => exact adds_add hC _ _ zero_le_one

/-- What is added after the tokens. -/
lemma adds_addCost (hC : C.Lawful) (r : CallRecord) :
    ∃ returns, Adds C.value (do
      C.addCost r.labels.2 r.labels.1 r.costUsd
      C.addError r.labels.1 r.errorType) returns r.shareOfCost := by
  unfold addCost CallRecord.shareOfCost
  by_cases hzero : r.costUsd.getD 0 = 0
  · rw [if_pos hzero, hzero, if_pos le_rfl, oneCounter_zero]
    exact ⟨_, (Adds.pure ()).bind fun _ => adds_addError hC r⟩
  · rw [if_neg hzero]
    exact adds_add_bind hC _ _ _ (adds_addError hC r)

/-- **What a call adds**, whatever is raised on the way; and nothing is raised. -/
lemma adds_recordCall (hC : C.Lawful) (r : CallRecord) :
    Adds C.value (C.recordCall r) true r.share := by
  obtain ⟨_, hcost⟩ := adds_addCost hC r
  obtain ⟨_, houtput⟩ := adds_addTokens hC
    [r.labels.1, r.labels.2, Str.ofString "output"] r.outputTokens hcost
  obtain ⟨_, hinput⟩ := adds_addTokens hC
    [r.labels.1, r.labels.2, Str.ofString "input"] r.inputTokens houtput
  have hobserved := (adds_observe hC r.labels.1 (r.latencyMs / 1000)).bind fun _ => hinput
  rw [zero_add] at hobserved
  have hrequest := (adds_add hC .requestsTotal [r.labels.1, r.labels.2, r.status.text]
    zero_le_one).bind fun _ => hobserved
  have hhit : Adds C.value (C.addCacheHit r.cacheHit) true
      (if r.cacheHit then oneCounter .cacheHitsTotal [] 1 else 0) := by
    unfold addCacheHit
    cases r.cacheHit with
    | true => exact adds_add hC _ _ zero_le_one
    | false => exact .pure ()
  have hall := (hhit.bind fun _ => hrequest).attempt.bind fun _ => Adds.pure ()
  rw [add_zero] at hall
  exact hall

end PrometheusClient

end AgentCtl
