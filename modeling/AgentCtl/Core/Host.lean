import AgentCtl.Library.Prog
import AgentCtl.Core.Budget
import AgentCtl.Core.Circuit
import AgentCtl.Core.Router
import AgentCtl.Providers.Base
import AgentCtl.Store.Redaction
import Mathlib.Tactic.NormNum
import Mathlib.Algebra.Order.Ring.Rat

set_option relaxedAutoImplicit false
set_option autoImplicit false

/-!
# The gateway's inner surface

What the three runners share (`core/_host.py`, the guards of `core/gateway.py`, and
`core/capture.py`): the gateway's configuration, the state a call works on, the events it emits,
the guards, and the capturer. Everything outside the gateway (clock, sleeping, randomness,
providers, cache) acts on a world `σ` of which nothing is known. Log lines and metrics are left
out; a log line reads the clock once more, for its own text only.

## Main definitions

* `AgentCtl.Gateway` — the configuration of a gateway.
* `AgentCtl.World` — the state of a call: the outside world, breaker, budget, attempts, and how
  many more chunks the consumer of a stream takes.
* `AgentCtl.Event`, `AgentCtl.Call` — what a call does that can be seen, and programs over it.
* `AgentCtl.Gateway.timeoutWithin`, `deadlineExceeded`, `circuitBlocked` — the guards.
* `AgentCtl.Gateway.record`, `recordEmbed` — `Capturer.record` and `record_embed`.
-/

namespace AgentCtl

/-- Clock, sleep and randomness of the process. -/
structure Outside (σ : Type) where
  /-- `time.monotonic()` -/
  monotonic : σ → ℚ × σ
  /-- `time.sleep(d)` -/
  sleep : ℚ → σ → σ
  /-- `random.uniform(a, b)` -/
  uniform : ℚ → ℚ → σ → ℚ × σ

/-- The cache protocol; a cache may raise. -/
structure Cache (σ : Type) where
  get : Str → σ → Except Exc (Option NormalizedResponse) × σ
  set : Str → NormalizedResponse → ℤ → σ → Except Exc Unit × σ

/-- `RetryConfig`, with the bounds its fields are validated against. -/
structure RetryConfig where
  maxAttemptsPerTarget : ℕ := 2
  baseBackoffS : ℚ := 1 / 5
  timeoutS : ℚ := 60
  jitterRatio : ℚ := 1 / 5
  one_le_maxAttempts : 1 ≤ maxAttemptsPerTarget := by decide
  baseBackoff_nonneg : 0 ≤ baseBackoffS := by norm_num
  timeout_pos : 0 < timeoutS := by norm_num
  jitter_nonneg : 0 ≤ jitterRatio := by norm_num
  jitter_le_one : jitterRatio ≤ 1 := by norm_num

/-- The configuration with all its defaults. -/
def RetryConfig.defaults : RetryConfig := {}

/-- A gateway: everything about it that a call does not change. -/
structure Gateway (σ : Type) where
  py : Runtime
  outside : Outside σ
  router : Router
  providers : OrderedDict Str (Provider σ)
  costMeter : CostMeter
  /-- Is there a capture store? -/
  hasStore : Bool := true
  cache : Option (Cache σ) := none
  retry : RetryConfig := RetryConfig.defaults
  cacheEnabled : Bool := true
  cacheTtlS : ℤ := 600
  cacheToolResponses : Bool := false
  requestDeadlineS : ℚ := 0

/-- The state of a call. `patience` is the number of chunks the consumer of a stream still takes
before it closes the generator; `none` means that it drains it. -/
structure World (σ : Type) where
  outer : σ
  circuit : CircuitBreaker := {}
  budget : BudgetGuard := {}
  attempts : List Attempt := []
  patience : Option ℕ := none

/-- The arguments of one `Capturer.record` call. -/
structure Captured where
  modelResolved : Option Str := none
  attempts : List Attempt
  resp : Option NormalizedResponse := none
  status : Status := .error
  cacheHit : Bool := false
  cacheKey : Option Str := none
  errorType : Option ErrorType := none
  errorMessage : Option Str := none

/-- The arguments of one `Capturer.record_embed` call. -/
structure CapturedEmbed where
  modelResolved : Option Str := none
  attempts : List Attempt
  resp : Option EmbeddingResponse := none
  status : Status := .error
  errorType : Option ErrorType := none
  errorMessage : Option Str := none

/-- The timeout of an attempt, and the reading of the clock it was computed from. -/
structure TimeoutSlot where
  timeout : ℚ
  readAt : Option ℚ

/-- What one `next` on a provider's stream gives: a value, the end, or an exception. -/
inductive Pull where
  | chunk (c : Option StreamChunk)
  | stop
  | raised (e : Exc)

/-- What a call does that can be seen from outside. -/
inductive Event (σ : Type) where
  /-- A call of `provider.invoke`, and what came of it. -/
  | call (target : Target) (slot : TimeoutSlot) (out : Except Exc NormalizedResponse)
  /-- A call of `provider.embed`. -/
  | embedCall (target : Target) (slot : TimeoutSlot) (out : Except Exc EmbeddingResponse)
  /-- A call of `provider.stream`, and the exception it raised, if any. -/
  | streamCall (target : Target) (slot : TimeoutSlot) (raised : Option Exc)
  /-- A `next` on the stream of a target; `first` marks the one before the chunk loop. -/
  | pull (target : Target) (first : Bool) (r : Pull)
  /-- A reading of the clock between two chunks of a stream that finds the deadline passed. -/
  | late (now : ℚ)
  /-- A sleep of `d` seconds, begun in the world `s`. -/
  | sleep (d : ℚ) (s : σ)
  /-- A breaker report: success or failure of a provider. -/
  | report (provider : Str) (ok : Bool)
  /-- `Capturer.record` was called. -/
  | record (c : Captured)
  /-- `Capturer.record_embed` was called. -/
  | recordEmbed (c : CapturedEmbed)
  /-- The store's `save` was called. -/
  | save (r : CallRecord)
  /-- A chunk was handed to the consumer. -/
  | deliver (c : StreamChunk)
  /-- The consumer closed the generator at the chunk just delivered. -/
  | close

/-- Programs of the gateway. -/
abbrev Call (σ α : Type) := Prog Exc (World σ) (Event σ) α

variable {σ α : Type}

/-- Act on the outside world. -/
def outsideDo (f : σ → α × σ) : Call σ α :=
  Prog.modifyGet fun w => ((f w.outer).1, { w with outer := (f w.outer).2 })

/-- Append to the attempts of the call. -/
def addAttempt (a : Attempt) : Call σ Unit :=
  Prog.modify fun w => { w with attempts := w.attempts ++ [a] }

namespace Gateway

variable (G : Gateway σ)

/-- `time.monotonic()` -/
def monotonic : Call σ ℚ := outsideDo G.outside.monotonic

/-- `time.sleep(d)`. It counts nanoseconds in 64 bits and raises an `OverflowError` for a pause of
more than 292 years; such pauses are outside the model. -/
def sleep (d : ℚ) : Call σ Unit := do
  let s ← Prog.gets World.outer
  Prog.emit (.sleep d s)
  outsideDo fun s => ((), G.outside.sleep d s)

/-- `int(x)` of a float: towards zero. -/
def truncate (x : ℚ) : ℤ := x.num.tdiv x.den

/-- `int((time.monotonic() - started) * 1000)` -/
def latencySince (started : ℚ) : Call σ ℤ := do
  let now ← G.monotonic
  return truncate ((now - started) * 1000)

/-- Append the attempt of a provider call, with its latency. -/
def recordAttempt (target : Target) (outcome : AttemptOutcome) (started : ℚ) (error : Option Str) :
    Call σ Unit := do
  let latency ← G.latencySince started
  addAttempt ⟨target.provider, target.model, outcome, latency, error⟩

/-- `_attempt` with `t0 = 0`: an attempt that took no time. -/
def recordGuard (target : Target) (outcome : AttemptOutcome) (error : Str) : Call σ Unit :=
  addAttempt ⟨target.provider, target.model, outcome, 0, some error⟩

/-- `_attempt` with a start time: a start at zero counts as none. -/
def recordStreamAttempt (target : Target) (outcome : AttemptOutcome) (started : ℚ)
    (error : Option Str) : Call σ Unit :=
  if started = 0 then addAttempt ⟨target.provider, target.model, outcome, 0, error⟩
  else G.recordAttempt target outcome started error

/-! ## Breaker and budget -/

/-- A reading of the clock that only some branches take. -/
def monotonicIf (needed : Bool) : Call σ ℚ := if needed then G.monotonic else pure 0

/-- `self._circuit.allow(provider)` -/
def circuitAllow (provider : Str) : Call σ Bool := do
  let cb ← Prog.gets World.circuit
  let now ← G.monotonicIf (cb.isOpen provider)
  Prog.modify fun w => { w with circuit := (cb.allow provider now).2 }
  return (cb.allow provider now).1

/-- `self._circuit.record_success(provider)` -/
def reportSuccess (provider : Str) : Call σ Unit := do
  Prog.modify fun w => { w with circuit := w.circuit.recordSuccess provider }
  Prog.emit (.report provider true)

/-- `self._circuit.record_failure(provider)` -/
def reportFailure (provider : Str) : Call σ Unit := do
  let cb ← Prog.gets World.circuit
  let now ← G.monotonicIf (cb.failureReadsClock provider)
  Prog.modify fun w => { w with circuit := cb.recordFailure provider now }
  Prog.emit (.report provider false)

/-- `self._budget.check(consumer)` -/
def budgetCheck (consumer : Str) : Call σ Unit := do
  let b ← Prog.gets World.budget
  Prog.ofExcept (b.check G.py consumer)

/-! ## Guards -/

/-- `_deadline_for` -/
def deadlineFor (started : ℚ) : Option ℚ :=
  if 0 < G.requestDeadlineS then some (started + G.requestDeadlineS) else none

/-- `_timeout_within`: the configured timeout, cut to what remains of the deadline; `none` once
the deadline has passed. -/
def timeoutWithin (deadline : Option ℚ) : Call σ (Option TimeoutSlot) :=
  match deadline with
  | none => pure (some ⟨G.retry.timeoutS, none⟩)
  | some d => do
    let now ← G.monotonic
    return if d - now ≤ 0 then none else some ⟨min G.retry.timeoutS (d - now), some now⟩

/-- `_deadline_exceeded`: has the deadline passed before the target is tried? -/
def deadlineExceeded (target : Target) (deadline : Option ℚ) : Call σ Bool :=
  match deadline with
  | none => pure false
  | some d => do
    let now ← G.monotonic
    if d ≤ now then
      recordGuard target .deadline "request deadline exceeded"
      return true
    else return false

/-- `_circuit_blocked`: is the target's provider open? -/
def circuitBlocked (target : Target) : Call σ Bool := do
  let allowed ← G.circuitAllow target.provider
  if allowed then return false
  else
    recordGuard target .circuitOpen "circuit open"
    return true

/-- `_backoff_s`, in exact arithmetic. From `n = 1024` on `2 ** n` is too large for a float, and the
multiplication raises an `OverflowError`: such pauses are outside the model. -/
def backoff (n : ℕ) : Call σ ℚ := do
  let base := G.retry.baseBackoffS * 2 ^ n
  if base ≤ 0 ∨ G.retry.jitterRatio ≤ 0 then return base
  else
    let jitter := base * G.retry.jitterRatio
    let x ← outsideDo (G.outside.uniform (base - jitter) (base + jitter))
    return max 0 x

/-! ## Capture -/

/-- `_safe_cost`: no model, no cost; a refusal of the meter counts as no cost. -/
def safeCost (modelResolved : Option Str) (inputTokens outputTokens : ℤ) : Option ℚ :=
  match modelResolved with
  | none => none
  | some [] => none
  | some model =>
    match G.costMeter.cost model inputTokens outputTokens with
    | .ok c => c
    | .error _ => none

/-- `redact(attempts[-1].error) if attempts else None` -/
def lastError (attempts : List Attempt) : Option Str :=
  (attempts.getLast?.bind Attempt.error).map (redact G.py)

/-- `redact(error_message) if error_message else None` -/
def redactMessage (message : Option Str) : Option Str :=
  match message with
  | none => none
  | some [] => none
  | some m => some (redact G.py m)

/-- The cost that `record` charges: nothing for a cache hit, nothing without a response. -/
def capturedCost (c : Captured) : Option ℚ :=
  if c.cacheHit then some 0
  else
    match c.resp with
    | none => none
    | some resp => G.safeCost c.modelResolved resp.inputTokens resp.outputTokens

/-- A float, or `None`. -/
def optionFloat : Option PyFloat → Json
  | some x => .float x
  | none => .null

/-- The record that `record` saves. -/
def callRecord (request : NormalizedRequest) (latency : ℤ) (c : Captured) : CallRecord :=
  { latencyMs := latency, consumer := request.metadata.consumerName,
    callSite := request.metadata.callSite, traceId := request.metadata.traceId,
    modelRequested := request.model,
    params := [("max_tokens", .int request.maxTokens),
      ("temperature", optionFloat request.temperature),
      ("has_tools", .bool (!(request.tools.getD []).isEmpty))],
    messagesRedacted := some (redactMessages G.py request.messages),
    promptVersion := request.metadata.promptVersion, modelResolved := c.modelResolved,
    attempts := c.attempts,
    outputRedacted := c.resp.map fun r => redact G.py r.text,
    finishReason := c.resp.bind NormalizedResponse.finishReason,
    toolCalls := (c.resp.map NormalizedResponse.toolCalls).getD 0,
    inputTokens := (c.resp.map NormalizedResponse.inputTokens).getD 0,
    outputTokens := (c.resp.map NormalizedResponse.outputTokens).getD 0,
    costUsd := G.capturedCost c, cacheHit := c.cacheHit, cacheKey := c.cacheKey,
    status := c.status, errorType := c.errorType,
    errorMessageRedacted := G.redactMessage c.errorMessage, lastError := G.lastError c.attempts }

/-- Charge the budget, then save the record if there is a store (`_meter`, `_persist`). -/
def meterAndPersist (consumer : Str) (cost : Option ℚ) (rec : CallRecord) : Call σ Unit := do
  Prog.modify fun w => { w with budget := w.budget.add consumer cost }
  if G.hasStore then Prog.emit (.save rec)

/-- `Capturer.record`: the capture of a chat call. The attempts are those of the call so far. -/
def record (request : NormalizedRequest) (started : ℚ) (c : Captured) : Call σ Unit := do
  Prog.emit (.record c)
  let latency ← G.latencySince started
  G.meterAndPersist request.metadata.consumerName (G.capturedCost c)
    (G.callRecord request latency c)

/-- The cost that `record_embed` charges. -/
def capturedEmbedCost (c : CapturedEmbed) : Option ℚ :=
  match c.resp with
  | none => none
  | some resp => G.safeCost c.modelResolved resp.inputTokens 0

/-- The record that `record_embed` saves. -/
def embedRecord (model : Str) (metadata : Metadata) (latency : ℤ) (c : CapturedEmbed) :
    CallRecord :=
  { latencyMs := latency, consumer := metadata.consumerName, callSite := metadata.callSite,
    traceId := metadata.traceId, modelRequested := model,
    params := [("embed", .bool true),
      ("n_inputs", .int ((c.resp.map fun r => (r.vectors.length : ℤ)).getD 0))],
    modelResolved := c.modelResolved, attempts := c.attempts,
    inputTokens := (c.resp.map EmbeddingResponse.inputTokens).getD 0,
    costUsd := G.capturedEmbedCost c, status := c.status, errorType := c.errorType,
    errorMessageRedacted := G.redactMessage c.errorMessage, lastError := G.lastError c.attempts }

/-- `Capturer.record_embed`: the capture of an embeddings call. -/
def recordEmbed (model : Str) (metadata : Metadata) (started : ℚ) (c : CapturedEmbed) :
    Call σ Unit := do
  Prog.emit (.recordEmbed c)
  let latency ← G.latencySince started
  G.meterAndPersist metadata.consumerName (G.capturedEmbedCost c)
    (G.embedRecord model metadata latency c)

end Gateway

end AgentCtl
