import AgentCtl.Core.Host
import AgentCtl.Providers.Tooltrans

set_option relaxedAutoImplicit false
set_option autoImplicit false

/-!
# Chat calls

`core/gateway.py`: `Gateway.invoke` checks a request, then walks the chain of its targets until
one of them answers. `_invoke_target` is the retry loop of a single target.

## Main definitions

* `AgentCtl.Gateway.cacheKeyFor` — `_cache_key_for` and `make_key`.
* `AgentCtl.Gateway.invokeTarget` — `_invoke_target`.
* `AgentCtl.Gateway.walk` — the loop of `invoke` over the targets.
* `AgentCtl.Gateway.invoke` — `invoke`.
-/

namespace AgentCtl

/-! ## Cache keys -/

/-- A value, or `None`. -/
def optionJson : Option Json → Json
  | some v => v
  | none => .null

/-- The payload of `make_key`: everything that decides about the response. -/
def cachePayload (request : NormalizedRequest) : Json :=
  .obj [("model", .str request.model), ("messages", .arr (request.messages.map .obj)),
    ("max_tokens", .int request.maxTokens),
    ("temperature", optionJson (request.temperature.map .float)),
    ("tools", optionJson (request.tools.map .arr)),
    ("system", optionJson (request.system.map .str)),
    ("tool_choice", optionJson (request.toolChoice.map ToolChoice.toJson))]

/-- `make_key`: the hash of the payload's text, which must be encodable. -/
def makeKey (py : Runtime) (request : NormalizedRequest) : Except Exc Str :=
  let text := (cachePayload request).sortKeys.dumps false
  if text.any CodePoint.isSurrogate then
    .error ⟨.unicodeEncodeError, "'utf-8' codec can't encode: surrogates not allowed", none⟩
  else .ok (py.sha256 text)

/-- `bool(request.tools or request.tool_choice)` -/
def NormalizedRequest.hasToolShape (request : NormalizedRequest) : Bool :=
  !(request.tools.getD []).isEmpty || ((request.toolChoice.map ToolChoice.toJson).getD .null).truthy

namespace Gateway

variable {σ : Type} (G : Gateway σ)

/-- `_cache_key_for`: no key without a cache, with caching off, or for a request with tools unless
those are cached too. -/
def cacheKeyFor (request : NormalizedRequest) : Except Exc (Option Str) :=
  if G.cache.isNone || !G.cacheEnabled then .ok none
  else if request.hasToolShape && !G.cacheToolResponses then .ok none
  else some <$> makeKey G.py request

/-- `_safe_cache_get`, for an optional key: a cache that raises counts as a miss. A key is the text
of a digest and never empty, so that `if cache_key` asks whether there is one. -/
def cacheGet (key : Option Str) : Call σ (Option NormalizedResponse) :=
  match key, G.cache with
  | some k, some c => do
    let r ← outsideDo (c.get k)
    match r with
    | .ok cached => return cached
    | .error _ => return none
  | _, _ => pure none

/-- `_safe_cache_set`, for an optional key: a cache that raises is ignored. -/
def cacheSet (key : Option Str) (resp : NormalizedResponse) : Call σ Unit :=
  match key, G.cache with
  | some k, some c => do
    let _ ← outsideDo (c.set k resp G.cacheTtlS)
  | _, _ => pure ()

/-! ## One target -/

/-- `provider.invoke(target, request, timeout)` -/
def callProvider (provider : Provider σ) (target : Target) (request : NormalizedRequest)
    (slot : TimeoutSlot) : Call σ (Except Exc NormalizedResponse) := do
  let out ← outsideDo (provider.invoke target request slot.timeout)
  Prog.emit (.call target slot out)
  return out

/-- The exception of a passed deadline. -/
def deadlineExc : Exc := ⟨.deadlineExceeded, "request deadline exceeded", none⟩

@[simp] lemma isTerminal_deadlineExc : deadlineExc.isTerminal = false := rfl

@[simp] lemma isDeadline_deadlineExc : deadlineExc.isDeadline = true := rfl

/-- The outcome of an attempt that ended in a retriable error or a timeout. -/
def retryOutcome (e : Exc) : AttemptOutcome := if e.isTimeout then .timeout else .retriable

/-- The pause after attempt `n`: none after the last one. -/
def pause (n : ℕ) : Call σ Unit := do
  if n < G.retry.maxAttemptsPerTarget - 1 then
    let d ← G.backoff n
    G.sleep d

/-- The loop of `_invoke_target` from attempt `n` on, with the number of attempts left. -/
def invokeTargetFrom (provider : Provider σ) (target : Target) (request : NormalizedRequest)
    (deadline : Option ℚ) (n : ℕ) (last : Exc) : ℕ → Call σ NormalizedResponse
  | 0 => Prog.raise (.retriable last.msg)
  | left + 1 => do
    let slot ← G.timeoutWithin deadline
    match slot with
    | none => Prog.raise deadlineExc
    | some slot =>
      let started ← G.monotonic
      let out ← callProvider provider target request slot
      match out with
      | .ok resp =>
        G.recordAttempt target .success started none
        return resp
      | .error e =>
        if e.isTerminal then
          G.recordAttempt target .terminal started (some e.msg)
          Prog.raise e
        else if e.isRetriable || e.isTimeout then
          G.recordAttempt target (retryOutcome e) started (some e.msg)
          G.pause n
          invokeTargetFrom provider target request deadline (n + 1) e left
        else Prog.raise e  -- no handler for any other exception

/-- `_invoke_target`: the attempts at one target. Returns the response, or raises the provider's
`TerminalError`, `DeadlineExceeded`, or `RetriableError` once the attempts are used up. -/
def invokeTarget (provider : Provider σ) (target : Target) (request : NormalizedRequest)
    (deadline : Option ℚ) : Call σ NormalizedResponse :=
  G.invokeTargetFrom provider target request deadline 0 (.retriable "no attempt made")
    G.retry.maxAttemptsPerTarget

/-! ## The whole call -/

/-- Record a failed call, with the attempts made so far. -/
def recordError (request : NormalizedRequest) (started : ℚ) (key : Option Str)
    (errorType : ErrorType) (message : Option Str) (resolved : Option Str := none) :
    Call σ Unit := do
  let attempts ← Prog.gets World.attempts
  G.record request started { modelResolved := resolved, attempts := attempts, cacheKey := key,
                             errorType := some errorType, errorMessage := message }

/-- Record an answered call, with the attempts made so far. -/
def recordAnswer (request : NormalizedRequest) (started : ℚ) (key : Option Str) (target : Target)
    (resp : NormalizedResponse) (idx : ℕ) : Call σ Unit := do
  let attempts ← Prog.gets World.attempts
  G.record request started
    { modelResolved := some target.name, attempts := attempts, resp := some resp,
      status := if idx = 0 then .success else .fallbackSuccess, cacheKey := key }

/-- Local validation: only a `TerminalError` is caught and recorded. -/
def checkRequest (request : NormalizedRequest) (started : ℚ) : Call σ Unit :=
  match validateLocalContent G.py request.messages request.toolChoice with
  | .ok () => pure ()
  | .error e => do
    if e.isTerminal then G.recordError request started none .validation (some e.msg)
    Prog.raise e

/-- The budget gate. -/
def checkBudget (request : NormalizedRequest) (started : ℚ) (key : Option Str) : Call σ Unit := do
  let r ← Prog.attempt (G.budgetCheck request.metadata.consumerName)
  match r with
  | .ok () => return ()
  | .error e =>
    G.recordError request started key .budget (some e.msg)
    Prog.raise e

/-- The target chain of the requested model. -/
def resolveTargets (request : NormalizedRequest) (started : ℚ) (key : Option Str) :
    Call σ (List Target) :=
  match G.router.resolve G.py request.model with
  | .ok targets => pure targets
  | .error e => do
    G.recordError request started key .routing (some e.msg)
    Prog.raise (.gateway e.msg)

/-- `f"unregistered provider: {target.provider!r}"` -/
def unregistered (target : Target) : Str :=
  "unregistered provider: " ++ G.py.repr (.str target.provider)

/-- The exception of a chain without an answer. -/
def allFailedExc (request : NormalizedRequest) : Exc :=
  ⟨.allTargetsFailed, "all targets failed for model " ++ G.py.repr (.str request.model), none⟩

/-- The end of a chain without an answer. -/
def allFailed (request : NormalizedRequest) (started : ℚ) (key : Option Str) :
    Call σ NormalizedResponse := do
  let attempts ← Prog.gets World.attempts
  G.recordError request started key .allFailed (attempts.getLast?.bind Attempt.error)
  Prog.raise (G.allFailedExc request)

/-- The loop of `invoke` over the targets from position `idx` on. -/
def walk (request : NormalizedRequest) (started : ℚ) (key : Option Str) (deadline : Option ℚ) :
    ℕ → List Target → Call σ NormalizedResponse
  | _, [] => G.allFailed request started key
  | idx, target :: rest => do
    let passed ← G.deadlineExceeded target deadline
    if passed then G.allFailed request started key
    else
      match G.providers.get? target.provider with
      | none =>
        G.recordError request started key .provider (some (G.unregistered target))
          (some target.name)
        Prog.raise (.gateway (G.unregistered target ++ " (model=" ++
          G.py.repr (.str request.model) ++ ")"))
      | some provider =>
        match G.costMeter.ensurePrice target.name with
        | .error e =>
          G.recordError request started key .pricing (some e.msg) (some target.name)
          Prog.raise e
        | .ok () =>
          let blocked ← G.circuitBlocked target
          if blocked then walk request started key deadline (idx + 1) rest
          else
            let out ← Prog.attempt (G.invokeTarget provider target request deadline)
            match out with
            | .ok resp =>
              reportSuccess target.provider
              G.cacheSet key resp
              G.recordAnswer request started key target resp idx
              return resp
            | .error e =>
              if e.isTerminal then
                G.reportFailure target.provider
                G.recordError request started key .terminal (some e.msg) (some target.name)
                Prog.raise e
              else if e.isDeadline then
                -- the caller's time ran out: no charge, the next guard ends the walk
                walk request started key deadline (idx + 1) rest
              else if e.isRetriable then
                G.reportFailure target.provider
                walk request started key deadline (idx + 1) rest
              else Prog.raise e  -- no handler for any other exception

/-- `invoke` once the request is known to be valid and its cache key computed. -/
def invokeKeyed (request : NormalizedRequest) (started : ℚ) (key : Option Str) :
    Call σ NormalizedResponse := do
  let cached ← G.cacheGet key
  match cached with
  | some resp =>
    G.record request started { attempts := [], resp := some resp, status := .success,
                               cacheHit := true, cacheKey := key }
    return resp
  | none =>
    G.checkBudget request started key
    let targets ← G.resolveTargets request started key
    G.walk request started key (G.deadlineFor started) 0 targets

/-- `Gateway.invoke` -/
def invoke (request : NormalizedRequest) : Call σ NormalizedResponse := do
  Prog.modify fun w => { w with attempts := [] }
  let started ← G.monotonic
  G.checkRequest request started
  let key ← Prog.ofExcept (G.cacheKeyFor request)
  G.invokeKeyed request started key

end Gateway

end AgentCtl
