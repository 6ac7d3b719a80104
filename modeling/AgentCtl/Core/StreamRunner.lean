import AgentCtl.Core.Gateway

set_option relaxedAutoImplicit false
set_option autoImplicit false

/-!
# Streaming calls

`core/stream_runner.py`: the governance loop as a generator. Each `yield` hands a chunk to the
consumer, who takes it and goes on, or closes the generator: then `GeneratorExit` is raised at the
`yield`. A native stream is committed to once its first text has been delivered; a provider
without native streaming is invoked, and its response cut into chunks.

## Main definitions

* `AgentCtl.yieldChunk` — a `yield`: does the consumer go on?
* `AgentCtl.Gateway.streamLoop` — the loop of `_native_target` over the provider's chunks.
* `AgentCtl.Gateway.nativeTarget`, `bufferedTarget` — the two kinds of target.
* `AgentCtl.Gateway.invokeStream` — `invoke_stream`, run by its consumer.
-/

namespace AgentCtl

variable {σ : Type}

/-- `yield chunk`: whether the consumer takes it and goes on. -/
def yieldChunk (c : StreamChunk) : Call σ Bool := do
  Prog.emit (.deliver c)
  let patience ← Prog.gets World.patience
  match patience with
  | none => return true
  | some 0 =>
    Prog.emit .close
    return false
  | some (n + 1) =>
    Prog.modify fun w => { w with patience := some n }
    return true

/-- A `yield` outside any handler: a closed generator ends there. -/
def yieldOrExit (c : StreamChunk) : Call σ Unit := do
  let resumed ← yieldChunk c
  if resumed then return () else Prog.raise .generatorExit

/-- The local variables of `_native_target`: the text so far, the finish reason, the last known
token counts, the tool calls, and whether content has been delivered. -/
structure StreamVars where
  parts : List Str := []
  finishReason : Option Str := none
  inputTokens : ℤ := 0
  outputTokens : ℤ := 0
  toolCalls : Option (List StreamToolCall) := none
  emitted : Bool := false

namespace StreamVars

/-- `"".join(parts)` -/
def text (v : StreamVars) : Str := v.parts.flatten

/-- The token counts after a chunk: a zero count is no news. -/
def meter (v : StreamVars) (c : StreamChunk) : StreamVars :=
  { v with inputTokens := if c.inputTokens = 0 then v.inputTokens else c.inputTokens,
           outputTokens := if c.outputTokens = 0 then v.outputTokens else c.outputTokens }

/-- The response recorded for the text and counts so far. -/
def response (v : StreamVars) (finishReason : Option Str) : NormalizedResponse :=
  { text := v.text, finishReason := finishReason, inputTokens := v.inputTokens,
    outputTokens := v.outputTokens }

/-- The last chunk of an ended stream. -/
def doneChunk (v : StreamVars) (finishReason : Option Str)
    (toolCalls : Option (List StreamToolCall)) : StreamChunk :=
  { done := true, finishReason := finishReason, inputTokens := v.inputTokens,
    outputTokens := v.outputTokens, toolCalls := toolCalls }

end StreamVars

/-- How the `try` around the chunk loop ends: the stream is drained, the deadline cut it and the
generator is finished, or an exception left the loop. -/
inductive LoopEnd where
  | drained
  | cut
  | raised (e : Exc)

namespace Gateway

variable (G : Gateway σ)

/-- `_capture`: record the call with the attempts made so far. -/
def capture (request : NormalizedRequest) (started : ℚ) (target : Target)
    (resp : NormalizedResponse) (status : Status) (errorType : Option ErrorType)
    (message : Option Str := none) : Call σ Unit := do
  let attempts ← Prog.gets World.attempts
  G.record request started
    { modelResolved := some target.name, attempts := attempts, resp := some resp, status := status,
      errorType := errorType, errorMessage := message }

/-- `_ok`: record an answered call. -/
def captureOk (request : NormalizedRequest) (started : ℚ) (target : Target)
    (resp : NormalizedResponse) (idx : ℕ) : Call σ Unit :=
  G.capture request started target resp (if idx = 0 then .success else .fallbackSuccess) none

/-- Has the deadline passed in mid-stream? -/
def cutByDeadline (deadline : Option ℚ) : Call σ Bool :=
  match deadline with
  | none => pure false
  | some d => do
    let now ← G.monotonic
    if d ≤ now then
      Prog.emit (.late now)
      return true
    else return false

/-- The `next` that brings a value, unless it was made before the loop. -/
def pullUnless (pulled : Bool) (target : Target) (c : Option StreamChunk) : Call σ Unit :=
  if pulled then pure () else Prog.emit (.pull target false (.chunk c))

/-- The loop over the provider's chunks, with the value of each `next` still to come. The first
element was pulled before the loop began. -/
def streamLoop (request : NormalizedRequest) (started t₀ : ℚ) (target : Target)
    (deadline : Option ℚ) (ending : Option Exc) (v : StreamVars) :
    Bool → List (Option StreamChunk) → Call σ (StreamVars × LoopEnd)
  | _, [] => do
    match ending with
    | none =>
      Prog.emit (.pull target false .stop)
      return (v, .drained)
    | some e =>
      Prog.emit (.pull target false (.raised e))
      return (v, .raised e)
  | pulled, c :: rest => do
    pullUnless pulled target c
    let cut ← G.cutByDeadline deadline
    if cut then
      G.recordStreamAttempt target .deadline t₀ (some "deadline exceeded mid-stream")
      G.capture request started target (v.response (some "length")) .deadline (some .deadline)
      -- this `yield` is inside the `try`: closing here runs the handlers below
      let resumed ← yieldChunk (v.doneChunk (some "length") none)
      return (v, if resumed then .cut else .raised .generatorExit)
    else
      match c with
      | none => streamLoop request started t₀ target deadline ending v false rest
      | some chunk =>
        let v := v.meter chunk
        if chunk.done then
          let v := { v with finishReason := chunk.finishReason, toolCalls := chunk.toolCalls }
          streamLoop request started t₀ target deadline ending v false rest
        else if chunk.text = [] then
          streamLoop request started t₀ target deadline ending v false rest
        else
          let v := { v with parts := v.parts ++ [chunk.text], emitted := true }
          let resumed ← yieldChunk chunk
          if resumed then streamLoop request started t₀ target deadline ending v false rest
          else return (v, .raised .generatorExit)

/-- `except Exception` around the chunk loop: without content delivered, and unless the provider
refused for good, the next target may be tried; otherwise the call fails. -/
def streamFailed (request : NormalizedRequest) (started t₀ : ℚ) (target : Target) (v : StreamVars)
    (e : Exc) : Call σ Bool := do
  G.reportFailure target.provider
  if !v.emitted && !e.isTerminal then
    G.recordStreamAttempt target .retriable t₀ (some e.msg)
    return false
  else
    G.recordStreamAttempt target .streamError t₀ (some e.msg)
    G.capture request started target (v.response v.finishReason) .error (some .stream) (some e.msg)
    Prog.raise (.gateway e.msg)

/-- `except BaseException` around the chunk loop: the consumer closed the generator. -/
def streamAborted (request : NormalizedRequest) (started t₀ : ℚ) (target : Target) (v : StreamVars)
    (e : Exc) : Call σ Bool := do
  G.recordStreamAttempt target .aborted t₀ (some "client disconnected")
  G.capture request started target (v.response v.finishReason) .aborted (some .clientAbort)
  Prog.raise e

/-- What follows a drained stream: report, record, and the last chunk. -/
def streamDrained (request : NormalizedRequest) (started t₀ : ℚ) (target : Target) (v : StreamVars)
    (idx : ℕ) : Call σ Bool := do
  reportSuccess target.provider
  G.recordStreamAttempt target .success t₀ none
  G.captureOk request started target
    { v.response v.finishReason with toolCalls := (v.toolCalls.getD []).length } idx
  yieldOrExit (v.doneChunk v.finishReason v.toolCalls)
  return true

/-- The handlers around the chunk loop, and what follows it. -/
def streamEnd (request : NormalizedRequest) (started t₀ : ℚ) (target : Target) (idx : ℕ)
    (v : StreamVars) : LoopEnd → Call σ Bool
  | .drained => G.streamDrained request started t₀ target v idx
  | .cut => pure true
  | .raised e =>
    if e.isException then G.streamFailed request started t₀ target v e
    else G.streamAborted request started t₀ target v e

/-- The handlers around the first `next`, for an exception that it raises. -/
def firstPullFailed (request : NormalizedRequest) (started t₀ : ℚ) (target : Target) (e : Exc) :
    Call σ Bool := do
  if !e.isException then Prog.raise e
  else if e.isTerminal then
    G.reportFailure target.provider
    G.recordStreamAttempt target .terminal t₀ (some e.msg)
    G.recordError request started none .terminal (some e.msg) (some target.name)
    Prog.raise e
  else
    G.reportFailure target.provider
    G.recordStreamAttempt target .retriable t₀ (some e.msg)
    return false

/-- The iterator of a native stream, from its first `next` on. A first value `None` is dropped, and
an iterator that ends at once is asked once more. -/
def streamFrom (request : NormalizedRequest) (started t₀ : ℚ) (target : Target)
    (deadline : Option ℚ) (idx : ℕ) (script : StreamScript) : Call σ Bool :=
  match script.items with
  | [] => do
    match script.ending with
    | some e =>
      Prog.emit (.pull target true (.raised e))
      G.firstPullFailed request started t₀ target e
    | none =>
      Prog.emit (.pull target true .stop)
      let r ← G.streamLoop request started t₀ target deadline none {} false []
      G.streamEnd request started t₀ target idx r.1 r.2
  | first :: rest => do
    Prog.emit (.pull target true (.chunk first))
    let items := if first.isNone then rest else first :: rest
    let r ← G.streamLoop request started t₀ target deadline script.ending {} first.isSome items
    G.streamEnd request started t₀ target idx r.1 r.2

/-- `_native_target`: whether the call is over. -/
def nativeTarget (fn : Target → NormalizedRequest → ℚ → σ → Except Exc StreamScript × σ)
    (target : Target) (request : NormalizedRequest) (started : ℚ) (deadline : Option ℚ) (idx : ℕ) :
    Call σ Bool := do
  let slot ← G.timeoutWithin deadline
  match slot with
  | none =>
    recordGuard target .deadline "deadline exceeded"
    return false
  | some slot =>
    let t₀ ← G.monotonic
    let opened ← outsideDo (fn target request slot.timeout)
    match opened with
    | .error e =>
      Prog.emit (.streamCall target slot (some e))
      Prog.raise e  -- `stream` is called outside any handler
    | .ok script =>
      Prog.emit (.streamCall target slot none)
      G.streamFrom request started t₀ target deadline idx script

/-- The first chunk of a response: its text, if it has any. -/
def yieldText (text : Str) : Call σ Unit :=
  if text = [] then pure () else yieldOrExit { text := text }

/-- The last chunk of a response. -/
def responseDone (resp : NormalizedResponse) : StreamChunk :=
  { done := true, finishReason := resp.finishReason, inputTokens := resp.inputTokens,
    outputTokens := resp.outputTokens }

/-- `_chunks_of`: a response as chunks. -/
def yieldResponse (resp : NormalizedResponse) : Call σ Unit := do
  yieldText resp.text
  yieldOrExit (responseDone resp)

/-- `_buffered_target`: whether the call is over. -/
def bufferedTarget (provider : Provider σ) (target : Target) (request : NormalizedRequest)
    (started : ℚ) (deadline : Option ℚ) (idx : ℕ) : Call σ Bool := do
  let out ← Prog.attempt (G.invokeTarget provider target request deadline)
  match out with
  | .ok resp =>
    reportSuccess target.provider
    G.captureOk request started target resp idx
    yieldResponse resp
    return true
  | .error e =>
    if e.isTerminal then
      G.reportFailure target.provider
      G.recordError request started none .terminal (some e.msg) (some target.name)
      Prog.raise e
    else if e.isDeadline then return false
    else if e.isRetriable || e.isTimeout then
      G.reportFailure target.provider
      return false
    else Prog.raise e  -- no handler for any other exception

/-- The exception of a chain without an answer. -/
def streamAllFailedExc (request : NormalizedRequest) : Exc :=
  ⟨.allTargetsFailed, "all stream targets failed for model " ++ G.py.repr (.str request.model),
    none⟩

/-- The end of a chain without an answer. -/
def streamAllFailed (request : NormalizedRequest) (started : ℚ) : Call σ Unit := do
  let attempts ← Prog.gets World.attempts
  G.recordError request started none .allFailed (attempts.getLast?.bind Attempt.error)
  Prog.raise (G.streamAllFailedExc request)

/-- The loop of `invoke_stream` over the targets from position `idx` on. -/
def streamWalk (request : NormalizedRequest) (started : ℚ) (deadline : Option ℚ) :
    ℕ → List Target → Call σ Unit
  | _, [] => G.streamAllFailed request started
  | idx, target :: rest => do
    let passed ← G.deadlineExceeded target deadline
    if passed then G.streamAllFailed request started
    else
      match G.providers.get? target.provider with
      | none =>
        G.recordError request started none .provider (some (G.unregistered target))
          (some target.name)
        Prog.raise (.gateway (G.unregistered target))
      | some provider =>
        match G.costMeter.ensurePrice target.name with
        | .error e =>
          G.recordError request started none .pricing (some e.msg) (some target.name)
          Prog.raise e
        | .ok () =>
          let blocked ← G.circuitBlocked target
          if blocked then streamWalk request started deadline (idx + 1) rest
          else
            let ended ← match provider.stream with
              | none => G.bufferedTarget provider target request started deadline idx
              | some fn => G.nativeTarget fn target request started deadline idx
            if ended then return () else streamWalk request started deadline (idx + 1) rest

/-- `invoke_stream`, advanced until its consumer has drained or closed it. -/
def invokeStream (request : NormalizedRequest) : Call σ Unit := do
  Prog.modify fun w => { w with attempts := [] }
  let started ← G.monotonic
  G.checkRequest request started
  G.checkBudget request started none
  let targets ← G.resolveTargets request started none
  G.streamWalk request started (G.deadlineFor started) 0 targets

end Gateway

end AgentCtl
