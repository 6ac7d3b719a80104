import AgentCtl.Core.Host

set_option relaxedAutoImplicit false
set_option autoImplicit false

/-!
# Embedding calls

`core/embedding_runner.py`: the governance loop once more, for embeddings. A target gets a single
attempt, and a provider without the capability is skipped.

## Main definitions

* `AgentCtl.Gateway.embedWalk` — the loop of `embed` over the targets.
* `AgentCtl.Gateway.embed` — `embed`.
-/

namespace AgentCtl

namespace Gateway

variable {σ : Type} (G : Gateway σ)

/-- `provider.embed(target, inputs, timeout)` -/
def callEmbed (fn : Target → List Str → ℚ → σ → Except Exc EmbeddingResponse × σ)
    (target : Target) (inputs : List Str) (slot : TimeoutSlot) :
    Call σ (Except Exc EmbeddingResponse) := do
  let out ← outsideDo (fn target inputs slot.timeout)
  Prog.emit (.embedCall target slot out)
  return out

/-- Record a failed embeddings call, with the attempts made so far. -/
def recordEmbedError (model : Str) (metadata : Metadata) (started : ℚ) (errorType : ErrorType)
    (message : Option Str) (resolved : Option Str := none) : Call σ Unit := do
  let attempts ← Prog.gets World.attempts
  G.recordEmbed model metadata started { modelResolved := resolved, attempts := attempts,
                                         errorType := some errorType, errorMessage := message }

/-- The end of a chain without an answer. -/
def embedAllFailed (model : Str) (metadata : Metadata) (started : ℚ) :
    Call σ EmbeddingResponse := do
  let attempts ← Prog.gets World.attempts
  G.recordEmbedError model metadata started .allFailed (attempts.getLast?.bind Attempt.error)
  Prog.raise ⟨.allTargetsFailed,
    "all embedding targets failed for model " ++ G.py.repr (.str model), none⟩

/-- The `try` of `embed`: one call of the provider; `none` means that the next target is to be
tried. -/
def embedTarget (fn : Target → List Str → ℚ → σ → Except Exc EmbeddingResponse × σ)
    (target : Target) (model : Str) (inputs : List Str) (metadata : Metadata) (started : ℚ)
    (slot : TimeoutSlot) (idx : ℕ) : Call σ (Option EmbeddingResponse) := do
  let startedT ← G.monotonic
  let out ← callEmbed fn target inputs slot
  match out with
  | .ok resp =>
    reportSuccess target.provider
    G.recordAttempt target .success startedT none
    let attempts ← Prog.gets World.attempts
    G.recordEmbed model metadata started
      { modelResolved := some target.name, attempts := attempts, resp := some resp,
        status := if idx = 0 then .success else .fallbackSuccess }
    return some resp
  | .error e =>
    if e.isTerminal then
      G.reportFailure target.provider
      G.recordAttempt target .terminal startedT (some e.msg)
      G.recordEmbedError model metadata started .terminal (some e.msg) (some target.name)
      Prog.raise e
    else if e.isRetriable || e.isTimeout then
      G.reportFailure target.provider
      G.recordAttempt target .retriable startedT (some e.msg)
      return none
    else Prog.raise e  -- no handler for any other exception

/-- The loop of `embed` over the targets from position `idx` on. -/
def embedWalk (model : Str) (inputs : List Str) (metadata : Metadata) (started : ℚ)
    (deadline : Option ℚ) : ℕ → List Target → Call σ EmbeddingResponse
  | _, [] => G.embedAllFailed model metadata started
  | idx, target :: rest => do
    let passed ← G.deadlineExceeded target deadline
    if passed then G.embedAllFailed model metadata started
    else
      match G.providers.get? target.provider with
      | none =>
        let message := "unregistered provider: " ++ G.py.repr (.str target.provider)
        G.recordEmbedError model metadata started .provider (some message) (some target.name)
        Prog.raise (.gateway (message ++ " (model=" ++ G.py.repr (.str model) ++ ")"))
      | some provider =>
        match provider.embed with
        | none =>
          recordGuard target .noEmbed "provider has no embeddings capability"
          embedWalk model inputs metadata started deadline (idx + 1) rest
        | some fn =>
          match G.costMeter.ensurePrice target.name with
          | .error e =>
            G.recordEmbedError model metadata started .pricing (some e.msg) (some target.name)
            Prog.raise e
          | .ok () =>
            let blocked ← G.circuitBlocked target
            if blocked then embedWalk model inputs metadata started deadline (idx + 1) rest
            else
              let slot ← G.timeoutWithin deadline
              match slot with
              | none =>
                recordGuard target .deadline "request deadline exceeded"
                G.embedAllFailed model metadata started
              | some slot =>
                let r ← G.embedTarget fn target model inputs metadata started slot idx
                match r with
                | some resp => return resp
                | none => embedWalk model inputs metadata started deadline (idx + 1) rest

/-- `EmbeddingRunner.embed` -/
def embed (model : Str) (inputs : List Str) (metadata : Metadata) : Call σ EmbeddingResponse := do
  Prog.modify fun w => { w with attempts := [] }
  let started ← G.monotonic
  let r ← Prog.attempt (G.budgetCheck metadata.consumerName)
  match r with
  | .error e =>
    G.recordEmbedError model metadata started .budget (some e.msg)
    Prog.raise e
  | .ok () =>
    match G.router.resolve G.py model with
    | .error e =>
      G.recordEmbedError model metadata started .routing (some e.msg)
      Prog.raise (.gateway e.msg)
    | .ok targets => G.embedWalk model inputs metadata started (G.deadlineFor started) 0 targets

end Gateway

end AgentCtl
