import AgentCtl.Python.JsonText
import Mathlib.Data.Rat.Defs
import Mathlib.Data.Rat.Floor
import Mathlib.Algebra.Order.Field.Rat

set_option relaxedAutoImplicit false
set_option autoImplicit false

/-!
# Data model

The data types of `models.py`. Times and costs are rationals: the model computes in exact
arithmetic. The statuses, outcomes and error types that the source spells as strings are
enumerations. A call record has no `id` and no `ts`; nothing in the gateway reads them.

## Main definitions

* `AgentCtl.Target`, `NormalizedRequest`, `NormalizedResponse`, `StreamChunk`,
  `EmbeddingResponse`, `Attempt`, `CallRecord` — the models.
* `AgentCtl.Target.parse` — `provider/model` specifications.
-/

namespace AgentCtl

/-- A backend: a registered provider and one of its models. -/
structure Target where
  provider : Str
  model : Str
  deriving DecidableEq

namespace Target

/-- `provider/model`. -/
def name (t : Target) : Str := t.provider ++ "/" ++ t.model

/-- Parse `provider/model`; both parts must be nonempty. -/
def parse (py : Runtime) (spec : Str) : Except Exc Target :=
  let r := Str.partition 47 spec
  if r.1 = [] ∨ r.2.2 = [] then
    .error ⟨.valueError, "bad target spec: " ++ py.repr (.str spec) ++ " (want 'provider/model')",
      none⟩
  else .ok ⟨r.1, r.2.2⟩

end Target

/-- `tool_choice` of a request: an object of either dialect, or one of OpenAI's strings. -/
inductive ToolChoice where
  | obj (d : Dict)
  | str (s : Str)

/-- A tool choice as JSON. -/
def ToolChoice.toJson : ToolChoice → Json
  | .obj d => .obj d
  | .str s => .str s

/-- The entries of `metadata` that the gateway reads. -/
structure Metadata where
  consumer : Option Str := none
  callSite : Option Str := none
  traceId : Option Str := none
  promptVersion : Option Str := none
  deriving DecidableEq

/-- `meta.get("consumer", "unknown")`. -/
def Metadata.consumerName (m : Metadata) : Str := m.consumer.getD "unknown"

/-- A chat request. Messages and tools are JSON in either dialect. -/
structure NormalizedRequest where
  model : Str
  messages : List Dict
  maxTokens : ℤ := 1024
  temperature : Option PyFloat := none
  tools : Option (List Json) := none
  system : Option Str := none
  toolChoice : Option ToolChoice := none
  metadata : Metadata := {}

/-- A chat response; `raw` is the full structured response where the provider gives one. -/
structure NormalizedResponse where
  text : Str
  finishReason : Option Str := none
  toolCalls : ℤ := 0
  inputTokens : ℤ := 0
  outputTokens : ℤ := 0
  raw : Option Dict := none

/-- A reassembled tool call of a stream. -/
structure StreamToolCall where
  id : Str
  name : Str
  arguments : Str
  deriving DecidableEq

/-- A streamed increment. `done` marks the last chunk, which carries the finish reason, the token
counts and the tool calls. -/
structure StreamChunk where
  text : Str := []
  finishReason : Option Str := none
  inputTokens : ℤ := 0
  outputTokens : ℤ := 0
  done : Bool := false
  toolCalls : Option (List StreamToolCall) := none
  deriving DecidableEq

/-- An embeddings response; a vector's components are floats. -/
structure EmbeddingResponse where
  vectors : List (List PyFloat)
  inputTokens : ℤ := 0
  deriving DecidableEq

/-- How an attempt at a target ended. -/
inductive AttemptOutcome where
  | success
  | retriable
  | terminal
  | timeout
  | deadline
  | circuitOpen
  | noEmbed
  | streamError
  | aborted
  deriving DecidableEq

/-- One attempt at a target, as the call record keeps it. -/
structure Attempt where
  provider : Str
  model : Str
  outcome : AttemptOutcome
  latencyMs : ℤ
  error : Option Str := none
  deriving DecidableEq

/-- The status of a call. -/
inductive Status where
  | success
  | fallbackSuccess
  | error
  | deadline
  | aborted
  deriving DecidableEq

/-- The status as the source spells it. -/
def Status.text : Status → Str
  | success => "success"
  | fallbackSuccess => "fallback_success"
  | error => "error"
  | deadline => "deadline"
  | aborted => "aborted"

/-- The error type of a call. -/
inductive ErrorType where
  | validation
  | budget
  | routing
  | provider
  | pricing
  | terminal
  | allFailed
  | stream
  | deadline
  | clientAbort
  deriving DecidableEq

/-- The error type as the source spells it. -/
def ErrorType.text : ErrorType → Str
  | validation => "validation"
  | budget => "budget"
  | routing => "routing"
  | provider => "provider"
  | pricing => "pricing"
  | terminal => "terminal"
  | allFailed => "all_failed"
  | stream => "stream"
  | deadline => "deadline"
  | clientAbort => "client_abort"

/-- A call as it is stored: everything but `id` and `ts`. -/
structure CallRecord where
  latencyMs : ℤ
  consumer : Str
  callSite : Option Str
  traceId : Option Str
  modelRequested : Str
  params : Dict
  messagesRedacted : Option (List Dict) := none
  promptVersion : Option Str := none
  modelResolved : Option Str
  attempts : List Attempt
  outputRedacted : Option Str := none
  finishReason : Option Str := none
  toolCalls : ℤ := 0
  inputTokens : ℤ := 0
  outputTokens : ℤ := 0
  costUsd : Option ℚ
  cacheHit : Bool := false
  cacheKey : Option Str := none
  status : Status
  errorType : Option ErrorType
  errorMessageRedacted : Option Str
  lastError : Option Str

end AgentCtl
