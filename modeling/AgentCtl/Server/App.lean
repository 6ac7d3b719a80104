import AgentCtl.Store.Redaction
import AgentCtl.Providers.OpenAIProvider
import Mathlib.Data.List.DropRight

set_option relaxedAutoImplicit false
set_option autoImplicit false

/-!
# Requests and answers of the HTTP server

`server/app.py`: a body of `/v1/chat/completions` becomes a `NormalizedRequest`, and the answer goes
back in OpenAI form, as one JSON object or as server-sent events. Python's `int` and `float` on JSON
values are given, as are the random part of an answer's id and the time of its creation.

## Main definitions

* `AgentCtl.toNormalized` — the request of a body.
* `AgentCtl.toOpenaiResponse` — the answer as one object.
* `AgentCtl.sseFrames` — the answer as server-sent events.
-/

namespace AgentCtl

/-! ## Requests -/

/-- Python's conversions of JSON values to numbers, and the range test of a temperature. -/
structure Conversions where
  /-- `int(v)` -/
  int : Json → Except Exc ℤ
  /-- `float(v)` -/
  float : Json → Except Exc PyFloat
  /-- `0 <= x <= 2` -/
  inTemperatureRange : PyFloat → Bool

/-- `isinstance(exc, ValueError)`. -/
def Exc.isValueError (e : Exc) : Bool :=
  match e.cls with
  | .valueError | .jsonDecodeError | .unicodeEncodeError => true
  | _ => false

/-- `ValueError(msg)`. -/
def Exc.value (msg : Str) : Exc := ⟨.valueError, msg, none⟩

/-- Conversions that know integers only, and no temperatures. -/
def plainConversions : Conversions where
  int
    | .int n => .ok n
    | _ => .error (.value "invalid literal for int()")
  float _ := .error (.value "could not convert string to float")
  inTemperatureRange _ := false

/-- `except (TypeError, ValueError)` around a conversion. -/
def orInvalid {α : Type} (x : Except Exc α) (msg : Str) : Except Exc α :=
  match x with
  | .ok a => .ok a
  | .error e => if e.cls = .typeError || e.isValueError then .error (.value msg) else .error e

variable (py : Runtime) (conv : Conversions)

/-- `s.strip()` -/
def strip (s : Str) : Str := (s.dropWhile (isSpace py)).rdropWhile (isSpace py)

/-- `_consumer_of` -/
def consumerOf (body : Dict) : Str :=
  match body.get "user" with
  | .str user => if strip py user = [] then "openai-compat-server" else (strip py user).take 128
  | _ => "openai-compat-server"

/-- The messages of a body: a list of objects, empty where there is none. -/
def bodyMessages (body : Dict) : Except Exc (List Dict) :=
  match (body.get "messages").orElse (.arr []) with
  | .arr ms => ms.mapM fun m =>
    match m with
    | .obj d => .ok d
    | _ => .error (.value "each message must be an object")
  | _ => .error (.value "field 'messages' must be a list")

/-- `m.get("role") == "system"` -/
def isSystem (m : Dict) : Bool := (m.get "role").eqStr "system"

/-- The text of a system message: a string as it is, anything else as JSON text. -/
def systemText (m : Dict) : Str :=
  match m.get "content" with
  | .str s => s
  | c => c.dumps true

/-- The system text of a request: that of all its system messages, two newlines between them. -/
def systemOf (messages : List Dict) : Option Str :=
  match (messages.filter isSystem).map systemText with
  | [] => none
  | part :: parts => some (part ++ parts.flatMap fun p : Str => Str.ofString "\n\n" ++ p)

/-- `max_tokens` of a body. -/
def bodyMaxTokens (body : Dict) (default : ℤ) : Except Exc ℤ := do
  let n ← match body.get? "max_tokens" with
    | none => .ok default
    | some (.bool _) => .error (.value "field 'max_tokens' must be an integer")
    | some v => orInvalid (conv.int v) "field 'max_tokens' must be an integer"
  if n ≤ 0 then .error (.value "field 'max_tokens' must be a positive integer") else return n

/-- `temperature` of a body. -/
def bodyTemperature (body : Dict) : Except Exc (Option PyFloat) :=
  match body.get "temperature" with
  | .null => .ok none
  | .bool _ => .error (.value "field 'temperature' must be a number")
  | v => do
    let x ← orInvalid (conv.float v) "field 'temperature' must be a number"
    if conv.inTemperatureRange x then return some x
    else .error (.value "field 'temperature' must be between 0 and 2")

/-- `tools` of a body. -/
def bodyTools (body : Dict) : Except Exc (Option (List Json)) :=
  match body.get "tools" with
  | .null => .ok none
  | .arr ts => .ok (some ts)
  | _ => .error (.value "field 'tools' must be a list")

/-- `tool_choice` of a body. -/
def bodyToolChoice (body : Dict) : Except Exc (Option ToolChoice) :=
  match body.get "tool_choice" with
  | .null => .ok none
  | .obj d => .ok (some (.obj d))
  | .str s => .ok (some (.str s))
  | _ => .error (.value "field 'tool_choice' must be an object or string")

/-- Local validation at the HTTP border, where a `TerminalError` is a `ValueError`. -/
def validateBody (messages : List Dict) (toolChoice : Option ToolChoice) : Except Exc Unit :=
  match validateLocalContent py messages toolChoice with
  | .ok () => .ok ()
  | .error e => .error (if e.isTerminal then .value e.msg else e)

/-- `body["model"]`, which the request's type wants to be a string. -/
def bodyModel (body : Dict) : Except Exc Str := do
  match ← (Json.obj body).item "model" with
  | .str m => return m
  | _ => .error (.value "Input should be a valid string")

/-- `to_normalized` -/
def toNormalized (body : Dict) (defaultMaxTokens : ℤ) : Except Exc NormalizedRequest := do
  let messages ← bodyMessages body
  let rest := messages.filter fun m => !isSystem m
  let maxTokens ← bodyMaxTokens conv body defaultMaxTokens
  let temperature ← bodyTemperature conv body
  let tools ← bodyTools body
  let toolChoice ← bodyToolChoice body
  validateBody py rest toolChoice
  let model ← bodyModel body
  return { model := model, messages := rest, maxTokens := maxTokens, temperature := temperature,
           tools := tools, system := systemOf messages, toolChoice := toolChoice,
           metadata := { consumer := some (consumerOf py body) } }

/-! ## Answers -/

/-- The tool call of a `tool_use` block of `raw`; other blocks have none. -/
def rawToolUse? : Json → Option Json
  | .obj b => if (Dict.get b "type").eqStr "tool_use" then some (toolUseToCall b) else none
  | _ => none

/-- `_raw_tool_uses_to_openai` -/
def rawToolUsesToOpenai (resp : NormalizedResponse) : Except Exc (List Json) := do
  let blocks ← ((Dict.get (resp.raw.getD []) "content").orElse (.arr [])).elements
  return blocks.filterMap rawToolUse?

/-- `stop_reason_to_finish(finish_reason) or "stop"` -/
def finishReasonOr (finishReason : Option Str) : Str :=
  match stopReasonToFinish finishReason with
  | none => "stop"
  | some [] => "stop"
  | some s => s

/-- The message of an answer: `null` stands for no text beside tool calls. -/
def answerMessage (text : Str) (toolCalls : List Json) : Dict :=
  withToolCalls [("role", .str "assistant"),
    ("content", if toolCalls ≠ [] ∧ text = [] then .null else .str text)] toolCalls

/-- Token counts in OpenAI form. -/
def usageOf (inputTokens outputTokens : ℤ) : Json :=
  .obj [("prompt_tokens", .int inputTokens), ("completion_tokens", .int outputTokens),
    ("total_tokens", .int (inputTokens + outputTokens))]

/-- What the answers to one request have in common. -/
structure AnswerHead where
  id : Str
  created : Json
  model : Str

/-- `to_openai_response` -/
def toOpenaiResponse (resp : NormalizedResponse) (head : AnswerHead) : Except Exc Dict := do
  let toolCalls ← rawToolUsesToOpenai resp
  return [("id", .str head.id), ("object", .str "chat.completion"), ("created", head.created),
    ("model", .str head.model),
    ("choices", .arr [.obj [("index", .int 0),
      ("message", .obj (answerMessage resp.text toolCalls)),
      ("finish_reason", .str (finishReasonOr resp.finishReason))]]),
    ("usage", usageOf resp.inputTokens resp.outputTokens)]

/-! ## Server-sent events -/

/-- An event: a JSON payload, or the mark of the end. -/
inductive SseFrame where
  | data (payload : Dict)
  | doneMark

/-- The text of an event. -/
def SseFrame.text : SseFrame → Str
  | .data payload => "data: " ++ ((Json.obj payload).dumps false ++ "\n\n")
  | .doneMark => "data: [DONE]\n\n"

/-- A payload with the choices given. -/
def chunkPayload (head : AnswerHead) (choices : List Json) : Dict :=
  [("id", .str head.id), ("object", .str "chat.completion.chunk"), ("created", head.created),
    ("model", .str head.model), ("choices", .arr choices)]

/-- `frame(delta, finish_reason)` -/
def deltaFrame (head : AnswerHead) (delta : Dict) (finishReason : Json := .null) : SseFrame :=
  .data (chunkPayload head
    [.obj [("index", .int 0), ("delta", .obj delta), ("finish_reason", finishReason)]])

/-- A tool call of the last chunk, with its position. -/
def deltaCall (i : ℕ) (tc : StreamToolCall) : Json :=
  .obj [("index", .int i), ("id", .str tc.id), ("type", .str "function"),
    ("function", .obj [("name", .str tc.name), ("arguments", .str tc.arguments)])]

/-- The frames of one chunk: all tool calls of the last chunk are one frame. -/
def chunkFrames (head : AnswerHead) (c : StreamChunk) : List SseFrame :=
  if c.done then
    match c.toolCalls with
    | some (tc :: tcs) => [deltaFrame head [("tool_calls", .arr ((tc :: tcs).mapIdx deltaCall))]]
    | _ => []
  else if c.text ≠ [] then [deltaFrame head [("content", .str c.text)]]
  else []

/-- The finish reason and the token counts of the last chunk seen, if there was one. -/
def closing (chunks : List StreamChunk) : Str × ℤ × ℤ :=
  match (chunks.filter StreamChunk.done).getLast? with
  | none => ("stop", 0, 0)
  | some c => (finishReasonOr c.finishReason, c.inputTokens, c.outputTokens)

/-- The frame of the token counts, sent unless both are zero. -/
def usageFrame (head : AnswerHead) (inputTokens outputTokens : ℤ) : List SseFrame :=
  if inputTokens ≠ 0 ∨ outputTokens ≠ 0 then
    [.data (OrderedDict.insert (chunkPayload head []) "usage" (usageOf inputTokens outputTokens))]
  else []

/-- `_sse_frames` -/
def sseFrames (chunks : List StreamChunk) (head : AnswerHead) : List SseFrame :=
  let (finishReason, inputTokens, outputTokens) := closing chunks
  deltaFrame head [("role", .str "assistant")] :: chunks.flatMap (chunkFrames head) ++
    deltaFrame head [] (.str finishReason) :: (usageFrame head inputTokens outputTokens ++
      [.doneMark])

end AgentCtl
