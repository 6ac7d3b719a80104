import AgentCtl.Providers.OpenAIProvider

set_option relaxedAutoImplicit false
set_option autoImplicit false

/-!
# The Anthropic adapter

`providers/anthropic_provider.py`: the mirror image of the OpenAI adapter. The SDK's responses are
already in Anthropic form; its stream is a sequence of typed events.

## Main definitions

* `AgentCtl.MessageKwargs`, `AgentCtl.messageKwargs` — the translated request.
* `AgentCtl.AnthropicClient` — the SDK client.
* `AgentCtl.anthropicProvider` — the adapter.
-/

namespace AgentCtl

/-! ## The SDK's types -/

/-- Keyword arguments of `messages.create`. -/
structure MessageKwargs where
  model : Str
  messages : List Dict
  maxTokens : ℤ
  timeout : ℚ
  temperature : Option PyFloat
  tools : Option (List Json)
  system : Option Str
  toolChoice : Option Json

/-- A content block of a message: text, a tool use, or another type. -/
inductive SdkBlock where
  | text (text : Str)
  | toolUse
  | other

/-- A message; `raw` is `msg.model_dump(mode="json")`. -/
structure SdkMessage where
  content : List SdkBlock
  stopReason : Option Str
  inputTokens : ℤ
  outputTokens : ℤ
  raw : Option Dict

/-- An event of an SDK stream. -/
inductive SdkEvent where
  | messageStart (inputTokens : Option ℤ)
  | toolUseStart (index : Option ℤ) (id : Option Str) (name : Option Str)
  | textDelta (text : Option Str)
  | inputJsonDelta (index : Option ℤ) (partialJson : Option Str)
  | messageDelta (stopReason : Option Str) (usage : Option (Option ℤ))
  | other

/-- An SDK event stream: its events, and the exception that ends it, if any. -/
structure SdkEvents where
  events : List SdkEvent
  ending : Option Exc

/-- The SDK client over worlds `σ`. -/
structure AnthropicClient (σ : Type) where
  create : MessageKwargs → σ → Except Exc SdkMessage × σ
  createStream : MessageKwargs → σ → Except Exc SdkEvents × σ

/-! ## Requests -/

variable (py : Runtime)

/-- The tools of `_message_kwargs`: none are sent for an empty list. -/
def messageTools (request : NormalizedRequest) : Except Exc (Option (List Json)) :=
  match request.tools with
  | some (t :: ts) => some <$> openaiToolsToAnthropic (t :: ts)
  | _ => .ok none

/-- The tool choice of `_message_kwargs`. -/
def messageToolChoice (request : NormalizedRequest) : Except Exc (Option Json) :=
  match request.toolChoice with
  | some tc => some <$> openaiToolChoiceToAnthropic py tc
  | none => .ok none

/-- `AnthropicProvider._message_kwargs`. -/
def messageKwargs (target : Target) (request : NormalizedRequest) (timeout : ℚ) :
    Except Exc MessageKwargs := do
  let messages ← openaiMessagesToAnthropic py request.messages
  let tools ← messageTools request
  let toolChoice ← messageToolChoice py request
  return ⟨target.model, messages, request.maxTokens, timeout, request.temperature, tools,
    request.system, toolChoice⟩

/-! ## Responses -/

/-- The text of a message: its text blocks joined. -/
def sdkMessageText (content : List SdkBlock) : Str :=
  content.flatMap fun
    | .text s => s
    | _ => []

/-- The number of `tool_use` blocks of a message. -/
def sdkToolUses (content : List SdkBlock) : ℤ :=
  (content.filter fun
    | .toolUse => true
    | _ => false).length

/-- The response half of `AnthropicProvider.invoke`. -/
def anthropicResponse (msg : SdkMessage) : NormalizedResponse :=
  { text := sdkMessageText msg.content, finishReason := msg.stopReason,
    toolCalls := sdkToolUses msg.content, inputTokens := msg.inputTokens,
    outputTokens := msg.outputTokens, raw := msg.raw }

/-! ## Streams -/

/-- What one event does to the running variables, and the chunks it yields. -/
def anthropicStreamStep (st : StreamState) : SdkEvent → StreamState × List StreamChunk
  | .messageStart tokens =>
    ({ st with inputTokens := tokens.getD 0 },
      if tokens.getD 0 = 0 then [] else [{ inputTokens := tokens.getD 0 }])
  | .toolUseStart index id name =>
    ({ st with toolFrags := st.toolFrags.insert (index.getD 0) ⟨id.getD [], name.getD [], []⟩ }, [])
  | .textDelta text => (st, if text.getD [] = [] then [] else [{ text := text.getD [] }])
  | .inputJsonDelta index partialJson =>
    match st.toolFrags.get? (index.getD 0) with
    | none => (st, [])
    | some frag =>
      let frag := { frag with arguments := frag.arguments ++ partialJson.getD [] }
      ({ st with toolFrags := st.toolFrags.insert (index.getD 0) frag }, [])
  | .messageDelta stopReason usage =>
    let st := if stopReason.getD [] = [] then st else { st with finishReason := stopReason }
    match usage with
    | none => (st, [])
    | some tokens =>
      let st := if tokens.getD 0 = 0 then st else { st with outputTokens := tokens.getD 0 }
      (st, [{ inputTokens := st.inputTokens, outputTokens := st.outputTokens }])
  | .other => (st, [])

/-- The loop of `AnthropicProvider.stream` over the SDK's events. -/
def anthropicStreamLoop (st : StreamState) : List SdkEvent → StreamState × List StreamChunk
  | [] => (st, [])
  | e :: es =>
    let r := anthropicStreamStep st e
    let rest := anthropicStreamLoop r.1 es
    (rest.1, r.2 ++ rest.2)

/-- The iterator of `AnthropicProvider.stream` over an SDK event stream. -/
def anthropicStreamScript (s : SdkEvents) : StreamScript :=
  let r := anthropicStreamLoop {} s.events
  match s.ending with
  | some e => ⟨r.2.map some, some e⟩
  | none => ⟨r.2.map some ++ [some r.1.doneChunk], none⟩

/-! ## The adapter -/

variable {σ : Type}

/-- The adapter around an SDK client. Both `invoke` and `stream` translate the request inside the
`try` around the SDK call. The Anthropic API has no embeddings. -/
def anthropicProvider (client : AnthropicClient σ) : Provider σ where
  invoke target request timeout s :=
    match messageKwargs py target request timeout with
    | .error e => (.error (typedError e), s)
    | .ok kwargs =>
      match client.create kwargs s with
      | (.error e, s) => (.error (typedError e), s)
      | (.ok msg, s) => (.ok (anthropicResponse msg), s)
  stream := some fun target request timeout s =>
    match messageKwargs py target request timeout with
    | .error e => (.ok ⟨[], some (typedError e)⟩, s)
    | .ok kwargs =>
      match client.createStream kwargs s with
      | (.error e, s) => (.ok ⟨[], some (typedError e)⟩, s)
      | (.ok events, s) => (.ok (anthropicStreamScript events), s)

end AgentCtl
