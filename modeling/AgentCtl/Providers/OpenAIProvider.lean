import AgentCtl.Providers.Base
import AgentCtl.Providers.Tooltrans

set_option relaxedAutoImplicit false
set_option autoImplicit false

/-!
# The OpenAI-compatible adapter

`providers/openai_provider.py`: a request in either dialect becomes the keyword arguments of the
SDK call, the SDK's response becomes a `NormalizedResponse` whose `raw` is in Anthropic form, and
the SDK's stream becomes stream chunks, with the fragments of tool calls put together by index.

## Main definitions

* `AgentCtl.ChatKwargs`, `AgentCtl.chatKwargs` — the translated request.
* `AgentCtl.OpenAIClient` — the SDK client.
* `AgentCtl.openAIProvider` — the adapter.
-/

namespace AgentCtl

/-! ## The SDK's types -/

/-- Keyword arguments of `chat.completions.create`. -/
structure ChatKwargs where
  model : Str
  messages : List Dict
  maxTokens : ℤ
  timeout : ℚ
  temperature : Option PyFloat
  tools : Option (List Json)
  toolChoice : Option Json

/-- A tool call of a response message; the function may be missing. -/
structure SdkToolCall where
  id : Str
  function : Option (Str × Str)

/-- A choice of a response. -/
structure SdkChoice where
  content : Option Str
  toolCalls : List SdkToolCall
  finishReason : Option Str

/-- Token counts: prompt and completion. -/
structure SdkUsage where
  promptTokens : ℤ
  completionTokens : ℤ

/-- A chat completion. -/
structure SdkResponse where
  choices : List SdkChoice
  usage : Option SdkUsage

/-- A fragment of a tool call in a stream delta. -/
structure SdkToolFragment where
  index : Option ℤ
  id : Option Str
  name : Option Str
  arguments : Option Str

/-- The first choice of a stream chunk. -/
structure SdkDelta where
  content : Option Str
  toolCalls : List SdkToolFragment
  finishReason : Option Str

/-- A chunk of an SDK stream. -/
structure SdkChunk where
  choice : Option SdkDelta
  usage : Option SdkUsage

/-- An SDK stream: its chunks, and the exception that ends it, if any. -/
structure SdkStream where
  chunks : List SdkChunk
  ending : Option Exc

/-- The SDK client over worlds `σ`. -/
structure OpenAIClient (σ : Type) where
  create : ChatKwargs → σ → Except Exc SdkResponse × σ
  createStream : ChatKwargs → σ → Except Exc SdkStream × σ
  createEmbeddings : Str → List Str → ℚ → σ → Except Exc (List (ℤ × List PyFloat) × Option ℤ) × σ

/-! ## Requests -/

variable (py : Runtime)

/-- The messages of `_chat_kwargs`: translated, with the system text first. -/
def chatMessages (request : NormalizedRequest) : Except Exc (List Dict) := do
  let messages ← anthropicMessagesToOpenai py request.messages
  return match request.system with
    | some s => [("role", .str "system"), ("content", .str s)] :: messages
    | none => messages

/-- The tools of `_chat_kwargs`: none are sent for an empty list. -/
def chatTools (request : NormalizedRequest) : Except Exc (Option (List Json)) :=
  match request.tools with
  | some (t :: ts) => some <$> anthropicToolsToOpenai (t :: ts)
  | _ => .ok none

/-- The tool choice of `_chat_kwargs`. -/
def chatToolChoice (request : NormalizedRequest) : Except Exc (Option Json) :=
  match request.toolChoice with
  | some tc => some <$> anthropicToolChoiceToOpenai tc
  | none => .ok none

/-- `OpenAIProvider._chat_kwargs`. -/
def chatKwargs (target : Target) (request : NormalizedRequest) (timeout : ℚ) :
    Except Exc ChatKwargs := do
  let messages ← chatMessages py request
  let tools ← chatTools request
  let toolChoice ← chatToolChoice request
  return ⟨target.model, messages, request.maxTokens, timeout, request.temperature, tools,
    toolChoice⟩

/-! ## Responses -/

/-- `_finish_to_stop_reason`. -/
def finishToStopReason (finishReason : Option Str) : Option Str :=
  if finishReason = some "tool_calls" then some "tool_use"
  else if finishReason = some "stop" then some "end_turn"
  else if finishReason = some "length" then some "max_tokens"
  else finishReason

/-- The `tool_use` block of a response's tool call. -/
def sdkToolUse (tc : SdkToolCall) : Except Exc Json := do
  let fn := tc.function.getD ([], [])
  let args ← parseArguments py (.str fn.2)
  return .obj [("type", .str "tool_use"), ("id", .str tc.id), ("name", .str fn.1), ("input", args)]

/-- `openai_message_to_anthropic_content`: never empty. -/
def openaiMessageToAnthropicContent (choice : SdkChoice) : Except Exc (List Json) := do
  let text := textBlocks (choice.content.getD [])
  let calls ← choice.toolCalls.mapM (sdkToolUse py)
  let blocks := text ++ calls
  return if blocks = [] then [.obj [("type", .str "text"), ("text", .str "")]] else blocks

/-- A string, or `None`. -/
def optionStr : Option Str → Json
  | some s => .str s
  | none => .null

/-- `openai_response_to_anthropic_raw`. -/
def openaiResponseToAnthropicRaw (choice : SdkChoice) (usage : Option SdkUsage) :
    Except Exc Dict := do
  let content ← openaiMessageToAnthropicContent py choice
  return [("content", .arr content),
    ("stop_reason", optionStr (finishToStopReason choice.finishReason)),
    ("usage", .obj [("input_tokens", .int ((usage.map SdkUsage.promptTokens).getD 0)),
      ("output_tokens", .int ((usage.map SdkUsage.completionTokens).getD 0))])]

/-- The response half of `OpenAIProvider.invoke`. -/
def openaiResponse (resp : SdkResponse) : Except Exc NormalizedResponse :=
  match resp.choices with
  | [] => .error (.terminal "provider returned no choices")
  | choice :: _ => do
    let raw ← openaiResponseToAnthropicRaw py choice resp.usage
    return { text := choice.content.getD [], finishReason := choice.finishReason,
             toolCalls := choice.toolCalls.length,
             inputTokens := (resp.usage.map SdkUsage.promptTokens).getD 0,
             outputTokens := (resp.usage.map SdkUsage.completionTokens).getD 0,
             raw := some raw }

/-! ## Streams -/

/-- The running variables of a stream: finish reason, token counts, and the tool calls collected
so far by index. -/
structure StreamState where
  finishReason : Option Str := none
  inputTokens : ℤ := 0
  outputTokens : ℤ := 0
  toolFrags : OrderedDict ℤ StreamToolCall := []

/-- Add a fragment to the tool call of its index: `id` and `name` replace, arguments append. -/
def StreamState.addFragment (st : StreamState) (f : SdkToolFragment) : StreamState :=
  let idx := f.index.getD 0
  let frag := st.toolFrags.getD idx ⟨[], [], []⟩
  let keep (new : Option Str) (old : Str) := if new.getD [] = [] then old else new.getD []
  let frag := { id := keep f.id frag.id, name := keep f.name frag.name,
                arguments := frag.arguments ++ f.arguments.getD [] }
  { st with toolFrags := st.toolFrags.insert idx frag }

/-- Insert a tool call into calls sorted by index. -/
def insertCall (idx : ℤ) (c : StreamToolCall) : List (ℤ × StreamToolCall) →
    List (ℤ × StreamToolCall)
  | [] => [(idx, c)]
  | p :: ps => if idx < p.1 then (idx, c) :: p :: ps else p :: insertCall idx c ps

/-- The collected tool calls in index order, `None` if there are none. -/
def StreamState.toolCalls (st : StreamState) : Option (List StreamToolCall) :=
  let calls := (st.toolFrags.foldl (fun acc p => insertCall p.1 p.2 acc) []).map Prod.snd
  if calls = [] then none else some calls

/-- The `done` chunk of a stream. -/
def StreamState.doneChunk (st : StreamState) : StreamChunk :=
  { done := true, finishReason := st.finishReason, inputTokens := st.inputTokens,
    outputTokens := st.outputTokens, toolCalls := st.toolCalls }

/-- What one SDK chunk does to the running variables, and the chunks it yields. -/
def openaiStreamStep (st : StreamState) (chunk : SdkChunk) : StreamState × List StreamChunk :=
  let (st, text) : StreamState × List StreamChunk :=
    match chunk.choice with
    | none => (st, [])
    | some d =>
      let fr := if d.finishReason.getD [] = [] then st.finishReason else d.finishReason
      (d.toolCalls.foldl StreamState.addFragment { st with finishReason := fr },
        if d.content.getD [] = [] then [] else [{ text := d.content.getD [] }])
  match chunk.usage with
  | none => (st, text)
  | some u =>
    ({ st with inputTokens := u.promptTokens, outputTokens := u.completionTokens },
      text ++ [{ inputTokens := u.promptTokens, outputTokens := u.completionTokens }])

/-- The loop of `OpenAIProvider.stream` over the SDK's chunks. -/
def openaiStreamLoop (st : StreamState) : List SdkChunk → StreamState × List StreamChunk
  | [] => (st, [])
  | c :: cs =>
    let r := openaiStreamStep st c
    let rest := openaiStreamLoop r.1 cs
    (rest.1, r.2 ++ rest.2)

/-- The iterator of `OpenAIProvider.stream` over an SDK stream. -/
def openaiStreamScript (s : SdkStream) : StreamScript :=
  let r := openaiStreamLoop {} s.chunks
  match s.ending with
  | some e => ⟨r.2.map some, some e⟩
  | none => ⟨r.2.map some ++ [some r.1.doneChunk], none⟩

/-! ## Embeddings -/

/-- Insert a vector into vectors sorted by index; equal indices keep their order. -/
def insertVector (idx : ℤ) (v : List PyFloat) : List (ℤ × List PyFloat) → List (ℤ × List PyFloat)
  | [] => [(idx, v)]
  | p :: ps => if idx < p.1 then (idx, v) :: p :: ps else p :: insertVector idx v ps

/-- The response half of `OpenAIProvider.embed`. -/
def openaiEmbeddings (data : List (ℤ × List PyFloat)) (promptTokens : Option ℤ) :
    EmbeddingResponse :=
  { vectors := (data.foldl (fun acc p => insertVector p.1 p.2 acc) []).map Prod.snd,
    inputTokens := promptTokens.getD 0 }

/-! ## The adapter -/

variable {σ : Type}

/-- The adapter around an SDK client. In `invoke` an exception of the translation is mapped like
one of the SDK. `stream` is a generator: the translation runs at the first `next`, and outside
the `try`, so its exception reaches the caller as it is. -/
def openAIProvider (client : OpenAIClient σ) : Provider σ where
  invoke target request timeout s :=
    match chatKwargs py target request timeout with
    | .error e => (.error (typedError e), s)
    | .ok kwargs =>
      match client.create kwargs s with
      | (.error e, s) => (.error (typedError e), s)
      | (.ok resp, s) => (openaiResponse py resp, s)
  stream := some fun target request timeout s =>
    match chatKwargs py target request timeout with
    | .error e => (.ok ⟨[], some e⟩, s)
    | .ok kwargs =>
      match client.createStream kwargs s with
      | (.error e, s) => (.ok ⟨[], some (typedError e)⟩, s)
      | (.ok stream, s) => (.ok (openaiStreamScript stream), s)
  embed := some fun target inputs timeout s =>
    match client.createEmbeddings target.model inputs timeout s with
    | (.error e, s) => (.error (typedError e), s)
    | (.ok (data, promptTokens), s) => (.ok (openaiEmbeddings data promptTokens), s)

end AgentCtl
