import AgentCtl.Models

set_option relaxedAutoImplicit false
set_option autoImplicit false

/-!
# Translation between the two tool dialects

`providers/tooltrans.py`. A request carries its messages, tools and tool choice in Anthropic form
or in OpenAI form; each adapter translates towards its own backend. The translators read partial
JSON: every access that Python may refuse is an exception of the model too.

## Main definitions

* `AgentCtl.validateLocalContent` — the checks made before any provider is tried.
* `AgentCtl.anthropicMessagesToOpenai`, `AgentCtl.openaiMessagesToAnthropic` — the two message
  translators.
* `AgentCtl.anthropicToolsToOpenai`, `anthropicToolChoiceToOpenai`, `openaiToolsToAnthropic`,
  `openaiToolChoiceToAnthropic` — tools and tool choice.
-/

namespace AgentCtl

variable (py : Runtime)

/-- The receiver of a `.get` call: only a dict has that method. -/
def asDict : Json → Except Exc Dict
  | .obj d => .ok d
  | v => .error (v.noAttribute "get")

/-- `_reject_unsupported`: audio blocks are refused. The set membership test hashes the type. -/
def rejectUnsupported (blockType : Json) : Except Exc Unit := do
  blockType.hashable
  if blockType.eqStr "input_audio" then
    throw (.terminal
      ("multimodal content block " ++ py.repr blockType ++ " is not supported by this gateway"))

/-- A string other than `input_audio` is no refused type. -/
@[simp] lemma rejectUnsupported_str {t : Str} (h : t ≠ "input_audio") :
    rejectUnsupported py (.str t) = .ok () := by
  unfold rejectUnsupported
  simp only [Json.hashable, Json.eqStr_str, h, decide_false]
  rfl

/-! ## Images -/

/-- `_image_url_of`: the URL of an `image_url` block, which need not be a string. -/
def imageUrlOf (block : Dict) : Json :=
  match block.get "image_url" with
  | .obj iu => (Dict.get iu "url").orElse (.str "")
  | .str s => .str s
  | _ => .str ""

/-- `_check_image_url`: a `data:` URI must be base64. Returns the URL, now known to be a string. -/
def checkImageUrl (url : Json) : Except Exc Str :=
  match url with
  | .str u =>
    if u.startsWith "data:" then
      let r := u.partition 44
      if !r.2.1 || !r.1.contains "base64" then
        .error (.terminal
          "image_url data URI must be base64-encoded (data:<mime>;base64,...)")
      else .ok u
    else .ok u
  | v => .error (v.noAttribute "startswith")

/-- An Anthropic image block. -/
def imageBlock (source : Dict) : Dict := [("type", .str "image"), ("source", .obj source)]

/-- `_openai_image_url_to_anthropic`. -/
def openaiImageUrlToAnthropic (block : Dict) : Except Exc Dict := do
  let url ← checkImageUrl (imageUrlOf block)
  if url.startsWith "data:" then
    let r := url.partition 44
    let mediaType := Str.splitHead 59 (r.1.drop 5)
    return imageBlock [("type", .str "base64"),
      ("media_type", .str (if mediaType = [] then "image/png" else mediaType)),
      ("data", .str r.2.2)]
  else
    return imageBlock [("type", .str "url"), ("url", .str url)]

/-- `_anthropic_image_to_openai`. -/
def anthropicImageToOpenai (block : Dict) : Except Exc Dict := do
  let source ← asDict ((block.get "source").orElse (.obj []))
  let url :=
    if (source.get "type").eqStr "base64" then
      let mediaType := (source.get "media_type").orElse (.str "image/png")
      .str ("data:" ++ (py.format mediaType ++ (";base64," ++
        py.format (source.get "data" (.str "")))))
    else source.get "url" (.str "")
  return [("type", .str "image_url"), ("image_url", .obj [("url", url)])]

/-! ## Local validation -/

/-- The check of one content block. -/
def validateBlock (b : Json) : Except Exc Unit :=
  match b with
  | .obj d => do
    rejectUnsupported py (Dict.get d "type")
    if (Dict.get d "type").eqStr "image_url" then
      let _ ← checkImageUrl (imageUrlOf d)
  | _ => .ok ()

/-- The check of one message: only block lists are looked into. -/
def validateMessage (m : Dict) : Except Exc Unit :=
  match m.get "content" with
  | .arr blocks => blocks.forM (validateBlock py)
  | _ => .ok ()

/-- `validate_local_content`. -/
def validateLocalContent (messages : List Dict) (toolChoice : Option ToolChoice) :
    Except Exc Unit := do
  messages.forM (validateMessage py)
  match toolChoice with
  | some (.str s) =>
    if s ≠ ("auto" : Str) ∧ s ≠ ("required" : Str) ∧ s ≠ ("none" : Str) then
      throw (.terminal ("unsupported tool_choice string: " ++ py.repr (.str s)))
  | _ => return ()

/-! ## Anthropic to OpenAI -/

/-- The empty JSON schema of an object. -/
def emptySchema : Json := .obj [("type", .str "object"), ("properties", .obj [])]

/-- `isinstance(t, dict) and t.get("type") == "function" and "function" in t`. -/
def isFunctionTool (t : Json) : Bool :=
  match t with
  | .obj d => (Dict.get d "type").eqStr "function" && OrderedDict.has d "function"
  | _ => false

/-- One tool of `anthropic_tools_to_openai`; a tool in OpenAI form is passed through. -/
def anthropicToolToOpenai (t : Json) : Except Exc Json :=
  if isFunctionTool t then .ok t
  else do
    let name ← t.item "name"
    let d ← asDict t
    return .obj [("type", .str "function"), ("function", .obj [("name", name),
      ("description", d.get "description" (.str "")),
      ("parameters", (d.get "input_schema").orElse emptySchema)])]

/-- `anthropic_tools_to_openai`. -/
def anthropicToolsToOpenai (tools : List Json) : Except Exc (List Json) :=
  tools.mapM anthropicToolToOpenai

/-- `anthropic_tool_choice_to_openai`. -/
def anthropicToolChoiceToOpenai : ToolChoice → Except Exc Json
  | .str s => .ok (.str s)
  | .obj d =>
    if (d.get "type").eqStr "tool" then do
      let name ← (Json.obj d).item "name"
      return .obj [("type", .str "function"), ("function", .obj [("name", name)])]
    else if (d.get "type").eqStr "any" then .ok (.str "required")
    else .ok (.str "auto")

/-- The OpenAI tool call of a `tool_use` block. -/
def toolUseToCall (d : Dict) : Json :=
  .obj [("id", d.get "id" (.str "")), ("type", .str "function"),
    ("function", .obj [("name", d.get "name" (.str "")),
      ("arguments", .str ((d.get "input" (.obj [])).dumps false))])]

/-- The message with its tool calls, if it has any. -/
def withToolCalls (msg : Dict) (calls : List Json) : Dict :=
  if calls = [] then msg else msg.insert "tool_calls" (.arr calls)

/-- The OpenAI message of an assistant message with content blocks. -/
def assistantToOpenai (content : List Json) : Except Exc Dict := do
  let blocks ← content.mapM asDict
  let textParts := (blocks.filter fun b => (b.get "type").eqStr "text").map
    fun b => b.get "text" (.str "")
  let toolCalls := (blocks.filter fun b => (b.get "type").eqStr "tool_use").map toolUseToCall
  let text ← Json.join textParts
  return withToolCalls
    [("role", .str "assistant"), ("content", if text = [] then .null else .str text)] toolCalls

/-- What a content block of a user (or tool) message becomes. -/
inductive UserPiece where
  /-- A message of its own, sent before the user message. -/
  | toolMessage (m : Dict)
  /-- A part of the user message. -/
  | part (p : Dict)
  /-- Nothing: the block is of no known type. -/
  | nothing

/-- The content of a tool result: a string as it is, anything else as JSON text. -/
def resultText (content : Json) : Json :=
  if content.isStr then content else .str (content.dumps false)

/-- One content block of a user (or tool) message. -/
def userBlockToOpenai (b : Json) : Except Exc UserPiece := do
  let d ← asDict b
  let btype := d.get "type"
  rejectUnsupported py btype
  if btype.eqStr "tool_result" then
    return .toolMessage [("role", .str "tool"), ("tool_call_id", d.get "tool_use_id" (.str "")),
      ("content", resultText (d.get "content"))]
  else if btype.eqStr "text" then
    return .part [("type", .str "text"), ("text", d.get "text" (.str ""))]
  else if btype.eqStr "image" then
    return .part (← anthropicImageToOpenai py d)
  else if btype.eqStr "image_url" then
    return .part d
  else
    return .nothing

/-- The parts among the pieces. -/
def UserPiece.part? : UserPiece → Option Dict
  | .part p => some p
  | _ => none

/-- The messages among the pieces. -/
def UserPiece.toolMessage? : UserPiece → Option Dict
  | .toolMessage m => some m
  | _ => none

/-- The user message of the collected parts: a string if all of them are text. -/
def userMessageOf (parts : List Dict) : Except Exc (List Dict) :=
  if parts = [] then .ok []
  else if parts.all fun p => (p.get "type").eqStr "text" then do
    let text ← Json.join (parts.map fun p => p.get "text")
    return [[("role", .str "user"), ("content", .str text)]]
  else .ok [[("role", .str "user"), ("content", .arr (parts.map .obj))]]

/-- The OpenAI messages of one message. -/
def anthropicMessageToOpenai (m : Dict) : Except Exc (List Dict) :=
  match m.get "content" with
  | .arr content =>
    if (m.get "role").eqStr "assistant" then do
      return [← assistantToOpenai content]
    else do
      let pieces ← content.mapM (userBlockToOpenai py)
      return pieces.filterMap UserPiece.toolMessage? ++
        (← userMessageOf (pieces.filterMap UserPiece.part?))
  | content => .ok [[("role", m.get "role"), ("content", content)]]

/-- `anthropic_messages_to_openai`. -/
def anthropicMessagesToOpenai (messages : List Dict) : Except Exc (List Dict) := do
  return (← messages.mapM (anthropicMessageToOpenai py)).flatten

/-! ## OpenAI to Anthropic -/

/-- One tool of `openai_tools_to_anthropic`; a tool in Anthropic form is passed through. -/
def openaiToolToAnthropic (t : Json) : Except Exc Json :=
  if isFunctionTool t then do
    let d ← asDict t
    let fn ← asDict ((d.get "function").orElse (.obj []))
    return .obj [("name", fn.get "name" (.str "")),
      ("description", fn.get "description" (.str "")),
      ("input_schema", (fn.get "parameters").orElse emptySchema)]
  else .ok t

/-- `openai_tools_to_anthropic`. -/
def openaiToolsToAnthropic (tools : List Json) : Except Exc (List Json) :=
  tools.mapM openaiToolToAnthropic

/-- `openai_tool_choice_to_anthropic`. -/
def openaiToolChoiceToAnthropic : ToolChoice → Except Exc Json
  | .str s =>
    if s = ("auto" : Str) then .ok (.obj [("type", .str "auto")])
    else if s = ("required" : Str) then .ok (.obj [("type", .str "any")])
    else if s = ("none" : Str) then .ok (.obj [("type", .str "none")])
    else .error (.terminal ("unsupported tool_choice string: " ++ py.repr (.str s)))
  | .obj d =>
    if (d.get "type").eqStr "function" then do
      let fn ← asDict ((d.get "function").orElse (.obj []))
      return .obj [("type", .str "tool"), ("name", fn.get "name" (.str ""))]
    else .ok (.obj d)

/-- One block of `_openai_content_to_anthropic_blocks`. -/
def openaiBlockToAnthropic (b : Json) : Except Exc Json :=
  match b with
  | .obj d => do
    rejectUnsupported py (Dict.get d "type")
    if (Dict.get d "type").eqStr "image_url" then
      return .obj (← openaiImageUrlToAnthropic d)
    else return b
  | _ => .ok b

/-- The `tool_result` block of a tool message. -/
def toolResultBlock (m : Dict) : Json :=
  .obj [("type", .str "tool_result"), ("tool_use_id", m.get "tool_call_id" (.str "")),
    ("content", resultText (m.get "content"))]

/-- The `input` of a tool call: its arguments as JSON, `{}` where they are none or no JSON. -/
def parseArguments (rawArgs : Json) : Except Exc Json :=
  if !rawArgs.truthy then .ok (.obj [])
  else
    match rawArgs with
    | .str s =>
      match py.loads s with
      | .ok v => .ok v
      | .error e =>
        if e.cls = .jsonDecodeError ∨ e.cls = .typeError then .ok (.obj []) else .error e
    | _ => .ok (.obj [])

/-- The `tool_use` block of an OpenAI tool call. -/
def callToToolUse (tc : Json) : Except Exc Json := do
  let d ← asDict tc
  let fn ← asDict ((d.get "function").orElse (.obj []))
  let args ← parseArguments py (fn.get "arguments" (.str ""))
  return .obj [("type", .str "tool_use"), ("id", d.get "id" (.str "")),
    ("name", fn.get "name" (.str "")), ("input", args)]

/-- A text block, for nonempty text. -/
def textBlocks (text : Str) : List Json :=
  if text = [] then [] else [.obj [("type", .str "text"), ("text", .str text)]]

/-- `flush_tool_results`: the pending results as a user message. -/
def flushToolResults (pending : List Json) : List Dict :=
  if pending = [] then [] else [[("role", .str "user"), ("content", .arr pending)]]

/-- The blocks a user message adds to the pending tool results. -/
def userBlocks : Json → List Json
  | .str s => textBlocks s
  | .arr blocks => blocks
  | _ => []

/-- The message with its content blocks translated. -/
def translateContent (m : Dict) : Except Exc Dict :=
  match m.get "content" with
  | .arr content => do
    return m.insert "content" (.arr (← content.mapM (openaiBlockToAnthropic py)))
  | _ => .ok m

/-- The assistant message of a message with tool calls. -/
def toolCallsMessage (m : Dict) : Except Exc Dict := do
  let text := match m.get "content" with
    | .str s => textBlocks s
    | _ => []
  let calls ← (m.get "tool_calls").elements
  return [("role", .str "assistant"), ("content", .arr (text ++ (← calls.mapM (callToToolUse py))))]

/-- The loop of `openai_messages_to_anthropic`, with the tool results not yet sent. -/
def openaiMessagesFrom (pending : List Json) : List Dict → Except Exc (List Dict)
  | [] => .ok (flushToolResults pending)
  | m :: ms =>
    let role := m.get "role"
    if role.eqStr "tool" then openaiMessagesFrom (pending ++ [toolResultBlock m]) ms
    else do
      let m ← translateContent py m
      if role.eqStr "user" && !pending.isEmpty then
        -- the results and the user's own blocks are one message, as roles must alternate
        let merged := pending ++ userBlocks (m.get "content")
        return [("role", .str "user"), ("content", .arr merged)] :: (← openaiMessagesFrom [] ms)
      else if role.eqStr "assistant" && (m.get "tool_calls").truthy then do
        let msg ← toolCallsMessage py m
        return flushToolResults pending ++ msg :: (← openaiMessagesFrom [] ms)
      else
        return flushToolResults pending ++ m :: (← openaiMessagesFrom [] ms)

/-- `openai_messages_to_anthropic`. -/
def openaiMessagesToAnthropic (messages : List Dict) : Except Exc (List Dict) :=
  openaiMessagesFrom py [] messages

/-- `stop_reason_to_finish`; OpenAI's own values, and unknown ones, are passed through. -/
def stopReasonToFinish (stopReason : Option Str) : Option Str :=
  if stopReason = some "end_turn" then some "stop"
  else if stopReason = some "stop_sequence" then some "stop"
  else if stopReason = some "max_tokens" then some "length"
  else if stopReason = some "tool_use" then some "tool_calls"
  else stopReason

end AgentCtl
