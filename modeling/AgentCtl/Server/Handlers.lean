import AgentCtl.Core.StreamVisits
import AgentCtl.Core.EmbeddingRunner
import AgentCtl.Library.ExceptList
import AgentCtl.Server.App

set_option relaxedAutoImplicit false
set_option autoImplicit false

/-!
# Handlers of the HTTP server

`server/app.py`: the handlers of `/v1/chat/completions` and `/v1/embeddings`, from the parsed body
on. They check the body, refuse direct `provider/model` names, and call the gateway; an exception of
the gateway becomes an error reply, unless a stream has begun.

## Main definitions

* `AgentCtl.Server` — what `build_server` is given.
* `AgentCtl.Server.directModelBlocked` — `_direct_model_blocked`.
* `AgentCtl.Server.chatCompletions`, `AgentCtl.Server.embeddings` — the handlers.

## Main results

* `AgentCtl.model_of_toNormalized` — a request is for the model its body names.
-/

namespace AgentCtl

/-- What `build_server` is given; it refuses a default for `max_tokens` that is not positive. -/
structure Server (σ : Type) where
  gateway : Gateway σ
  conv : Conversions
  models : List Str := []
  allowDirectModels : Bool := true
  defaultMaxTokens : ℤ := 1024
  defaultMaxTokens_pos : 0 < defaultMaxTokens := by decide

/-- A reply: an error with its status, a JSON object, or server-sent events; a stream that breaks
off ends with an exception. -/
inductive Reply where
  | error (status : ℕ) (body : Dict)
  | json (body : Dict)
  | events (frames : List SseFrame) (broken : Option Exc)

/-- `_error_body` -/
def errorBody (message errType : Str) : Dict :=
  [("error", .obj [("message", .str message), ("type", .str errType), ("code", .str errType)])]

/-- A refusal of the body: status 400. -/
def invalidRequest (message : Str) : Reply := .error 400 (errorBody message "invalid_request_error")

/-- `_gateway_error_response` -/
def gatewayErrorReply (e : Exc) : Reply :=
  if e.isTerminal then .error 400 (errorBody e.msg "terminal_error")
  else if e.cls = .budgetExceeded then .error 402 (errorBody e.msg "budget_exceeded")
  else if e.cls = .allTargetsFailed then .error 502 (errorBody e.msg "upstream_error")
  else .error 400 (errorBody e.msg "gateway_error")

/-- `to_openai_embeddings` -/
def toOpenaiEmbeddings (resp : EmbeddingResponse) (requestedModel : Str) : Dict :=
  [("object", .str "list"),
    ("data", .arr (resp.vectors.mapIdx fun i vec => .obj [("object", .str "embedding"),
      ("index", .int i), ("embedding", .arr (vec.map .float))])),
    ("model", .str requestedModel),
    ("usage", .obj [("prompt_tokens", .int resp.inputTokens),
      ("total_tokens", .int resp.inputTokens)])]

/-- The frames of a stream that breaks off: nothing closes it. -/
def brokenFrames (chunks : List StreamChunk) (head : AnswerHead) : List SseFrame :=
  deltaFrame head [("role", .str "assistant")] :: chunks.flatMap (chunkFrames head)

/-- The model that a body names. -/
def requestedModel (body : Json) : Str :=
  match body with
  | .obj d =>
    match Dict.get d "model" with
    | .str model => model
    | _ => []
  | _ => []

/-- The inputs of an embeddings body: a string, or a list of strings. -/
def embeddingInputs (body : Dict) : Option (List Str) :=
  match body.get "input" with
  | .str s => some [s]
  | .arr xs => xs.mapM fun x =>
    match x with
    | .str s => some s
    | _ => none
  | _ => none

namespace Server

variable {σ : Type} (S : Server σ)

/-- `_direct_model_blocked`: is a name of the form `provider/model` refused? -/
def directModelBlocked (model : Str) : Bool :=
  !(S.allowDirectModels || !List.elem 47 model || S.models.elem model)

/-- The refusal of a direct name. -/
def directModelReply (model : Str) : Reply :=
  invalidRequest ("direct 'provider/model' target " ++ (S.gateway.py.repr (.str model) ++
    " not allowed; use a configured route or alias"))

/-- `except GatewayError`: an error reply; no handler knows any other exception. -/
def orErrorReply (e : Exc) : Call σ Reply :=
  if e.isGateway then return gatewayErrorReply e else Prog.raise e

/-- The answer of a request: one object. -/
def answer (request : NormalizedRequest) (head : AnswerHead) : Call σ Reply := do
  let r ← Prog.attempt (S.gateway.invoke request)
  match r with
  | .error e => orErrorReply e
  | .ok resp =>
    let body ← Prog.ofExcept (toOpenaiResponse resp head)
    return .json body

/-- The answer of a request as a stream. The first chunk is pulled before the reply begins, so that
an exception before it becomes an error reply; a later one breaks the stream off. -/
def answerStream (request : NormalizedRequest) (head : AnswerHead) : Call σ Reply := do
  let r ← Prog.listen (S.gateway.invokeStream request)
  match r.1, deliveredOf r.2 with
  | .error e, [] => orErrorReply e
  | .error e, chunks => return .events (brokenFrames chunks head) (some e)
  | .ok (), chunks => return .events (sseFrames chunks head) none

/-- `chat_completions`, from the parsed body on. -/
def chatCompletions (id : Str) (created : Json) (body : Json) : Call σ Reply :=
  match body with
  | .obj body =>
    match Dict.get body "model" with
    | .str model =>
      if strip S.gateway.py model = [] then pure (invalidRequest "field 'model' required")
      else if S.directModelBlocked model then pure (S.directModelReply model)
      else
        match toNormalized S.gateway.py S.conv body S.defaultMaxTokens with
        | .error e => if e.isValueError then pure (invalidRequest e.msg) else Prog.raise e
        | .ok request =>
          if (Dict.get body "stream").truthy then S.answerStream request ⟨id, created, model⟩
          else S.answer request ⟨id, created, model⟩
    | _ => pure (invalidRequest "field 'model' required")
  | _ => pure (invalidRequest "request body must be an object")

/-- `embeddings`, from the parsed body on. -/
def embeddings (body : Json) : Call σ Reply :=
  match body with
  | .obj body =>
    match Dict.get body "model" with
    | .str model =>
      if strip S.gateway.py model = [] then
        pure (invalidRequest "fields 'model' and 'input' required")
      else if S.directModelBlocked model then pure (S.directModelReply model)
      else
        match embeddingInputs body with
        | none => pure (invalidRequest "field 'input' must be a string or array of strings")
        | some [] => pure (invalidRequest "field 'input' is empty")
        | some inputs => do
          let r ← Prog.attempt (S.gateway.embed model inputs
            { consumer := some (consumerOf S.gateway.py body) })
          match r with
          | .error e => orErrorReply e
          | .ok resp => return .json (toOpenaiEmbeddings resp model)
    | _ => pure (invalidRequest "fields 'model' and 'input' required")
  | _ => pure (invalidRequest "fields 'model' and 'input' required")

end Server

/-- A request is for the model its body names. -/
lemma model_of_toNormalized {py : Runtime} {conv : Conversions} {body : Dict} {default : ℤ}
    {request : NormalizedRequest} {model : Str} (hmodel : body.get "model" = .str model)
    (h : toNormalized py conv body default = .ok request) : request.model = model := by
  unfold toNormalized at h
  obtain ⟨messages, -, h⟩ := Except.bind_eq_ok.mp h
  obtain ⟨maxTokens, -, h⟩ := Except.bind_eq_ok.mp h
  obtain ⟨temperature, -, h⟩ := Except.bind_eq_ok.mp h
  obtain ⟨tools, -, h⟩ := Except.bind_eq_ok.mp h
  obtain ⟨toolChoice, -, h⟩ := Except.bind_eq_ok.mp h
  obtain ⟨_, -, h⟩ := Except.bind_eq_ok.mp h
  obtain ⟨model', hmodel', h⟩ := Except.bind_eq_ok.mp h
  obtain rfl := Except.ok.inj h
  obtain ⟨v, hv, hstr⟩ := Except.bind_eq_ok.mp hmodel'
  have hget : v = .str model := by
    unfold Json.item at hv
    unfold Dict.get OrderedDict.getD at hmodel
    dsimp only at hv
    split at hv
    · next x hx =>
      rw [hx] at hmodel
      rw [← Except.ok.inj hv]
      exact hmodel
    · cases hv
  rw [hget] at hstr
  exact (Except.ok.inj hstr).symm

end AgentCtl
