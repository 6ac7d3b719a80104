import AgentCtl.Library.Unwinding
import AgentCtl.Server.CostGovernance
import AgentCtl.Server.Middleware

set_option relaxedAutoImplicit false
set_option autoImplicit false

/-!
# The server at work

`server/app.py`: the application that `build_server` returns, with any number of requests in flight.
A request arrives and passes the middleware, or is answered there; its body comes in pieces; when it
has ended it is parsed, and the handler goes on in a thread of its own. Between any two of these
steps others may take theirs.

The runs are those in which no two calls of the gateway overlap: a call, with all that it does to
the world and with its reply, is one step. The source runs the calls in threads, and streams chunk
by chunk, so that two calls may overlap there. Whatever is said of the gateway's world, of the
records or of the order of replies is said of runs in which they do not. All else interleaves
freely: arrivals, pieces of bodies, parsing, disconnects, and any of these with any call.

## Main definitions

* `AgentCtl.Hub` — the server: the gateway's world, the limits, and the connections.
* `AgentCtl.HttpServer.step` — what can happen next.
* `AgentCtl.HttpServer.replay` — the calls of the gateway alone, one after the other.

## Main results

* `AgentCtl.HttpServer.step_chunk`, `step_bodyEnd`, `step_call` — what the steps of a connection do.
* `AgentCtl.HttpServer.world_run` — the world is what the calls of the gateway have made of it.
-/

namespace AgentCtl

/-- The handlers that read a body. -/
inductive Endpoint where
  | chatCompletions
  | embeddings
  deriving DecidableEq

/-- The route of an endpoint. -/
def Endpoint.route : Endpoint → Route
  | chatCompletions => .chatCompletions
  | embeddings => .embeddings

/-- How far the handler of a connection is: it reads the body, or the gateway is to be called for a
parsed body, at the time that was noted when it was parsed. -/
inductive Phase where
  | reading (buffer : Bytes)
  | calling (bytes : Bytes) (body created : Json)

/-- A request whose handler is at work. -/
structure Connection where
  request : HttpRequest
  endpoint : Endpoint
  phase : Phase

/-- What a client gets. -/
inductive HttpReply where
  | reply (r : Reply)
  /-- `metrics.render()` -/
  | metricsPage
  /-- No route matches: the framework answers. -/
  | byFramework
  /-- An exception escaped: status 500. -/
  | crashed (e : Exc)

/-- A call of the gateway that was made for a connection: the request, its bytes, and what the
handler was given. -/
structure Served where
  id : ℕ
  request : HttpRequest
  endpoint : Endpoint
  bytes : Bytes
  body : Json
  created : Json
  answerId : Str
  patience : Option ℕ

/-- What happens at the server. A client stays connected for some more chunks of a stream. -/
inductive HttpMove where
  /-- A request arrives; the clock shows `now` when the middleware reads it. -/
  | arrive (id : ℕ) (request : HttpRequest) (now : ℚ)
  /-- A piece of a body arrives. -/
  | chunk (id : ℕ) (bytes : Bytes)
  /-- The body has ended. -/
  | bodyEnd (id : ℕ) (created : Json)
  /-- The client is gone before its body has ended. -/
  | disconnect (id : ℕ)
  /-- The thread of the handler calls the gateway. -/
  | call (id : ℕ) (answerId : Str) (patience : Option ℕ)

/-- The connection that something happens to. -/
def HttpMove.id : HttpMove → ℕ
  | arrive id .. | chunk id _ | bodyEnd id _ | disconnect id | call id .. => id

/-- The server: what its gateway works on, its limits, the requests that have arrived, the
connections at work, the replies, and the calls of the gateway, oldest first. -/
structure Hub (σ : Type) where
  world : World σ
  limits : Limits := {}
  seen : List ℕ := []
  connections : OrderedDict ℕ Connection := []
  answered : List (ℕ × HttpReply) := []
  served : List Served := []

namespace Hub

variable {σ : Type} (h : Hub σ)

/-- A reply. -/
def answer (id : ℕ) (r : HttpReply) : Hub σ := { h with answered := h.answered ++ [(id, r)] }

/-- A connection is at work, or goes on. -/
def set (id : ℕ) (c : Connection) : Hub σ := { h with connections := h.connections.insert id c }

/-- A connection is done. -/
def drop (id : ℕ) : Hub σ := { h with connections := h.connections.erase id }

/-- The request has arrived, and the middleware has decided. -/
def enter (id : ℕ) (limits : Limits) : Hub σ := { h with limits := limits, seen := h.seen ++ [id] }

/-- The connections after one has gone on. -/
lemma get?_set (id : ℕ) (c : Connection) (i : ℕ) :
    (h.set id c).connections.get? i = if id = i then some c else h.connections.get? i :=
  OrderedDict.get?_insert _ _ _ _

/-- The connections after one is done. -/
lemma get?_drop (id i : ℕ) :
    (h.drop id).connections.get? i = if id = i then none else h.connections.get? i :=
  OrderedDict.get?_erase _ _ _

end Hub

namespace HttpServer

variable {σ : Type} (S : HttpServer σ)

/-- The handler of an endpoint, from the parsed body on. -/
def handle (c : Endpoint) (answerId : Str) (created body : Json) : Call σ Reply :=
  match c with
  | .chatCompletions => S.chatCompletions answerId created body
  | .embeddings => S.toServer.embeddings body

/-- The reply of a handler that has come to its end. -/
def replyOf : Except Exc Reply → HttpReply
  | .ok r => .reply r
  | .error e => .crashed e

/-- The handler of a call, in a thread of its own. -/
def runServed (w : World σ) (x : Served) : Except Exc Reply × World σ × List (Event σ) :=
  (S.handle x.endpoint x.answerId x.created x.body).run { w with patience := x.patience }

/-- `await call_next(request)`: the route of the request. -/
def dispatch (h : Hub σ) (id : ℕ) (request : HttpRequest) : Hub σ :=
  match routeOf request with
  | .healthz => h.answer id (.reply (.json [("status", .str "ok")]))
  | .metrics => h.answer id .metricsPage
  | .models => h.answer id (.reply (.json S.listModels))
  | .chatCompletions => h.set id ⟨request, .chatCompletions, .reading []⟩
  | .embeddings => h.set id ⟨request, .embeddings, .reading []⟩
  | .unrouted => h.answer id .byFramework

/-- A request arrives. -/
def arrive (h : Hub σ) (id : ℕ) (request : HttpRequest) (now : ℚ) : Hub σ :=
  match S.safetyMiddleware h.limits request now with
  | (.refused r, limits) => (h.enter id limits).answer id (.reply r)
  | (.raised e, limits) => (h.enter id limits).answer id (.crashed e)
  | (.passed, limits) => S.dispatch (h.enter id limits) id request

/-- What can happen next: every request arrives once, and the steps of a connection follow its
phase. No two calls of the gateway overlap: a call with its reply is one step. -/
def step (h : Hub σ) : HttpMove → Option (Hub σ)
  | .arrive id request now => if id ∈ h.seen then none else some (S.arrive h id request now)
  | .chunk id bytes =>
    match h.connections.get? id with
    | some ⟨request, endpoint, .reading buffer⟩ =>
      match S.readChunk buffer bytes with
      | none => some ((h.drop id).answer id (.reply requestTooLarge))
      | some buffer => some (h.set id ⟨request, endpoint, .reading buffer⟩)
    | _ => none
  | .bodyEnd id created =>
    match h.connections.get? id with
    | some ⟨request, endpoint, .reading buffer⟩ =>
      match S.parseBody buffer with
      | .error e => some ((h.drop id).answer id (.crashed e))
      | .ok (.error r) => some ((h.drop id).answer id (.reply r))
      | .ok (.ok body) => some (h.set id ⟨request, endpoint, .calling buffer body created⟩)
    | _ => none
  | .disconnect id =>
    match h.connections.get? id with
    | some ⟨_, _, .reading _⟩ => some (h.drop id)
    | _ => none
  | .call id answerId patience =>
    match h.connections.get? id with
    | some ⟨request, endpoint, .calling bytes body created⟩ =>
      let x : Served := ⟨id, request, endpoint, bytes, body, created, answerId, patience⟩
      let r := S.runServed h.world x
      some { (h.drop id).answer id (replyOf r.1) with world := r.2.1, served := h.served ++ [x] }
    | _ => none

/-- The server after a list of moves. -/
def run (h : Hub σ) (ms : List HttpMove) : Option (Hub σ) := PartialRun.run S.step h ms

/-- The calls of the gateway alone, one after the other. -/
def replay (w : World σ) (xs : List Served) : World σ :=
  xs.foldl (fun w x => (S.runServed w x).2.1) w

/-! ## What the steps do -/

/-- What the verdict on a request comes to: a reply, or the handler of a connection at its start. -/
def outset (request : HttpRequest) : Verdict → HttpReply ⊕ Connection
  | .refused r => .inl (.reply r)
  | .raised e => .inl (.crashed e)
  | .passed =>
    match routeOf request with
    | .healthz => .inl (.reply (.json [("status", .str "ok")]))
    | .metrics => .inl .metricsPage
    | .models => .inl (.reply (.json S.listModels))
    | .chatCompletions => .inr ⟨request, .chatCompletions, .reading []⟩
    | .embeddings => .inr ⟨request, .embeddings, .reading []⟩
    | .unrouted => .inl .byFramework

/-- What the parsing of a body comes to: a reply, or the body. -/
def parseOutcome (buffer : Bytes) : HttpReply ⊕ Json :=
  match S.parseBody buffer with
  | .error e => .inl (.crashed e)
  | .ok (.error r) => .inl (.reply r)
  | .ok (.ok body) => .inr body

end HttpServer

/-- The steps of the server, one case for each thing that can come of one. -/
inductive HttpStep {σ : Type} (S : HttpServer σ) (h : Hub σ) : HttpMove → Hub σ → Prop
  /-- A request is answered by the middleware, or by a handler that needs no body. -/
  | answered {id : ℕ} {request : HttpRequest} {now : ℚ} {r : HttpReply} (hid : id ∉ h.seen)
    (hr : S.outset request (S.safetyMiddleware h.limits request now).1 = .inl r) :
    HttpStep S h (.arrive id request now)
      ((h.enter id (S.safetyMiddleware h.limits request now).2).answer id r)
  /-- A request passes, and its handler begins to read. -/
  | opened {id : ℕ} {request : HttpRequest} {now : ℚ} {c : Connection} (hid : id ∉ h.seen)
    (hc : S.outset request (S.safetyMiddleware h.limits request now).1 = .inr c) :
    HttpStep S h (.arrive id request now)
      ((h.enter id (S.safetyMiddleware h.limits request now).2).set id c)
  /-- A piece of a body is read. -/
  | read {id : ℕ} {bytes buffer buffer' : Bytes} {request : HttpRequest} {endpoint : Endpoint}
    (hget : h.connections.get? id = some ⟨request, endpoint, .reading buffer⟩)
    (hread : S.readChunk buffer bytes = some buffer') :
    HttpStep S h (.chunk id bytes) (h.set id ⟨request, endpoint, .reading buffer'⟩)
  /-- A piece makes a body too long. -/
  | overrun {id : ℕ} {bytes buffer : Bytes} {request : HttpRequest} {endpoint : Endpoint}
    (hget : h.connections.get? id = some ⟨request, endpoint, .reading buffer⟩)
    (hread : S.readChunk buffer bytes = none) :
    HttpStep S h (.chunk id bytes) ((h.drop id).answer id (.reply requestTooLarge))
  /-- A body is parsed. -/
  | parsed {id : ℕ} {created body : Json} {buffer : Bytes} {request : HttpRequest}
    {endpoint : Endpoint}
    (hget : h.connections.get? id = some ⟨request, endpoint, .reading buffer⟩)
    (hparse : S.parseOutcome buffer = .inr body) :
    HttpStep S h (.bodyEnd id created)
      (h.set id ⟨request, endpoint, .calling buffer body created⟩)
  /-- A body is refused. -/
  | unparsed {id : ℕ} {created : Json} {buffer : Bytes} {request : HttpRequest}
    {endpoint : Endpoint} {r : HttpReply}
    (hget : h.connections.get? id = some ⟨request, endpoint, .reading buffer⟩)
    (hparse : S.parseOutcome buffer = .inl r) :
    HttpStep S h (.bodyEnd id created) ((h.drop id).answer id r)
  /-- A client is gone. -/
  | gone {id : ℕ} {buffer : Bytes} {request : HttpRequest} {endpoint : Endpoint}
    (hget : h.connections.get? id = some ⟨request, endpoint, .reading buffer⟩) :
    HttpStep S h (.disconnect id) (h.drop id)
  /-- The gateway is called. -/
  | called {id : ℕ} {answerId : Str} {patience : Option ℕ} {bytes : Bytes} {body created : Json}
    {request : HttpRequest} {endpoint : Endpoint} {x : Served}
    (hget : h.connections.get? id = some ⟨request, endpoint, .calling bytes body created⟩)
    (hx : x = ⟨id, request, endpoint, bytes, body, created, answerId, patience⟩) :
    HttpStep S h (.call id answerId patience)
      { (h.drop id).answer id (HttpServer.replyOf (S.runServed h.world x).1) with
        world := (S.runServed h.world x).2.1, served := h.served ++ [x] }

namespace HttpServer

variable {σ : Type} {S : HttpServer σ} {h h' : Hub σ} {m : HttpMove}

/-- What becomes of a request that arrives. -/
lemma arrive_eq (h : Hub σ) (id : ℕ) (request : HttpRequest) (now : ℚ) :
    S.arrive h id request now =
      match S.outset request (S.safetyMiddleware h.limits request now).1 with
      | .inl r => (h.enter id (S.safetyMiddleware h.limits request now).2).answer id r
      | .inr c => (h.enter id (S.safetyMiddleware h.limits request now).2).set id c := by
  unfold arrive outset dispatch
  rcases S.safetyMiddleware h.limits request now with ⟨r | e | _, limits⟩
  · rfl
  · rfl
  · dsimp only
    cases routeOf request with
    | healthz => rfl
    | metrics => rfl
    | models => rfl
    | chatCompletions => rfl
    | embeddings => rfl
    | unrouted => rfl

/-- A body that is parsed. -/
lemma parseOutcome_eq_inr {buffer : Bytes} {body : Json} :
    S.parseOutcome buffer = .inr body ↔ S.parseBody buffer = .ok (.ok body) := by
  unfold parseOutcome
  rcases S.parseBody buffer with e | r | b
  · simp
  · simp
  · simp

/-- What becomes of a body that has ended. -/
lemma step_bodyEnd {id : ℕ} {request : HttpRequest} {endpoint : Endpoint} {buffer : Bytes}
    (hget : h.connections.get? id = some ⟨request, endpoint, .reading buffer⟩) (created : Json) :
    S.step h (.bodyEnd id created) =
      match S.parseOutcome buffer with
      | .inl r => some ((h.drop id).answer id r)
      | .inr body => some (h.set id ⟨request, endpoint, .calling buffer body created⟩) := by
  simp only [step, hget, parseOutcome]
  rcases S.parseBody buffer with e | r | body
  · rfl
  · rfl
  · rfl

/-- **Every step is one of these.** -/
lemma httpStep_of_step (hstep : S.step h m = some h') : HttpStep S h m h' := by
  cases m with
  | arrive id request now =>
    simp only [step] at hstep
    split at hstep
    · cases hstep
    next hid =>
    rw [arrive_eq] at hstep
    cases hout : S.outset request (S.safetyMiddleware h.limits request now).1 with
    | inl r =>
      rw [hout] at hstep
      obtain rfl := Option.some.inj hstep
      exact .answered hid hout
    | inr c =>
      rw [hout] at hstep
      obtain rfl := Option.some.inj hstep
      exact .opened hid hout
  | chunk id bytes =>
    simp only [step] at hstep
    split at hstep
    case h_2 => cases hstep
    next request endpoint buffer hget =>
    cases hread : S.readChunk buffer bytes with
    | none =>
      rw [hread] at hstep
      obtain rfl := Option.some.inj hstep
      exact .overrun hget hread
    | some buffer' =>
      rw [hread] at hstep
      obtain rfl := Option.some.inj hstep
      exact .read hget hread
  | bodyEnd id created =>
    have hget : ∃ request endpoint buffer,
        h.connections.get? id = some ⟨request, endpoint, .reading buffer⟩ := by
      simp only [step] at hstep
      split at hstep
      case h_2 => cases hstep
      next request endpoint buffer hget => exact ⟨request, endpoint, buffer, hget⟩
    obtain ⟨request, endpoint, buffer, hget⟩ := hget
    rw [step_bodyEnd hget] at hstep
    cases hparse : S.parseOutcome buffer with
    | inl r =>
      rw [hparse] at hstep
      obtain rfl := Option.some.inj hstep
      exact .unparsed hget hparse
    | inr body =>
      rw [hparse] at hstep
      obtain rfl := Option.some.inj hstep
      exact .parsed hget hparse
  | disconnect id =>
    simp only [step] at hstep
    split at hstep
    case h_2 => cases hstep
    next request endpoint buffer hget =>
    obtain rfl := Option.some.inj hstep
    exact .gone hget
  | call id answerId patience =>
    simp only [step] at hstep
    split at hstep
    case h_2 => cases hstep
    next request endpoint bytes body created hget =>
    obtain rfl := Option.some.inj hstep
    exact .called hget rfl

/-- Each of these is a step. -/
lemma step_of_httpStep (hstep : HttpStep S h m h') : S.step h m = some h' := by
  cases hstep with
  | answered hid hr => simp only [step, if_neg hid, arrive_eq, hr]
  | opened hid hc => simp only [step, if_neg hid, arrive_eq, hc]
  | read hget hread => simp only [step, hget, hread]
  | overrun hget hread => simp only [step, hget, hread]
  | parsed hget hparse => rw [step_bodyEnd hget, hparse]
  | unparsed hget hparse => rw [step_bodyEnd hget, hparse]
  | gone hget => simp only [step, hget]
  | called hget hx =>
    subst hx
    simp only [step, hget]

/-! ## The world -/

/-- **The world is what the calls of the gateway have made of it**, one after the other, since no
two of them overlap: replies of the middleware and bodies that are read or refused have no part in
it. -/
lemma world_run {w : World σ} {ms : List HttpMove} (hrun : S.run { world := w } ms = some h) :
    h.world = S.replay w h.served := by
  refine PartialRun.historyInvariant (I := fun _ h => h.world = S.replay w h.served) rfl ?_ hrun
  intro ms h m h' _ hworld hstep
  cases httpStep_of_step hstep with
  | called hget hx =>
    unfold replay at hworld ⊢
    rw [List.foldl_append, ← hworld]
    rfl
  | _ => exact hworld

end HttpServer

/-! ## A server for concrete runs -/

/-- The text of bytes that are all ASCII. -/
def asciiText (bytes : Bytes) : Except Exc Str :=
  if bytes.all (· < 128) then .ok (bytes.map fun b => Fin.ofNat _ b.toNat)
  else .error ⟨.other "UnicodeDecodeError", "'utf-8' codec can't decode", none⟩

/-- A run time that reads one text only. -/
def readsOne (body : Json) : Runtime :=
  { Runtime.plain with
    loads := fun s => if s = body.dumps false then .ok body else Runtime.plain.loads s }

/-- A server that asks for a token and allows one request per minute. -/
def tokenServer : HttpServer Scripted where
  toServer := { pricedServer with gateway := { pricedGateway with py := readsOne listedBody } }
  headersGet := firstLine
  urlPath request := .ok (urlPathOf request)
  decodeText := asciiText
  apiToken := some "key"
  maxRequestBytes := 100
  rateLimitPerMinute := 1

/-- A chat request from a host, with or without the token. -/
def chatRequest (host : Str) (withToken : Bool) : HttpRequest where
  headers := ("host", "localhost") :: if withToken then [("authorization", "Bearer key")] else []
  client := some host
  method := "POST"
  path := "/v1/chat/completions"

/-- Such a request has a plain URL. -/
lemma hasPlainUrl_chatRequest (host : Str) (withToken : Bool) :
    (chatRequest host withToken).HasPlainUrl where
  host line hline := by
    have hlocal : line = "localhost" := by
      cases withToken <;> exact (Option.some.inj hline).symm
    rw [hlocal]
    decide
  path := ⟨_, rfl, by decide⟩

/-- The bytes of the chat body. -/
def listedBytes : Bytes := (listedBody.dumps false).map fun c => UInt8.ofNat c.val

/-- Two requests from one host at the same time, the first one without the token; the body of the
second one comes in two pieces, and a third request is one too many. -/
def threeRequests : List HttpMove :=
  [.arrive 1 (chatRequest "h" false) 0, .arrive 2 (chatRequest "h" true) 0,
    .chunk 2 (listedBytes.take 9), .arrive 3 (chatRequest "h" true) 1,
    .chunk 2 (listedBytes.drop 9), .bodyEnd 2 (.int 0), .call 2 "1" none]

end AgentCtl
