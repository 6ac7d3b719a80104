import AgentCtl.Server.Handlers
import AgentCtl.Server.RateLimiter
import AgentCtl.Server.RateLimitKey

set_option relaxedAutoImplicit false
set_option autoImplicit false

/-!
# Before the handlers

`server/app.py`: what becomes of a request before a handler sees its body. The middleware tests the
declared length, the bearer token and the rate, with one table of buckets for requests and another
one for failed authentication; `_read_json_body` reads the body piece by piece and gives up at the
piece that makes it too long.

A request has two paths. The router matches the one of the request line. The middleware asks
`request.url.path`, and Starlette makes up that URL from the `Host` line with the path behind it, so
that the two differ where the `Host` line has a slash and a question mark of its own. Which URL it
makes up is left open (`urlPath`); `urlPathOf` is what it comes to for a host without brackets.

## Main definitions

* `AgentCtl.HttpServer` — all that `build_server` is given.
* `AgentCtl.urlPathOf` — the path of the URL that Starlette makes up.
* `AgentCtl.HttpServer.authError` — `_auth_error`.
* `AgentCtl.HttpServer.safetyMiddleware` — `safety_middleware`.
* `AgentCtl.HttpServer.readJsonBody` — `_read_json_body`.
* `AgentCtl.HttpServer.classOf` — what a request is to the middleware, whatever the tables hold.

## Main results

* `AgentCtl.HttpServer.safetyMiddleware_eq` — what the middleware can do, and to which table.
* `AgentCtl.HttpServer.readJsonBody_eq` — what is read does not depend on how a body is cut up.
-/

namespace AgentCtl

/-- The bytes of a body. -/
abbrev Bytes := List UInt8

/-- A request without its body. -/
structure HttpRequest extends PeerRequest where
  method : Str
  path : Str

/-- `request.url.path` as Starlette and `urlsplit` make it up for a host without brackets: the URL
is the first `Host` line with the path of the request line behind it, and its path goes from the
first of the characters `/?#` to the next one of `?#`. -/
def urlPathOf (request : HttpRequest) : Str :=
  let url := (headerLines request.headers "host").head?.getD [] ++ request.path
  (url.dropWhile fun c => !List.elem c (Str.ofString "/?#")).takeWhile fun c =>
    !List.elem c (Str.ofString "?#")

/-- What `build_server` is given. Starlette's `Headers.get` and `request.url.path` are a part of it,
and so is how `json.loads` decodes bytes: as UTF-8, UTF-16 or UTF-32, or not at all. -/
structure HttpServer (σ : Type) extends Server σ where
  headersGet : List (Str × Str) → Str → Option Str
  urlPath : HttpRequest → Except Exc Str
  decodeText : Bytes → Except Exc Str
  apiToken : Option Str := none
  metricsToken : Option Str := none
  maxRequestBytes : ℤ := 1000000
  rateLimitPerMinute : ℤ := 120
  trustProxyHeaders : Bool := false
  trustedProxyNetworks : List IpNetwork := []

/-- A host of which no character ends a host, and a path that begins as one and has no query. -/
structure HttpRequest.HasPlainUrl (request : HttpRequest) : Prop where
  host : ∀ line ∈ (headerLines request.headers "host").head?,
    line.all (fun c => !List.elem c (Str.ofString "/?#")) = true
  path : ∃ rest, request.path = 47 :: rest ∧
    rest.all (fun c => !List.elem c (Str.ofString "?#")) = true

/-- A plain URL has the path of the request line. -/
lemma urlPathOf_eq_path {request : HttpRequest} (h : request.HasPlainUrl) :
    urlPathOf request = request.path := by
  obtain ⟨rest, hpath, hrest⟩ := h.path
  have hhost : ∀ c ∈ (headerLines request.headers "host").head?.getD [],
      (!List.elem c (Str.ofString "/?#")) = true := by
    cases hline : (headerLines request.headers "host").head? with
    | none => simp
    | some line => exact List.all_eq_true.mp (h.host line hline)
  unfold urlPathOf
  dsimp only
  rw [List.dropWhile_append_of_pos hhost, hpath]
  have hslash : ((47 : CodePoint) :: rest).dropWhile
      (fun c => !List.elem c (Str.ofString "/?#")) = 47 :: rest := rfl
  rw [hslash, List.takeWhile_eq_self_iff]
  intro c hc
  rcases List.mem_cons.mp hc with rfl | hc
  · rfl
  · exact List.all_eq_true.mp hrest c hc

/-- The buckets of `build_server`: of requests, and of failed authentication. -/
structure Limits where
  requestBuckets : Buckets := []
  authFailureBuckets : Buckets := []

/-- `max_clients` -/
def maxClients : ℕ := 10000

/-- What the middleware decides: it replies, lets an exception escape, or calls the handler. -/
inductive Verdict where
  | refused (r : Reply)
  | raised (e : Exc)
  | passed

/-- The routes of the application; all else is answered by FastAPI. -/
inductive Route where
  | healthz
  | metrics
  | models
  | chatCompletions
  | embeddings
  | unrouted
  deriving DecidableEq

/-- The route of a request: its path and its method have to match. -/
def routeOf (request : HttpRequest) : Route :=
  if request.path = "/healthz" ∧ request.method = "GET" then .healthz
  else if request.path = "/metrics" ∧ request.method = "GET" then .metrics
  else if request.path = "/v1/models" ∧ request.method = "GET" then .models
  else if request.path = "/v1/chat/completions" ∧ request.method = "POST" then .chatCompletions
  else if request.path = "/v1/embeddings" ∧ request.method = "POST" then .embeddings
  else .unrouted

/-- `s.encode()`: UTF-8 encodes all code points but surrogates, and different strings differently,
so that strings stand for their bytes. -/
def encodeStr (s : Str) : Except Exc Str :=
  if s.any CodePoint.isSurrogate then
    .error ⟨.unicodeEncodeError, "'utf-8' codec can't encode: surrogates not allowed", none⟩
  else .ok s

/-- `_request_too_large_response` -/
def requestTooLarge : Reply := .error 413 (errorBody "request too large" "request_too_large")

/-- The reply to a client that has used up its rate. -/
def rateLimitExceeded : Reply :=
  .error 429 (errorBody "rate limit exceeded" "rate_limit_exceeded")

/-- `a or b` of optional strings. -/
def orStr : Option Str → Option Str → Option Str
  | some (c :: s), _ => some (c :: s)
  | _, b => b

namespace HttpServer

variable {σ : Type} (S : HttpServer σ)

/-! ## The middleware -/

/-- `int(request.headers.get("content-length") or 0)` -/
def declaredLength (request : HttpRequest) : Except Exc ℤ :=
  match S.headersGet request.headers "content-length" with
  | none => .ok 0
  | some [] => .ok 0
  | some s => S.conv.int (.str s)

/-- The token that a path asks for. -/
def tokenOf (path : Str) : Option Str :=
  if path = "/metrics" then orStr S.metricsToken S.apiToken else S.apiToken

/-- `_auth_error`: the body of the error, if there is one. -/
def authError (request : HttpRequest) : Except Exc (Option Dict) := do
  let path ← S.urlPath request
  if path = "/healthz" then return none
  else
    match S.tokenOf path with
    | none => return none
    | some [] => return none
    | some token =>
      let actual ← encodeStr ((S.headersGet request.headers "authorization").getD [])
      let expected ← encodeStr ("Bearer " ++ token)
      if actual = expected then return none
      else return some (errorBody "missing or invalid bearer token" "unauthorized")

/-- `request.url.path in {"/healthz", "/metrics"}`. The URL is made up once, for `_auth_error`, and
kept: where that raised, this is not asked. -/
def isExempt (request : HttpRequest) : Bool :=
  match S.urlPath request with
  | .ok path => path = "/healthz" ∨ path = "/metrics"
  | .error _ => false

/-- The key of a request in a table of buckets. -/
def keyOfRequest (request : HttpRequest) : Str :=
  rateLimitKey S.gateway.py S.headersGet request.toPeerRequest S.trustProxyHeaders
    S.trustedProxyNetworks

/-- `rate_limit_per_minute > 0 and _rate_limited(…)` -/
def overLimit (buckets : Buckets) (request : HttpRequest) (now : ℚ) : Bool × Buckets :=
  if 0 < S.rateLimitPerMinute then
    rateLimited buckets (S.keyOfRequest request) S.rateLimitPerMinute.toNat maxClients now
  else (false, buckets)

/-- `safety_middleware`, with the reading of the clock that a limiter makes. -/
def safetyMiddleware (limits : Limits) (request : HttpRequest) (now : ℚ) : Verdict × Limits :=
  match S.declaredLength request with
  | .error e =>
    (if e.isValueError then .refused (invalidRequest "invalid Content-Length") else .raised e,
      limits)
  | .ok length =>
    if S.maxRequestBytes < length then (.refused requestTooLarge, limits)
    else
      match S.authError request with
      | .error e => (.raised e, limits)
      | .ok (some body) =>
        let r := S.overLimit limits.authFailureBuckets request now
        (.refused (if r.1 then rateLimitExceeded else .error 401 body),
          { limits with authFailureBuckets := r.2 })
      | .ok none =>
        if S.isExempt request then (.passed, limits)
        else
          let r := S.overLimit limits.requestBuckets request now
          (if r.1 then .refused rateLimitExceeded else .passed,
            { limits with requestBuckets := r.2 })

/-! ## The body -/

/-- One round of `async for chunk in request.stream()`: what has been read, or nothing if the piece
makes it too long. -/
def readChunk (buffer chunk : Bytes) : Option Bytes :=
  if S.maxRequestBytes < buffer.length + chunk.length then none else some (buffer ++ chunk)

/-- `json.loads(chunks)` and what becomes of its exceptions: the parsed body, or a reply. -/
def parseBody (buffer : Bytes) : Except Exc (Except Reply Json) :=
  match S.decodeText buffer >>= S.gateway.py.loads with
  | .ok body => .ok (.ok body)
  | .error e =>
    if e.cls = .jsonDecodeError ∨ e.cls = .other "UnicodeDecodeError" then
      .ok (.error (invalidRequest "invalid JSON body"))
    else .error e

/-- The loop of `_read_json_body`, from what has been read so far. -/
def readChunks (buffer : Bytes) : List Bytes → Option Bytes
  | [] => some buffer
  | chunk :: chunks =>
    match S.readChunk buffer chunk with
    | none => none
    | some buffer => readChunks buffer chunks

/-- `_read_json_body` -/
def readJsonBody (chunks : List Bytes) : Except Exc (Except Reply Json) :=
  match S.readChunks [] chunks with
  | none => .ok (.error requestTooLarge)
  | some buffer => S.parseBody buffer

/-- `list_models` -/
def listModels : Dict :=
  [("object", .str "list"), ("data", .arr (S.models.map fun m =>
    .obj [("id", .str m), ("object", .str "model"), ("owned_by", .str "agent-ctl")]))]

/-! ## What becomes of a request -/

/-- What the middleware makes of a request before it looks at any table: a reply or an exception at
once, a failed authentication, a request that is not limited, or one that is. -/
inductive RequestClass where
  | early (v : Verdict)
  | unauthorized (body : Dict)
  | exempt
  | metered

/-- The class of a request: no table has a say in it. -/
def classOf (request : HttpRequest) : RequestClass :=
  match S.declaredLength request with
  | .error e =>
    .early (if e.isValueError then .refused (invalidRequest "invalid Content-Length")
      else .raised e)
  | .ok length =>
    if S.maxRequestBytes < length then .early (.refused requestTooLarge)
    else
      match S.authError request with
      | .error e => .early (.raised e)
      | .ok (some body) => .unauthorized body
      | .ok none => if S.isExempt request then .exempt else .metered

variable {S} {limits : Limits} {request : HttpRequest} {now : ℚ}

/-- **What the middleware can do**: a failed authentication goes to the one table, a limited request
to the other one, and no table is touched by anything else. -/
lemma safetyMiddleware_eq (limits : Limits) (request : HttpRequest) (now : ℚ) :
    S.safetyMiddleware limits request now =
      match S.classOf request with
      | .early v => (v, limits)
      | .unauthorized body =>
        (.refused (if (S.overLimit limits.authFailureBuckets request now).1 then rateLimitExceeded
          else .error 401 body),
          { limits with
            authFailureBuckets := (S.overLimit limits.authFailureBuckets request now).2 })
      | .exempt => (.passed, limits)
      | .metered =>
        (if (S.overLimit limits.requestBuckets request now).1 then .refused rateLimitExceeded
          else .passed,
          { limits with
            requestBuckets := (S.overLimit limits.requestBuckets request now).2 }) := by
  unfold safetyMiddleware classOf
  cases S.declaredLength request with
  | error e => rfl
  | ok length =>
    dsimp only
    split
    · rfl
    cases S.authError request with
    | error e => rfl
    | ok error =>
      cases error with
      | some body => rfl
      | none =>
        dsimp only
        split
        · rfl
        · rfl

/-- A request that is let through has declared no more than is allowed, and is authenticated. -/
structure Admissible (S : HttpServer σ) (request : HttpRequest) : Prop where
  length : ∃ n, S.declaredLength request = .ok n ∧ n ≤ S.maxRequestBytes
  authentic : S.authError request = .ok none

/-- A request that no limit applies to, or that is limited, is admissible. -/
lemma admissible_of_class (h : S.classOf request = .exempt ∨ S.classOf request = .metered) :
    S.Admissible request := by
  unfold classOf at h
  cases hlength : S.declaredLength request with
  | error e => simp [hlength] at h
  | ok length =>
    by_cases hlong : S.maxRequestBytes < length
    · simp [hlength, hlong] at h
    cases hauth : S.authError request with
    | error e => simp [hlength, hlong, hauth] at h
    | ok error =>
      cases error with
      | some body => simp [hlength, hlong, hauth] at h
      | none => exact ⟨⟨length, hlength, not_lt.mp hlong⟩, hauth⟩

/-! ## What is read of a body -/

/-- The loop reads all pieces, unless they are too long together. -/
lemma readChunks_eq (buffer : Bytes) (chunks : List Bytes)
    (hbuffer : (buffer.length : ℤ) ≤ S.maxRequestBytes) :
    S.readChunks buffer chunks =
      if S.maxRequestBytes < (buffer ++ chunks.flatten).length then none
      else some (buffer ++ chunks.flatten) := by
  induction chunks generalizing buffer with
  | nil =>
    rw [List.flatten_nil, List.append_nil, if_neg (not_lt.mpr hbuffer)]
    rfl
  | cons chunk chunks ih =>
    unfold readChunks readChunk
    by_cases hlong : S.maxRequestBytes < buffer.length + chunk.length
    · -- the pieces to come make it longer still
      have htotal : S.maxRequestBytes < (buffer ++ (chunk :: chunks).flatten).length := by
        rw [List.flatten_cons, List.length_append, List.length_append]
        push_cast
        omega
      rw [if_pos hlong, if_pos htotal]
    · have hnext : ((buffer ++ chunk).length : ℤ) ≤ S.maxRequestBytes := by
        rw [List.length_append]
        push_cast
        omega
      rw [if_neg hlong, List.flatten_cons, ← List.append_assoc]
      exact ih (buffer ++ chunk) hnext

/-- **What is read does not depend on how a body is cut up**: it is refused when it is too long, and
parsed as a whole otherwise. -/
lemma readJsonBody_eq (hmax : 0 ≤ S.maxRequestBytes) (chunks : List Bytes) :
    S.readJsonBody chunks =
      if S.maxRequestBytes < chunks.flatten.length then .ok (.error requestTooLarge)
      else S.parseBody chunks.flatten := by
  unfold readJsonBody
  rw [readChunks_eq [] chunks (by simpa using hmax), List.nil_append]
  by_cases hlong : S.maxRequestBytes < chunks.flatten.length
  · rw [if_pos hlong, if_pos hlong]
  · rw [if_neg hlong, if_neg hlong]

end HttpServer

end AgentCtl
