import AgentCtl.Server.Connections

set_option relaxedAutoImplicit false
set_option autoImplicit false

/-!
# Who reaches the gateway

The server stands between anyone and the providers. Whatever requests arrive, however their pieces
interleave, and whenever the handlers' threads get their turn: a call of the gateway is made for a
request that has arrived, carries the token that its URL asks for, has declared and sent no more
than is allowed, and for the body that was sent; and no request is served twice.

The URL is the weak point: its path is not the one that the router matches. A request whose `Host`
line makes it `/healthz` is served without any token (the example at the end). What is said of the
gateway's world holds of runs in which no two calls of the gateway overlap (`HttpServer.step`).

## Main definitions

* `AgentCtl.piecesOf` — the pieces of a body, as they arrived.
* `AgentCtl.HttpServer.Carries` — the token that a path asks for is there.
* `AgentCtl.Served.Legitimate` — what is asked of a call of the gateway.
* `AgentCtl.Hub.Guarded` — the invariant.

## Main results

* `AgentCtl.HttpServer.Hub.Guarded.step` — every step keeps it.
* `AgentCtl.gateway_calls_guarded` — every call of the gateway is legitimate.
-/

namespace AgentCtl

/-- The pieces of the body of a request, in the order of their arrival. -/
def piecesOf (id : ℕ) (ms : List HttpMove) : List Bytes :=
  ms.filterMap fun m =>
    match m with
    | .chunk i bytes => if i = id then some bytes else none
    | _ => none

/-- A piece for a request. -/
lemma piecesOf_chunk (id : ℕ) (bytes : Bytes) (ms : List HttpMove) :
    piecesOf id (ms ++ [.chunk id bytes]) = piecesOf id ms ++ [bytes] := by
  simp [piecesOf]

/-- A move of another kind adds no piece. -/
lemma piecesOf_of_noChunk (id : ℕ) {m : HttpMove} (hm : ∀ i bytes, m ≠ .chunk i bytes)
    (ms : List HttpMove) : piecesOf id (ms ++ [m]) = piecesOf id ms := by
  unfold piecesOf
  cases m with
  | chunk i bytes => exact absurd rfl (hm i bytes)
  | _ => simp

/-- A move for another request adds no piece. -/
lemma piecesOf_of_ne {id : ℕ} {m : HttpMove} (hm : m.id ≠ id) (ms : List HttpMove) :
    piecesOf id (ms ++ [m]) = piecesOf id ms := by
  unfold piecesOf
  cases m with
  | chunk i bytes => simp [show i ≠ id from hm]
  | _ => simp

namespace HttpServer

variable {σ : Type} {S : HttpServer σ}

/-! ## What the middleware lets through -/

/-- A verdict at once is never to let a request through. -/
lemma classOf_ne_passed (request : HttpRequest) : S.classOf request ≠ .early .passed := by
  intro h
  unfold classOf at h
  split at h
  · split at h <;> simp at h
  · split at h
    · simp at h
    · split at h
      · simp at h
      · cases h
      · split at h <;> cases h

/-- What passes is admissible, and within the limit if one applies. -/
lemma of_passed {limits : Limits} {request : HttpRequest} {now : ℚ}
    (h : (S.safetyMiddleware limits request now).1 = .passed) :
    S.classOf request = .exempt ∨ S.classOf request = .metered ∧
      (S.overLimit limits.requestBuckets request now).1 = false := by
  rw [safetyMiddleware_eq] at h
  cases hclass : S.classOf request with
  | early v =>
    rw [hclass] at h
    exact absurd (hclass.trans (congrArg _ h)) (classOf_ne_passed request)
  | unauthorized body =>
    rw [hclass] at h
    cases h
  | exempt => exact .inl rfl
  | metered =>
    rw [hclass] at h
    refine .inr ⟨rfl, ?_⟩
    by_contra hover
    simp [hover] at h

/-- A handler begins for a request that has passed, on its own route. -/
lemma outset_eq_inr {request : HttpRequest} {v : Verdict} {c : Connection}
    (h : S.outset request v = .inr c) :
    v = .passed ∧ routeOf request = c.endpoint.route ∧ c = ⟨request, c.endpoint, .reading []⟩ := by
  cases v with
  | refused r => cases h
  | raised e => cases h
  | passed =>
    unfold outset at h
    cases hroute : routeOf request with
    | chatCompletions =>
      simp only [hroute] at h
      obtain rfl := Sum.inr.inj h
      exact ⟨rfl, rfl, rfl⟩
    | embeddings =>
      simp only [hroute] at h
      obtain rfl := Sum.inr.inj h
      exact ⟨rfl, rfl, rfl⟩
    | _ => simp [hroute] at h

/-- The path of an endpoint is not one of those that need no token, or another one. -/
lemma path_of_route {request : HttpRequest} {endpoint : Endpoint}
    (h : routeOf request = endpoint.route) :
    request.path ≠ "/healthz" ∧ request.path ≠ "/metrics" := by
  have hpath : request.path = "/v1/chat/completions" ∨ request.path = "/v1/embeddings" := by
    unfold routeOf at h
    split at h
    · cases endpoint <;> cases h
    split at h
    · cases endpoint <;> cases h
    split at h
    · cases endpoint <;> cases h
    split at h
    · next hchat => exact .inl hchat.1
    split at h
    · next hembed => exact .inr hembed.1
    · cases endpoint <;> cases h
  rcases hpath with hpath | hpath
  · rw [hpath]
    simp
  · rw [hpath]
    simp

/-- The request carries the token that a path asks for, if it asks for one. -/
def Carries (S : HttpServer σ) (request : HttpRequest) (path : Str) : Prop :=
  ∀ token, S.tokenOf path = some token → token ≠ [] →
    S.headersGet request.headers "authorization" = some ("Bearer " ++ token)

/-- An authenticated request has a URL, and carries the token that the path of it asks for. -/
lemma carries_of_authentic {request : HttpRequest} (h : S.authError request = .ok none) :
    ∃ path, S.urlPath request = .ok path ∧ (path = "/healthz" ∨ S.Carries request path) := by
  unfold authError at h
  obtain ⟨path, hpath, h⟩ := Except.bind_eq_ok.mp h
  refine ⟨path, hpath, ?_⟩
  split at h
  · next hhealthz => exact .inl hhealthz
  right
  intro token htokenOf hne
  rw [htokenOf] at h
  cases token with
  | nil => exact absurd rfl hne
  | cons t token =>
    obtain ⟨actual, hactual, h⟩ := Except.bind_eq_ok.mp h
    obtain ⟨expected, hexpected, h⟩ := Except.bind_eq_ok.mp h
    have hencode : ∀ {s s' : Str}, encodeStr s = .ok s' → s = s' := by
      intro s s' hs
      unfold encodeStr at hs
      split at hs
      · cases hs
      · exact Except.ok.inj hs
    split at h
    · next heq =>
      rw [← hencode hactual, ← hencode hexpected] at heq
      cases hget : S.headersGet request.headers "authorization" with
      | none =>
        -- the token is not empty, and no empty text equals one with `Bearer` in front
        rw [hget] at heq
        cases heq
      | some actual =>
        rw [hget] at heq
        exact congrArg some heq
    · cases h

/-- An authenticated request for an endpoint carries the token of the application, if the path of
its URL is the one that was matched. -/
lemma bearer_of_authentic {request : HttpRequest} {endpoint : Endpoint}
    (hroute : routeOf request = endpoint.route) (h : S.authError request = .ok none)
    (hurl : S.urlPath request = .ok request.path) {token : Str} (htoken : S.apiToken = some token)
    (hne : token ≠ []) :
    S.headersGet request.headers "authorization" = some ("Bearer " ++ token) := by
  obtain ⟨hhealthz, hmetrics⟩ := path_of_route hroute
  obtain ⟨path, hpath, hcarries⟩ := carries_of_authentic h
  obtain rfl := Except.ok.inj (hurl.symm.trans hpath)
  refine hcarries.resolve_left hhealthz token ?_ hne
  rw [tokenOf, if_neg hmetrics, htoken]

/-- One more piece. -/
lemma readChunks_concat (buffer : Bytes) (chunks : List Bytes) (chunk : Bytes) :
    S.readChunks buffer (chunks ++ [chunk]) =
      (S.readChunks buffer chunks).bind fun b => S.readChunk b chunk := by
  induction chunks generalizing buffer with
  | nil =>
    simp only [List.nil_append, readChunks, Option.bind_some]
    cases S.readChunk buffer chunk with
    | none => rfl
    | some b => rfl
  | cons c chunks ih =>
    simp only [List.cons_append, readChunks]
    cases S.readChunk buffer c with
    | none => rfl
    | some b => exact ih b

/-- What has been read is no longer than is allowed. -/
lemma length_readChunks {chunks : List Bytes} {bytes : Bytes}
    (h : S.readChunks [] chunks = some bytes) :
    bytes = chunks.flatten ∧ (bytes.length : ℤ) ≤ max 0 S.maxRequestBytes := by
  induction chunks using List.reverseRecOn generalizing bytes with
  | nil =>
    obtain rfl := Option.some.inj h
    exact ⟨rfl, le_max_left _ _⟩
  | append_singleton chunks chunk ih =>
    rw [readChunks_concat] at h
    obtain ⟨b, hb, hchunk⟩ := Option.bind_eq_some_iff.mp h
    unfold readChunk at hchunk
    split at hchunk
    · cases hchunk
    next hshort =>
    obtain rfl := Option.some.inj hchunk
    refine ⟨by rw [(ih hb).1]; simp, ?_⟩
    rw [List.length_append]
    push_cast
    omega

end HttpServer

/-! ## The invariant -/

variable {σ : Type}

/-- A request that has arrived and passed the middleware, on the route of an endpoint. -/
structure HttpRequest.Begun (S : HttpServer σ) (ms : List HttpMove) (id : ℕ) (endpoint : Endpoint)
    (request : HttpRequest) : Prop where
  arrived : ∃ now, HttpMove.arrive id request now ∈ ms
  admissible : S.Admissible request
  route : routeOf request = endpoint.route

/-- A phase follows from the pieces that have arrived. -/
def Phase.Follows (S : HttpServer σ) (pieces : List Bytes) : Phase → Prop
  | reading buffer => S.readChunks [] pieces = some buffer
  | calling bytes body _ =>
    S.readChunks [] pieces = some bytes ∧ S.parseBody bytes = .ok (.ok body)

/-- What is asked of a call of the gateway. -/
structure Served.Legitimate (S : HttpServer σ) (ms : List HttpMove) (x : Served) : Prop where
  begun : x.request.Begun S ms x.id x.endpoint
  read : S.readChunks [] (piecesOf x.id ms) = some x.bytes
  parsed : S.parseBody x.bytes = .ok (.ok x.body)

/-- The connections and the calls of the gateway go back to requests that have passed. -/
structure Hub.Guarded (S : HttpServer σ) (ms : List HttpMove) (h : Hub σ) : Prop where
  /-- Nothing happens to a request that has not arrived. -/
  seen : ∀ m ∈ ms, m.id ∈ h.seen
  connections : ∀ id c, h.connections.get? id = some c → id ∈ h.seen ∧
    id ∉ h.served.map Served.id ∧ c.request.Begun S ms id c.endpoint ∧
    c.phase.Follows S (piecesOf id ms)
  served : ∀ x ∈ h.served, x.id ∈ h.seen ∧ x.Legitimate S ms
  once : (h.served.map Served.id).Nodup

section Invariant

variable {S : HttpServer σ} {ms : List HttpMove} {h h' : Hub σ} {m : HttpMove}

/-- What has arrived has arrived. -/
lemma HttpRequest.Begun.mono {id : ℕ} {endpoint : Endpoint} {request : HttpRequest}
    (hb : request.Begun S ms id endpoint) (m : HttpMove) :
    request.Begun S (ms ++ [m]) id endpoint where
  arrived := by
    obtain ⟨now, hnow⟩ := hb.arrived
    exact ⟨now, List.mem_append_left _ hnow⟩
  admissible := hb.admissible
  route := hb.route

/-- A request for which no move has been made yet has sent nothing. -/
lemma piecesOf_eq_nil {id : ℕ} (hid : ∀ m ∈ ms, m.id ≠ id) : piecesOf id ms = [] := by
  unfold piecesOf
  rw [List.filterMap_eq_nil_iff]
  intro m hm
  cases m with
  | chunk i bytes => simpa [HttpMove.id] using hid _ hm
  | _ => rfl

namespace Hub.Guarded

/-- A move is made for a request that has not been served. -/
lemma fresh (hg : h.Guarded S ms) (hstep : HttpStep S h m h') : m.id ∉ h.served.map Served.id := by
  have hconn : ∀ {c}, h.connections.get? m.id = some c → m.id ∉ h.served.map Served.id :=
    fun hget => (hg.connections _ _ hget).2.1
  have hnew : m.id ∉ h.seen → m.id ∉ h.served.map Served.id := by
    intro hid hmem
    obtain ⟨x, hx, hxid⟩ := List.mem_map.mp hmem
    exact hid (hxid ▸ (hg.served x hx).1)
  cases hstep with
  | answered hid _ => exact hnew hid
  | opened hid _ => exact hnew hid
  | read hget _ => exact hconn hget
  | overrun hget _ => exact hconn hget
  | parsed hget _ => exact hconn hget
  | unparsed hget _ => exact hconn hget
  | gone hget => exact hconn hget
  | called hget _ => exact hconn hget

/-- A move keeps the invariant of all the other requests; what is left is the request that it is
made for. -/
lemma next (hg : h.Guarded S ms) (hfresh : m.id ∉ h.served.map Served.id)
    (hid : m.id ∈ h'.seen) (hseen : h.seen ⊆ h'.seen)
    (hother : ∀ id ≠ m.id, h'.connections.get? id = h.connections.get? id)
    (hself : ∀ c, h'.connections.get? m.id = some c →
      c.request.Begun S (ms ++ [m]) m.id c.endpoint ∧
      c.phase.Follows S (piecesOf m.id (ms ++ [m])))
    (hserved : h'.served = h.served ∨ ∃ x, h'.served = h.served ++ [x] ∧ x.id = m.id ∧
      x.Legitimate S (ms ++ [m]) ∧ h'.connections.get? m.id = none) :
    h'.Guarded S (ms ++ [m]) := by
  have hold : ∀ x ∈ h.served, x.id ∈ h'.seen ∧ x.Legitimate S (ms ++ [m]) := by
    intro x hx
    obtain ⟨hmem, hbegun, hread, hparsed⟩ := hg.served x hx
    refine ⟨hseen hmem, hbegun.mono m, ?_, hparsed⟩
    rw [piecesOf_of_ne]
    · exact hread
    · exact fun heq => hfresh (heq ▸ List.mem_map_of_mem hx)
  refine ⟨?_, ?_, ?_, ?_⟩
  · intro m' hm'
    rcases List.mem_append.mp hm' with hm' | hm'
    · exact hseen (hg.seen m' hm')
    · rwa [List.mem_singleton.mp hm']
  · intro id c hget
    by_cases hne : id = m.id
    · subst hne
      refine ⟨hid, ?_, hself c hget⟩
      rcases hserved with heq | ⟨x, -, -, -, hnone⟩
      · rwa [heq]
      · rw [hnone] at hget
        cases hget
    · rw [hother id hne] at hget
      obtain ⟨hmem, hnot, hbegun, hfollows⟩ := hg.connections id c hget
      refine ⟨hseen hmem, ?_, hbegun.mono m, ?_⟩
      · rcases hserved with heq | ⟨x, heq, hx, -, -⟩
        · rwa [heq]
        · rw [heq, List.map_append, List.mem_append, List.map_singleton, List.mem_singleton, hx]
          exact fun hor => hor.elim hnot hne
      · rwa [piecesOf_of_ne (Ne.symm hne)]
  · intro x hx
    rcases hserved with heq | ⟨y, heq, hyid, hy, -⟩
    · exact hold x (heq ▸ hx)
    · rw [heq] at hx
      rcases List.mem_append.mp hx with hx | hx
      · exact hold x hx
      · obtain rfl := List.mem_singleton.mp hx
        exact ⟨hyid ▸ hid, hy⟩
  · rcases hserved with heq | ⟨x, heq, hx, -, -⟩
    · rw [heq]
      exact hg.once
    · rw [heq, List.map_append, List.map_singleton, hx]
      exact List.Nodup.append hg.once (List.nodup_singleton _) (by simpa using hfresh)

/-- A connection at work has been opened. -/
lemma get?_eq_none (hg : h.Guarded S ms) {id : ℕ} (hid : id ∉ h.seen) :
    h.connections.get? id = none := by
  cases hget : h.connections.get? id with
  | none => rfl
  | some c => exact absurd (hg.connections id c hget).1 hid

/-- A move for a connection, after which it goes on with another phase. -/
lemma set (hg : h.Guarded S ms) {c : Connection} {phase : Phase}
    (hget : h.connections.get? m.id = some c)
    (hphase : phase.Follows S (piecesOf m.id (ms ++ [m]))) :
    (h.set m.id { c with phase := phase }).Guarded S (ms ++ [m]) := by
  obtain ⟨hmem, hnot, hbegun, -⟩ := hg.connections _ _ hget
  refine hg.next hnot hmem (List.Subset.refl _) ?_ ?_ (.inl rfl)
  · intro id hne
    rw [get?_set, if_neg (Ne.symm hne)]
  · intro c' hget'
    rw [get?_set, if_pos rfl] at hget'
    obtain rfl := Option.some.inj hget'
    exact ⟨hbegun.mono m, hphase⟩

/-- A move for a connection, after which it is done. -/
lemma drop (hg : h.Guarded S ms) {c : Connection} (hget : h.connections.get? m.id = some c)
    (hconn : h'.connections = (h.drop m.id).connections) (hseen : h'.seen = h.seen)
    (hserved : h'.served = h.served ∨ ∃ x, h'.served = h.served ++ [x] ∧ x.id = m.id ∧
      x.Legitimate S (ms ++ [m])) : h'.Guarded S (ms ++ [m]) := by
  obtain ⟨hmem, hnot, -, -⟩ := hg.connections _ _ hget
  have hnone : h'.connections.get? m.id = none := by
    rw [hconn, get?_drop, if_pos rfl]
  refine hg.next hnot (hseen ▸ hmem) (hseen ▸ List.Subset.refl _) ?_ ?_ ?_
  · intro id hne
    rw [hconn, get?_drop, if_neg (Ne.symm hne)]
  · intro c' hget'
    rw [hnone] at hget'
    cases hget'
  · refine hserved.imp_right ?_
    rintro ⟨x, heq, hid, hx⟩
    exact ⟨x, heq, hid, hx, hnone⟩

/-- A request arrives and is answered at once. -/
lemma answered (hg : h.Guarded S ms) {id : ℕ} {request : HttpRequest} {now : ℚ} {limits : Limits}
    {r : HttpReply} (hfresh : id ∉ h.served.map Served.id) (hid : id ∉ h.seen) :
    ((h.enter id limits).answer id r).Guarded S (ms ++ [.arrive id request now]) := by
  refine hg.next hfresh (List.mem_append_right _ (List.mem_singleton_self id))
    (List.subset_append_left _ _) (fun _ _ => rfl) ?_ (.inl rfl)
  intro c hget
  have hnone : h.connections.get? id = none := hg.get?_eq_none hid
  change h.connections.get? id = some c at hget
  rw [hnone] at hget
  cases hget

/-- A request arrives and its handler begins. -/
lemma opened (hg : h.Guarded S ms) {id : ℕ} {request : HttpRequest} {now : ℚ} {c : Connection}
    (hfresh : id ∉ h.served.map Served.id) (hid : id ∉ h.seen)
    (hc : S.outset request (S.safetyMiddleware h.limits request now).1 = .inr c) :
    ((h.enter id (S.safetyMiddleware h.limits request now).2).set id c).Guarded S
      (ms ++ [.arrive id request now]) := by
  obtain ⟨hpassed, hroute, hc⟩ := HttpServer.outset_eq_inr hc
  have hclass := HttpServer.of_passed hpassed
  have hpieces : piecesOf id (ms ++ [.arrive id request now]) = [] := by
    rw [piecesOf_of_noChunk id (by simp)]
    exact piecesOf_eq_nil fun m hm heq => hid (heq ▸ hg.seen m hm)
  refine hg.next hfresh (List.mem_append_right _ (List.mem_singleton_self id))
    (List.subset_append_left _ _) ?_ ?_ (.inl rfl)
  · intro i hne
    have hne' : id ≠ i := fun heq => hne heq.symm
    rw [get?_set, if_neg hne']
    rfl
  · intro c' hget
    change ((h.enter id _).set id c).connections.get? id = some c' at hget
    rw [get?_set, if_pos rfl] at hget
    obtain rfl := Option.some.inj hget
    change c.request.Begun S _ id c.endpoint ∧ c.phase.Follows S (piecesOf id _)
    rw [hpieces, hc]
    refine ⟨⟨⟨now, List.mem_append_right _ (List.mem_singleton_self _)⟩, ?_, hroute⟩, rfl⟩
    exact HttpServer.admissible_of_class (hclass.imp_right And.left)

/-- **Every step keeps the invariant.** -/
lemma step (hg : h.Guarded S ms) (hstep : HttpStep S h m h') : h'.Guarded S (ms ++ [m]) := by
  have hfresh := hg.fresh hstep
  cases hstep with
  | answered hid _ => exact hg.answered hfresh hid
  | opened hid hc => exact hg.opened hfresh hid hc
  | @read id bytes buffer buffer' request endpoint hget hread =>
    refine hg.set (m := .chunk id bytes) (c := ⟨request, endpoint, .reading buffer⟩) hget ?_
    have hfollows : S.readChunks [] (piecesOf id ms) = some buffer :=
      (hg.connections _ _ hget).2.2.2
    change S.readChunks [] (piecesOf id (ms ++ [.chunk id bytes])) = some buffer'
    rw [piecesOf_chunk, HttpServer.readChunks_concat, hfollows]
    exact hread
  | overrun hget _ => exact hg.drop hget rfl rfl (.inl rfl)
  | @parsed id created body buffer request endpoint hget hparse =>
    refine hg.set (m := .bodyEnd id created) (c := ⟨request, endpoint, .reading buffer⟩) hget ?_
    have hfollows : S.readChunks [] (piecesOf id ms) = some buffer :=
      (hg.connections _ _ hget).2.2.2
    rw [piecesOf_of_noChunk _ (by simp)]
    exact ⟨hfollows, HttpServer.parseOutcome_eq_inr.mp hparse⟩
  | unparsed hget _ => exact hg.drop hget rfl rfl (.inl rfl)
  | gone hget => exact hg.drop hget rfl rfl (.inl rfl)
  | @called id answerId patience bytes body created request endpoint x hget hx =>
    subst hx
    refine hg.drop hget rfl rfl (.inr ⟨_, rfl, rfl, ?_⟩)
    obtain ⟨-, -, hbegun, hread, hparsed⟩ := hg.connections _ _ hget
    refine ⟨hbegun.mono _, ?_, hparsed⟩
    rw [piecesOf_of_noChunk _ (by simp)]
    exact hread

end Hub.Guarded

/-- The invariant holds after every run. -/
lemma guarded_run {w : World σ} (hrun : S.run { world := w } ms = some h) : h.Guarded S ms := by
  refine PartialRun.historyInvariant (I := Hub.Guarded S) ?_ ?_ hrun
  · exact ⟨by simp, by simp, by simp, List.nodup_nil⟩
  · intro ms h m h' _ hg hstep
    exact hg.step (HttpServer.httpStep_of_step hstep)

end Invariant

/-- What the handler of a connection has of the body. -/
def Phase.bytes : Phase → Bytes
  | reading buffer => buffer
  | calling bytes _ _ => bytes

/-- **Who reaches the gateway.** After any run of the server in which no two calls of the gateway
overlap, however the requests and their pieces interleave, the gateway's world is what its calls,
one after the other, have made of it, and no request has led to two of them. Each call was made for
a request that arrived, declared no more than is allowed, is authenticated and so carries the token
that its URL asks for, which is none for `/healthz`, and the token of the application if the path of
its URL is the one that was matched; and for the body that the pieces make up, which is no longer
than is allowed. No connection ever holds more than that. -/
theorem gateway_calls_guarded (S : HttpServer σ) {w : World σ} {ms : List HttpMove} {h : Hub σ}
    (hrun : S.run { world := w } ms = some h) :
    h.world = S.replay w h.served ∧ (h.served.map Served.id).Nodup ∧
      (∀ x ∈ h.served,
        (∃ now, HttpMove.arrive x.id x.request now ∈ ms) ∧ S.Admissible x.request ∧
        (∃ path, S.urlPath x.request = .ok path ∧
          (path = "/healthz" ∨ S.Carries x.request path)) ∧
        (S.urlPath x.request = .ok x.request.path →
          ∀ token, S.apiToken = some token → token ≠ [] →
            S.headersGet x.request.headers "authorization" = some ("Bearer " ++ token)) ∧
        S.readJsonBody (piecesOf x.id ms) = .ok (.ok x.body) ∧
        x.bytes = (piecesOf x.id ms).flatten ∧ (x.bytes.length : ℤ) ≤ max 0 S.maxRequestBytes) ∧
      ∀ id c, h.connections.get? id = some c →
        (c.phase.bytes.length : ℤ) ≤ max 0 S.maxRequestBytes := by
  have hg := guarded_run hrun
  refine ⟨HttpServer.world_run hrun, hg.once, ?_, ?_⟩
  · intro x hx
    obtain ⟨-, hbegun, hread, hparsed⟩ := hg.served x hx
    obtain ⟨hbytes, hlength⟩ := HttpServer.length_readChunks hread
    have hauthentic := hbegun.admissible.authentic
    refine ⟨hbegun.arrived, hbegun.admissible, HttpServer.carries_of_authentic hauthentic, ?_, ?_,
      hbytes, hlength⟩
    · intro hurl token htoken hne
      exact HttpServer.bearer_of_authentic hbegun.route hauthentic hurl htoken hne
    · rw [HttpServer.readJsonBody, hread]
      exact hparsed
  · intro id c hget
    obtain ⟨-, -, -, hfollows⟩ := hg.connections id c hget
    cases hphase : c.phase with
    | reading buffer =>
      rw [hphase] at hfollows
      exact (HttpServer.length_readChunks hfollows).2
    | calling bytes body created =>
      rw [hphase] at hfollows
      exact (HttpServer.length_readChunks hfollows.1).2

/-- Of three requests one is served: the first one has no token, the third one comes too soon. -/
theorem gateway_calls_guarded_threeRequests :
    ∃ h, tokenServer.run { world := failThenAnswer } threeRequests = some h ∧
      h.served.map Served.id = [2] ∧ h.world = tokenServer.replay failThenAnswer h.served ∧
      ∀ x ∈ h.served,
        firstLine x.request.headers "authorization" = some ("Bearer " ++ Str.ofString "key") := by
  have hids : (tokenServer.run { world := failThenAnswer } threeRequests).map
      (fun h => h.served.map Served.id) = some [2] := by decide +kernel
  obtain ⟨h, hrun, hserved⟩ := Option.map_eq_some_iff.mp hids
  obtain ⟨hworld, -, hcalls, -⟩ := gateway_calls_guarded tokenServer hrun
  refine ⟨h, hrun, hserved, hworld, ?_⟩
  intro x hx
  obtain ⟨⟨now, harrive⟩, -, -, hbearer, -⟩ := hcalls x hx
  have hid : x.id = 2 := List.mem_singleton.mp (hserved ▸ List.mem_map_of_mem hx)
  have hrequest : x.request = chatRequest "h" true ∧ now = 0 := by
    simpa [threeRequests, hid] using harrive
  refine hbearer (congrArg Except.ok ?_) _ rfl (by simp)
  rw [hrequest.1]
  exact urlPathOf_eq_path (hasPlainUrl_chatRequest _ _)

/-- The `Host` line `x/healthz?` stands in for the token. -/
example : ((tokenServer.run { world := failThenAnswer }
    [.arrive 1 { chatRequest "h" false with headers := [("host", "x/healthz?")] } 0,
      .chunk 1 listedBytes, .bodyEnd 1 (.int 0), .call 1 "1" none]).map
      fun h => h.served.map Served.id) = some [1] := by
  decide +kernel

end AgentCtl
