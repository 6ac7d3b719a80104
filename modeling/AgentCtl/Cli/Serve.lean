import AgentCtl.Cli.Doctor
import AgentCtl.Server.Admission
import AgentCtl.Server.CostGovernance

set_option relaxedAutoImplicit false
set_option autoImplicit false

/-!
# The server that the command line starts

`agent-ctl serve` of `cli.py`: the guard on the host, the checks of the arguments, the gateway, and
`build_server`. What is promised about the server's runs holds of the server that is started: off
the local host nobody reaches the gateway without the token of the command line, unless the `Host`
line of the request gives it the URL `/healthz` or `/metrics`, and under `prod` nothing but the
targets of the configuration is called.

## Main definitions

* `AgentCtl.ServeArgs`, `AgentCtl.ServeConfig`, `AgentCtl.Platform` — what the command is given.
* `AgentCtl.buildServer` — `build_server`, up to the application that it returns.
* `AgentCtl.cmdServe` — the command.

## Main results

* `AgentCtl.serving_spec` — the server that is started.
* `AgentCtl.serve_asks_for_token` — who reaches its gateway, off the local host.
* `AgentCtl.serve_governs_costs` — what its gateway calls, under `prod`.
-/

namespace AgentCtl

/-- The arguments of the command, but for the port. -/
structure ServeArgs where
  host : Str := "127.0.0.1"
  apiToken : Option Str := none
  metricsToken : Option Str := none
  maxRequestBytes : ℤ := 1000000
  rateLimitPerMinute : ℤ := 120
  defaultMaxTokens : Option ℤ := none
  trustProxyHeaders : Bool := false
  trustedProxyCidr : Option (List Str) := none

/-- The fields of `Config` that the command reads itself. -/
structure ServeConfig extends Config where
  allowDirectModels : Bool := false

/-- What the command finds around it: the environment, `ip_network(…, strict=False)`, Starlette's
headers and URLs, and how `json.loads` decodes bytes. -/
structure Platform where
  conv : Conversions
  env : Str → Option Str
  ipNetwork : Str → Option IpNetwork
  headersGet : List (Str × Str) → Str → Option Str
  urlPath : HttpRequest → Except Exc Str
  decodeText : Bytes → Except Exc Str

/-- What the command comes to: a line and exit code 1, an exception, or a server at work. -/
inductive ServeOutcome (σ : Type) where
  | failed (line : Str)
  | crashed (e : Exc)
  | serving (S : HttpServer σ)

/-- `{"127.0.0.1", "localhost", "::1"}` -/
def localHosts : List Str :=
  [Str.ofString "127.0.0.1", Str.ofString "localhost", Str.ofString "::1"]

/-- `_DEFAULT_TRUSTED_PROXY_CIDRS` -/
def defaultTrustedProxyCidrs : List Str :=
  [Str.ofString "127.0.0.1/32", Str.ofString "::1/128"]

namespace Platform

variable (P : Platform)

/-- `_resolve_default_max_tokens` -/
def resolveDefaultMaxTokens (value : Option ℤ) : Except Exc ℤ := do
  let source : Str :=
    if value.isSome then "--default-max-tokens" else "AGENT_CTL_DEFAULT_MAX_TOKENS"
  let raw : Json :=
    match value with
    | some n => .int n
    | none => .str ((P.env "AGENT_CTL_DEFAULT_MAX_TOKENS").getD "1024")
  let parsed ← orInvalid (P.conv.int raw) (source ++ Str.ofString " must be a positive integer")
  if parsed ≤ 0 then .error (.value (source ++ Str.ofString " must be a positive integer"))
  else return parsed

/-- `_validate_trusted_proxy_cidrs` -/
def validateTrustedProxyCidrs (py : Runtime) (values : Option (List Str)) :
    Except Exc (Option (List Str)) :=
  match (values.getD []).find? fun value => (P.ipNetwork value).isNone with
  | some value => .error (.value ("invalid --trusted-proxy-cidr " ++ reprStr py value))
  | none => .ok values

/-- `ip_network(cidr, strict=False)` of each of the CIDRs that `build_server` trusts. -/
def trustedProxyNetworks (trustProxyHeaders : Bool) (cidrs : Option (List Str)) :
    Except Exc (List IpNetwork) :=
  (if trustProxyHeaders && cidrs.isNone then defaultTrustedProxyCidrs else cidrs.getD []).mapM
    fun cidr =>
      match P.ipNetwork cidr with
      | some network => .ok network
      | none => .error (.value "does not appear to be an IPv4 or IPv6 network")

end Platform

/-- `build_server`, with a default for `max_tokens` that has been resolved. -/
def buildServer {σ : Type} (P : Platform) (gateway : Gateway σ) (models : List Str)
    (allowDirectModels : Bool) (defaultMaxTokens : ℤ) (cidrs : Option (List Str))
    (args : ServeArgs) : Except Exc (HttpServer σ) :=
  if h : 0 < defaultMaxTokens then do
    let networks ← P.trustedProxyNetworks args.trustProxyHeaders cidrs
    return {
      gateway := gateway
      conv := P.conv
      models := models
      allowDirectModels := allowDirectModels
      defaultMaxTokens := defaultMaxTokens
      defaultMaxTokens_pos := h
      headersGet := P.headersGet
      urlPath := P.urlPath
      decodeText := P.decodeText
      apiToken := args.apiToken
      metricsToken := args.metricsToken
      maxRequestBytes := args.maxRequestBytes
      rateLimitPerMinute := args.rateLimitPerMinute
      trustProxyHeaders := args.trustProxyHeaders
      trustedProxyNetworks := networks }
  else .error (.value "default_max_tokens must be a positive integer")

/-- The names that `/v1/models` lists: `sorted({*cfg.routes, *cfg.model_aliases}) or avail`. -/
def servedModels (cfg : Config) (avail : List Str) : List Str :=
  match sortedNames (cfg.routes.keys ++ cfg.modelAliases.keys) with
  | [] => avail
  | names => names

/-- `except ValueError`: a line; other exceptions are not caught. -/
def orFailed {σ : Type} (e : Exc) : ServeOutcome σ :=
  if e.isValueError then .failed ("FAIL: " ++ e.msg) else .crashed e

/-- `_cmd_serve`. The parts of the gateway that the router and the prices are put into are given,
with a store that could be opened: a database that cannot be opened ends the command with an
exception, and no server is started. -/
def cmdServe {σ : Type} (P : Platform) (cfg : ServeConfig) (args : ServeArgs) (parts : Gateway σ) :
    ServeOutcome σ :=
  if !localHosts.elem args.host &&
      (args.apiToken.getD [] = [] || args.apiToken = some "change-me") then
    .failed "FAIL: non-local serve requires a non-default --api-token"
  else
    match P.resolveDefaultMaxTokens args.defaultMaxTokens with
    | .error e => orFailed e
    | .ok defaultMaxTokens =>
      match P.validateTrustedProxyCidrs parts.py args.trustedProxyCidr with
      | .error e => orFailed e
      | .ok cidrs =>
        let avail := availableProviders parts.py P.env
        if avail = [] then
          .failed ("FAIL: 没有任何 provider 的 api key(设 ANTHROPIC_API_KEY / OPENAI_API_KEY / " ++
            Str.ofString "DEEPSEEK_API_KEY / DASHSCOPE_API_KEY / GLM_API_KEY 之一)")
        else
          match startGateway cfg.toConfig parts with
          | .error e => .crashed e
          | .ok gateway =>
            match buildServer P gateway (servedModels cfg.toConfig avail) cfg.allowDirectModels
              defaultMaxTokens cidrs args with
            | .error e => orFailed e
            | .ok S => .serving S

section Serving

variable {σ : Type} {P : Platform} {cfg : ServeConfig} {args : ServeArgs} {parts : Gateway σ}
  {S : HttpServer σ}

/-! ## The server that is started -/

/-- A built server has what it was built from. -/
lemma buildServer_spec {gateway : Gateway σ} {models : List Str} {allowDirectModels : Bool}
    {defaultMaxTokens : ℤ} {cidrs : Option (List Str)}
    (h : buildServer P gateway models allowDirectModels defaultMaxTokens cidrs args = .ok S) :
    S.gateway = gateway ∧ S.models = models ∧ S.allowDirectModels = allowDirectModels ∧
      S.apiToken = args.apiToken ∧ S.metricsToken = args.metricsToken ∧
      S.headersGet = P.headersGet ∧ S.urlPath = P.urlPath := by
  unfold buildServer at h
  split at h
  · obtain ⟨networks, -, h⟩ := Except.bind_eq_ok.mp h
    obtain rfl := Except.ok.inj h
    exact ⟨rfl, rfl, rfl, rfl, rfl, rfl, rfl⟩
  · cases h

/-- A command that serves nothing serves no server. -/
lemma orFailed_ne_serving (e : Exc) : orFailed e ≠ .serving S := by
  unfold orFailed
  split
  · simp
  · simp

/-- **The server that is started**: its host is local, or its token one that is set; and its
gateway, its names and its switches are those of the configuration. -/
lemma serving_spec (h : cmdServe P cfg args parts = .serving S) :
    (args.host ∈ localHosts ∨ args.apiToken.getD [] ≠ [] ∧ args.apiToken ≠ some "change-me") ∧
      startGateway cfg.toConfig parts = .ok S.gateway ∧
      S.models = servedModels cfg.toConfig (availableProviders parts.py P.env) ∧
      S.allowDirectModels = cfg.allowDirectModels ∧ S.apiToken = args.apiToken ∧
      S.metricsToken = args.metricsToken ∧ S.headersGet = P.headersGet ∧
      S.urlPath = P.urlPath := by
  unfold cmdServe at h
  split at h
  · cases h
  next hguard =>
  split at h
  · exact absurd h (orFailed_ne_serving _)
  split at h
  · exact absurd h (orFailed_ne_serving _)
  dsimp only at h
  split at h
  · cases h
  split at h
  · cases h
  next gateway hgateway =>
  split at h
  · exact absurd h (orFailed_ne_serving _)
  next S' hbuild =>
  cases h
  obtain ⟨hgateway', hmodels, hdirect, htoken⟩ := buildServer_spec hbuild
  refine ⟨?_, hgateway' ▸ hgateway, hmodels, hdirect, htoken⟩
  by_cases hhost : args.host ∈ localHosts
  · exact .inl hhost
  · right
    simpa [hhost] using hguard

/-! ## Who reaches its gateway -/

/-- The token that a path asks for, with the tokens of the command line. -/
def ServeArgs.tokenOf (args : ServeArgs) (path : Str) : Option Str :=
  if path = "/metrics" then orStr args.metricsToken args.apiToken else args.apiToken

/-- With a token, every path but `/healthz` asks for one. -/
lemma ServeArgs.exists_tokenOf (args : ServeArgs) (path : Str) {token : Str}
    (h : args.apiToken = some token) (hne : token ≠ []) :
    ∃ asked, args.tokenOf path = some asked ∧ asked ≠ [] := by
  unfold tokenOf
  split
  · match hmetrics : args.metricsToken with
    | some (c :: s) => exact ⟨c :: s, rfl, by simp⟩
    | some [] => exact ⟨token, h, hne⟩
    | none => exact ⟨token, h, hne⟩
  · exact ⟨token, h, hne⟩

/-- **No gateway in the open, but for the `Host` line.** Whatever requests a server gets that was
started on another host than the local one: there is a token, it is not the one of the examples, and
every call of the gateway was made for a request that carries it, if the path of its URL is the one
that the router matched. If it is not, the request carries what the path of its URL asks for:
nothing for `/healthz`, and the other token for `/metrics` if there is one. -/
theorem serve_asks_for_token {w : World σ} {ms : List HttpMove} {h : Hub σ}
    (hserve : cmdServe P cfg args parts = .serving S) (hhost : args.host ∉ localHosts)
    (hrun : S.run { world := w } ms = some h) :
    ∃ token, args.apiToken = some token ∧ token ≠ [] ∧ token ≠ "change-me" ∧
      ∀ x ∈ h.served,
        (P.urlPath x.request = .ok x.request.path →
          P.headersGet x.request.headers "authorization" = some ("Bearer " ++ token)) ∧
        ∃ path, P.urlPath x.request = .ok path ∧
          (path ≠ "/healthz" → ∃ asked, args.tokenOf path = some asked ∧
            P.headersGet x.request.headers "authorization" = some ("Bearer " ++ asked)) := by
  obtain ⟨hguard, -, -, -, htoken, hmetrics, hheaders, hurls⟩ := serving_spec hserve
  obtain ⟨hset, hchanged⟩ := hguard.resolve_left hhost
  cases hargs : args.apiToken with
  | none =>
    rw [hargs] at hset
    exact absurd rfl hset
  | some token =>
    rw [hargs] at hset hchanged htoken
    refine ⟨token, rfl, hset, fun heq => hchanged (congrArg some heq), ?_⟩
    intro x hx
    obtain ⟨-, hbegun, -, -⟩ := (guarded_run hrun).served x hx
    have hauthentic := hbegun.admissible.authentic
    rw [← hheaders, ← hurls]
    refine ⟨fun hurl => HttpServer.bearer_of_authentic hbegun.route hauthentic hurl htoken hset, ?_⟩
    obtain ⟨path, hpath, hcarries⟩ := HttpServer.carries_of_authentic hauthentic
    refine ⟨path, hpath, fun hne => ?_⟩
    obtain ⟨asked, hasked, hnonempty⟩ := args.exists_tokenOf path hargs hset
    refine ⟨asked, hasked, hcarries.resolve_left hne asked ?_ hnonempty⟩
    rw [HttpServer.tokenOf, hmetrics, htoken, ← hargs]
    exact hasked

/-! ## What its gateway calls -/

/-- The gateway that is started has the routes and the prices of the configuration. -/
lemma startGateway_spec {G : Gateway σ} (h : startGateway cfg.toConfig parts = .ok G) :
    Router.init parts.py cfg.routes cfg.modelAliases = .ok G.router ∧
      G.costMeter = ⟨cfg.prices, cfg.profile = "prod"⟩ := by
  unfold startGateway at h
  obtain ⟨router, hrouter, h⟩ := Except.bind_eq_ok.mp h
  unfold Gateway.init at h
  dsimp only at h
  split at h
  · cases h
  · obtain rfl := Except.ok.inj h
    exact ⟨hrouter, rfl⟩

/-- A router has the names of the configuration. -/
lemma mem_keys_init {py : Runtime} {routes : OrderedDict Str (List Str)}
    {aliases : OrderedDict Str Str} {r : Router} (h : Router.init py routes aliases = .ok r)
    (model : Str) :
    model ∈ r.routes.keys ∨ model ∈ r.aliases.keys ↔
      model ∈ routes.keys ∨ model ∈ aliases.keys := by
  have hroutes := rel_routes h model
  have haliases := rel_aliases h model
  rw [OrderedDict.mem_keys_iff, OrderedDict.mem_keys_iff, OrderedDict.mem_keys_iff,
    OrderedDict.mem_keys_iff]
  have hsome : ∀ {α β : Type} {R : α → β → Prop} {x : Option α} {y : Option β},
      Option.Rel R x y → (y.isSome ↔ x.isSome) := by
    intro α β R x y hR
    cases hR with
    | some _ => simp
    | none => simp
  rw [hsome hroutes, hsome haliases]

/-- Sorting changes no names. -/
lemma mem_sortedNames (names : List Str) (name : Str) :
    name ∈ sortedNames names ↔ name ∈ names := by
  unfold sortedNames
  rw [List.mem_insertionSort, List.mem_dedup]

/-- The names of providers have no slash. -/
lemma slash_of_available {py : Runtime} {env : Str → Option Str} {name : Str}
    (h : name ∈ availableProviders py env) : List.elem 47 name = false := by
  have hcatalog : ∀ name ∈ knownProviders, List.elem 47 name = false := by decide
  obtain ⟨p, hp, rfl⟩ := List.mem_map.mp h
  exact hcatalog _ (List.mem_map_of_mem (List.mem_of_mem_filter hp))

/-- A server that lists the names of its routes and aliases, and nothing else. -/
def Server.named (S : Server σ) : Server σ :=
  { S with models := S.gateway.router.routes.keys ++ S.gateway.router.aliases.keys }

/-- The names that are listed where there are no others cannot be taken for direct ones. -/
lemma directModelBlocked_named
    (hstart : startGateway cfg.toConfig parts = .ok S.gateway)
    (hmodels : S.models = servedModels cfg.toConfig (availableProviders parts.py P.env)) :
    S.toServer.directModelBlocked = S.toServer.named.directModelBlocked := by
  funext model
  have hlisted : List.elem 47 model = true →
      (model ∈ S.models ↔ model ∈ S.toServer.named.models) := by
    intro hslash
    have hkeys : model ∈ S.toServer.named.models ↔
        model ∈ sortedNames (cfg.routes.keys ++ cfg.modelAliases.keys) := by
      rw [mem_sortedNames, List.mem_append]
      exact List.mem_append.trans (mem_keys_init (startGateway_spec hstart).1 model)
    rw [hkeys, hmodels]
    unfold servedModels
    cases hnames : sortedNames (cfg.routes.keys ++ cfg.modelAliases.keys) with
    | cons name names => exact Iff.rfl
    | nil =>
      refine ⟨fun hmem => ?_, fun hmem => absurd hmem List.not_mem_nil⟩
      rw [slash_of_available hmem] at hslash
      cases hslash
  unfold Server.directModelBlocked
  cases hslash : List.elem 47 model with
  | false => simp
  | true =>
    have helem : S.models.elem model = S.toServer.named.models.elem model := by
      rw [Bool.eq_iff_iff, List.elem_iff, List.elem_iff]
      exact hlisted hslash
    rw [helem]
    rfl

/-- The handlers ask for no more than that. -/
lemma handle_named (hblocked : S.toServer.directModelBlocked = S.toServer.named.directModelBlocked)
    (endpoint : Endpoint) (answerId : Str) (created body : Json) :
    S.handle endpoint answerId created body =
      match endpoint with
      | .chatCompletions => S.toServer.named.chatCompletions answerId created body
      | .embeddings => S.toServer.named.embeddings body := by
  cases endpoint with
  | chatCompletions =>
    unfold HttpServer.handle Server.chatCompletions
    rw [← hblocked]
    rfl
  | embeddings =>
    unfold HttpServer.handle Server.embeddings
    rw [← hblocked]
    rfl

/-- A server that was started under `prod`, without direct names, governs what its gateway calls, in
whatever state a call finds the gateway. -/
lemma governed_runServed (hserve : cmdServe P cfg args parts = .serving S)
    (hprod : cfg.profile = "prod") (hdirect : cfg.allowDirectModels = false) (w : World σ)
    (x : Served) : ∀ e ∈ (S.runServed w x).2.2, Governed S.gateway (requestedModel x.body) e := by
  obtain ⟨-, hstart, hmodels, hdirect', -⟩ := serving_spec hserve
  have hgoverns : S.toServer.named.Governs := by
    refine ⟨hdirect'.trans hdirect, fun model => List.mem_append, ?_⟩
    change S.gateway.costMeter.failUnknown = true
    rw [(startGateway_spec hstart).2]
    exact decide_eq_true hprod
  intro e he
  unfold HttpServer.runServed at he
  rw [handle_named (directModelBlocked_named hstart hmodels)] at he
  cases hx : x.endpoint with
  | chatCompletions =>
    rw [hx] at he
    exact Server.keeps_chatCompletions hgoverns x.answerId x.created x.body _ e he
  | embeddings =>
    rw [hx] at he
    exact Server.keeps_embeddings hgoverns x.body _ e he

/-- **What is called, and at what price.** A server that was started under `prod`, without direct
names, from a configuration with these routes, aliases and prices: whatever requests it gets, every
provider that is called in any of its runs is called for a target that is listed under the requested
name and priced, and a record of an answer that is not from the cache has a cost exactly if floats
reach as far as the millionths of its token counts. -/
theorem serve_governs_costs {w : World σ} {ms : List HttpMove} {h : Hub σ}
    (hserve : cmdServe P cfg args parts = .serving S) (hprod : cfg.profile = "prod")
    (hdirect : cfg.allowDirectModels = false) (hrun : S.run { world := w } ms = some h) :
    Router.init parts.py cfg.routes cfg.modelAliases = .ok S.gateway.router ∧
      S.gateway.costMeter.prices = cfg.prices ∧
      h.world = S.replay w h.served ∧
      ∀ pre x post, h.served = pre ++ x :: post →
        ∀ e ∈ (S.runServed (S.replay w pre) x).2.2,
          Governed S.gateway (requestedModel x.body) e := by
  obtain ⟨-, hstart, -⟩ := serving_spec hserve
  obtain ⟨hrouter, hmeter⟩ := startGateway_spec hstart
  exact ⟨hrouter, by rw [hmeter], HttpServer.world_run hrun,
    fun pre x post _ => governed_runServed hserve hprod hdirect (S.replay w pre) x⟩

end Serving

/-! ## A server that is started -/

/-- A chat body for the alias of the configuration. -/
def aliasBody : Json :=
  .obj [("model", .str "gpt"),
    ("messages", .arr [.obj [("role", .str "user"), ("content", .str "hi")]])]

/-- A platform with one key set. -/
def openaiPlatform : Platform where
  conv := plainConversions
  env name := if name = "OPENAI_API_KEY" then some "sk" else none
  ipNetwork _ := none
  headersGet := firstLine
  urlPath request := .ok (urlPathOf request)
  decodeText := asciiText

/-- The server for everyone, with a token. -/
def openServe : ServeOutcome Scripted :=
  cmdServe openaiPlatform { aliasConfig "openai/gpt-4o" with }
    { host := "0.0.0.0", apiToken := some "key", defaultMaxTokens := some 1024 }
    { catalogGateway with py := readsOne aliasBody }

/-- The server, if one is started. -/
def ServeOutcome.server? {σ : Type} : ServeOutcome σ → Option (HttpServer σ)
  | serving S => some S
  | _ => none

/-- A started server is the server. -/
lemma ServeOutcome.eq_serving {σ : Type} {o : ServeOutcome σ} {S : HttpServer σ}
    (h : o.server? = some S) : o = .serving S := by
  cases o with
  | serving S' =>
    obtain rfl := Option.some.inj h
    rfl
  | failed line => cases h
  | crashed e => cases h

/-- A stranger and a guest. -/
def twoVisits : List HttpMove :=
  [.arrive 1 (chatRequest "h" false) 0, .arrive 2 (chatRequest "h" true) 0,
    .chunk 2 ((aliasBody.dumps false).map fun c => UInt8.ofNat c.val), .bodyEnd 2 (.int 0),
    .call 2 "1" none]

/-- The server is started, and the guest is served. -/
lemma openServe_serves : ∃ S h, openServe = .serving S ∧
    S.run { world := failThenAnswer } twoVisits = some h ∧ h.served.map Served.id = [2] := by
  have hids : (openServe.server?.bind fun S =>
      (S.run { world := failThenAnswer } twoVisits).map fun h => h.served.map Served.id) =
      some [2] := by decide +kernel
  obtain ⟨S, hS, hids⟩ := Option.bind_eq_some_iff.mp hids
  obtain ⟨h, hrun, hserved⟩ := Option.map_eq_some_iff.mp hids
  exact ⟨S, h, ServeOutcome.eq_serving hS, hrun, hserved⟩

/-- The guest of the two visits is the one with the token. -/
lemma request_of_twoVisits {S : HttpServer Scripted} {h : Hub Scripted}
    (hrun : S.run { world := failThenAnswer } twoVisits = some h)
    (hserved : h.served.map Served.id = [2]) {x : Served} (hx : x ∈ h.served) :
    x.request = chatRequest "h" true := by
  obtain ⟨now, harrive⟩ := ((guarded_run hrun).served x hx).2.begun.arrived
  have hid : x.id = 2 := List.mem_singleton.mp (hserved ▸ List.mem_map_of_mem hx)
  have hrequest : x.request = chatRequest "h" true ∧ now = 0 := by
    simpa [twoVisits, hid] using harrive
  exact hrequest.1

/-- The guest carries the token. -/
theorem serve_asks_for_token_twoVisits : ∃ S h, openServe = .serving S ∧
    S.run { world := failThenAnswer } twoVisits = some h ∧ h.served.map Served.id = [2] ∧
      ∃ token, some (Str.ofString "key") = some token ∧ ∀ x ∈ h.served,
        firstLine x.request.headers "authorization" = some ("Bearer " ++ token) := by
  obtain ⟨S, h, hserve, hrun, hserved⟩ := openServe_serves
  obtain ⟨token, htoken, -, -, hcalls⟩ := serve_asks_for_token hserve (by decide) hrun
  refine ⟨S, h, hserve, hrun, hserved, token, htoken, fun x hx => (hcalls x hx).1 ?_⟩
  rw [request_of_twoVisits hrun hserved hx]
  exact congrArg Except.ok (urlPathOf_eq_path (hasPlainUrl_chatRequest _ _))

/-- What the gateway calls for the guest is listed and priced. -/
theorem serve_governs_costs_twoVisits : ∃ S h x, openServe = .serving S ∧
    S.run { world := failThenAnswer } twoVisits = some h ∧ h.served = [x] ∧
      ∀ e ∈ (S.runServed failThenAnswer x).2.2, Governed S.gateway (requestedModel x.body) e := by
  obtain ⟨S, h, hserve, hrun, hserved⟩ := openServe_serves
  obtain ⟨x, hx, -⟩ := List.map_eq_singleton_iff.mp hserved
  obtain ⟨-, -, -, hgoverned⟩ := serve_governs_costs hserve rfl rfl hrun
  exact ⟨S, h, x, hserve, hrun, hx, hgoverned [] x [] hx⟩

end AgentCtl
