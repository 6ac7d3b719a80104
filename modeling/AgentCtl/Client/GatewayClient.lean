import AgentCtl.Cli.Verdict

set_option relaxedAutoImplicit false
set_option autoImplicit false

/-!
# The gateway as a library

`client/gateway_client.py`: `GatewayClient.from_config` checks the routes of a configuration against
a registry of providers, and then builds the gateway as the server does: the router, then the store,
which opens a database and may fail, then the gateway of these parts. Its check leaves nothing to
those that follow it: what it lets pass is refused for an alias, or for the store, at most. The
calls of a client stand by it, in every run: for the name of a route no target is unknown and no
provider is missing.

## Main definitions

* `AgentCtl.validateRoutes`, `AgentCtl.fromConfig` — the check, and what is built behind it.
* `AgentCtl.ClientCall`, `AgentCtl.Gateway.callRecords` — the calls of a client, and their records.

## Main results

* `AgentCtl.fromConfig_spec` — what is accepted, and how the rest is refused.
* `AgentCtl.client_stands_by_its_routes` — what the records of a client never blame.
-/

namespace AgentCtl

open Prog

variable {σ : Type}

/-! ## The check -/

/-- What `validate_routes` finds wrong with one specification of a route. -/
def routeProblem (py : Runtime) (providers : OrderedDict Str (Provider σ)) (logical spec : Str) :
    Option Str :=
  match Target.parse py spec with
  | .error e => some ("route " ++ reprStr py logical ++ ": " ++ e.msg)
  | .ok target =>
    if providers.has target.provider then none
    else some ("route " ++ reprStr py logical ++ " → " ++ reprStr py spec ++ ": provider " ++
      reprStr py target.provider ++ " 未注册")

/-- `validate_routes`; the aliases are ignored. -/
def validateRoutes (py : Runtime) (routes : OrderedDict Str (List Str))
    (providers : OrderedDict Str (Provider σ)) : List Str :=
  routes.flatMap fun p => p.2.filterMap (routeProblem py providers p.1)

/-- `GatewayClient.from_config`. The parts of the gateway that the router and the prices are put
into are given, the registry among them. `build_store` opens the database of the configuration: it
returns, or raises what `mkdir` and `sqlite3` raise. -/
def fromConfig (cfg : Config) (parts : Gateway σ) (buildStore : Config → Except Exc Unit) :
    Except Exc (Gateway σ) :=
  match validateRoutes parts.py cfg.routes parts.providers with
  | [] => do
    let router ← Router.init parts.py cfg.routes cfg.modelAliases
    buildStore cfg
    Gateway.init { parts with
      router := router
      costMeter := ⟨cfg.prices, cfg.profile = "prod"⟩ }
  | problems => .error (.value ("路由配置校验失败:\n  - " ++
      List.intercalate (Str.ofString "\n  - ") problems))

/-- No problems: every specification parses, to a provider that is registered. -/
lemma validateRoutes_eq_nil_iff {py : Runtime} {routes : OrderedDict Str (List Str)}
    {providers : OrderedDict Str (Provider σ)} :
    validateRoutes py routes providers = [] ↔
      ∀ p ∈ routes, ∀ spec ∈ p.2, ∃ t, Target.parse py spec = .ok t ∧
        providers.has t.provider = true := by
  unfold validateRoutes
  rw [List.flatMap_eq_nil_iff]
  refine forall₂_congr fun p _ => ?_
  rw [List.filterMap_eq_nil_iff]
  refine forall₂_congr fun spec _ => ?_
  unfold routeProblem
  cases Target.parse py spec with
  | error e => simp
  | ok t => cases hregistered : providers.has t.provider <;> simp [hregistered]

/-! ## What is accepted -/

/-- A specification of a route is a target of the router. -/
lemma mem_routeTargets_of_spec {py : Runtime} {routes : OrderedDict Str (List Str)}
    {aliases : OrderedDict Str Str} {r : Router} (h : Router.init py routes aliases = .ok r)
    {p : Str × List Str} (hp : p ∈ routes) {spec : Str} (hspec : spec ∈ p.2) :
    ∃ t ∈ r.routeTargets, Target.parse py spec = .ok t := by
  unfold Router.init at h
  obtain ⟨parsedRoutes, hroutes, h⟩ := Except.bind_eq_ok.mp h
  obtain ⟨parsedAliases, -, h⟩ := Except.bind_eq_ok.mp h
  obtain rfl := Except.ok.inj h
  obtain ⟨q, hq⟩ := (List.returns_mapM _ _).mp ⟨parsedRoutes, hroutes⟩ p hp
  obtain ⟨targets, htargets, hq'⟩ := Except.bind_eq_ok.mp hq
  obtain ⟨t, ht⟩ := (List.returns_mapM _ _).mp ⟨targets, htargets⟩ spec hspec
  refine ⟨t, List.mem_flatMap.mpr ⟨q, (List.mem_mapM_iff hroutes q).mpr ⟨p, hp, hq⟩, ?_⟩, ht⟩
  rw [← Except.ok.inj hq']
  exact (List.mem_mapM_iff htargets t).mpr ⟨spec, hspec, ht⟩

/-- What does not parse is a `ValueError`. -/
lemma raises_parse (py : Runtime) (spec : Str) :
    (Target.parse py spec).Raises fun e => e.isValueError = true := by
  unfold Target.parse
  dsimp only
  split
  · exact (Except.raises_error _).mpr rfl
  · exact Except.raises_ok _

/-- A router that cannot be built raises a `ValueError`. -/
lemma raises_init (py : Runtime) (routes : OrderedDict Str (List Str))
    (aliases : OrderedDict Str Str) :
    (Router.init py routes aliases).Raises fun e => e.isValueError = true := by
  unfold Router.init
  refine Except.raises_bind (List.raises_mapM fun p _ => ?_) fun _ _ => ?_
  · exact Except.raises_bind (List.raises_mapM fun spec _ => raises_parse py spec) fun _ _ =>
      Except.raises_pure _
  refine Except.raises_bind (List.raises_mapM fun p _ => ?_) fun _ _ => Except.raises_pure _
  exact Except.raises_bind (raises_parse py p.2) fun _ _ => Except.raises_pure _

section FromConfig

variable {cfg : Config} {parts : Gateway σ}

/-- A gateway that starts has routes without problems. -/
lemma validateRoutes_of_start {G : Gateway σ} (h : startGateway cfg parts = .ok G) :
    validateRoutes parts.py cfg.routes parts.providers = [] := by
  obtain ⟨router, hrouter, hregistered, -⟩ := startGateway_eq_ok.mp h
  refine validateRoutes_eq_nil_iff.mpr fun p hp spec hspec => ?_
  obtain ⟨t, ht, hparse⟩ := mem_routeTargets_of_spec hrouter hp hspec
  exact ⟨t, hparse, hregistered t ht⟩

/-- Behind the check, the constructor of the gateway refuses nothing. -/
lemma raises_startGateway (h : validateRoutes parts.py cfg.routes parts.providers = []) :
    (startGateway cfg parts).Raises fun e => e.isValueError = true := by
  have hroutes := validateRoutes_eq_nil_iff.mp h
  cases hrouter : Router.init parts.py cfg.routes cfg.modelAliases with
  | error e =>
    unfold startGateway
    rw [hrouter]
    exact (Except.raises_error _).mpr (raises_init _ _ _ e hrouter)
  | ok router =>
    have hstart := startGateway_eq_ok.mpr ⟨router, hrouter, fun t ht => ?_, rfl⟩
    · rw [hstart]
      exact Except.raises_ok _
    · obtain ⟨p, hp, spec, hspec, hparse⟩ := exists_spec_of_mem_routeTargets hrouter ht
      obtain ⟨t', ht', hregistered⟩ := hroutes p hp spec hspec
      obtain rfl := Except.ok.inj (hparse.symm.trans ht')
      exact hregistered

/-- Behind the check, a client is built as the server is, but for the store. -/
lemma fromConfig_eq {buildStore : Config → Except Exc Unit}
    (h : validateRoutes parts.py cfg.routes parts.providers = []) :
    fromConfig cfg parts buildStore = do
      let G ← startGateway cfg parts
      buildStore cfg
      return G := by
  have hraises := raises_startGateway h
  unfold fromConfig
  rw [h]
  dsimp only
  unfold startGateway at hraises ⊢
  cases hrouter : Router.init parts.py cfg.routes cfg.modelAliases with
  | error e => rfl
  | ok router =>
    rw [hrouter] at hraises
    simp only [Except.ok_bind] at hraises ⊢
    -- the constructor comes after the store, and has nothing left to refuse
    have hregistered : ∃ G, Gateway.init { parts with
        router := router, costMeter := ⟨cfg.prices, cfg.profile = "prod"⟩ } = .ok G := by
      cases hinit : Gateway.init { parts with
          router := router, costMeter := ⟨cfg.prices, cfg.profile = "prod"⟩ } with
      | ok G => exact ⟨G, rfl⟩
      | error e =>
        have hvalue := hraises e hinit
        unfold Gateway.init at hinit
        dsimp only at hinit
        split at hinit
        · rw [← Except.error.inj hinit] at hvalue
          cases hvalue
        · cases hinit
    obtain ⟨G, hG⟩ := hregistered
    rw [hG]
    cases buildStore cfg with
    | error e => rfl
    | ok => rfl

/-- **The check is exact.** For every configuration and every registry, and whatever becomes of the
store: a client is built exactly if a gateway could be started from them and the store can be
opened, and it is that gateway. If no gateway could be started, the refusal is a `ValueError`, never
the one of the gateway's constructor; and otherwise it is the exception that the store raises. -/
theorem fromConfig_spec (cfg : Config) (parts : Gateway σ)
    (buildStore : Config → Except Exc Unit) :
    (∀ G, fromConfig cfg parts buildStore = .ok G ↔
      startGateway cfg parts = .ok G ∧ buildStore cfg = .ok ()) ∧
    ∀ e, fromConfig cfg parts buildStore = .error e →
      e.isValueError = true ∧ (∀ G, startGateway cfg parts ≠ .ok G) ∨
        buildStore cfg = .error e ∧ ∃ G, startGateway cfg parts = .ok G := by
  cases hproblems : validateRoutes parts.py cfg.routes parts.providers with
  | cons problem problems =>
    have hrefused : ∀ G, startGateway cfg parts ≠ .ok G := by
      intro G hG
      rw [validateRoutes_of_start hG] at hproblems
      cases hproblems
    unfold fromConfig
    rw [hproblems]
    refine ⟨fun G => ⟨fun h => (by cases h), fun h => absurd h.1 (hrefused G)⟩, fun e h => .inl ?_⟩
    rw [← Except.error.inj h]
    exact ⟨rfl, hrefused⟩
  | nil =>
    rw [fromConfig_eq hproblems]
    cases hstart : startGateway cfg parts with
    | error e =>
      refine ⟨fun G => ⟨fun h => (by cases h), fun h => (by cases h.1)⟩, fun e' h => .inl ?_⟩
      rw [← Except.error.inj h]
      exact ⟨raises_startGateway hproblems e hstart, fun G hG => by cases hG⟩
    | ok G =>
      cases hstore : buildStore cfg with
      | error e =>
        refine ⟨fun G' => ⟨fun h => (by cases h), fun h => (by cases h.2)⟩, fun e' h => .inr ?_⟩
        rw [← Except.error.inj h]
        exact ⟨rfl, G, rfl⟩
      | ok =>
        refine ⟨fun G' => ⟨fun h => ⟨h, rfl⟩, fun h => h.1⟩, fun e h => ?_⟩
        cases h

/-- A client that is built has the gateway that could be started. -/
lemma start_of_fromConfig {buildStore : Config → Except Exc Unit} {G : Gateway σ}
    (h : fromConfig cfg parts buildStore = .ok G) : startGateway cfg parts = .ok G := by
  have hproblems : validateRoutes parts.py cfg.routes parts.providers = [] := by
    unfold fromConfig at h
    split at h
    · next hnone => exact hnone
    · cases h
  rw [fromConfig_eq hproblems] at h
  obtain ⟨G', hstart, h⟩ := Except.bind_eq_ok.mp h
  obtain ⟨-, -, h⟩ := Except.bind_eq_ok.mp h
  rw [hstart, ← Except.ok.inj h]

end FromConfig

/-! ## The calls -/

/-- `GatewayClient.messages` and `GatewayClient.embed`. -/
inductive ClientCall where
  | messages (request : NormalizedRequest)
  | embed (model : Str) (inputs : List Str) (metadata : Metadata)

/-- The model of a call. -/
def ClientCall.model : ClientCall → Str
  | messages request => request.model
  | embed model _ _ => model

namespace Gateway

variable (G : Gateway σ)

/-- One call of a client. -/
def clientCall : ClientCall → Call σ (NormalizedResponse ⊕ EmbeddingResponse)
  | .messages request => do return .inl (← G.invoke request)
  | .embed model inputs metadata => do return .inr (← G.embed model inputs metadata)

/-- The records of calls one after the other, whether they return or raise, each with its call. -/
def callRecords : World σ → List ClientCall → List (ClientCall × CallRecord)
  | _, [] => []
  | w, c :: cs => (savesOf ((G.clientCall c).trace w)).map (Prod.mk c) ++
      callRecords ((G.clientCall c).final w) cs

variable {G}

/-- A call for a model that the gateway takes. -/
lemma keeps_clientCall {B : Bounds} (hstore : G.hasStore = true) (hwithin : G.Within B)
    {c : ClientCall} (htakes : G.Takes B c.model) : Keeps (RecordsWithin B) (G.clientCall c) := by
  have hF := frame_recordsWithin (σ := σ) B
  cases c with
  | messages request =>
    exact .bind hF (explains_invoke hstore hwithin htakes).keeps fun _ => .pure hF _
  | embed model inputs metadata =>
    exact .bind hF (explains_embed hstore hwithin htakes inputs metadata).keeps fun _ => .pure hF _

end Gateway

/-- **A client stands by its routes.** Whatever calls a client makes, one after the other: no record
of a call for the name of a route blames the routing, or a provider that is not registered; and
where a price is missing, the checker does not pass, in whatever environment. -/
theorem client_stands_by_its_routes {cfg : Config} {parts G : Gateway σ}
    {buildStore : Config → Except Exc Unit} (hstore : parts.hasStore = true)
    (hclient : fromConfig cfg parts buildStore = .ok G) (w : World σ) (cs : List ClientCall) :
    ∀ p ∈ G.callRecords w cs, p.1.model ∈ cfg.routes.keys → ∀ k, p.2.errorType = some k →
      k.isConfiguration = true →
        k = .pricing ∧ ∀ env strict, (cmdDoctor parts.py env cfg strict).1 ≠ 0 := by
  have hstart := start_of_fromConfig hclient
  have hstore' : G.hasStore = true := by
    obtain ⟨router, -, -, rfl⟩ := startGateway_eq_ok.mp hstart
    exact hstore
  induction cs generalizing w with
  | nil => exact List.forall_mem_nil _
  | cons c cs ih =>
    intro p hp hmodel k hk hblames
    rcases List.mem_append.mp hp with hp | hp
    · obtain ⟨r, hr, rfl⟩ := List.mem_map.mp hp
      exact Gateway.keeps_clientCall hstore' (G.within_blaming _) (takes_route hstart hmodel) w r hr
        k hk hblames
    · exact ih _ p hp hmodel k hk hblames

/-- A `prod` configuration whose route has no price. -/
def unpricedConfig : Config where
  routes := [("default", ["glm/glm-4"])]
  modelAliases := []
  prices := [("gpt-4o", (4, 9))]
  profile := "prod"
  distinctRoutes := List.nodup_singleton _
  distinctAliases := List.nodup_nil

/-- A call for the route, and one for the same model by its direct name. -/
def unpricedCalls : List ClientCall :=
  [.messages { model := "default", messages := [] }, .embed "glm/glm-4" ["a"] {}]

/-- The client is built, its first call blames the pricing, and no checker passes. -/
theorem client_stands_by_its_routes_unpriced : ∃ G r,
    fromConfig unpricedConfig catalogGateway (fun _ => .ok ()) = .ok G ∧
    (.messages { model := "default", messages := [] }, r) ∈
      G.callRecords { outer := {} } unpricedCalls ∧
    r.errorType = some .pricing ∧
    ∀ env strict, (cmdDoctor catalogGateway.py env unpricedConfig strict).1 ≠ 0 := by
  have htypes : ((fromConfig unpricedConfig catalogGateway fun _ => .ok ()).toOption.map fun G =>
      (savesOf ((G.clientCall (.messages { model := "default", messages := [] })).trace
        { outer := {} })).map CallRecord.errorType) = some [some .pricing] := by decide +kernel
  obtain ⟨G, hG, hsaves⟩ := Option.map_eq_some_iff.mp htypes
  obtain ⟨r, hr, htype⟩ := List.map_eq_singleton_iff.mp hsaves
  have hclient : fromConfig unpricedConfig catalogGateway (fun _ => .ok ()) = .ok G := by
    cases hbuilt : fromConfig unpricedConfig catalogGateway (fun _ => .ok ()) with
    | ok G' =>
      rw [hbuilt] at hG
      rw [Option.some.inj hG]
    | error e =>
      rw [hbuilt] at hG
      cases hG
  have hmem : (ClientCall.messages { model := "default", messages := [] }, r) ∈
      G.callRecords { outer := {} } unpricedCalls := by
    refine List.mem_append_left _ (List.mem_map_of_mem ?_)
    rw [hr]
    exact List.mem_singleton_self r
  exact ⟨G, r, hclient, hmem, htype, (client_stands_by_its_routes rfl hclient _ _ _ hmem
    (List.mem_singleton_self _) .pricing htype rfl).2⟩

end AgentCtl
