import AgentCtl.Cli.Serve
import AgentCtl.Core.Outcomes
import AgentCtl.Server.Ledger

set_option relaxedAutoImplicit false
set_option autoImplicit false

/-!
# The checker's verdict at run time

`agent-ctl doctor` looks at a configuration and at the keys in the environment; `agent-ctl serve`
builds its providers from the same keys and its gateway from the same configuration. What the first
has passed, no record of the second blames: in every run, a call for the name of a route is never
recorded as a failure of routing, of the registration of a provider, or of pricing, and a call for
an alias only where the key of its provider is not set.

The proof follows a name from the checker to a record. What the checker has looked at is what the
gateway takes: the targets of a route are registered, because a router with a target that is not
cannot be built, and they are priced in a `prod` profile, because the checker asks for it; an alias
it passes over if the key of its provider is not set, and then the provider is not registered. For a
name that a gateway takes within some bounds, the records of every call are within them
(`Gateway.explains_invoke` and its like), and so are those of every request of the server. The
bounds exclude the error types that blame the configuration: all of them for a route, and all but
an unregistered provider for an alias.

## Main definitions

* `AgentCtl.buildProviders` — the registry that is built from the environment.
* `AgentCtl.RecordsWithin` — the error types of the records of a part of a call.

## Main results

* `AgentCtl.takes_route`, `AgentCtl.takes_alias` — what the gateway takes, by name.
* `AgentCtl.doctor_holds_at_run_time` — the verdict, over whole runs of the server.

## Implementation notes

The checker and the server read one environment, `P.env`; for a route the keys do not matter, since
the gateway is there only if the providers of all routes are. The bounds for an alias name the
target that is blamed, so that the error type and the missing key come out of one record.
-/

namespace AgentCtl

open Prog

variable {σ : Type}

/-! ## The registry -/

/-- The base URLs of the catalog. -/
def catalogBaseUrls : OrderedDict Str Str :=
  [("deepseek", "https://api.deepseek.com"),
   ("qwen", "https://dashscope.aliyuncs.com/compatible-mode/v1"),
   ("glm", "https://open.bigmodel.cn/api/paas/v4")]

/-- `_make_anthropic` and `_make_openai`: an adapter around an SDK client. -/
structure SdkMakers (σ : Type) where
  anthropic : Str → Provider σ
  openai : Str → Option Str → Provider σ

/-- The adapter of a family. -/
def SdkMakers.make (makers : SdkMakers σ) (kind : ProviderKind) (key : Str)
    (baseUrl : Option Str) : Provider σ :=
  match kind with
  | .anthropic => makers.anthropic key
  | .openai => makers.openai key baseUrl

/-- `build_providers`: an adapter for each provider of the catalog whose key is set. -/
def buildProviders (py : Runtime) (env : Str → Option Str) (makers : SdkMakers σ) :
    OrderedDict Str (Provider σ) :=
  (availableProviders py env).filterMap fun name =>
    (providerCatalog.get? name).map fun c =>
      (name, makers.make c.kind ((env c.keyEnv).getD []) (catalogBaseUrls.get? name))

/-- The providers whose keys are set are registered, and no others. -/
lemma get?_buildProviders_ne_none_iff (py : Runtime) (env : Str → Option Str)
    (makers : SdkMakers σ) (name : Str) :
    (buildProviders py env makers).get? name ≠ none ↔ name ∈ availableProviders py env := by
  rw [← Option.isSome_iff_ne_none, ← OrderedDict.mem_keys_iff]
  constructor
  · intro h
    obtain ⟨p, hp, rfl⟩ := List.mem_map.mp h
    obtain ⟨name, hname, hp⟩ := List.mem_filterMap.mp hp
    obtain ⟨c, -, rfl⟩ := Option.map_eq_some_iff.mp hp
    exact hname
  · intro h
    have hknown : name ∈ providerCatalog.keys := by
      obtain ⟨p, hp, rfl⟩ := List.mem_map.mp h
      exact List.mem_map_of_mem (List.mem_of_mem_filter hp)
    obtain ⟨c, hc⟩ := Option.isSome_iff_exists.mp ((OrderedDict.mem_keys_iff _ _).mp hknown)
    exact List.mem_map.mpr ⟨_, List.mem_filterMap.mpr ⟨name, h, Option.map_eq_some_iff.mpr
      ⟨c, hc, rfl⟩⟩, rfl⟩

/-! ## What the checker has looked at -/

section Verdict

variable {cfg : Config} {env : Str → Option Str} {strict : Bool} {parts G : Gateway σ}
  {makers : SdkMakers σ}

/-- A checker that passes has found no problem. -/
lemma doctorProblems_of_passes {py : Runtime} (h : (cmdDoctor py env cfg strict).1 = 0) :
    doctorProblems py env cfg strict = [] := by
  unfold cmdDoctor at h
  split at h
  · cases h
  · next hnone => simpa using hnone

/-- Under `prod` it has found a price for every target of a route, and for the targets of the
aliases whose providers have their keys. -/
lemma priceExists_of_passes {py : Runtime} (h : (cmdDoctor py env cfg strict).1 = 0)
    (hprod : cfg.profile = "prod") :
    (∀ p ∈ cfg.routes, ∀ spec ∈ p.2, ∀ t, Target.parse py spec = .ok t →
      priceExists cfg t = true) ∧
    ∀ p ∈ cfg.modelAliases, ∀ t, Target.parse py p.2 = .ok t →
      t.provider ∈ availableProviders py env → priceExists cfg t = true := by
  have hproblems := doctorProblems_of_passes h
  unfold doctorProblems at hproblems
  rw [if_pos hprod] at hproblems
  have hpricing := (List.append_eq_nil_iff.mp hproblems).2
  unfold pricingProblems at hpricing
  obtain ⟨hroutes, haliases⟩ := List.append_eq_nil_iff.mp hpricing
  rw [List.flatMap_eq_nil_iff] at hroutes haliases
  refine ⟨fun p hp spec hspec t ht => ?_, fun p hp t ht havailable => ?_⟩
  · have hspecs := List.flatMap_eq_nil_iff.mp (hroutes p hp) spec hspec
    exact (unpriced_eq_nil_iff _ _ _).mp hspecs t ht rfl
  · refine (unpriced_eq_nil_iff _ _ _).mp (haliases p hp) t ht ?_
    simp [havailable]

/-- A target that the checker has found a price for passes the price check of the gateway. -/
lemma ensurePrice_of_passes {py : Runtime} {spec : Str} {t : Target}
    (hparse : Target.parse py spec = .ok t)
    (hprice : cfg.profile = "prod" → priceExists cfg t = true) :
    CostMeter.ensurePrice ⟨cfg.prices, cfg.profile = "prod"⟩ t.name = .ok () := by
  by_cases hprod : cfg.profile = "prod"
  · exact ensurePrice_of_priceExists hparse (hprice hprod) _
  · rw [ensurePrice_eq_ok_iff]
    intro hfail
    exact absurd (of_decide_eq_true hfail) hprod

variable (hstart : startGateway cfg parts = .ok G)

include hstart

/-- **A route** is known, and its targets are registered; they are priced if the checker passes, in
whatever environment. -/
lemma takes_route {model : Str} (hmodel : model ∈ cfg.routes.keys) :
    G.Takes (.blaming fun k => k = .pricing ∧
      ∀ env strict, (cmdDoctor parts.py env cfg strict).1 ≠ 0) model := by
  obtain ⟨router, hrouter, hregistered, rfl⟩ := startGateway_eq_ok.mp hstart
  obtain ⟨specs, hspecs⟩ := Option.isSome_iff_exists.mp ((OrderedDict.mem_keys_iff _ _).mp hmodel)
  have hrel := rel_routes hrouter model
  rw [hspecs] at hrel
  obtain ⟨targets, htargets⟩ : ∃ targets, router.routes.get? model = some targets := by
    cases hget : router.routes.get? model with
    | none => rw [hget] at hrel; cases hrel
    | some targets => exact ⟨targets, rfl⟩
  rw [htargets] at hrel
  cases hrel with
  | some hparsed =>
  have hresolve : router.resolve parts.py model = .ok targets := by
    unfold Router.resolve
    rw [htargets]
  refine ⟨.inr ⟨targets, hresolve⟩, fun {ts} hts t ht => ?_⟩
  obtain rfl := Except.ok.inj (hresolve.symm.trans hts)
  refine ⟨.inr ?_, fun _ => ?_⟩
  · have hroute : t ∈ router.routeTargets :=
      List.mem_flatMap.mpr ⟨_, OrderedDict.mem_of_get? htargets, ht⟩
    exact Option.isSome_iff_ne_none.mp (hregistered t hroute)
  · by_cases hpasses : ∃ env strict, (cmdDoctor parts.py env cfg strict).1 = 0
    · obtain ⟨env, strict, hdoctor⟩ := hpasses
      obtain ⟨spec, hspec, hparse⟩ := (List.mem_mapM_iff hparsed t).mp ht
      refine .inr (ensurePrice_of_passes hparse fun hprod => ?_)
      exact (priceExists_of_passes hdoctor hprod).1 _ (OrderedDict.mem_of_get? hspecs) spec hspec t
        hparse
    · exact .inl fun _ => ⟨rfl, fun env strict hdoctor => hpasses ⟨env, strict, hdoctor⟩⟩

/-- **An alias** of a configuration that has passed is known, and priced if its provider is
registered; which it is if its key is set. -/
lemma takes_alias (hdoctor : (cmdDoctor parts.py env cfg strict).1 = 0)
    (hproviders : parts.providers = buildProviders parts.py env makers) {model spec : Str}
    (hroute : cfg.routes.get? model = none) (halias : cfg.modelAliases.get? model = some spec) :
    G.Takes (.blaming fun k => k = .provider ∧ ∃ t, Target.parse parts.py spec = .ok t ∧
      t.provider ∉ availableProviders parts.py env) model := by
  obtain ⟨router, hrouter, -, rfl⟩ := startGateway_eq_ok.mp hstart
  obtain ⟨target, hparse, hresolve⟩ := resolve_alias hrouter hroute halias
  refine ⟨.inr ⟨[target], hresolve⟩, fun {ts} hts t ht => ?_⟩
  obtain rfl := Except.ok.inj (hresolve.symm.trans hts)
  obtain rfl := List.mem_singleton.mp ht
  have hkey : parts.providers.get? t.provider ≠ none ↔
      t.provider ∈ availableProviders parts.py env := by
    rw [hproviders]
    exact get?_buildProviders_ne_none_iff _ _ _ _
  constructor
  · by_cases havailable : t.provider ∈ availableProviders parts.py env
    · exact .inr (hkey.mpr havailable)
    · exact .inl fun _ => ⟨rfl, t, hparse, havailable⟩
  · intro hregistered
    exact .inr (ensurePrice_of_passes hparse fun hprod =>
      (priceExists_of_passes hdoctor hprod).2 _ (OrderedDict.mem_of_get? halias) t hparse
        (hkey.mp hregistered))

end Verdict

/-! ## Records of the server -/

/-- The error types of the records of a part of a call are within the bounds. -/
def RecordsWithin (B : Bounds) (_ _ : World σ) (es : List (Event σ)) : Prop :=
  ∀ r ∈ savesOf es, ∀ k, r.errorType = some k → B.allowed k

/-- A program whose parts keep the error types of their records within the bounds keeps them so. -/
lemma frame_recordsWithin (B : Bounds) : Frame (RecordsWithin (σ := σ) B) where
  refl _ := List.forall_mem_nil _
  trans h h' := by
    intro r hr
    rw [savesOf_append] at hr
    exact (List.mem_append.mp hr).elim (h r) (h' r)

/-- Records that explain an outcome are within the bounds. -/
lemma Explains.keeps {B : Bounds} {α : Type} {goesOn : α → Bool} {m : Call σ α}
    (h : Explains B goesOn m) : Keeps (RecordsWithin B) m :=
  fun w _ hr _ hk => (h w).allowed hr hk

/-- **One call** of a server for a model that its gateway takes. -/
lemma HttpServer.recordsWithin_runServed {S : HttpServer σ} {B : Bounds}
    (hstore : S.gateway.hasStore = true) (hwithin : S.gateway.Within B) {x : Served}
    (htakes : S.gateway.Takes B (requestedModel x.body)) (w : World σ) :
    ∀ r ∈ savesOf (S.runServed w x).2.2, ∀ k, r.errorType = some k → B.allowed k := by
  have hhandlers := Server.keeps_handlers (S := S.toServer) (frame_recordsWithin B)
    (fun request hmodel => (Gateway.explains_invoke hstore hwithin (hmodel ▸ htakes)).keeps)
    (fun request hmodel => (Gateway.explains_invokeStream hstore hwithin (hmodel ▸ htakes)).keeps)
    (fun inputs metadata => (Gateway.explains_embed hstore hwithin htakes inputs metadata).keeps)
    x.answerId x.created
  unfold runServed handle
  cases x.endpoint with
  | chatCompletions => exact hhandlers.1 { w with patience := x.patience }
  | embeddings => exact hhandlers.2 { w with patience := x.patience }

/-- **The verdict holds.** Let the checker pass a configuration, and let a server be started from it
with providers that are built from the same environment. In every run of this server, a record that
blames the configuration belongs to a call for a name that is no route; and if that is an alias, it
is the provider that is blamed, and its key is not set. -/
theorem doctor_holds_at_run_time {P : Platform} {cfg : ServeConfig} {args : ServeArgs}
    {parts : Gateway σ} {makers : SdkMakers σ} {strict : Bool} {S : HttpServer σ}
    (hproviders : parts.providers = buildProviders parts.py P.env makers)
    (hstore : parts.hasStore = true)
    (hdoctor : (cmdDoctor parts.py P.env cfg.toConfig strict).1 = 0)
    (hserve : cmdServe P cfg args parts = .serving S) {w : World σ} {ms : List HttpMove} {h : Hub σ}
    (hrun : S.run { world := w } ms = some h) :
    h.world = S.replay w h.served ∧
      ∀ pre x post, h.served = pre ++ x :: post →
        ∀ r ∈ savesOf (S.runServed (S.replay w pre) x).2.2, ∀ k, r.errorType = some k →
          k.isConfiguration = true →
            requestedModel x.body ∉ cfg.routes.keys ∧
            ∀ spec, cfg.modelAliases.get? (requestedModel x.body) = some spec →
              k = .provider ∧ ∃ t, Target.parse parts.py spec = .ok t ∧
                t.provider ∉ availableProviders parts.py P.env := by
  obtain ⟨-, hstart, -, -, -, -⟩ := serving_spec hserve
  have hstore' : S.gateway.hasStore = true := by
    obtain ⟨router, -, -, hgateway⟩ := startGateway_eq_ok.mp hstart
    rw [hgateway]
    exact hstore
  refine ⟨HttpServer.world_run hrun, fun pre x post _ r hr k hk hblames => ?_⟩
  by_cases hroute : requestedModel x.body ∈ cfg.routes.keys
  · have htakes := takes_route hstart hroute
    obtain ⟨-, hfails⟩ := HttpServer.recordsWithin_runServed hstore' (S.gateway.within_blaming _)
      htakes _ r hr k hk hblames
    exact absurd hdoctor (hfails P.env strict)
  · refine ⟨hroute, fun spec hspec => ?_⟩
    have hnone : cfg.routes.get? (requestedModel x.body) = none := by
      rw [OrderedDict.mem_keys_iff] at hroute
      simpa using hroute
    have htakes := takes_alias hstart hdoctor hproviders hnone hspec
    exact HttpServer.recordsWithin_runServed hstore' (S.gateway.within_blaming _) htakes _ r hr k
      hk hblames

/-! ## An alias without a key -/

/-- Adapters whose backends follow a script. -/
def scriptedMakers : SdkMakers Scripted where
  anthropic _ := scriptedProvider
  openai _ _ := scriptedProvider

/-- A `prod` configuration that passes, although its alias has neither a key nor a price. -/
def keylessConfig : ServeConfig where
  routes := [("default", ["openai/gpt-4o"])]
  modelAliases := [("gpt", "anthropic/claude")]
  prices := [("openai/gpt-4o", (3, 11))]
  profile := "prod"
  distinctRoutes := List.nodup_singleton _
  distinctAliases := List.nodup_singleton _

/-- The parts of a gateway, with the registry that is built from the environment. -/
def keylessParts : Gateway Scripted :=
  { scriptedGateway with
    py := readsOne aliasBody
    providers := buildProviders (readsOne aliasBody) openaiPlatform.env scriptedMakers }

/-- The server that is started from it. -/
def keylessServe : ServeOutcome Scripted :=
  cmdServe openaiPlatform keylessConfig
    { host := "0.0.0.0", apiToken := some "key", defaultMaxTokens := some 512 } keylessParts

/-- The call for the alias blames the provider, whose key is not set. -/
theorem doctor_holds_at_run_time_keyless : ∃ S h x r, keylessServe = .serving S ∧
    S.run { world := failThenAnswer } twoVisits = some h ∧ h.served = [x] ∧
    r ∈ savesOf (S.runServed failThenAnswer x).2.2 ∧ r.errorType = some .provider ∧
    ∃ t, Target.parse keylessParts.py "anthropic/claude" = .ok t ∧
      t.provider ∉ availableProviders keylessParts.py openaiPlatform.env := by
  have hids : (keylessServe.server?.bind fun S =>
      (S.run { world := failThenAnswer } twoVisits).map fun h => h.served.map fun x =>
        (requestedModel x.body,
          (savesOf (S.runServed failThenAnswer x).2.2).map CallRecord.errorType)) =
      some [(Str.ofString "gpt", [some .provider])] := by decide +kernel
  obtain ⟨S, hS, hids⟩ := Option.bind_eq_some_iff.mp hids
  obtain ⟨h, hrun, hserved⟩ := Option.map_eq_some_iff.mp hids
  obtain ⟨x, hx, hcall⟩ := List.map_eq_singleton_iff.mp hserved
  obtain ⟨hmodel, hsaves⟩ := Prod.mk.inj hcall
  obtain ⟨r, hr, htype⟩ := List.map_eq_singleton_iff.mp hsaves
  have hserve : keylessServe = .serving S := ServeOutcome.eq_serving hS
  have hdoctor : (cmdDoctor keylessParts.py openaiPlatform.env keylessConfig.toConfig false).1 =
      0 := by decide +kernel
  obtain ⟨-, hverdict⟩ := doctor_holds_at_run_time rfl rfl hdoctor hserve hrun
  have hmem : r ∈ savesOf (S.runServed failThenAnswer x).2.2 := by
    rw [hr]
    exact List.mem_singleton_self r
  obtain ⟨-, halias⟩ := hverdict [] x [] hx r hmem .provider htype rfl
  rw [hmodel] at halias
  exact ⟨S, h, x, r, hserve, hrun, hx, hmem, htype, (halias "anthropic/claude" rfl).2⟩

end AgentCtl
