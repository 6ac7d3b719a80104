import AgentCtl.Library.ExceptList
import AgentCtl.Core.Scripted
import AgentCtl.Server.App
import Mathlib.Data.List.Sort

set_option relaxedAutoImplicit false
set_option autoImplicit false

/-!
# The self-check of a configuration

`agent-ctl doctor` of `cli.py`, next to the start of a gateway from the same configuration. The
checker and the router parse, resolve and price targets each in their own code; the checker skips
aliases that do not parse and does not look at the length of a route.

## Main definitions

* `AgentCtl.Config` — the configuration, as far as the checker and the start read it.
* `AgentCtl.cmdDoctor`, `AgentCtl.pricingProblems` — the checker: its exit code and its output.
* `AgentCtl.Gateway.init`, `AgentCtl.startGateway` — the start.
* `AgentCtl.IsTargetSpec` — specifications of the form `provider/model`.

## Main results

* `AgentCtl.cmdDoctor_passes_iff` — what a configuration without problems looks like.
* `AgentCtl.doctor_sound_iff` — such a configuration starts, and serves every name by a nonempty
  chain of priced targets, if and only if its aliases parse and its routes are not empty.
-/

namespace AgentCtl

/-! ## The configuration and the catalog -/

/-- The fields of `Config` that the checker and the router read. The keys of a YAML mapping are
distinct. -/
structure Config where
  routes : OrderedDict Str (List Str)
  modelAliases : OrderedDict Str Str := []
  prices : OrderedDict Str (ℚ × ℚ) := []
  profile : Str := "dev"
  distinctRoutes : routes.keys.Nodup
  distinctAliases : modelAliases.keys.Nodup

/-- The adapter families. -/
inductive ProviderKind where
  | anthropic
  | openai
  deriving DecidableEq

/-- An entry of the catalog, without its base URL. -/
structure CatalogEntry where
  kind : ProviderKind
  keyEnv : Str

/-- `PROVIDER_CATALOG` -/
def providerCatalog : OrderedDict Str CatalogEntry :=
  [("anthropic", ⟨.anthropic, "ANTHROPIC_API_KEY"⟩),
   ("openai", ⟨.openai, "OPENAI_API_KEY"⟩),
   ("deepseek", ⟨.openai, "DEEPSEEK_API_KEY"⟩),
   ("qwen", ⟨.openai, "DASHSCOPE_API_KEY"⟩),
   ("glm", ⟨.openai, "GLM_API_KEY"⟩)]

/-- `KNOWN_PROVIDERS` -/
def knownProviders : List Str := providerCatalog.keys

/-- What an adapter can do, in the order of the names. -/
inductive Capability where
  | chat
  | embed
  | stream
  | tools
  deriving DecidableEq

namespace Capability

/-- The name of a capability. -/
def name : Capability → Str
  | chat => "chat"
  | embed => "embed"
  | stream => "stream"
  | tools => "tools"

/-- All capabilities, sorted by name. -/
def all : List Capability := [chat, embed, stream, tools]

end Capability

/-- `provider_capabilities`, sorted by name. -/
def providerCapabilities (name : Str) : List Capability :=
  match (providerCatalog.get? name).map CatalogEntry.kind with
  | none => []
  | some .anthropic => [.chat, .stream, .tools]
  | some .openai => [.chat, .embed, .stream, .tools]

/-- `sorted(set(names))` -/
def sortedNames (names : List Str) : List Str := names.dedup.insertionSort fun a b => ¬ b < a

/-- `f"{s:34}"` for a width: padded with spaces on the right. -/
def ljust (width : ℕ) (s : Str) : Str := s ++ List.replicate (width - s.length) 32

/-! ## The checker -/

section Doctor

variable (py : Runtime) (env : Str → Option Str) (cfg : Config)

/-- `repr` of a string. -/
def reprStr (s : Str) : Str := py.repr (.str s)

/-- `repr` of a list of strings. -/
def reprStrs (ss : List Str) : Str := py.repr (.arr (ss.map .str))

/-- `available_providers`: the providers of the catalog whose key is set. -/
def availableProviders : List Str :=
  (providerCatalog.filter fun p => strip py ((env p.2.keyEnv).getD []) ≠ []).map Prod.fst

/-- The checker on one specification of a route: the problem, or its capabilities. -/
def checkSpec (logical spec : Str) : Except Str (Str × List Capability) :=
  match Target.parse py spec with
  | .error e => .error ("route " ++ reprStr py logical ++ ": " ++ e.msg)
  | .ok target =>
    if target.provider ∈ knownProviders then .ok (spec, providerCapabilities target.provider)
    else .error ("route " ++ reprStr py logical ++ " → " ++ reprStr py spec ++ ": provider " ++
      reprStr py target.provider ++ " 无内建适配器 (内建适配器: " ++
      reprStrs py (sortedNames knownProviders) ++ ")")

/-- The problems of one route. -/
def routeProblems (logical : Str) (specs : List Str) : List Str :=
  specs.filterMap fun spec =>
    match checkSpec py logical spec with
    | .error problem => some problem
    | .ok _ => none

/-- `parsed`: the specifications of a route without a problem, with their capabilities. -/
def parsedSpecs (logical : Str) (specs : List Str) : List (Str × List Capability) :=
  specs.filterMap fun spec => (checkSpec py logical spec).toOption

/-- The lines of one route in the capability matrix. -/
def capLines (logical : Str) (parsed : List (Str × List Capability)) : List Str :=
  ("  route " ++ reprStr py logical ++ ":") :: parsed.map fun p =>
    "    " ++ ljust 34 p.1 ++ " " ++
      if p.2 = [] then Str.ofString "(none)" else List.intercalate [44] (p.2.map Capability.name)

/-- The capabilities that some but not all targets of a route have. -/
def capWarnings (logical : Str) (parsed : List (Str × List Capability)) : List Str :=
  if 1 < parsed.length then
    (Capability.all.filter fun cap => parsed.any (cap ∈ ·.2) && !parsed.all (cap ∈ ·.2)).map
      fun cap =>
        "route " ++ reprStr py logical ++ ": 能力 " ++ reprStr py cap.name ++
          " 在目标间不一致,回退到 " ++
          reprStrs py ((parsed.filter fun p => cap ∉ p.2).map Prod.fst) ++ " 时该类请求会失败"
  else []

/-- `_price_exists` -/
def priceExists (target : Target) : Bool :=
  cfg.prices.has target.name || cfg.prices.has target.model

/-- One round of `_pricing_problems`: nothing on a specification that does not parse or is skipped,
a problem on a target without a price. -/
def unpriced (skip : Target → Bool) (label spec : Str) : List Str :=
  match Target.parse py spec with
  | .error _ => []
  | .ok target =>
    if skip target then []
    else if priceExists cfg target then []
    else [label ++ " → " ++ reprStr py spec ++ ": prod profile 缺少价格配置 (需要 prices." ++
      reprStr py target.name ++ " 或 prices." ++ reprStr py target.model ++ ")"]

/-- `_pricing_problems` -/
def pricingProblems (available : Option (List Str)) (strictAliasPrices : Bool) : List Str :=
  (cfg.routes.flatMap fun p => p.2.flatMap fun spec =>
    unpriced py cfg (fun _ => false) ("route " ++ reprStr py p.1) spec) ++
  cfg.modelAliases.flatMap fun p =>
    unpriced py cfg
      (fun target => !strictAliasPrices && available.any fun names => target.provider ∉ names)
      ("alias " ++ reprStr py p.1) p.2

/-- What the checker has collected when it decides. -/
def doctorProblems (strictAliasPrices : Bool) : List Str :=
  (if cfg.routes = [] then [Str.ofString "routes 为空:至少配一个逻辑模型 → 目标链"] else []) ++
  (cfg.routes.flatMap fun p => routeProblems py p.1 p.2) ++
  (if cfg.profile = "prod" ∧ cfg.prices = [] then
    [Str.ofString "prod profile 下 prices 为空:成本将全为 None"] else []) ++
  if cfg.profile = "prod" then
    pricingProblems py cfg (some (availableProviders py env)) strictAliasPrices
  else []

/-- `_cmd_doctor`: the exit code and the printed lines. -/
def cmdDoctor (strictAliasPrices : Bool) : ℤ × List Str :=
  if doctorProblems py env cfg strictAliasPrices ≠ [] then
    (1, (doctorProblems py env cfg strictAliasPrices).map (Str.ofString "FAIL: " ++ ·))
  else
    (0, (cfg.routes.flatMap fun p => capWarnings py p.1 (parsedSpecs py p.1 p.2)).map
        (Str.ofString "WARN: " ++ ·) ++ [Str.ofString "能力矩阵(chat/stream/embed/tools):"] ++
      (cfg.routes.flatMap fun p => capLines py p.1 (parsedSpecs py p.1 p.2)) ++
      [Str.ofString "OK: 配置自检通过"])

end Doctor

/-! ## The start -/

/-- `Router.route_targets` -/
def Router.routeTargets (r : Router) : List Target := r.routes.flatMap Prod.snd

/-- `Gateway.__init__`: a gateway of these parts. A provider of a route target that is not
registered is refused. -/
def Gateway.init {σ : Type} (G : Gateway σ) : Except Exc (Gateway σ) :=
  let missing := (G.router.routeTargets.map Target.provider).filter fun p => !G.providers.has p
  if missing ≠ [] then
    .error ⟨.gatewayError, "unregistered provider(s) for route targets: " ++
      reprStrs G.py (sortedNames missing), none⟩
  else .ok G

/-- The gateway that `serve` builds from a configuration: the router and the prices come from it,
the other parts are given. -/
def startGateway {σ : Type} (cfg : Config) (parts : Gateway σ) : Except Exc (Gateway σ) := do
  let router ← Router.init parts.py cfg.routes cfg.modelAliases
  Gateway.init { parts with
    router := router
    costMeter := ⟨cfg.prices, cfg.profile = "prod"⟩ }

/-! ## Specifications -/

/-- The text of a target: a provider and a model, neither of them empty, around the first slash. -/
def IsTargetSpec (spec : Str) : Prop :=
  ∃ provider model : Str, 47 ∉ provider ∧ provider ≠ [] ∧ model ≠ [] ∧
    spec = provider ++ 47 :: model

/-- What a specification parses to. -/
lemma parse_eq_ok_iff (py : Runtime) (spec : Str) (t : Target) :
    Target.parse py spec = .ok t ↔
      47 ∉ t.provider ∧ t.provider ≠ [] ∧ t.model ≠ [] ∧ spec = t.provider ++ 47 :: t.model := by
  constructor
  · intro h
    unfold Target.parse at h
    dsimp only at h
    split at h
    · cases h
    next hparts =>
    obtain rfl := Except.ok.inj h
    rw [not_or] at hparts
    refine ⟨Str.not_mem_partition _ _, hparts.1, hparts.2, ?_⟩
    have hjoin := Str.partition_join 47 spec
    split at hjoin
    · exact hjoin
    next hno =>
    -- without a slash there is nothing after it
    rw [List.append_nil] at hjoin
    have hmem : 47 ∉ spec := hjoin ▸ Str.not_mem_partition 47 spec
    exact absurd (Str.partition_of_not_mem hmem) hparts.2
  · rintro ⟨hslash, hprovider, hmodel, rfl⟩
    unfold Target.parse
    rw [Str.partition_append t.model hslash]
    simp [hprovider, hmodel]

/-- A specification parses when it is the text of a target. -/
lemma returns_parse_iff (py : Runtime) (spec : Str) :
    (Target.parse py spec).Returns ↔ IsTargetSpec spec := by
  constructor
  · rintro ⟨t, ht⟩
    exact ⟨t.provider, t.model, (parse_eq_ok_iff py spec t).mp ht⟩
  · rintro ⟨provider, model, h⟩
    exact ⟨⟨provider, model⟩, (parse_eq_ok_iff py spec ⟨provider, model⟩).mpr h⟩

/-- The checker and the gateway look a price up alike, once the target is parsed. -/
lemma isSome_priceFor_name {cfg : Config} {t : Target} (h : 47 ∉ t.provider) (failUnknown : Bool) :
    (CostMeter.priceFor ⟨cfg.prices, failUnknown⟩ t.name).isSome = priceExists cfg t := by
  have hname : t.name = t.provider ++ 47 :: t.model := by
    unfold Target.name
    rw [List.append_assoc]
    rfl
  unfold CostMeter.priceFor priceExists OrderedDict.has
  cases hp : cfg.prices.get? t.name with
  | some p => rfl
  | none =>
    rw [hname, Str.partition_append t.model h]
    simp

/-- A target is accepted when a check of prices is off, or finds one. -/
lemma ensurePrice_eq_ok_iff (c : CostMeter) (model : Str) :
    c.ensurePrice model = .ok () ↔ (c.failUnknown = true → (c.priceFor model).isSome) := by
  unfold CostMeter.ensurePrice
  cases c.failUnknown <;> cases c.priceFor model <;> simp

/-! ## What the checker accepts -/

section Checked

variable {py : Runtime} {cfg : Config}

/-- A route without problems: every specification parses, to a known provider. -/
lemma routeProblems_eq_nil_iff (logical : Str) (specs : List Str) :
    routeProblems py logical specs = [] ↔
      ∀ spec ∈ specs, ∃ t, Target.parse py spec = .ok t ∧ t.provider ∈ knownProviders := by
  unfold routeProblems
  rw [List.filterMap_eq_nil_iff]
  refine forall₂_congr fun spec _ => ?_
  unfold checkSpec
  cases Target.parse py spec with
  | error e => simp
  | ok t =>
    by_cases hknown : t.provider ∈ knownProviders
    · simp [hknown]
    · simp [hknown]

/-- A specification without a pricing problem. -/
lemma unpriced_eq_nil_iff (skip : Target → Bool) (label spec : Str) :
    unpriced py cfg skip label spec = [] ↔
      ∀ t, Target.parse py spec = .ok t → skip t = false → priceExists cfg t = true := by
  unfold unpriced
  cases Target.parse py spec with
  | error e => simp
  | ok t => cases hskip : skip t <;> cases hprice : priceExists cfg t <;> simp [hskip, hprice]

/-- With strict alias prices, every target that parses has a price. -/
lemma pricingProblems_eq_nil_iff (available : Option (List Str)) :
    pricingProblems py cfg available true = [] ↔
      (∀ p ∈ cfg.routes, ∀ spec ∈ p.2, ∀ t, Target.parse py spec = .ok t →
        priceExists cfg t = true) ∧
      ∀ p ∈ cfg.modelAliases, ∀ t, Target.parse py p.2 = .ok t → priceExists cfg t = true := by
  unfold pricingProblems
  simp [unpriced_eq_nil_iff]

/-- **A configuration without problems**, under strict alias prices: there is a route, every
specification of a route parses to a known provider, and under `prod` there are prices, for every
target that parses. -/
theorem cmdDoctor_passes_iff (env : Str → Option Str) :
    (cmdDoctor py env cfg true).1 = 0 ↔
      cfg.routes ≠ [] ∧
      (∀ p ∈ cfg.routes, ∀ spec ∈ p.2, ∃ t, Target.parse py spec = .ok t ∧
        t.provider ∈ knownProviders) ∧
      (cfg.profile = "prod" → cfg.prices ≠ [] ∧
        (∀ p ∈ cfg.routes, ∀ spec ∈ p.2, ∀ t, Target.parse py spec = .ok t →
          priceExists cfg t = true) ∧
        ∀ p ∈ cfg.modelAliases, ∀ t, Target.parse py p.2 = .ok t → priceExists cfg t = true) := by
  have hcode : (cmdDoctor py env cfg true).1 = 0 ↔ doctorProblems py env cfg true = [] := by
    unfold cmdDoctor
    split
    · next h => simpa using h
    · next h => simpa using h
  rw [hcode]
  unfold doctorProblems
  by_cases hprod : cfg.profile = "prod"
  · simp [hprod, pricingProblems_eq_nil_iff, routeProblems_eq_nil_iff]
  · simp [hprod, routeProblems_eq_nil_iff]

end Checked

/-! ## What starts -/

section Started

variable {py : Runtime} {routes : OrderedDict Str (List Str)} {aliases : OrderedDict Str Str}
  {r : Router}

/-- The routes of the router, name by name. -/
lemma rel_routes (h : Router.init py routes aliases = .ok r) (model : Str) :
    Option.Rel (fun (specs : List Str) targets => specs.mapM (Target.parse py) = .ok targets)
      (routes.get? model) (r.routes.get? model) := by
  unfold Router.init at h
  obtain ⟨parsedRoutes, hroutes, h⟩ := Except.bind_eq_ok.mp h
  obtain ⟨parsedAliases, -, h⟩ := Except.bind_eq_ok.mp h
  obtain rfl := Except.ok.inj h
  refine OrderedDict.rel_get? ((List.mapM_eq_ok hroutes).imp fun p q hpq => ?_) model
  obtain ⟨targets, htargets, hq⟩ := Except.bind_eq_ok.mp hpq
  obtain rfl := Except.ok.inj hq
  exact ⟨rfl, htargets⟩

/-- The aliases of the router, name by name. -/
lemma rel_aliases (h : Router.init py routes aliases = .ok r) (model : Str) :
    Option.Rel (fun spec target => Target.parse py spec = .ok target)
      (aliases.get? model) (r.aliases.get? model) := by
  unfold Router.init at h
  obtain ⟨parsedRoutes, -, h⟩ := Except.bind_eq_ok.mp h
  obtain ⟨parsedAliases, haliases, h⟩ := Except.bind_eq_ok.mp h
  obtain rfl := Except.ok.inj h
  refine OrderedDict.rel_get? ((List.mapM_eq_ok haliases).imp fun p q hpq => ?_) model
  obtain ⟨target, htarget, hq⟩ := Except.bind_eq_ok.mp hpq
  obtain rfl := Except.ok.inj hq
  exact ⟨rfl, htarget⟩

/-- A router starts when every specification parses, of aliases too. -/
lemma returns_init_iff : (Router.init py routes aliases).Returns ↔
    (∀ p ∈ routes, ∀ spec ∈ p.2, IsTargetSpec spec) ∧ ∀ p ∈ aliases, IsTargetSpec p.2 := by
  have hroutes : (routes.mapM fun p => do
      return (p.1, ← p.2.mapM (Target.parse py)) : Except Exc _).Returns ↔
      ∀ p ∈ routes, ∀ spec ∈ p.2, IsTargetSpec spec := by
    rw [List.returns_mapM]
    refine forall₂_congr fun p _ => ?_
    rw [Except.returns_bind_pure, List.returns_mapM]
    exact forall₂_congr fun spec _ => returns_parse_iff py spec
  have haliases : (aliases.mapM fun p => do
      return (p.1, ← Target.parse py p.2) : Except Exc _).Returns ↔
      ∀ p ∈ aliases, IsTargetSpec p.2 := by
    rw [List.returns_mapM]
    refine forall₂_congr fun p _ => ?_
    rw [Except.returns_bind_pure]
    exact returns_parse_iff py p.2
  unfold Router.init
  rw [Except.returns_bind, ← hroutes, ← haliases]
  constructor
  · rintro ⟨rs, hrs, h⟩
    rw [Except.returns_bind_pure] at h
    exact ⟨⟨rs, hrs⟩, h⟩
  · rintro ⟨⟨rs, hrs⟩, h⟩
    exact ⟨rs, hrs, (Except.returns_bind_pure _ _).mpr h⟩

/-- The targets that must be registered come from specifications of routes. -/
lemma exists_spec_of_mem_routeTargets (h : Router.init py routes aliases = .ok r) {t : Target}
    (ht : t ∈ r.routeTargets) : ∃ p ∈ routes, ∃ spec ∈ p.2, Target.parse py spec = .ok t := by
  unfold Router.init at h
  obtain ⟨parsedRoutes, hroutes, h⟩ := Except.bind_eq_ok.mp h
  obtain ⟨parsedAliases, -, h⟩ := Except.bind_eq_ok.mp h
  obtain rfl := Except.ok.inj h
  obtain ⟨q, hq, htq⟩ := List.mem_flatMap.mp ht
  obtain ⟨p, hp, hpq⟩ := (List.mem_mapM_iff hroutes q).mp hq
  obtain ⟨targets, htargets, hq⟩ := Except.bind_eq_ok.mp hpq
  obtain rfl := Except.ok.inj hq
  obtain ⟨spec, hspec, hparse⟩ := (List.mem_mapM_iff htargets t).mp htq
  exact ⟨p, hp, spec, hspec, hparse⟩

/-- A route resolves to its parsed specifications. -/
lemma resolve_route (h : Router.init py routes aliases = .ok r) {model : Str} {specs : List Str}
    (hroute : routes.get? model = some specs) :
    ∃ targets, specs.mapM (Target.parse py) = .ok targets ∧ r.resolve py model = .ok targets := by
  have hrel := rel_routes h model
  rw [hroute] at hrel
  unfold Router.resolve
  cases htargets : r.routes.get? model with
  | none => rw [htargets] at hrel; cases hrel
  | some targets =>
    rw [htargets] at hrel
    cases hrel with
    | some hmap => exact ⟨targets, hmap, rfl⟩

/-- An alias that no route shadows resolves to its one target. -/
lemma resolve_alias (h : Router.init py routes aliases = .ok r) {model spec : Str}
    (hroute : routes.get? model = none) (halias : aliases.get? model = some spec) :
    ∃ target, Target.parse py spec = .ok target ∧ r.resolve py model = .ok [target] := by
  have hroutes := rel_routes h model
  have haliases := rel_aliases h model
  rw [hroute] at hroutes
  rw [halias] at haliases
  unfold Router.resolve
  cases hnone : r.routes.get? model with
  | some targets => rw [hnone] at hroutes; cases hroutes
  | none =>
    cases htarget : r.aliases.get? model with
    | none => rw [htarget] at haliases; cases haliases
    | some target =>
      rw [htarget] at haliases
      cases haliases with
      | some hparse => exact ⟨target, hparse, rfl⟩

/-- A gateway starts when its router does and every route target is registered. -/
lemma startGateway_eq_ok {σ : Type} {cfg : Config} {parts G : Gateway σ} :
    startGateway cfg parts = .ok G ↔
      ∃ router, Router.init parts.py cfg.routes cfg.modelAliases = .ok router ∧
        (∀ t ∈ router.routeTargets, parts.providers.has t.provider = true) ∧
        G = { parts with router := router, costMeter := ⟨cfg.prices, cfg.profile = "prod"⟩ } := by
  unfold startGateway
  rw [Except.bind_eq_ok]
  refine exists_congr fun router => and_congr_right fun _ => ?_
  unfold Gateway.init
  dsimp only
  split
  · next hmissing =>
    simp only [reduceCtorEq, false_iff, not_and]
    intro hall
    refine absurd ?_ hmissing
    rw [List.filter_eq_nil_iff]
    intro p hp
    obtain ⟨t, ht, rfl⟩ := List.mem_map.mp hp
    simp [hall t ht]
  · next hmissing =>
    rw [not_not, List.filter_eq_nil_iff] at hmissing
    have hall : ∀ t ∈ router.routeTargets, parts.providers.has t.provider = true := by
      intro t ht
      simpa using hmissing t.provider (List.mem_map_of_mem ht)
    exact ⟨fun h => ⟨hall, (Except.ok.inj h).symm⟩, fun h => h.2 ▸ rfl⟩

end Started

/-! ## The promise -/

variable {σ : Type}

/-- What the checker promises: router and gateway start, every name of the configuration resolves to
a nonempty chain, and under `prod` every target of the chain is accepted by the price check. -/
def Gateway.Serves (parts : Gateway σ) (cfg : Config) : Prop :=
  ∃ G, startGateway cfg parts = .ok G ∧
    ∀ model, model ∈ cfg.routes.keys ∨ model ∈ cfg.modelAliases.keys →
      ∃ targets, G.router.resolve G.py model = .ok targets ∧ targets ≠ [] ∧
        (cfg.profile = "prod" → ∀ t ∈ targets, G.costMeter.ensurePrice t.name = .ok ())

/-- A target that the checker has found a price for passes the price check. -/
lemma ensurePrice_of_priceExists {py : Runtime} {cfg : Config} {spec : Str} {t : Target}
    (hparse : Target.parse py spec = .ok t) (hprice : priceExists cfg t = true)
    (failUnknown : Bool) :
    CostMeter.ensurePrice ⟨cfg.prices, failUnknown⟩ t.name = .ok () := by
  have hslash := ((parse_eq_ok_iff py spec t).mp hparse).1
  rw [ensurePrice_eq_ok_iff, isSome_priceFor_name hslash]
  exact fun _ => hprice

/-- An entry of a dictionary with distinct keys. -/
lemma Config.get?_routes (cfg : Config) {p : Str × List Str} (hp : p ∈ cfg.routes) :
    cfg.routes.get? p.1 = some p.2 :=
  OrderedDict.get?_of_mem cfg.distinctRoutes hp

/-- A configuration that starts has aliases that parse, and serves no empty route. -/
lemma wellFormed_of_serves {parts : Gateway σ} {cfg : Config} (h : parts.Serves cfg) :
    (∀ p ∈ cfg.modelAliases, IsTargetSpec p.2) ∧ ∀ p ∈ cfg.routes, p.2 ≠ [] := by
  obtain ⟨G, hstart, hall⟩ := h
  obtain ⟨router, hrouter, -, rfl⟩ := startGateway_eq_ok.mp hstart
  refine ⟨(returns_init_iff.mp ⟨router, hrouter⟩).2, fun p hp hempty => ?_⟩
  have hkey : p.1 ∈ cfg.routes.keys := List.mem_map_of_mem hp
  obtain ⟨targets, hresolve, hnonempty, -⟩ := hall p.1 (.inl hkey)
  obtain ⟨parsed, hparsed, hroute⟩ := resolve_route hrouter (cfg.get?_routes hp)
  rw [hempty] at hparsed
  obtain rfl := Except.ok.inj hparsed
  exact hnonempty (Except.ok.inj (hresolve.symm.trans hroute))

/-- Without problems, aliases that parse and routes that are not empty are enough. -/
lemma serves_of_wellFormed {parts : Gateway σ} {cfg : Config} {env : Str → Option Str}
    (hcatalog : ∀ name ∈ knownProviders, parts.providers.has name = true)
    (hdoctor : (cmdDoctor parts.py env cfg true).1 = 0)
    (haliases : ∀ p ∈ cfg.modelAliases, IsTargetSpec p.2) (hroutes : ∀ p ∈ cfg.routes, p.2 ≠ []) :
    parts.Serves cfg := by
  obtain ⟨-, hparse, hprod⟩ := (cmdDoctor_passes_iff env).mp hdoctor
  have hspecs : ∀ p ∈ cfg.routes, ∀ spec ∈ p.2, IsTargetSpec spec := by
    intro p hp spec hspec
    obtain ⟨t, ht, -⟩ := hparse p hp spec hspec
    exact (returns_parse_iff parts.py spec).mp ⟨t, ht⟩
  obtain ⟨router, hrouter⟩ := returns_init_iff.mpr ⟨hspecs, haliases⟩
  have hregistered : ∀ t ∈ router.routeTargets, parts.providers.has t.provider = true := by
    intro t ht
    obtain ⟨p, hp, spec, hspec, hspecParse⟩ := exists_spec_of_mem_routeTargets hrouter ht
    obtain ⟨t', ht', hknown⟩ := hparse p hp spec hspec
    obtain rfl := Except.ok.inj (hspecParse.symm.trans ht')
    exact hcatalog _ hknown
  refine ⟨_, startGateway_eq_ok.mpr ⟨router, hrouter, hregistered, rfl⟩, fun model hmodel => ?_⟩
  dsimp only
  cases hroute : cfg.routes.get? model with
  | some specs =>
    have hmem := OrderedDict.mem_of_get? hroute
    obtain ⟨targets, htargets, hresolve⟩ := resolve_route hrouter hroute
    refine ⟨targets, hresolve, ?_, fun hp t ht => ?_⟩
    · rintro rfl
      have hlength := (List.mapM_eq_ok htargets).length_eq
      exact hroutes _ hmem (List.length_eq_zero_iff.mp hlength)
    · obtain ⟨spec, hspec, hspecParse⟩ := (List.mem_mapM_iff htargets t).mp ht
      have hprice := (hprod hp).2.1 _ hmem spec hspec t hspecParse
      exact ensurePrice_of_priceExists hspecParse hprice _
  | none =>
    -- a name that is no route is an alias
    have halias : (cfg.modelAliases.get? model).isSome := by
      rw [OrderedDict.mem_keys_iff, OrderedDict.mem_keys_iff, hroute] at hmodel
      simpa using hmodel
    obtain ⟨spec, hspec⟩ := Option.isSome_iff_exists.mp halias
    obtain ⟨target, htarget, hresolve⟩ := resolve_alias hrouter hroute hspec
    refine ⟨[target], hresolve, List.cons_ne_nil _ _, fun hp t ht => ?_⟩
    obtain rfl := List.mem_singleton.mp ht
    have hprice := (hprod hp).2.2 _ (OrderedDict.mem_of_get? hspec) _ htarget
    exact ensurePrice_of_priceExists htarget hprice _

/-- **The checker is sound up to two oversights.** Let every provider of the catalog be registered.
A configuration that passes the strict check starts, and serves each of its names by a nonempty
chain of targets that under `prod` have prices, if and only if every alias is the text of a target
and no route is empty. -/
theorem doctor_sound_iff (parts : Gateway σ) (cfg : Config) (env : Str → Option Str)
    (hcatalog : ∀ name ∈ knownProviders, parts.providers.has name = true)
    (hdoctor : (cmdDoctor parts.py env cfg true).1 = 0) :
    parts.Serves cfg ↔
      (∀ p ∈ cfg.modelAliases, IsTargetSpec p.2) ∧ ∀ p ∈ cfg.routes, p.2 ≠ [] :=
  ⟨wellFormed_of_serves, fun h => serves_of_wellFormed hcatalog hdoctor h.1 h.2⟩

/-! ## Two configurations -/

/-- A gateway with a provider for every name of the catalog. -/
def catalogGateway : Gateway Scripted :=
  { scriptedGateway with providers := providerCatalog.map fun p => (p.1, scriptedProvider) }

/-- A `prod` configuration with one route and one alias. -/
def aliasConfig (spec : Str) : Config where
  routes := [("default", ["openai/gpt-4o"])]
  modelAliases := [("gpt", spec)]
  prices := [("gpt-4o", (5 / 2, 10))]
  profile := "prod"
  distinctRoutes := by decide
  distinctAliases := List.nodup_singleton _

/-- A configuration whose alias parses is served. -/
theorem doctor_sound_iff_parsedAlias :
    catalogGateway.Serves (aliasConfig "openai/gpt-4o") ↔
      (∀ p ∈ (aliasConfig "openai/gpt-4o").modelAliases, IsTargetSpec p.2) ∧
        ∀ p ∈ (aliasConfig "openai/gpt-4o").routes, p.2 ≠ [] :=
  doctor_sound_iff catalogGateway (aliasConfig "openai/gpt-4o") (fun _ => none) (by decide)
    (by decide)

/-- **A configuration that passes and does not start.** The alias has no slash: the checker skips
it, the router raises. -/
theorem bareAlias_passes_not_served :
    (∀ name ∈ knownProviders, catalogGateway.providers.has name = true) ∧
      (cmdDoctor catalogGateway.py (fun _ => none) (aliasConfig "gpt-4o") true).1 = 0 ∧
      startGateway (aliasConfig "gpt-4o") catalogGateway =
        .error ⟨.valueError, "bad target spec: 'gpt-4o' (want 'provider/model')", none⟩ ∧
      ¬ catalogGateway.Serves (aliasConfig "gpt-4o") := by
  have hstart : startGateway (aliasConfig "gpt-4o") catalogGateway =
      .error ⟨.valueError, "bad target spec: 'gpt-4o' (want 'provider/model')", none⟩ := by rfl
  refine ⟨by decide, by decide, hstart, ?_⟩
  rintro ⟨G, hG, -⟩
  rw [hstart] at hG
  cases hG

end AgentCtl
