import AgentCtl.Core.HostLaws
import AgentCtl.Core.InStep
import AgentCtl.Core.Scripted
import AgentCtl.Python.JsonChars

set_option relaxedAutoImplicit false
set_option autoImplicit false

/-!
# Failing open

A gateway with any cache at all, which may raise, next to the same gateway with caching off. A
lookup that fails is a miss and an assignment that fails is ignored, so that the two run in lockstep
up to the cache itself. What is not guarded is the key: it is the hash of a text that must be
encoded, and a lone surrogate in the request cannot be.

## Main definitions

* `AgentCtl.SideCache` — a cache next to the rest of the world.
* `AgentCtl.Gateway.withCache` — a gateway with such a cache, on or off.
* `AgentCtl.NormalizedRequest.Encodable` — no lone surrogates in what a key is made of.

## Main results

* `AgentCtl.Gateway.abreast_invokeKeyed_none` — the two gateways in lockstep after a miss.
* `AgentCtl.cache_failOpen_iff` — where the call without caching returns, the one with caching
  returns if and only if no key is made, or the request can be encoded.
-/

namespace AgentCtl

variable {σ γ : Type}

/-! ## A cache next to the rest of the world -/

/-- A cache with a state of its own: it sees the rest of the world and does not change it. It may
raise any `Exception`. -/
structure SideCache (σ γ : Type) where
  get : Str → σ → γ → Except Exc (Option NormalizedResponse) × γ
  set : Str → NormalizedResponse → ℤ → σ → γ → Except Exc Unit × γ
  get_raises : ∀ key s c e, (get key s c).1 = .error e → e.isException = true
  set_raises : ∀ key resp ttlS s c e, (set key resp ttlS s c).1 = .error e → e.isException = true

/-- The cache in its world. -/
def SideCache.toCache (c : SideCache σ γ) : Cache (σ × γ) where
  get key s := ((c.get key s.1 s.2).1, s.1, (c.get key s.1 s.2).2)
  set key resp ttlS s := ((c.set key resp ttlS s.1 s.2).1, s.1, (c.set key resp ttlS s.1 s.2).2)

/-- What acts on the rest of the world leaves the cache as it is. -/
def onRest {α : Type} (f : σ → α × σ) (s : σ × γ) : α × (σ × γ) := ((f s.1).1, (f s.1).2, s.2)

/-- A provider next to a cache. -/
def Provider.onRest (p : Provider σ) : Provider (σ × γ) where
  invoke target request timeout := AgentCtl.onRest (p.invoke target request timeout)
  stream := p.stream.map fun fn target request timeout =>
    AgentCtl.onRest (fn target request timeout)
  embed := p.embed.map fun fn target inputs timeout => AgentCtl.onRest (fn target inputs timeout)

/-- Clock, sleep and randomness next to a cache. -/
def Outside.onRest (o : Outside σ) : Outside (σ × γ) where
  monotonic := AgentCtl.onRest o.monotonic
  sleep d s := (o.sleep d s.1, s.2)
  uniform a b := AgentCtl.onRest (o.uniform a b)

/-- The gateway with a cache, and caching on or off. -/
def Gateway.withCache (G : Gateway σ) (c : SideCache σ γ) (enabled : Bool) : Gateway (σ × γ) where
  py := G.py
  outside := G.outside.onRest
  router := G.router
  providers := G.providers.map fun p => (p.1, p.2.onRest)
  costMeter := G.costMeter
  hasStore := G.hasStore
  cache := some c.toCache
  retry := G.retry
  cacheEnabled := enabled
  cacheTtlS := G.cacheTtlS
  cacheToolResponses := G.cacheToolResponses
  requestDeadlineS := G.requestDeadlineS

/-! ## In lockstep up to the cache -/

/-- Worlds that differ in their cache only. -/
def World.Beside (w w' : World (σ × γ)) : Prop :=
  ∃ c, w' = { w with outer := (w.outer.1, c) }

/-- What counts as alike: everything but the cache and the trace. The keys may differ, a call with
caching off has none. -/
abbrev besideCache (σ γ : Type) : Likeness (σ × γ) where
  exc := Eq
  world := World.Beside
  event _ _ := True
  text := Eq
  key _ _ := True

/-- Worlds that differ in their cache have the same breakers, budget and attempts. -/
lemma besideCache_lawful : (besideCache σ γ).Lawful where
  exc_refl _ := rfl
  text_refl _ := rfl
  key_refl _ := trivial
  event_refl _ := trivial
  cls he := he ▸ rfl
  msg he := he ▸ rfl
  retriable he := he ▸ rfl
  circuit := by
    rintro w _ ⟨c, rfl⟩
    rfl
  budget := by
    rintro w _ ⟨c, rfl⟩
    rfl
  withCircuit := by
    rintro w _ cb ⟨c, rfl⟩
    exact ⟨c, rfl⟩
  withBudget := by
    rintro w _ b ⟨c, rfl⟩
    exact ⟨c, rfl⟩
  reset := by
    rintro w _ ⟨c, rfl⟩
    exact ⟨c, rfl⟩
  attempt := by
    rintro w _ target outcome latency m _ rfl - ⟨c, rfl⟩
    exact ⟨c, rfl⟩
  lastError := by
    rintro w _ ⟨c, rfl⟩
    rfl

/-- Programs that run alike up to the cache and their traces. -/
abbrev Abreast {α : Type} (m m' : Call (σ × γ) α) : Prop := (besideCache σ γ).Run Eq m m'

/-- Acting on the rest of the world. -/
lemma abreast_onRest {α : Type} (f : σ → α × σ) :
    Abreast (γ := γ) (outsideDo (onRest f)) (outsideDo (onRest f)) := by
  refine .modifyGet fun w w' hw => ?_
  obtain ⟨c, rfl⟩ := hw
  exact ⟨rfl, c, rfl⟩

/-- Emitting an event on each side. -/
lemma abreast_emit (e e' : Event (σ × γ)) : Abreast (Prog.emit e) (Prog.emit e') := .emit trivial

/-- The attempts made so far. -/
lemma abreast_attempts : Abreast (σ := σ) (γ := γ) (Prog.gets World.attempts)
    (Prog.gets World.attempts) := by
  refine .gets fun w w' hw => ?_
  obtain ⟨c, rfl⟩ := hw
  rfl

namespace Gateway

variable (G : Gateway σ) (c : SideCache σ γ) (b b' : Bool)

/-- The gateway with caching on and off: one configuration, one clock. -/
lemma inStep_withCache :
    InStep (besideCache σ γ) (G.withCache c b) (G.withCache c b') where
  lawful := besideCache_lawful
  py := rfl
  router := rfl
  costMeter := rfl
  retry := rfl
  monotonic := abreast_onRest G.outside.monotonic
  uniform lo hi := abreast_onRest (G.outside.uniform lo hi)
  sleep d := by
    refine .bind (A := fun _ _ => True) (.gets fun _ _ _ => trivial) fun _ _ _ => ?_
    exact .bind_eq (abreast_emit _ _) fun _ => abreast_onRest fun s => ((), G.outside.sleep d s)

/-! ## Captures -/

/-- Both sides charge the same cost; the records differ in the key. -/
lemma abreast_record (request : NormalizedRequest) (started : ℚ) (cap : Captured)
    (key key' : Option Str) :
    Abreast ((G.withCache c b).record request started { cap with cacheKey := key })
      ((G.withCache c b').record request started { cap with cacheKey := key' }) := by
  refine .bind_eq (abreast_emit _ _) fun _ => ?_
  refine .bind_eq ((G.inStep_withCache c b b').latencySince started) fun latency => ?_
  refine .bind_eq (.modify fun w w' hw => ?_) fun _ => ?_
  · obtain ⟨d, rfl⟩ := hw
    exact ⟨d, rfl⟩
  · exact .ite (fun _ => abreast_emit _ _) fun _ => .pure rfl

/-- A cache is filled on one side, on both or on neither; what it raises is ignored. -/
lemma abreast_cacheSet (key key' : Option Str) (resp : NormalizedResponse) :
    Abreast ((G.withCache c b).cacheSet key resp) ((G.withCache c b').cacheSet key' resp) := by
  have hone : ∀ (b : Bool) (key : Option Str) (w : World (σ × γ)),
      ∃ d, ((G.withCache c b).cacheSet key resp).run w =
        (.ok (), { w with outer := (w.outer.1, d) }, []) := by
    intro b key w
    cases key with
    | none => exact ⟨w.outer.2, rfl⟩
    | some k => exact ⟨_, rfl⟩
  intro w w' hw
  obtain ⟨d₀, rfl⟩ := hw
  obtain ⟨d, hd⟩ := hone b key w
  obtain ⟨d', hd'⟩ := hone b' key' { w with outer := (w.outer.1, d₀) }
  unfold Prog.out Prog.final Prog.trace
  rw [hd, hd']
  exact ⟨.ok rfl, ⟨d', rfl⟩, .nil⟩

/-- Both sides capture alike, whatever the keys are. -/
lemma capturesInStep_withCache :
    CapturesInStep (besideCache σ γ) (G.withCache c b) (G.withCache c b') where
  recordError request started key key' errorType m m' resolved _ hm := by
    obtain rfl : m = m' := hm
    exact .bind_eq abreast_attempts fun attempts => G.abreast_record c b b' request started
      { modelResolved := resolved, attempts := attempts, errorType := some errorType,
        errorMessage := m } key key'
  recordAnswer request started key key' target resp idx _ :=
    .bind_eq abreast_attempts fun attempts => G.abreast_record c b b' request started
      { modelResolved := some target.name, attempts := attempts, resp := some resp,
        status := if idx = 0 then .success else .fallbackSuccess } key key'
  cacheSet resp _ := G.abreast_cacheSet c b b' _ _ resp

/-! ## The chat call -/

/-- The providers do not see the cache. -/
lemma providersInStep_withCache :
    ProvidersInStep (besideCache σ γ) (G.withCache c b) (G.withCache c b') := by
  intro name
  dsimp only [withCache]
  rw [OrderedDict.get?_mapValues]
  cases G.providers.get? name with
  | none => exact .none
  | some p =>
    refine .some fun target request slot => ?_
    refine .bind (abreast_onRest _) fun out out' hout => ?_
    obtain rfl := hout
    exact .bind_eq (abreast_emit _ _) fun _ => .pure (.refl (fun _ => rfl) _)

/-- **What comes after a miss** runs alike, with a key and without one. -/
lemma abreast_invokeKeyed_none (request : NormalizedRequest) (started : ℚ) (key : Option Str) :
    Abreast (do
        (G.withCache c b).checkBudget request started key
        let targets ← (G.withCache c b).resolveTargets request started key
        (G.withCache c b).walk request started key (G.deadlineFor started) 0 targets)
      ((G.withCache c b').invokeKeyed request started none) :=
  (G.inStep_withCache c b b').afterMiss (G.capturesInStep_withCache c b b')
    (G.providersInStep_withCache c b b') request started trivial _

/-- The part of a call before its key is computed: local validation. -/
def prologue {τ : Type} (G : Gateway τ) (request : NormalizedRequest) : Call τ ℚ := do
  Prog.modify fun w => { w with attempts := [] }
  let started ← G.monotonic
  G.checkRequest request started
  return started

/-- A call validates its request, computes its key and goes on. -/
lemma invoke_eq {τ : Type} (G : Gateway τ) (request : NormalizedRequest) :
    G.invoke request = G.prologue request >>= fun started =>
      Prog.ofExcept (G.cacheKeyFor request) >>= fun key => G.invokeKeyed request started key := by
  unfold invoke prologue
  rw [Prog.bind_bind]
  congr 1
  funext _
  rw [Prog.bind_bind]
  congr 1
  funext started
  rw [Prog.bind_bind]
  rfl

/-- Validation does not concern the cache. -/
lemma abreast_prologue (request : NormalizedRequest) :
    Abreast ((G.withCache c b).prologue request) ((G.withCache c b').prologue request) := by
  have h := G.inStep_withCache c b b'
  refine .bind_eq h.lawful.resetAttempts fun _ => .bind_eq h.monotonic fun started => ?_
  exact .bind_eq (h.checkRequest (G.capturesInStep_withCache c b b') request started)
    fun _ => .pure rfl

/-- With caching on, a call that would return without its key being looked up returns. -/
lemma returns_invokeKeyed {request : NormalizedRequest} {started : ℚ} {w w' : World (σ × γ)}
    (hw : w.Beside w') (key : Option Str)
    (h : (((G.withCache c false).invokeKeyed request started none).out w').Returns) :
    (((G.withCache c true).invokeKeyed request started key).out w).Returns := by
  have hget : ∃ cached d, ((G.withCache c true).cacheGet key).run w =
      (.ok cached, { w with outer := (w.outer.1, d) }, []) := by
    cases key with
    | none => exact ⟨none, w.outer.2, rfl⟩
    | some k =>
      have houtside : (outsideDo (c.toCache.get k)).run w = (.ok (c.get k w.outer.1 w.outer.2).1,
          { w with outer := (w.outer.1, (c.get k w.outer.1 w.outer.2).2) }, []) := rfl
      unfold cacheGet
      dsimp only [withCache]
      rw [Prog.run_bind_ok houtside]
      cases (c.get k w.outer.1 w.outer.2).1 with
      | ok cached => exact ⟨cached, _, rfl⟩
      | error e => exact ⟨none, _, rfl⟩
  obtain ⟨cached, d, hrun⟩ := hget
  unfold invokeKeyed Prog.out
  rw [Prog.run_bind_ok hrun]
  cases cached with
  | some resp =>
    obtain ⟨latency, s, hrecord⟩ := (G.withCache c true).run_record
      { w with outer := (w.outer.1, d) } request started
      { attempts := [], resp := some resp, status := .success, cacheHit := true, cacheKey := key }
    rw [Prog.run_bind_ok hrecord]
    exact ⟨resp, rfl⟩
  | none =>
    obtain ⟨d', rfl⟩ := hw
    have hmiss := (G.abreast_invokeKeyed_none c true false request started key
      { w with outer := (w.outer.1, d) } { w with outer := (w.outer.1, d') } ⟨d', rfl⟩).1
    exact hmiss.returns h

end Gateway

/-! ## Keys -/

/-- The strings that a key is made of, keys of objects included, can be encoded: they have no lone
surrogates. -/
def NormalizedRequest.Encodable (request : NormalizedRequest) : Prop :=
  ∀ ch ∈ (cachePayload request).chars, ch.isSurrogate = false

/-- A key is made of a request exactly if it can be encoded. -/
lemma makeKey_returns_iff (py : Runtime) (request : NormalizedRequest) :
    (makeKey py request).Returns ↔ request.Encodable := by
  have htext : List.any ((cachePayload request).sortKeys.dumps false) CodePoint.isSurrogate = true ↔
      ∃ ch ∈ (cachePayload request).chars, ch.isSurrogate = true := by
    rw [List.any_eq_true]
    constructor
    · rintro ⟨ch, hch, hsurrogate⟩
      refine ⟨ch, ?_, hsurrogate⟩
      rw [← Json.mem_chars_sortKeys]
      refine (Json.writtenFrom_dumps _ ch hch).2.resolve_left fun hprintable => ?_
      unfold Json.isPrintable at hprintable
      unfold CodePoint.isSurrogate at hsurrogate
      simp only [Bool.and_eq_true, decide_eq_true_eq] at hprintable hsurrogate
      omega
    · rintro ⟨ch, hch, hsurrogate⟩
      refine ⟨ch, Json.mem_dumps_of_mem_chars ?_ _ ((Json.mem_chars_sortKeys _).mpr hch),
        hsurrogate⟩
      unfold CodePoint.isSurrogate at hsurrogate
      simp only [Bool.and_eq_true, decide_eq_true_eq] at hsurrogate
      omega
  unfold makeKey NormalizedRequest.Encodable
  dsimp only
  split
  · next h =>
    obtain ⟨ch, hch, hsurrogate⟩ := htext.mp h
    refine iff_of_false (Except.not_returns_error _) fun hall => ?_
    rw [hall ch hch] at hsurrogate
    cases hsurrogate
  · next h =>
    refine iff_of_true (Except.returns_ok _) fun ch hch => ?_
    by_contra hne
    exact h (htext.mpr ⟨ch, hch, Bool.not_eq_false _ ▸ hne⟩)

/-- Responses to the request are cached: it has no tools, or those are cached too. -/
def Gateway.caches {τ : Type} (G : Gateway τ) (request : NormalizedRequest) : Bool :=
  !request.hasToolShape || G.cacheToolResponses

/-- The key with caching on: none where responses are not cached. -/
lemma cacheKeyFor_withCache (G : Gateway σ) (c : SideCache σ γ) (request : NormalizedRequest) :
    (G.withCache c true).cacheKeyFor request =
      if G.caches request = false then .ok none else some <$> makeKey G.py request := by
  have hcaches : (request.hasToolShape && !G.cacheToolResponses) = !G.caches request := by
    unfold Gateway.caches
    cases request.hasToolShape <;> cases G.cacheToolResponses <;> rfl
  unfold Gateway.cacheKeyFor
  change (if (request.hasToolShape && !G.cacheToolResponses) = true then .ok none
    else some <$> makeKey G.py request) = _
  rw [hcaches]
  simp

/-- **The cache and failing requests.** For every cache, which may raise: where a call returns with
caching off, it returns with caching on if and only if responses to the request are not cached, or
the request can be encoded. -/
theorem cache_failOpen_iff (G : Gateway σ) (c : SideCache σ γ) (request : NormalizedRequest)
    (w : World (σ × γ)) (h : (((G.withCache c false).invoke request).out w).Returns) :
    (((G.withCache c true).invoke request).out w).Returns ↔
      G.caches request = false ∨ request.Encodable := by
  rw [Gateway.invoke_eq] at h ⊢
  have hfront := (G.abreast_prologue c true false request w w ⟨w.outer.2, rfl⟩)
  unfold Prog.out at h ⊢
  unfold Prog.out Prog.final at hfront
  rcases hoff : ((G.withCache c false).prologue request).run w with ⟨_ | started, w', es⟩
  · rw [Prog.run_bind_error hoff] at h
    exact absurd h (Except.not_returns_error _)
  rcases hon : ((G.withCache c true).prologue request).run w with ⟨x, w₁, es₁⟩
  rw [hoff, hon] at hfront
  obtain ⟨hout, hbeside, -⟩ := hfront
  obtain rfl : x = .ok started := by
    cases hout with
    | ok heq => rw [heq]
  rw [Prog.run_bind_ok hoff] at h
  rw [Prog.run_bind_ok hon, cacheKeyFor_withCache]
  have hreturns : ∀ key, (((G.withCache c true).invokeKeyed request started key).out w₁).Returns :=
    fun key => G.returns_invokeKeyed c hbeside key h
  by_cases hcaches : G.caches request = false
  · rw [if_pos hcaches]
    exact iff_of_true (hreturns none) (.inl hcaches)
  · rw [if_neg hcaches, ← makeKey_returns_iff G.py]
    cases makeKey G.py request with
    | ok key => exact iff_of_true (hreturns (some key)) (.inr (Except.returns_ok key))
    | error e =>
      refine iff_of_false (Except.not_returns_error e) ?_
      rintro (hnot | herror)
      · exact hcaches hnot
      · exact Except.not_returns_error e herror

/-- A cache that always raises. -/
def brokenCache : SideCache Scripted Unit where
  get _ _ s := (.error ⟨.other "ConnectionError", "connection refused", none⟩, s)
  set _ _ _ _ s := (.error ⟨.other "ConnectionError", "connection refused", none⟩, s)
  get_raises _ _ _ _ h := by cases h; rfl
  set_raises _ _ _ _ _ _ h := by cases h; rfl

/-- A provider that answers after a second, next to a cache. -/
def answering : World (Scripted × Unit) :=
  { outer := ({ now := 1, outcomes := [(1, .ok { text := "hello" })] }, ()) }

/-- A request with a lone surrogate in its content. -/
def surrogateRequest : NormalizedRequest :=
  { model := "m", messages := [[("role", .str "user"), ("content", .str [0xD800])]] }

/-- With a cache that always raises a request that can be encoded is answered. -/
theorem cache_failOpen_iff_broken :
    (((scriptedGateway.withCache brokenCache true).invoke plainRequest).out answering).Returns ↔
      scriptedGateway.caches plainRequest = false ∨ plainRequest.Encodable :=
  cache_failOpen_iff scriptedGateway brokenCache plainRequest answering
    ⟨{ text := "hello" }, rfl⟩

/-- **A cache that does not fail open.** With caching off the request is answered; with caching on
the call raises before any provider is asked. -/
theorem surrogate_not_cached :
    (((scriptedGateway.withCache brokenCache false).invoke surrogateRequest).out
      answering).Returns ∧
    ¬ (((scriptedGateway.withCache brokenCache true).invoke surrogateRequest).out
      answering).Returns := by
  refine ⟨⟨{ text := "hello" }, rfl⟩, ?_⟩
  have hraises : ((scriptedGateway.withCache brokenCache true).invoke surrogateRequest).out
      answering = .error
        ⟨.unicodeEncodeError, "'utf-8' codec can't encode: surrogates not allowed", none⟩ := rfl
  rw [hraises]
  exact Except.not_returns_error _

end AgentCtl
