import AgentCtl.Core.InvokeRuns
import AgentCtl.Core.MemoryCache
import AgentCtl.Core.RunnerFrames
import AgentCtl.Core.Scripted
import AgentCtl.Python.JsonInjective

set_option relaxedAutoImplicit false
set_option autoImplicit false

/-!
# Runs with a cache

What a call takes from the cache was stored by an earlier call of the run, for a request with the
same payload. Within one call only the lookup and the assignment touch the cache; over a run every
entry of the cache is traced back to the call that stored it, and the key to the payload it is the
hash of.

## Main definitions

* `NormalizedRequest.SamePayload` — requests that are equal up to the order of object keys.
* `AgentCtl.CacheKept`, `AgentCtl.CallDone` — what a part of a call, and a whole call, do to the
  cache.
* `AgentCtl.Stores` — a call that stores a response a provider gave in it.

## Main results

* `AgentCtl.cache_sound` — what is served from the cache.
-/

namespace AgentCtl

/-! ## Requests with the same key -/

/-- Requests that are equal in what decides about the response, up to the order of object keys. -/
structure NormalizedRequest.SamePayload (r r' : NormalizedRequest) : Prop where
  model : r.model = r'.model
  messages : List.Forall₂ (fun d e => Json.Same (.obj d) (.obj e)) r.messages r'.messages
  maxTokens : r.maxTokens = r'.maxTokens
  temperature : r.temperature = r'.temperature
  tools : Option.Rel (List.Forall₂ Json.Same) r.tools r'.tools
  system : r.system = r'.system
  toolChoice : Option.Rel (fun c c' => Json.Same c.toJson c'.toJson) r.toolChoice r'.toolChoice

/-- Optional values that are equal as JSON, where no value is the JSON of none. -/
lemma rel_of_same_optionJson {α : Type} {f : α → Json} {S : α → α → Prop} (hf : ∀ a, f a ≠ .null)
    (hS : ∀ a b, Json.Same (f a) (f b) → S a b) {x y : Option α}
    (h : Json.Same (optionJson (x.map f)) (optionJson (y.map f))) : Option.Rel S x y := by
  have hnull : ∀ {v : Json}, (Json.Same v .null ∨ Json.Same .null v) → v = .null := by
    rintro v (h | h) <;> cases h <;> rfl
  cases x with
  | none =>
    cases y with
    | none => exact .none
    | some b => exact absurd (hnull (.inr h)) (hf b)
  | some a =>
    cases y with
    | none => exact absurd (hnull (.inl h)) (hf a)
    | some b => exact .some (hS a b h)

/-- Optional values that are equal, if they are there. -/
lemma eq_of_rel_eq {α : Type} {x y : Option α} (h : Option.Rel Eq x y) : x = y := by
  cases h with
  | none => rfl
  | some h => rw [h]

/-- Payloads that are equal up to the order of keys are those of equal requests. -/
lemma samePayload_of_same {r r' : NormalizedRequest}
    (h : Json.Same (cachePayload r) (cachePayload r')) : r.SamePayload r' := by
  cases h with
  | obj h =>
    have hmodel : Option.Rel Json.Same (some (.str r.model)) (some (.str r'.model)) := h "model"
    have hmessages : Option.Rel Json.Same (some (.arr (r.messages.map .obj)))
        (some (.arr (r'.messages.map .obj))) := h "messages"
    have hmax : Option.Rel Json.Same (some (.int r.maxTokens)) (some (.int r'.maxTokens)) :=
      h "max_tokens"
    have htemperature : Option.Rel Json.Same (some (optionJson (r.temperature.map .float)))
        (some (optionJson (r'.temperature.map .float))) := h "temperature"
    have htools : Option.Rel Json.Same (some (optionJson (r.tools.map .arr)))
        (some (optionJson (r'.tools.map .arr))) := h "tools"
    have hsystem : Option.Rel Json.Same (some (optionJson (r.system.map .str)))
        (some (optionJson (r'.system.map .str))) := h "system"
    have hchoice : Option.Rel Json.Same (some (optionJson (r.toolChoice.map ToolChoice.toJson)))
        (some (optionJson (r'.toolChoice.map ToolChoice.toJson))) := h "tool_choice"
    rw [Option.rel_some_some] at hmodel hmessages hmax htemperature htools hsystem hchoice
    refine ⟨hmodel.str_inj, ?_, hmax.int_inj, ?_, ?_, ?_, ?_⟩
    · exact List.forall₂_map_left_iff.mp (List.forall₂_map_right_iff.mp hmessages.items)
    · exact eq_of_rel_eq (rel_of_same_optionJson (by simp) (fun _ _ h => h.float_inj) htemperature)
    · exact rel_of_same_optionJson (by simp) (fun _ _ h => h.items) htools
    · exact eq_of_rel_eq (rel_of_same_optionJson (by simp) (fun _ _ h => h.str_inj) hsystem)
    · refine rel_of_same_optionJson ?_ (fun _ _ h => h) hchoice
      rintro (d | s) <;> simp [ToolChoice.toJson]

/-- The text that `make_key` hashes. -/
def payloadText (request : NormalizedRequest) : Str := (cachePayload request).sortKeys.dumps false

/-- **Keys.** Requests with the same key have the same payload, where the hash does not collide on
their texts. -/
lemma samePayload_of_makeKey {py : Runtime} {r r' : NormalizedRequest} {k : Str}
    (hsha : py.sha256 (payloadText r) = py.sha256 (payloadText r') → payloadText r = payloadText r')
    (h : makeKey py r = .ok k) (h' : makeKey py r' = .ok k) : r.SamePayload r' := by
  have hkey : ∀ {q : NormalizedRequest}, makeKey py q = .ok k → py.sha256 (payloadText q) = k := by
    intro q hq
    unfold makeKey at hq
    dsimp only at hq
    split at hq
    · cases hq
    · exact Except.ok.inj hq
  exact samePayload_of_same (Json.same_of_dumps_sortKeys (hsha ((hkey h).trans (hkey h').symm)))

/-- A request that is cached has a key, and no tools unless those are cached too. -/
lemma Gateway.makeKey_of_cacheKeyFor {σ : Type} {G : Gateway σ} {request : NormalizedRequest}
    {k : Str} (h : G.cacheKeyFor request = .ok (some k)) :
    makeKey G.py request = .ok k ∧ (request.hasToolShape && !G.cacheToolResponses) = false := by
  unfold Gateway.cacheKeyFor at h
  split at h
  · cases h
  split at h
  · cases h
  · next htools =>
    refine ⟨?_, by simpa using htools⟩
    cases hk : makeKey G.py request with
    | error e =>
      rw [hk] at h
      cases h
    | ok k' =>
      rw [hk] at h
      cases h
      rfl

/-! ## One call -/

open Prog Gateway

variable {τ : Type}

/-- The cache and its notes are as they were. -/
def CacheKept (w w' : World (Cached τ)) (_ : List (Event (Cached τ))) : Prop :=
  w'.outer.cache = w.outer.cache ∧ w'.outer.notes = w.outer.notes

/-- The steps of a call leave the cache as it is. -/
lemma covers_cacheKept (G : Gateway τ) : Covers G.withMemoryCache CacheKept fun _ => True where
  frame := ⟨fun _ => ⟨rfl, rfl⟩, fun h h' => ⟨h'.1.trans h.1, h'.2.trans h.2⟩⟩
  own w w' h := by
    show w'.outer.cache = w.outer.cache ∧ w'.outer.notes = w.outer.notes
    rw [h]
    exact ⟨rfl, rfl⟩
  monotonic _ := ⟨rfl, rfl⟩
  uniform _ _ _ := ⟨rfl, rfl⟩
  sleep _ _ := ⟨rfl, rfl⟩
  report _ _ _ := ⟨rfl, rfl⟩
  call h _ _ _ _ _ := by
    obtain ⟨p, -, rfl⟩ := G.get?_withMemoryCache h
    exact ⟨rfl, rfl⟩
  streamCall h hfn _ _ _ _ _ := by
    obtain ⟨p, -, rfl⟩ := G.get?_withMemoryCache h
    obtain ⟨fn, -, rfl⟩ := Option.map_eq_some_iff.mp hfn
    exact ⟨rfl, rfl⟩
  embedCall h hfn _ _ _ _ _ := by
    obtain ⟨p, -, rfl⟩ := G.get?_withMemoryCache h
    obtain ⟨fn, -, rfl⟩ := Option.map_eq_some_iff.mp hfn
    exact ⟨rfl, rfl⟩
  record _ _ _ := ⟨rfl, rfl⟩
  save _ _ _ _ _ := ⟨rfl, rfl⟩
  recordEmbed _ _ _ := ⟨rfl, rfl⟩
  saveEmbed _ _ _ _ _ _ := ⟨rfl, rfl⟩

/-- What a walk does to the cache: nothing, or it stores its answer under the key of the call. -/
def StoresAnswer (G : Gateway τ) (key : Option Str) (w : World (Cached τ))
    (r : Except Exc NormalizedResponse) (w' : World (Cached τ)) (es : List (Event (Cached τ))) :
    Prop :=
  CacheKept w w' es ∨ ∃ k now resp, key = some k ∧ r = .ok resp ∧
    w'.outer.cache = w.outer.cache.set k resp now G.cacheTtlS ∧
    w'.outer.notes = w.outer.notes ++ [.stored k now resp]

namespace StoresAnswer

variable {G : Gateway τ} {key : Option Str} {w : World (Cached τ)}

/-- A part of the walk that leaves the cache as it is. -/
lemma of_keeps {m : Call (Cached τ) NormalizedResponse} (h : Keeps CacheKept m) :
    Sat m w (StoresAnswer G key w) := .inl (h w)

/-- A part of the walk that leaves the cache as it is, and the rest. -/
lemma bind {α : Type} {m : Call (Cached τ) α} {f : α → Call (Cached τ) NormalizedResponse}
    (hm : Keeps CacheKept m) (hf : ∀ a w₁, Sat (f a) w₁ (StoresAnswer G key w₁)) :
    Sat (m >>= f) w (StoresAnswer G key w) := by
  refine Sat.bind (Q := fun _ s es => CacheKept w s es) (hm w) ?_ fun _ _ _ h => .inl h
  rintro a w₁ es ⟨hcache, hnotes⟩
  refine (hf a w₁).imp fun r w' es' h => ?_
  rcases h with ⟨hcache', hnotes'⟩ | ⟨k, now, resp, hkey, hr, hcache', hnotes'⟩
  · exact .inl ⟨hcache'.trans hcache, hnotes'.trans hnotes⟩
  · refine .inr ⟨k, now, resp, hkey, hr, ?_, ?_⟩
    · rw [hcache', hcache]
    · rw [hnotes', hnotes]

/-- Storing an answer, and what follows it. -/
lemma answer (request : NormalizedRequest) (started : ℚ) (t : Target) (resp : NormalizedResponse)
    (idx : ℕ) :
    Sat (do
      reportSuccess t.provider
      G.withMemoryCache.cacheSet key resp
      G.withMemoryCache.recordAnswer request started key t resp idx
      return resp : Call (Cached τ) NormalizedResponse) w (StoresAnswer G key w) := by
  have hR := (covers_cacheKept G).steps
  refine bind (hR.keeps_reportSuccess _) fun _ w₁ => ?_
  have hrest : Keeps CacheKept (G.withMemoryCache.recordAnswer request started key t resp idx) :=
    hR.keeps_recordAnswer request started key trivial resp idx
  cases key with
  | none => exact of_keeps (hR.bind (hR.pure ()) fun _ => hR.bind hrest fun _ => hR.pure _)
  | some k =>
    have hset : (G.withMemoryCache.cacheSet (some k) resp).run w₁ = (.ok (),
        { w₁ with outer := (Cached.set G.outside k resp G.cacheTtlS w₁.outer).2 }, []) := rfl
    refine .bind_run hset ?_
    obtain ⟨cost, latency, s, hrecord⟩ := G.withMemoryCache.run_recordAnswer
      { w₁ with outer := (Cached.set G.outside k resp G.cacheTtlS w₁.outer).2 } request started
      (some k) t resp idx
    have hkept := hrest { w₁ with outer := (Cached.set G.outside k resp G.cacheTtlS w₁.outer).2 }
    unfold Prog.final Prog.trace at hkept
    rw [hrecord] at hkept
    obtain ⟨hcache, hnotes⟩ := hkept
    refine .bind_run hrecord (.of_run (run_pure _ _) (.inr ?_))
    exact ⟨k, (G.outside.monotonic w₁.outer.inner).1, resp, rfl, rfl, hcache, hnotes⟩

/-- The loop over the targets, by induction on the targets to come. -/
lemma walk (request : NormalizedRequest) (started : ℚ) (deadline : Option ℚ)
    (targets : List Target) (idx : ℕ) :
    Sat (G.withMemoryCache.walk request started key deadline idx targets) w
      (StoresAnswer G key w) := by
  have hR := (covers_cacheKept G).steps
  induction targets generalizing idx w with
  | nil => exact of_keeps (hR.keeps_allFailed request started key)
  | cons t rest ih =>
    rw [Gateway.walk]
    refine bind (hR.keeps_deadlineExceeded t deadline) fun passed w₁ => ?_
    split
    · exact of_keeps (hR.keeps_allFailed request started key)
    split
    · exact of_keeps (hR.keeps_recordError_raise _ _ _ _ _ _ _)
    next provider hp =>
    split
    · exact of_keeps (hR.keeps_recordError_raise _ _ _ _ _ _ _)
    refine bind (hR.keeps_circuitBlocked t) fun blocked w₂ => ?_
    split
    · exact ih (idx + 1)
    refine bind (.attempt (hR.keeps_invokeTargetFrom hp trivial request deadline _ _ _))
      fun out w₃ => ?_
    cases out with
    | ok resp => exact answer request started t resp idx
    | error e =>
      dsimp only
      split
      · exact bind (hR.keeps_reportFailure _) fun _ _ =>
          of_keeps (hR.keeps_recordError_raise _ _ _ _ _ _ _)
      split
      · exact ih (idx + 1)
      split
      · exact bind (hR.keeps_reportFailure _) fun _ _ => ih (idx + 1)
      · exact of_keeps (hR.raise e)

end StoresAnswer

/-- No notes were made, and no entries were added. -/
def CacheShrunk (w w' : World (Cached τ)) : Prop :=
  w'.outer.notes = w.outer.notes ∧ ∀ p ∈ w'.outer.cache.data, p ∈ w.outer.cache.data

/-- A cache that is kept gets no entries. -/
lemma CacheKept.shrunk {w w' : World (Cached τ)} {es : List (Event (Cached τ))}
    (h : CacheKept w w' es) : CacheShrunk w w' := by
  refine ⟨h.2, fun p hp => ?_⟩
  rw [← h.1]
  exact hp

/-- What a call does to the cache: it is served from an entry that has not expired, or it stores the
response that a provider gives in it, or it adds nothing and returns what a provider gives in it. -/
inductive CallDone (G : Gateway τ) (request : NormalizedRequest) (w : World (Cached τ))
    (r : Except Exc NormalizedResponse) (w' : World (Cached τ)) (es : List (Event (Cached τ))) :
    Prop
  | served {k : Str} {now expiresAt : ℚ} {resp : NormalizedResponse}
      (hkey : G.withMemoryCache.cacheKeyFor request = .ok (some k))
      (hentry : (k, expiresAt, resp) ∈ w.outer.cache.data) (hlive : now ≤ expiresAt)
      (hout : r = .ok resp) (hnotes : w'.outer.notes = w.outer.notes ++ [.hit k now resp])
      (hcache : ∀ p ∈ w'.outer.cache.data, p ∈ w.outer.cache.data) : CallDone G request w r w' es
  | stored {k : Str} {now : ℚ} {resp : NormalizedResponse}
      (hkey : G.withMemoryCache.cacheKeyFor request = .ok (some k))
      (hout : r = .ok resp) (hcall : ∃ c ∈ callsOf es, c.out = .ok resp)
      (hnotes : w'.outer.notes = w.outer.notes ++ [.stored k now resp])
      (hcache : ∀ p ∈ w'.outer.cache.data,
        p = (k, now + G.cacheTtlS, resp) ∨ p ∈ w.outer.cache.data) : CallDone G request w r w' es
  | passed (hout : ∀ resp, r = .ok resp → ∃ c ∈ callsOf es, c.out = .ok resp)
      (hcache : CacheShrunk w w') : CallDone G request w r w' es

namespace CallDone

variable {G : Gateway τ} {request : NormalizedRequest} {w w₁ w' : World (Cached τ)}

/-- A call that goes on after a part that adds nothing to the cache. -/
lemma after {r : Except Exc NormalizedResponse} {es es' : List (Event (Cached τ))}
    (hw : CacheShrunk w w₁) (h : CallDone G request w₁ r w' es) :
    CallDone G request w r w' (es' ++ es) := by
  have hcalls : ∀ resp, (∃ c ∈ callsOf es, c.out = .ok resp) →
      ∃ c ∈ callsOf (es' ++ es), c.out = .ok resp := by
    rintro resp ⟨c, hc, hresp⟩
    refine ⟨c, ?_, hresp⟩
    rw [callsOf_append]
    exact List.mem_append_right _ hc
  obtain ⟨hnotes, hcache⟩ := hw
  cases h with
  | served hkey hentry hlive hout hnotes' hcache' =>
    exact .served hkey (hcache _ hentry) hlive hout (by rw [hnotes', hnotes])
      fun p hp => hcache p (hcache' p hp)
  | stored hkey hout hcall hnotes' hcache' =>
    exact .stored hkey hout (hcalls _ hcall) (by rw [hnotes', hnotes])
      fun p hp => (hcache' p hp).imp id (hcache p)
  | passed hout hcache' =>
    exact .passed (fun resp hr => hcalls resp (hout resp hr))
      ⟨hcache'.1.trans hnotes, fun p hp => hcache p (hcache'.2 p hp)⟩

/-- A part of a call that leaves the cache as it is, and the rest. -/
lemma bind {α : Type} {m : Call (Cached τ) α} {f : α → Call (Cached τ) NormalizedResponse}
    (hm : Keeps CacheKept m) (hf : ∀ a w₁, Sat (f a) w₁ (CallDone G request w₁)) :
    Sat (m >>= f) w (CallDone G request w) := by
  refine Sat.bind (Q := fun _ s es => CacheKept w s es) (hm w) ?_ ?_
  · exact fun a w₁ _ h => (hf a w₁).imp fun r w' es' => after h.shrunk
  · exact fun e w₁ es h => .passed (fun _ hr => by cases hr) h.shrunk

/-- A call that misses the cache. -/
lemma missed {key : Option Str} (hkey : G.withMemoryCache.cacheKeyFor request = .ok key)
    (started : ℚ) :
    Sat (do
      G.withMemoryCache.checkBudget request started key
      let targets ← G.withMemoryCache.resolveTargets request started key
      G.withMemoryCache.walk request started key (G.withMemoryCache.deadlineFor started) 0 targets)
      w (CallDone G request w) := by
  have hR := (covers_cacheKept G).steps
  refine bind (hR.keeps_checkBudget request started key) fun _ w₁ => ?_
  have hroute : Keeps CacheKept (G.withMemoryCache.resolveTargets request started key) := by
    unfold resolveTargets
    split
    · exact hR.pure _
    · exact hR.keeps_recordError_raise _ _ _ _ _ _ _
  refine bind hroute fun targets w₂ => ?_
  have hwalk : Sat (G.withMemoryCache.walk request started key
      (G.withMemoryCache.deadlineFor started) 0 targets) w₂ (fun r w' es =>
        StoresAnswer G key w₂ r w' es ∧ G.withMemoryCache.WalkDone request key
          (G.withMemoryCache.deadlineFor started) 0 targets w₂ r w' es) :=
    ⟨StoresAnswer.walk request started _ targets 0,
      G.withMemoryCache.walk_spec request key _ _ _ _ _⟩
  refine hwalk.imp fun r w' _ ⟨hstores, hdone⟩ => ?_
  rcases hstores with hkept | ⟨k, now, resp, rfl, hr, hcache, hnotes⟩
  · exact .passed (fun resp hr => (hdone.out_iff resp).mp hr) hkept.shrunk
  · refine .stored hkey hr ((hdone.out_iff resp).mp hr) hnotes fun p hp => ?_
    rw [hcache] at hp
    exact MemoryCache.mem_of_mem_set _ _ hp

/-- The lookup of a call. -/
lemma cacheGet_spec (key : Option Str) :
    Sat (G.withMemoryCache.cacheGet key) w fun r w' _ =>
      r = .ok none ∧ CacheShrunk w w' ∨ ∃ k now expiresAt resp, key = some k ∧
        r = .ok (some resp) ∧ (k, expiresAt, resp) ∈ w.outer.cache.data ∧ now ≤ expiresAt ∧
        w'.outer.notes = w.outer.notes ++ [.hit k now resp] ∧
        ∀ p ∈ w'.outer.cache.data, p ∈ w.outer.cache.data := by
  cases key with
  | none => exact .inl ⟨rfl, rfl, fun _ hp => hp⟩
  | some k =>
    have hread : (outsideDo (Cached.get G.outside k) : Call (Cached τ) _).run w =
        (.ok (Cached.get G.outside k w.outer).1,
          { w with outer := (Cached.get G.outside k w.outer).2 }, []) := rfl
    obtain ⟨found, s, hget, hsub, hfound⟩ := Cached.get_spec G.outside k w.outer
    rw [hget] at hread
    refine .bind_run hread ?_
    cases found with
    | none => exact .inl ⟨rfl, hfound, hsub⟩
    | some resp =>
      obtain ⟨now, expiresAt, hentry, hlive, hnotes⟩ := hfound
      exact .inr ⟨k, now, expiresAt, resp, rfl, rfl, hentry, hlive, hnotes, hsub⟩

/-- **One call.** -/
lemma invoke : Sat (G.withMemoryCache.invoke request) w (CallDone G request w) := by
  have hR := (covers_cacheKept G).steps
  refine bind (hR.modify (fun _ => rfl) fun _ => rfl) fun _ w₁ => ?_
  refine bind hR.keeps_monotonic fun started w₂ => ?_
  refine bind (hR.keeps_checkRequest request started) fun _ w₃ => ?_
  cases hkey : G.withMemoryCache.cacheKeyFor request with
  | error e => exact .of_run (run_bind_error (run_ofExcept _ _)) (.passed (fun _ hr => by cases hr)
      ⟨rfl, fun _ hp => hp⟩)
  | ok key =>
    refine .bind_run (run_ofExcept _ _) ?_
    refine (Sat.bind (cacheGet_spec key) ?_ ?_)
    · rintro cached w₄ es (⟨hcached, hshrunk⟩ | ⟨k, now, expiresAt, resp, rfl, hcached, hentry,
        hlive, hnotes, hsub⟩)
      · obtain rfl := Except.ok.inj hcached
        exact (missed hkey started).imp fun r w' es' => after hshrunk
      · obtain rfl := Except.ok.inj hcached
        let c : Captured := { attempts := [], resp := some resp, status := .success,
                              cacheHit := true, cacheKey := some k }
        obtain ⟨latency, s, hrecord⟩ := G.withMemoryCache.run_record w₄ request started c
        have hkept := hR.keeps_record request started (c := c) (by rintro - ⟨⟩) w₄
        unfold Prog.final Prog.trace at hkept
        rw [hrecord] at hkept
        obtain ⟨hcache', hnotes'⟩ := hkept
        refine .bind_run hrecord (.of_run (run_pure _ _) ?_)
        refine .served hkey hentry hlive rfl (hnotes'.trans hnotes) fun p hp => ?_
        rw [hcache'] at hp
        exact hsub p hp
    · rintro e w₄ es (⟨he, -⟩ | ⟨k, now, expiresAt, resp, -, he, -⟩)
      · cases he
      · cases he

end CallDone

/-! ## Runs -/

/-- A provider gave the response in the call. -/
def Invocation.Gave (inv : Invocation τ) (resp : NormalizedResponse) : Prop :=
  ∃ c ∈ callsOf inv.events, c.out = .ok resp

/-- The call stored a response at a time: a provider gave it in the call. -/
structure Stores (G : Gateway τ) (src : Invocation τ) (k : Str) (t : ℚ)
    (resp : NormalizedResponse) : Prop where
  note : .stored k t resp ∈ src.notes
  key : G.withMemoryCache.cacheKeyFor src.request = .ok (some k)
  gave : src.Gave resp

/-- Every entry of a cache was stored by one of the calls, and expires after the time to live. -/
def Traced (G : Gateway τ) (calls : List (Invocation τ)) (c : MemoryCache) : Prop :=
  ∀ k expiresAt resp, (k, expiresAt, resp) ∈ c.data →
    ∃ src ∈ calls, ∃ t, Stores G src k t resp ∧ expiresAt = t + G.cacheTtlS

/-- A call in its place in a run: what it takes from the cache was stored by a call before it, what
else it returns a provider gave, and it notes nothing without a key. -/
structure InPlace (G : Gateway τ) (before : List (Invocation τ)) (inv : Invocation τ) : Prop where
  hit : ∀ k t resp, .hit k t resp ∈ inv.notes → inv.out = .ok resp ∧
    G.withMemoryCache.cacheKeyFor inv.request = .ok (some k) ∧
    ∃ src ∈ before, ∃ t', Stores G src k t' resp ∧ t ≤ t' + G.cacheTtlS
  gave : ∀ resp, inv.out = .ok resp → inv.Gave resp ∨ ∃ k t, .hit k t resp ∈ inv.notes
  keyed : inv.notes ≠ [] → ∃ k, G.withMemoryCache.cacheKeyFor inv.request = .ok (some k)

variable {G : Gateway τ}

/-- Entries stay traced as the run goes on. -/
lemma Traced.mono {calls calls' : List (Invocation τ)} {c c' : MemoryCache} (h : Traced G calls c)
    (hcalls : calls ⊆ calls') (hc : ∀ p ∈ c'.data, p ∈ c.data) : Traced G calls' c' := by
  intro k expiresAt resp hentry
  obtain ⟨src, hsrc, t, hstores, htime⟩ := h k expiresAt resp (hc _ hentry)
  exact ⟨src, hcalls hsrc, t, hstores, htime⟩

/-- **One call of a run.** It is in its place, and the entries of the cache stay traced. -/
lemma inPlace_invocation {calls : List (Invocation τ)} {w : World (Cached τ)}
    (h : Traced G calls w.outer.cache) (request : NormalizedRequest) :
    InPlace G calls (G.invocation w request) ∧
      Traced G (calls ++ [G.invocation w request])
        ((G.withMemoryCache.invoke request).final w.unnoted).outer.cache := by
  have hdone : CallDone G request w.unnoted (G.invocation w request).out
      ((G.withMemoryCache.invoke request).final w.unnoted) (G.invocation w request).events :=
    CallDone.invoke
  have hsub : calls ⊆ calls ++ [G.invocation w request] := List.subset_append_left _ _
  cases hdone with
  | @served k now expiresAt resp hkey hentry hlive hout hnotes hcache =>
    have hnotes' : (G.invocation w request).notes = [.hit k now resp] := hnotes
    refine ⟨⟨?_, ?_, fun _ => ⟨k, hkey⟩⟩, h.mono hsub hcache⟩
    · intro k' t resp' hhit
      rw [hnotes'] at hhit
      obtain ⟨rfl, rfl, rfl⟩ := CacheNote.hit.inj (List.mem_singleton.mp hhit)
      obtain ⟨src, hsrc, t', hstores, htime⟩ := h _ _ _ hentry
      exact ⟨hout, hkey, src, hsrc, t', hstores, htime ▸ hlive⟩
    · intro resp' hresp'
      rw [hout] at hresp'
      obtain rfl := Except.ok.inj hresp'
      refine .inr ⟨k, now, ?_⟩
      rw [hnotes']
      exact List.mem_singleton_self _
  | @stored k now resp hkey hout hcall hnotes hcache =>
    have hnotes' : (G.invocation w request).notes = [.stored k now resp] := hnotes
    refine ⟨⟨?_, ?_, fun _ => ⟨k, hkey⟩⟩, ?_⟩
    · intro k' t resp' hhit
      rw [hnotes'] at hhit
      cases List.mem_singleton.mp hhit
    · intro resp' hresp'
      rw [hout] at hresp'
      obtain rfl := Except.ok.inj hresp'
      exact .inl hcall
    · intro k' expiresAt resp' hentry
      rcases hcache _ hentry with hnew | hold
      · obtain ⟨rfl, hrest⟩ := Prod.mk.inj hnew
        obtain ⟨rfl, rfl⟩ := Prod.mk.inj hrest
        refine ⟨_, List.mem_append_right _ (List.mem_singleton_self _), now, ⟨?_, hkey, hcall⟩, rfl⟩
        rw [hnotes']
        exact List.mem_singleton_self _
      · have hkept : Traced G (calls ++ [G.invocation w request]) w.outer.cache :=
          h.mono hsub fun _ hp => hp
        exact hkept k' expiresAt resp' hold
  | passed hout hcache =>
    have hnotes' : (G.invocation w request).notes = [] := hcache.1
    refine ⟨⟨?_, fun resp hresp => .inl (hout resp hresp), fun hne => absurd hnotes' hne⟩,
      h.mono hsub hcache.2⟩
    intro k t resp hhit
    rw [hnotes'] at hhit
    cases hhit

/-- **Runs.** Every call of a run is in its place, by induction on the requests. -/
lemma inPlace_invocations {requests : List NormalizedRequest}
    {calls before after : List (Invocation τ)}
    {w : World (Cached τ)} {inv : Invocation τ} (hw : Traced G calls w.outer.cache)
    (h : G.invocations w requests = before ++ inv :: after) : InPlace G (calls ++ before) inv := by
  induction requests generalizing w calls before with
  | nil => cases before <;> cases h
  | cons request requests ih =>
    obtain ⟨hplace, htraced⟩ := inPlace_invocation hw request
    cases before with
    | nil =>
      obtain ⟨rfl, -⟩ := List.cons.inj h
      rw [List.append_nil]
      exact hplace
    | cons first before =>
      obtain ⟨rfl, hrest⟩ := List.cons.inj h
      have hnext := ih htraced hrest
      rw [List.append_assoc] at hnext
      exact hnext

/-- The calls of a run are those of its requests. -/
lemma map_request_invocations (w : World (Cached τ)) (requests : List NormalizedRequest) :
    (G.invocations w requests).map Invocation.request = requests := by
  induction requests generalizing w with
  | nil => rfl
  | cons request requests ih => exact congrArg (request :: ·) (ih _)

/-- The hash does not collide on the payloads of the requests. -/
def NoCollisions (py : Runtime) (requests : List NormalizedRequest) : Prop :=
  ∀ r ∈ requests, ∀ r' ∈ requests,
    py.sha256 (payloadText r) = py.sha256 (payloadText r') → payloadText r = payloadText r'

/-- A call that is served from the cache is served soundly: it returns a response that a provider
gave in an earlier call, for a request with the same payload, and that was stored there at most the
time to live before. Whatever else a call returns a provider gave in it. A request with tools or a
tool choice, where neither is empty, has nothing to do with the cache unless such requests are
cached. -/
structure SoundAfter (G : Gateway τ) (before : List (Invocation τ)) (inv : Invocation τ) :
    Prop where
  served : ∀ k t resp, .hit k t resp ∈ inv.notes → inv.out = .ok resp ∧
    ∃ src ∈ before, src.Gave resp ∧ src.request.SamePayload inv.request ∧
      ∃ t' : ℚ, .stored k t' resp ∈ src.notes ∧ t' ≤ t ∧ t ≤ t' + G.cacheTtlS
  unserved : ∀ resp, inv.out = .ok resp → (∀ k t, .hit k t resp ∉ inv.notes) → inv.Gave resp
  tools : G.cacheToolResponses = false → inv.request.hasToolShape = true → inv.notes = []

/-- **The cache is sound over whole runs.** In every run that begins with an empty cache, where the
hash does not collide on the payloads of the run and the readings of the clock that the cache takes
do not decrease, every call is sound after those before it. -/
theorem cache_sound (G : Gateway τ) (w : World (Cached τ)) (requests : List NormalizedRequest)
    (hempty : w.outer.cache.data = []) (hsha : NoCollisions G.py requests)
    (hclock : ((G.invocations w requests).flatMap Invocation.notes).Pairwise
      fun a b => a.time ≤ b.time) {before after : List (Invocation τ)} {inv : Invocation τ}
    (h : G.invocations w requests = before ++ inv :: after) : SoundAfter G before inv := by
  have htraced : Traced G [] w.outer.cache := by
    intro k expiresAt resp hentry
    rw [hempty] at hentry
    cases hentry
  have hplace : InPlace G before inv := inPlace_invocations htraced h
  have hmem : ∀ call ∈ before ++ inv :: after, call.request ∈ requests := by
    intro call hcall
    rw [← map_request_invocations (G := G) w requests, h]
    exact List.mem_map_of_mem hcall
  refine ⟨?_, ?_, ?_⟩
  · intro k t resp hhit
    obtain ⟨hout, hkey, src, hsrc, t', hstores, hlive⟩ := hplace.hit k t resp hhit
    have hpayload : src.request.SamePayload inv.request :=
      samePayload_of_makeKey
        (hsha _ (hmem src (List.mem_append_left _ hsrc)) _
          (hmem inv (List.mem_append_right _ List.mem_cons_self)))
        (makeKey_of_cacheKeyFor hstores.key).1 (makeKey_of_cacheKeyFor hkey).1
    refine ⟨hout, src, hsrc, hstores.gave, hpayload, t', hstores.note, ?_, hlive⟩
    rw [h, List.flatMap_append, List.flatMap_cons] at hclock
    exact (List.pairwise_append.mp hclock).2.2 _ (List.mem_flatMap.mpr ⟨src, hsrc, hstores.note⟩) _
      (List.mem_append_left _ hhit)
  · intro resp hout hnone
    rcases hplace.gave resp hout with hgave | ⟨k, t, hhit⟩
    · exact hgave
    · exact absurd hhit (hnone k t)
  · intro hoff htools
    by_contra hne
    obtain ⟨k, hkey⟩ := hplace.keyed hne
    have hnot := (makeKey_of_cacheKeyFor hkey).2
    have hoff' : G.withMemoryCache.cacheToolResponses = false := hoff
    rw [htools, hoff'] at hnot
    cases hnot

/-- A world with one answer to give, and an empty cache. -/
def oneAnswer : World (Cached Scripted) :=
  { outer := { inner := { outcomes := [(1, .ok { text := "hi" })] } } }

/-- The second of two equal calls is served from the cache. -/
theorem cache_sound_plainTwice :
    SoundAfter scriptedGateway [scriptedGateway.invocation oneAnswer plainRequest]
      (scriptedGateway.invocation ((scriptedGateway.withMemoryCache.invoke plainRequest).final
        oneAnswer.unnoted) plainRequest) :=
  cache_sound scriptedGateway oneAnswer [plainRequest, plainRequest] rfl
    (fun _ _ _ _ h => h) (by decide +kernel)
    (show scriptedGateway.invocations oneAnswer [plainRequest, plainRequest] = [_] ++ _ :: [] from
      rfl)

/-- A request whose tool choice is an empty object. -/
def emptyChoice : NormalizedRequest := { plainRequest with toolChoice := some (.obj []) }

/-- **An empty tool choice is cached.** The two calls of such a request store and take the response,
although caching of requests with tools is off. -/
theorem emptyChoice_cached :
    scriptedGateway.cacheToolResponses = false ∧
      ¬ ∀ inv ∈ scriptedGateway.invocations oneAnswer [emptyChoice, emptyChoice],
        inv.request.tools.isSome || inv.request.toolChoice.isSome → inv.notes = [] := by
  refine ⟨rfl, fun h => ?_⟩
  have hnotes : (scriptedGateway.invocation oneAnswer emptyChoice).notes.length = 1 := by
    decide +kernel
  rw [h _ List.mem_cons_self rfl] at hnotes
  cases hnotes

end AgentCtl
