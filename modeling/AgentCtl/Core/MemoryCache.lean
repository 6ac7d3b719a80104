import AgentCtl.Core.Gateway

set_option relaxedAutoImplicit false
set_option autoImplicit false

/-!
# The cache in memory

`core/cache.py`: `MemoryCache` keeps the responses of a process with the times they expire, bounded
in number, the least recently used one first to go. A gateway with such a cache runs in a world that
holds it next to everything else. The lock is left out: calls come one after the other.

## Main definitions

* `AgentCtl.MemoryCache` — the cache, with `get` and `set`.
* `AgentCtl.Cached` — a world with a cache, and notes of what the cache did.
* `AgentCtl.Gateway.withMemoryCache` — a gateway with a cache in memory.
* `AgentCtl.Gateway.invocations` — a run: one call after the other.

## Main results

* `MemoryCache.get_eq_some`, `MemoryCache.mem_of_mem_set` — what is found, and where entries come
  from.
* `MemoryCache.length_set` — the bound holds after every assignment.
-/

namespace AgentCtl

/-- `MemoryCache`: the responses by key, with the times they expire, and the bound on their number;
none if it is not positive. -/
structure MemoryCache where
  data : OrderedDict Str (ℚ × NormalizedResponse) := []
  max : ℤ := 10000

namespace MemoryCache

/-- `get`, with the reading of the clock that it takes if there is an entry. -/
def get (c : MemoryCache) (key : Str) (now : ℚ) : Option NormalizedResponse × MemoryCache :=
  match c.data.get? key with
  | none => (none, c)
  | some (expiresAt, resp) =>
    if expiresAt < now then (none, { c with data := c.data.erase key })
    else (some resp, { c with data := c.data.moveToEnd key })

/-- `while self._max > 0 and len(self._data) > self._max: self._data.popitem(last=False)` -/
def evict (max : ℤ) :
    OrderedDict Str (ℚ × NormalizedResponse) → OrderedDict Str (ℚ × NormalizedResponse)
  | [] => []
  | p :: d => if 0 < max ∧ max < (p :: d).length then evict max d else p :: d

/-- `set`, with the reading of the clock that it takes. -/
def set (c : MemoryCache) (key : Str) (resp : NormalizedResponse) (now : ℚ) (ttlS : ℤ) :
    MemoryCache :=
  { c with data := evict c.max ((c.data.insert key (now + ttlS, resp)).moveToEnd key) }

variable (c : MemoryCache) (key : Str)

/-- A response that is found has an entry that has not expired. -/
lemma get_eq_some {now : ℚ} {resp : NormalizedResponse} (h : (c.get key now).1 = some resp) :
    ∃ expiresAt, (key, expiresAt, resp) ∈ c.data ∧ now ≤ expiresAt := by
  unfold get at h
  split at h
  · cases h
  · next expiresAt resp' hget =>
    split at h
    · cases h
    · next hlive =>
      obtain rfl := Option.some.inj h
      exact ⟨expiresAt, OrderedDict.mem_of_get? hget, not_lt.mp hlive⟩

/-- An entry that has not expired is found. -/
lemma get_of_live {now expiresAt : ℚ} {resp : NormalizedResponse}
    (h : c.data.get? key = some (expiresAt, resp)) (hlive : now ≤ expiresAt) :
    (c.get key now).1 = some resp := by
  unfold get
  rw [h]
  dsimp only
  rw [if_neg (not_lt.mpr hlive)]

/-- A lookup adds no entries. -/
lemma mem_of_mem_get {now : ℚ} {p : Str × ℚ × NormalizedResponse}
    (h : p ∈ (c.get key now).2.data) : p ∈ c.data := by
  unfold get at h
  split at h
  · exact h
  · split at h
    · exact OrderedDict.mem_of_mem_erase h
    · exact OrderedDict.mem_of_mem_moveToEnd h

/-- What is left after evictions was there before. -/
lemma mem_of_mem_evict {max : ℤ} {d : OrderedDict Str (ℚ × NormalizedResponse)}
    {p : Str × ℚ × NormalizedResponse} (h : p ∈ evict max d) : p ∈ d := by
  induction d with
  | nil => cases h
  | cons q d ih =>
    rw [evict] at h
    split at h
    · exact List.mem_cons_of_mem _ (ih h)
    · exact h

/-- An assignment adds one entry, which expires after the time to live. -/
lemma mem_of_mem_set {resp : NormalizedResponse} {now : ℚ} {ttlS : ℤ}
    {p : Str × ℚ × NormalizedResponse} (h : p ∈ (c.set key resp now ttlS).data) :
    p = (key, now + ttlS, resp) ∨ p ∈ c.data :=
  OrderedDict.mem_of_mem_insert (OrderedDict.mem_of_mem_moveToEnd (mem_of_mem_evict h))

/-- The number of entries stays within a positive bound. -/
lemma length_evict {max : ℤ} (hmax : 0 < max) (d : OrderedDict Str (ℚ × NormalizedResponse)) :
    ((evict max d).length : ℤ) ≤ max := by
  induction d with
  | nil => exact hmax.le
  | cons p d ih =>
    rw [evict]
    split
    · exact ih
    · next h => exact not_lt.mp fun hlt => h ⟨hmax, hlt⟩

/-- **The cache is bounded.** After an assignment there are no more entries than a positive bound
allows. -/
theorem length_set (resp : NormalizedResponse) (now : ℚ) (ttlS : ℤ) (hmax : 0 < c.max) :
    ((c.set key resp now ttlS).data.length : ℤ) ≤ c.max :=
  length_evict hmax _

end MemoryCache

/-! ## Gateways with a cache in memory -/

/-- What the cache did: it found a response, or stored one. -/
inductive CacheNote where
  | hit (key : Str) (now : ℚ) (resp : NormalizedResponse)
  | stored (key : Str) (now : ℚ) (resp : NormalizedResponse)

/-- The reading of the clock at which the cache did it. -/
def CacheNote.time : CacheNote → ℚ
  | .hit _ now _ => now
  | .stored _ now _ => now

/-- A world with a cache in memory, and the notes of what the cache did in the current call. -/
structure Cached (τ : Type) where
  inner : τ
  cache : MemoryCache := {}
  notes : List CacheNote := []

variable {τ : Type}

/-- What acts on the rest of the world leaves the cache as it is. -/
def Cached.inside {α : Type} (f : τ → α × τ) (s : Cached τ) : α × Cached τ :=
  ((f s.inner).1, { s with inner := (f s.inner).2 })

/-- `MemoryCache.get` in its world: the clock is read if there is an entry. -/
def Cached.get (outside : Outside τ) (key : Str) (s : Cached τ) :
    Except Exc (Option NormalizedResponse) × Cached τ :=
  match s.cache.data.get? key with
  | none => (.ok none, s)
  | some _ =>
    let r := outside.monotonic s.inner
    let g := s.cache.get key r.1
    (.ok g.1, { inner := r.2, cache := g.2,
                notes := s.notes ++ (g.1.map (CacheNote.hit key r.1)).toList })

/-- `MemoryCache.set` in its world. -/
def Cached.set (outside : Outside τ) (key : Str) (resp : NormalizedResponse) (ttlS : ℤ)
    (s : Cached τ) : Except Exc Unit × Cached τ :=
  let r := outside.monotonic s.inner
  (.ok (), { inner := r.2, cache := s.cache.set key resp r.1 ttlS,
             notes := s.notes ++ [.stored key r.1 resp] })

/-- What a lookup finds has an entry that has not expired; no entries are added. -/
lemma Cached.get_spec (outside : Outside τ) (key : Str) (s : Cached τ) :
    ∃ found s', Cached.get outside key s = (.ok found, s') ∧
      (∀ p ∈ s'.cache.data, p ∈ s.cache.data) ∧
      match found with
      | none => s'.notes = s.notes
      | some resp => ∃ now expiresAt, (key, expiresAt, resp) ∈ s.cache.data ∧ now ≤ expiresAt ∧
          s'.notes = s.notes ++ [.hit key now resp] := by
  unfold Cached.get
  split
  · exact ⟨none, s, rfl, fun _ hp => hp, rfl⟩
  · refine ⟨_, _, rfl, fun p hp => s.cache.mem_of_mem_get key hp, ?_⟩
    dsimp only
    cases hfound : (s.cache.get key (outside.monotonic s.inner).1).1 with
    | none => exact List.append_nil _
    | some resp =>
      obtain ⟨expiresAt, hentry, hlive⟩ := s.cache.get_eq_some key hfound
      exact ⟨_, expiresAt, hentry, hlive, rfl⟩

/-- A provider next to a cache. -/
def Provider.besideCache (p : Provider τ) : Provider (Cached τ) where
  invoke target request timeout := Cached.inside (p.invoke target request timeout)
  stream := p.stream.map fun fn target request timeout =>
    Cached.inside (fn target request timeout)
  embed := p.embed.map fun fn target inputs timeout => Cached.inside (fn target inputs timeout)

/-- Clock, sleep and randomness next to a cache. -/
def Outside.besideCache (o : Outside τ) : Outside (Cached τ) where
  monotonic := Cached.inside o.monotonic
  sleep d s := { s with inner := o.sleep d s.inner }
  uniform a b := Cached.inside (o.uniform a b)

namespace Gateway

variable (G : Gateway τ)

/-- The gateway with a cache in memory. -/
def withMemoryCache : Gateway (Cached τ) where
  py := G.py
  outside := G.outside.besideCache
  router := G.router
  providers := G.providers.map fun p => (p.1, p.2.besideCache)
  costMeter := G.costMeter
  hasStore := G.hasStore
  cache := some ⟨Cached.get G.outside, Cached.set G.outside⟩
  retry := G.retry
  cacheEnabled := G.cacheEnabled
  cacheTtlS := G.cacheTtlS
  cacheToolResponses := G.cacheToolResponses
  requestDeadlineS := G.requestDeadlineS

/-- A provider of the gateway is one of the gateway without the cache. -/
lemma get?_withMemoryCache {name : Str} {provider : Provider (Cached τ)}
    (h : G.withMemoryCache.providers.get? name = some provider) :
    ∃ p, G.providers.get? name = some p ∧ provider = p.besideCache := by
  have hget : (G.providers.get? name).map Provider.besideCache = some provider :=
    (OrderedDict.get?_mapValues Provider.besideCache G.providers name).symm.trans h
  obtain ⟨p, hp, hprovider⟩ := Option.map_eq_some_iff.mp hget
  exact ⟨p, hp, hprovider.symm⟩

end Gateway

/-- One call of a run: the request, what came of it, its events, and what the cache did. -/
structure Invocation (τ : Type) where
  request : NormalizedRequest
  out : Except Exc NormalizedResponse
  events : List (Event (Cached τ))
  notes : List CacheNote

/-- The world at the start of a call, with no notes of it yet. -/
def World.unnoted (w : World (Cached τ)) : World (Cached τ) :=
  { w with outer := { w.outer with notes := [] } }

namespace Gateway

variable (G : Gateway τ)

/-- The call of a request from a world. -/
def invocation (w : World (Cached τ)) (request : NormalizedRequest) : Invocation τ where
  request := request
  out := (G.withMemoryCache.invoke request).out w.unnoted
  events := (G.withMemoryCache.invoke request).trace w.unnoted
  notes := ((G.withMemoryCache.invoke request).final w.unnoted).outer.notes

/-- A run: the calls of requests, one after the other. -/
def invocations : World (Cached τ) → List NormalizedRequest → List (Invocation τ)
  | _, [] => []
  | w, request :: requests => G.invocation w request ::
      invocations ((G.withMemoryCache.invoke request).final w.unnoted) requests

end Gateway

end AgentCtl
