import AgentCtl.Core.MemoryCache
import AgentCtl.Library.Recency

set_option relaxedAutoImplicit false
set_option autoImplicit false

/-!
# What a cache remembers

What the cache in memory finds under a key is a matter of its history: of the last assignment to the
key, of the time since then, and of the other keys used since the key itself was used last. A key is
used by an assignment, and by a lookup that finds it; an expired entry and a miss use nothing.

## Main definitions

* `AgentCtl.MemoryCache.replay` — the cache after a list of events, with their history.
* `AgentCtl.CacheEntry.used` — the entries of a history that use their key.
* `AgentCtl.MemoryCache.Remembers` — a cache next to a history.

## Main results

* `MemoryCache.Remembers.perform` — one more event.
* `AgentCtl.memoryCache_lru_ttl` — bounded, sound and retentive after every run.
-/

namespace AgentCtl

/-- What a cache is asked or told. -/
inductive CacheOp where
  | get
  | set (resp : NormalizedResponse) (ttlS : ℤ)

/-- An operation on a key, with the reading of the clock. -/
structure CacheEvent where
  op : CacheOp
  key : Str
  time : ℚ

/-- An event is an assignment to the key. -/
def CacheEvent.sets (key : Str) (e : CacheEvent) : Bool :=
  match e.op with
  | .get => false
  | .set _ _ => e.key = key

/-- An event of the past, with what was found. -/
structure CacheEntry extends CacheEvent where
  found : Option NormalizedResponse

/-- The key was used: it was assigned, or found. -/
def CacheEntry.used (e : CacheEntry) : Bool :=
  match e.op with
  | .get => e.found.isSome
  | .set _ _ => true

/-- The keys that a history uses, oldest first. -/
def cacheUses (history : List CacheEntry) : List Str :=
  (history.filter CacheEntry.used).map fun e => e.key

/-- One more event uses its key, or nothing. -/
lemma cacheUses_concat (history : List CacheEntry) (e : CacheEntry) :
    cacheUses (history ++ [e]) =
      if e.used then cacheUses history ++ [e.key] else cacheUses history := by
  unfold cacheUses
  rw [List.filter_append, List.map_append]
  cases he : e.used with
  | true => simp [he]
  | false => simp [he]

namespace MemoryCache

open OrderedDict

/-- An event: what is found, and the cache after it. -/
def perform (c : MemoryCache) (e : CacheEvent) : Option NormalizedResponse × MemoryCache :=
  match e.op with
  | .get => c.get e.key e.time
  | .set resp ttlS => (none, c.set e.key resp e.time ttlS)

/-- An event, and its entry in the history. -/
def observe (s : MemoryCache × List CacheEntry) (e : CacheEvent) : MemoryCache × List CacheEntry :=
  ((s.1.perform e).2, s.2 ++ [⟨e, (s.1.perform e).1⟩])

/-- The cache after a list of events, with their history. -/
def replay (c : MemoryCache) (es : List CacheEvent) : MemoryCache × List CacheEntry :=
  es.foldl observe (c, [])

variable {c : MemoryCache}

/-- One more event. -/
lemma replay_concat (es : List CacheEvent) (e : CacheEvent) :
    c.replay (es ++ [e]) = observe (c.replay es) e := by
  rw [replay, List.foldl_append]
  rfl

/-- Under a positive bound the oldest entries go. -/
lemma evict_eq_trim {max : ℤ} (hmax : 0 < max)
    (d : OrderedDict Str (ℚ × NormalizedResponse)) : evict max d = trim max.toNat d := by
  induction d with
  | nil => rfl
  | cons p d ih =>
    have hlt : (0 < max ∧ max < (p :: d).length) ↔ max.toNat < (p :: d).length := by omega
    rw [evict, trim, ih]
    simp only [hlt]

/-! ## The cache next to its history -/

/-- A cache and the events so far: its entries are in the order of use; an entry is the last
assignment to its key; and the last assignment to a key is there as long as it lives and fewer keys
have been used since than the bound allows. -/
structure Remembers (c : MemoryCache) (es : List CacheEvent) (history : List CacheEntry) :
    Prop where
  recent : Recent c.data (cacheUses history)
  bounded : (c.data.length : ℤ) ≤ c.max
  sound : ∀ key expiresAt resp, c.data.get? key = some (expiresAt, resp) →
    ∃ ttlS t, es.latest (CacheEvent.sets key) = some ⟨.set resp ttlS, key, t⟩ ∧
      expiresAt = t + ttlS
  retained : ∀ key resp ttlS t now,
    es.latest (CacheEvent.sets key) = some ⟨.set resp ttlS, key, t⟩ → (∀ e ∈ es, e.time ≤ now) →
    now ≤ t + ttlS → (usedSince (cacheUses history) key : ℤ) < c.max →
    c.data.get? key = some (t + ttlS, resp)

namespace Remembers

variable {es : List CacheEvent} {history : List CacheEntry} (h : Remembers c es history)

/-- An empty cache remembers nothing. -/
lemma nil {max : ℤ} (hmax : 0 < max) : Remembers { max := max } [] [] where
  recent := Recent.nil _
  bounded := hmax.le
  sound _ _ _ hget := by cases hget
  retained _ _ _ _ _ hlast := by cases hlast

include h

/-- A lookup that finds no entry. -/
lemma miss {key : Str} {now : ℚ} :
    Remembers c (es ++ [⟨.get, key, now⟩]) (history ++ [⟨⟨.get, key, now⟩, none⟩]) where
  recent := by
    rw [cacheUses_concat]
    exact h.recent
  bounded := h.bounded
  sound k expiresAt resp hget := by
    rw [List.latest_concat]
    exact h.sound k expiresAt resp hget
  retained k resp ttlS t now' hlast htimes hlive hused := by
    rw [List.latest_concat] at hlast
    refine h.retained k resp ttlS t now' hlast (fun e he => htimes e (List.mem_append_left _ he))
      hlive ?_
    rw [cacheUses_concat] at hused
    exact hused

/-- A lookup of an entry that has expired removes it. -/
lemma expired {key : Str} {now expiresAt : ℚ} {resp : NormalizedResponse}
    (hentry : c.data.get? key = some (expiresAt, resp)) (hpast : expiresAt < now) :
    Remembers { c with data := c.data.erase key } (es ++ [⟨.get, key, now⟩])
      (history ++ [⟨⟨.get, key, now⟩, none⟩]) where
  recent := by
    rw [cacheUses_concat]
    exact h.recent.erase key
  bounded := by
    have hle : (c.data.erase key).length ≤ c.data.length := List.length_filter_le _ _
    have hbounded := h.bounded
    change ((c.data.erase key).length : ℤ) ≤ c.max
    omega
  sound k expiresAt' resp' hget := by
    rw [List.latest_concat]
    change get? (erase _ _) k = _ at hget
    rw [get?_erase] at hget
    split at hget
    · cases hget
    · exact h.sound k expiresAt' resp' hget
  retained k resp' ttlS t now' hlast htimes hlive hused := by
    have hlast' : es.latest (CacheEvent.sets k) = some ⟨.set resp' ttlS, k, t⟩ := by
      rwa [List.latest_concat] at hlast
    have hnow : now ≤ now' := htimes _ (List.mem_append_right _ (List.mem_singleton_self _))
    change get? (erase _ _) k = _
    rw [get?_erase]
    by_cases hk : key = k
    · subst hk
      -- the entry is the last assignment, and it does not live any more
      obtain ⟨ttlS', t', hlast'', rfl⟩ := h.sound key expiresAt resp hentry
      rw [hlast''] at hlast'
      cases hlast'
      linarith
    · rw [if_neg hk]
      refine h.retained k resp' ttlS t now' hlast'
        (fun e he => htimes e (List.mem_append_left _ he)) hlive ?_
      rw [cacheUses_concat] at hused
      exact hused

/-- A lookup of an entry that lives makes it the youngest. -/
lemma hit {key : Str} {now expiresAt : ℚ} {resp : NormalizedResponse}
    (hentry : c.data.get? key = some (expiresAt, resp)) :
    Remembers { c with data := c.data.moveToEnd key } (es ++ [⟨.get, key, now⟩])
      (history ++ [⟨⟨.get, key, now⟩, some resp⟩]) where
  recent := by
    have hmem : key ∈ keys c.data := by
      rw [mem_keys_iff, hentry]
      rfl
    rw [cacheUses_concat]
    exact h.recent.moveToEnd hmem
  bounded := by
    have hle : (c.data.moveToEnd key).length ≤ c.data.length := length_moveToEnd_le c.data key
    have hbounded := h.bounded
    change ((c.data.moveToEnd key).length : ℤ) ≤ c.max
    omega
  sound k expiresAt' resp' hget := by
    rw [List.latest_concat]
    change get? (moveToEnd _ _) k = _ at hget
    rw [get?_moveToEnd] at hget
    exact h.sound k expiresAt' resp' hget
  retained k resp' ttlS t now' hlast htimes hlive hused := by
    have hlast' : es.latest (CacheEvent.sets k) = some ⟨.set resp' ttlS, k, t⟩ := by
      rwa [List.latest_concat] at hlast
    change get? (moveToEnd _ _) k = _
    rw [get?_moveToEnd]
    by_cases hk : key = k
    · subst hk
      obtain ⟨ttlS', t', hlast'', rfl⟩ := h.sound key expiresAt resp hentry
      rw [hlast''] at hlast'
      cases hlast'
      exact hentry
    · refine h.retained k resp' ttlS t now' hlast'
        (fun e he => htimes e (List.mem_append_left _ he)) hlive (lt_of_le_of_lt ?_ hused)
      rw [cacheUses_concat]
      exact_mod_cast usedSince_le_concat hk

/-- An assignment, and the evictions that follow it. -/
lemma set (hmax : 0 < c.max) (key : Str) (resp : NormalizedResponse) (now : ℚ) (ttlS : ℤ) :
    Remembers (c.set key resp now ttlS) (es ++ [⟨.set resp ttlS, key, now⟩])
      (history ++ [⟨⟨.set resp ttlS, key, now⟩, none⟩]) := by
  have huses : cacheUses (history ++ [⟨⟨.set resp ttlS, key, now⟩, none⟩]) =
      cacheUses history ++ [key] := cacheUses_concat _ _
  have hrecent := h.recent.use key (now + ttlS, resp)
  have hdata : (c.set key resp now ttlS).data =
      trim c.max.toNat ((c.data.insert key (now + ttlS, resp)).moveToEnd key) :=
    evict_eq_trim hmax _
  have hlatest : ∀ k, List.latest (CacheEvent.sets k) (es ++ [⟨.set resp ttlS, key, now⟩]) =
      if key = k then some ⟨.set resp ttlS, key, now⟩ else es.latest (CacheEvent.sets k) := by
    intro k
    rw [List.latest_concat]
    simp [CacheEvent.sets]
  constructor
  case recent =>
    rw [hdata, huses]
    exact hrecent.trim _
  case bounded => exact length_set c key resp now ttlS hmax
  case sound =>
    intro k expiresAt resp' hget
    have hentry := get?_of_mem hrecent.nodup
      ((trim_suffix _ _).subset (mem_of_get? (hdata ▸ hget)))
    rw [get?_moveToEnd, get?_insert] at hentry
    rw [hlatest]
    by_cases hk : key = k
    · subst hk
      rw [if_pos rfl] at hentry ⊢
      cases hentry
      exact ⟨ttlS, now, rfl, rfl⟩
    · rw [if_neg hk] at hentry ⊢
      exact h.sound k expiresAt resp' hentry
  case retained =>
    intro k resp' ttlS' t now' hlast htimes hlive hused
    rw [huses] at hused
    have hused' : usedSince (cacheUses history ++ [key]) k < c.max.toNat := by
      have hmax' : (c.set key resp now ttlS).max = c.max := rfl
      omega
    rw [hdata, hrecent.get?_trim hused', get?_moveToEnd, get?_insert]
    rw [hlatest] at hlast
    by_cases hk : key = k
    · subst hk
      rw [if_pos rfl] at hlast ⊢
      cases hlast
      rfl
    · rw [if_neg hk] at hlast ⊢
      refine h.retained k resp' ttlS' t now' hlast
        (fun e he => htimes e (List.mem_append_left _ he)) hlive (lt_of_le_of_lt ?_ hused)
      exact_mod_cast usedSince_le_concat hk

/-- **One more event.** -/
lemma perform (hmax : 0 < c.max) (e : CacheEvent) :
    Remembers (c.perform e).2 (es ++ [e]) (history ++ [⟨e, (c.perform e).1⟩]) := by
  obtain ⟨op, key, now⟩ := e
  cases op with
  | set resp ttlS => exact h.set hmax key resp now ttlS
  | get =>
    change Remembers (c.get key now).2 _ (history ++ [⟨_, (c.get key now).1⟩])
    unfold MemoryCache.get
    cases hentry : c.data.get? key with
    | none => exact h.miss
    | some entry =>
      obtain ⟨expiresAt, resp⟩ := entry
      dsimp only
      split
      · next hpast => exact h.expired hentry hpast
      · exact h.hit hentry

end Remembers

/-- Events do not change the bound. -/
lemma max_perform (c : MemoryCache) (e : CacheEvent) : (c.perform e).2.max = c.max := by
  unfold perform
  cases e.op with
  | set resp ttlS => rfl
  | get =>
    dsimp only
    unfold get
    split
    · rfl
    · split
      · rfl
      · rfl

/-- The cache remembers every run. -/
lemma remembers_replay {max : ℤ} (hmax : 0 < max) (es : List CacheEvent) :
    (replay { max := max } es).1.max = max ∧
      Remembers (replay { max := max } es).1 es (replay { max := max } es).2 := by
  induction es using List.reverseRecOn with
  | nil => exact ⟨rfl, Remembers.nil hmax⟩
  | append_singleton es e ih =>
    rw [replay_concat]
    exact ⟨(max_perform _ e).trans ih.1, ih.2.perform (by rwa [ih.1]) e⟩

end MemoryCache

open MemoryCache

/-- **The cache is an exact-match LRU with a time to live.** After every run of a cache with a
positive bound: there are no more entries than the bound allows; what a lookup finds is the last
assignment to its key, which still lives; and if the clock does not go back, the last assignment to
a key is found as long as it lives and fewer other keys than the bound allows were assigned or found
since the key itself was. -/
theorem memoryCache_lru_ttl {max : ℤ} (hmax : 0 < max) (es : List CacheEvent) :
    let s := replay { max := max } es
    (s.1.data.length : ℤ) ≤ max ∧
    (∀ key now resp, (s.1.get key now).1 = some resp →
      ∃ ttlS t, es.latest (CacheEvent.sets key) = some ⟨.set resp ttlS, key, t⟩ ∧
        now ≤ t + ttlS) ∧
    ∀ key now resp ttlS t, (∀ e ∈ es, e.time ≤ now) →
      es.latest (CacheEvent.sets key) = some ⟨.set resp ttlS, key, t⟩ → now ≤ t + ttlS →
      (OrderedDict.usedSince (cacheUses s.2) key : ℤ) < max →
      (s.1.get key now).1 = some resp := by
  intro s
  obtain ⟨hbound, hremembers⟩ := remembers_replay hmax es
  refine ⟨hremembers.bounded.trans_eq hbound, ?_, ?_⟩
  · intro key now resp hget
    obtain ⟨expiresAt, hentry, hlive⟩ := s.1.get_eq_some key hget
    obtain ⟨ttlS, t, hlast, rfl⟩ := hremembers.sound key expiresAt resp
      (OrderedDict.get?_of_mem hremembers.recent.nodup hentry)
    exact ⟨ttlS, t, hlast, hlive⟩
  · intro key now resp ttlS t htimes hlast hlive hused
    have hentry := hremembers.retained key resp ttlS t now hlast htimes hlive (by rwa [hbound])
    exact get_of_live s.1 key hentry hlive

/-- Three keys in a cache of two: the first is found, and so the second goes. -/
def overfilled : List CacheEvent :=
  [⟨.set { text := "one" } 10, "a", 0⟩, ⟨.set { text := "two" } 10, "b", 1⟩, ⟨.get, "a", 2⟩,
    ⟨.set { text := "three" } 10, "c", 3⟩]

/-- What is left of them at the last moment of the first. -/
theorem memoryCache_lru_ttl_overfilled :
    (((replay { max := 2 } overfilled).1.data.length : ℤ) ≤ 2) ∧
      ((replay { max := 2 } overfilled).1.get "a" 10).1 = some { text := "one" } := by
  obtain ⟨hbounded, -, hretained⟩ := @memoryCache_lru_ttl 2 (by decide) overfilled
  refine ⟨hbounded, hretained "a" 10 { text := "one" } 10 0 ?_ ?_ ?_ ?_⟩
  · decide
  · rfl
  · norm_num
  · decide +kernel

end AgentCtl
