import AgentCtl.Library.OrderedDict

set_option relaxedAutoImplicit false
set_option autoImplicit false

/-!
# Accumulators that share a stream

Events of several sources arrive mixed in one stream, and a dictionary keeps one accumulator for
each source. When an event changes the accumulator of its own source only, the dictionary at the end
has for each source what this source's events alone add up to; so it does not matter how the sources
are mixed.

## Main definitions

* `OrderedDict.Accumulates` — every event updates the entry of its key only.

## Main results

* `OrderedDict.Accumulates.get?_foldl` — an entry is what the events of its key make of it.
* `OrderedDict.perm_of_get?` — dictionaries with the same entries.
-/

namespace OrderedDict

variable {κ ν ε : Type} [DecidableEq κ]

/-- The events that belong to a key. -/
def eventsAt (key : ε → Option κ) (es : List ε) (k : κ) : List ε :=
  es.filter fun e => key e = some k

/-- Every event updates the entry of its key, and no other. -/
def Accumulates (step : OrderedDict κ ν → ε → OrderedDict κ ν) (key : ε → Option κ)
    (update : Option ν → ε → Option ν) : Prop :=
  ∀ d e k, get? (step d e) k = if key e = some k then update (get? d k) e else get? d k

/-- **An entry after all events** is what the events of its key make of the entry before. -/
theorem Accumulates.get?_foldl {step : OrderedDict κ ν → ε → OrderedDict κ ν} {key : ε → Option κ}
    {update : Option ν → ε → Option ν} (h : Accumulates step key update) (es : List ε)
    (d : OrderedDict κ ν) (k : κ) :
    get? (es.foldl step d) k = (eventsAt key es k).foldl update (get? d k) := by
  induction es generalizing d with
  | nil => rfl
  | cons e es ih =>
    rw [List.foldl_cons, ih, h d e k, eventsAt, eventsAt, List.filter_cons]
    by_cases hk : key e = some k
    · simp [hk]
    · simp [hk]

/-- Dictionaries without repeated keys that have the same entries are permutations of one
another. -/
theorem perm_of_get? {d e : OrderedDict κ ν} (hd : (keys d).Nodup) (he : (keys e).Nodup)
    (h : ∀ k, get? d k = get? e k) : d.Perm e := by
  refine (List.perm_ext_iff_of_nodup (List.Nodup.of_map _ hd) (List.Nodup.of_map _ he)).mpr ?_
  rintro ⟨k, v⟩
  have hmem : ∀ {c : OrderedDict κ ν}, (keys c).Nodup → ((k, v) ∈ c ↔ get? c k = some v) :=
    fun hc => ⟨get?_of_mem hc, mem_of_get?⟩
  rw [hmem hd, hmem he, h k]

end OrderedDict
