import AgentCtl.Models

set_option relaxedAutoImplicit false
set_option autoImplicit false

/-!
# Providers

The provider protocols of `providers/base.py` and the exception mapping of `providers/_http.py`.
A provider is code outside the gateway: from the state of the outside world it answers or raises,
and leaves the world in some state.

## Main definitions

* `AgentCtl.Provider` — a provider; streaming and embeddings are optional capabilities.
* `AgentCtl.StreamScript` — what the iterator of a native stream yields, and how it ends.
* `AgentCtl.typedError` — SDK exceptions as gateway exceptions.
-/

namespace AgentCtl

/-- The iterator of a native stream: the values successive `next` calls yield, then the exception
the following `next` raises, or the end of the iteration. -/
structure StreamScript where
  items : List (Option StreamChunk)
  ending : Option Exc

/-- A provider over worlds `σ`. `stream` and `embed` are the optional protocols; the gateway tests
for them at run time. -/
structure Provider (σ : Type) where
  invoke : Target → NormalizedRequest → ℚ → σ → Except Exc NormalizedResponse × σ
  stream : Option (Target → NormalizedRequest → ℚ → σ → Except Exc StreamScript × σ) := none
  embed : Option (Target → List Str → ℚ → σ → Except Exc EmbeddingResponse × σ) := none

/-- `classify_status`: is the HTTP status worth a retry? -/
def retriableStatus (status : ℤ) : Bool := status = 408 || status = 429 || 500 ≤ status

/-- `typed_error`: gateway exceptions as they are, others by their status; without a status they
count as network errors. -/
def typedError (e : Exc) : Exc :=
  if e.isGateway then e
  else
    match e.statusCode with
    | none => .retriable e.msg
    | some status => if retriableStatus status then .retriable e.msg else .terminal e.msg

/-! ## Token counts

A backend that has nothing to report yet sends no count, or zero. -/

/-- The last element that is not zero, and zero where there is none. -/
def lastNonzero (ns : List ℤ) : ℤ := ((ns.filter (· ≠ 0)).getLast?).getD 0

/-- One more element. -/
lemma lastNonzero_concat (ns : List ℤ) (n : ℤ) :
    lastNonzero (ns ++ [n]) = if n = 0 then lastNonzero ns else n := by
  unfold lastNonzero
  rw [List.filter_append]
  by_cases h : n = 0
  · simp [h]
  · simp [h]

/-- There is no last element that is not zero only if all elements are zero. -/
lemma lastNonzero_eq_zero_iff (ns : List ℤ) : lastNonzero ns = 0 ↔ ∀ n ∈ ns, n = 0 := by
  induction ns using List.reverseRecOn with
  | nil => simp [lastNonzero]
  | append_singleton ns n ih =>
    rw [lastNonzero_concat, List.forall_mem_append, List.forall_mem_singleton, ← ih]
    by_cases h : n = 0
    · simp [h]
    · simp [h]

end AgentCtl
