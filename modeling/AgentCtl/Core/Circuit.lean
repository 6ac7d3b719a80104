import AgentCtl.Models

set_option relaxedAutoImplicit false
set_option autoImplicit false

/-!
# Circuit breaker

`core/circuit.py`: after `threshold` failures in a row a provider is open for `cooldown` seconds;
then single probes are let through, until one of them reports success. The operations take the
reading of the clock as an argument.

## Main definitions

* `AgentCtl.CircuitBreaker` — the breaker's configuration and its three tables.
* `CircuitBreaker.allow`, `recordSuccess`, `recordFailure` — its operations.
* `CircuitBreaker.verdict` — the failure count of a provider, and whether it is open.
-/

namespace AgentCtl

/-- A circuit breaker. `fails` counts failures, `openedAt` holds the opening times of the open
providers, `probeAt` the times of the probes in flight. -/
structure CircuitBreaker where
  threshold : ℤ := 5
  cooldown : ℚ := 30
  fails : OrderedDict Str ℤ := []
  openedAt : OrderedDict Str ℚ := []
  probeAt : OrderedDict Str ℚ := []

namespace CircuitBreaker

variable (cb : CircuitBreaker) (p q : Str) (now : ℚ)

/-- `enabled`. -/
def enabled : Bool := 0 < cb.threshold && 0 < cb.cooldown

/-- Is the provider open? Only then does `allow` read the clock. -/
def isOpen : Bool := cb.enabled && cb.openedAt.has p

/-- `allow`: may the provider be tried now? Granting a probe records its time. -/
def allow : Bool × CircuitBreaker :=
  if !cb.enabled then (true, cb)
  else
    match cb.openedAt.get? p with
    | none => (true, cb)
    | some opened =>
      if now - opened < cb.cooldown then (false, cb)
      else
        match cb.probeAt.get? p with
        | some probe =>
          if now - probe < cb.cooldown then (false, cb)
          else (true, { cb with probeAt := cb.probeAt.insert p now })
        | none => (true, { cb with probeAt := cb.probeAt.insert p now })

/-- `record_success`. -/
def recordSuccess : CircuitBreaker :=
  if !cb.enabled then cb
  else { cb with fails := cb.fails.insert p 0, openedAt := cb.openedAt.erase p,
                 probeAt := cb.probeAt.erase p }

/-- The failure count after one more failure, outside a probe. -/
def nextFails : ℤ := cb.fails.getD p 0 + 1

/-- Does a failure of the provider read the clock? -/
def failureReadsClock : Bool :=
  cb.enabled && (cb.probeAt.has p || decide (cb.threshold ≤ cb.nextFails p))

/-- `record_failure`: a failed probe reopens the provider at once; otherwise the failure is
counted, and the provider opened when the count reaches the threshold. -/
def recordFailure : CircuitBreaker :=
  if !cb.enabled then cb
  else if cb.probeAt.has p then
    { cb with probeAt := cb.probeAt.erase p, openedAt := cb.openedAt.insert p now,
              fails := cb.fails.insert p cb.threshold }
  else if cb.threshold ≤ cb.nextFails p then
    { cb with fails := cb.fails.insert p (cb.nextFails p),
              openedAt := cb.openedAt.insert p now }
  else { cb with fails := cb.fails.insert p (cb.nextFails p) }

/-- A provider that is not open may be tried, whatever the time is. -/
lemma allow_of_not_isOpen (h : cb.isOpen p = false) : cb.allow p now = (true, cb) := by
  unfold allow
  cases henabled : cb.enabled with
  | false => rfl
  | true =>
    have hopened : cb.openedAt.get? p = none := by
      simpa [isOpen, henabled, OrderedDict.has] using h
    simp [hopened]

/-- A failure that does not read the clock is the same at any time. -/
lemma recordFailure_congr (h : cb.failureReadsClock p = false) (now' : ℚ) :
    cb.recordFailure p now = cb.recordFailure p now' := by
  unfold recordFailure
  cases henabled : cb.enabled with
  | false => rfl
  | true =>
    obtain ⟨hprobe, hfails⟩ : cb.probeAt.has p = false ∧ cb.nextFails p < cb.threshold := by
      simpa [failureReadsClock, henabled] using h
    simp [hprobe, not_le.mpr hfails]

/-- What the breaker holds against a provider: its failure count, and whether it is open. -/
def verdict : ℤ × Bool := (cb.fails.getD p 0, cb.openedAt.has p)

end CircuitBreaker

end AgentCtl
