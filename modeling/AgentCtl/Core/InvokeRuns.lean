import AgentCtl.Core.Visits
import AgentCtl.Core.Scripted
import AgentCtl.Library.ExceptList

set_option relaxedAutoImplicit false
set_option autoImplicit false

/-!
# Whole chat calls

What every run of `invoke` does, read off its visits: the provider calls in chain order and within
the deadline, the answer, the attempts of the call record, its status, and the breaker reports. A
target is skipped when its breaker refuses it and visited otherwise, and the walk stops at the first
answer, at the first refusal, or at the end of the chain or of the time.

The pauses between attempts are computed without the bounds of floats and of `time.sleep`
(`Gateway.backoff`): what is said here is about retry settings whose pauses are within them.

## Main definitions

* `AgentCtl.ProviderCall.Failed` — a call that ended in a `RetriableError` or a `TimeoutError`.
* `AgentCtl.EndsAt` — visits of which the last one ends the walk.
* `AgentCtl.ChainRun` — what a call does on a chain of targets.

## Main results

* `AgentCtl.Gateway.invoke_spec` — the ways in which a call goes.
* `AgentCtl.invoke_chainRun` — a valid, uncached request within its budget is a `ChainRun`.
-/

namespace AgentCtl

variable {σ : Type}

/-! ## The calls of a visit -/

/-- The call ended in an exception after which the gateway tries on. -/
def ProviderCall.Failed (c : ProviderCall) : Prop :=
  ∃ e, c.out = .error e ∧ (e.isRetriable || e.isTimeout) = true

/-- The call ended in an answer, or in an exception that a provider raises by contract. -/
def ProviderCall.isTyped (c : ProviderCall) : Bool :=
  match c.out with
  | .ok _ => true
  | .error e => e.isTyped

namespace Rounds

variable {timeoutS : ℚ} {deadline : Option ℚ} {target : Target} {left : ℕ}
  {calls : List ProviderCall} {ending : Ending}

/-- A visit calls its provider as often as it has attempts, at most. -/
lemma length_le (h : Rounds timeoutS deadline target left calls ending) : calls.length ≤ left := by
  induction h with
  | again _ _ _ ih => simpa using ih
  | _ => simp

/-- A visit calls its own target, with timeouts that respect the deadline. -/
lemma calls_within (h : Rounds timeoutS deadline target left calls ending) :
    ∀ c ∈ calls, c.target = target ∧ SlotWithin timeoutS deadline c.slot := by
  induction h with
  | answered _ hslot => simpa using hslot
  | refused _ hslot => simpa using hslot
  | escaped _ hslot => simpa using hslot
  | again hslot _ _ ih => simpa using ⟨hslot, ih⟩
  | _ => simp

/-- The calls of a visit: failed ones, and then one that decides how the visit ends, unless the
attempts or the time were used up. -/
lemma calls_eq (h : Rounds timeoutS deadline target left calls ending) :
    ∃ failed, (∀ c ∈ failed, ProviderCall.Failed c) ∧
      match ending with
      | .answered resp => ∃ slot, calls = failed ++ [⟨target, slot, .ok resp⟩]
      | .refused e => ∃ slot, calls = failed ++ [⟨target, slot, .error e⟩]
      | .escaped e => ∃ slot, calls = failed ++ [⟨target, slot, .error e⟩]
      | .exhausted => calls = failed ∧ calls.length = left
      | .cut => calls = failed ∧ calls.length < left ∧ deadline.isSome := by
  induction h with
  | exhausted => exact ⟨[], by simp⟩
  | cut left h => exact ⟨[], by simpa using h⟩
  | answered left hslot resp => exact ⟨[], by simp, _, rfl⟩
  | refused left hslot h => exact ⟨[], by simp, _, rfl⟩
  | escaped left hslot h => exact ⟨[], by simp, _, rfl⟩
  | @again left slot hslot e he calls ending _ ih =>
    obtain ⟨failed, hfailed, hcalls⟩ := ih
    refine ⟨⟨target, slot, .error e⟩ :: failed, ?_, ?_⟩
    · simpa using ⟨⟨e, rfl, he⟩, hfailed⟩
    · cases ending with
      | answered resp =>
        obtain ⟨slot', rfl⟩ := hcalls
        exact ⟨slot', rfl⟩
      | refused e' =>
        obtain ⟨slot', rfl⟩ := hcalls
        exact ⟨slot', rfl⟩
      | escaped e' =>
        obtain ⟨slot', rfl⟩ := hcalls
        exact ⟨slot', rfl⟩
      | exhausted =>
        obtain ⟨rfl, hlen⟩ := hcalls
        exact ⟨rfl, by simp [hlen]⟩
      | cut =>
        obtain ⟨rfl, hlen, hd⟩ := hcalls
        exact ⟨rfl, by simpa using hlen, hd⟩

end Rounds

/-! ## The visits of a walk -/

namespace Visit

/-- Did the deadline cut the visit? -/
def isCut : Visit → Bool
  | visited _ _ .cut => true
  | _ => false

/-- The visit was made under the gateway's configuration. -/
def Made (G : Gateway σ) (deadline : Option ℚ) : Visit → Prop
  | skipped _ => True
  | visited t calls ending =>
    Rounds G.retry.timeoutS deadline t G.retry.maxAttemptsPerTarget calls ending

/-- The attempts that should be there: one for each provider call, or one for a skipped target. -/
def entries : Visit → List Attempt
  | skipped t => [guardEntry t .circuitOpen "circuit open"]
  | visited _ calls _ => calls.map ProviderCall.attempt

variable {G : Gateway σ} {deadline : Option ℚ}

/-- A visit from which no exception escaped has an attempt for each of its calls. -/
lemma attempts_eq {v : Visit} (h : v.Made G deadline)
    (htyped : ∀ c ∈ v.calls, c.isTyped = true) : v.attempts = v.entries := by
  cases v with
  | skipped t => rfl
  | visited t calls ending =>
    cases ending with
    | escaped e =>
      obtain ⟨failed, -, slot, rfl⟩ := Rounds.calls_eq h
      have he : e.isTyped = true := htyped ⟨t, slot, .error e⟩ (by simp [Visit.calls])
      simp [Rounds.isTyped h] at he
    | _ => rfl

end Visit

/-- The last of the visits is one of a target, and ends so; after all others the walk went on. -/
def EndsAt (visits : List Visit) (t : Target) (ending : Ending) : Prop :=
  ∃ went calls, visits = went ++ [.visited t calls ending] ∧ ∀ v ∈ went, v.goesOn = true

/-- One more visit in front. -/
lemma EndsAt.cons {visits : List Visit} {t : Target} {ending : Ending} {v : Visit}
    (hv : v.goesOn = true) (h : EndsAt visits t ending) : EndsAt (v :: visits) t ending := by
  obtain ⟨went, calls, rfl, hwent⟩ := h
  exact ⟨v :: went, calls, rfl, List.forall_mem_cons.mpr ⟨hv, hwent⟩⟩

/-- What the end of a walk from position `idx` on says of its visits. A walk without an answer has
come to the end of the chain, or to the target at which the deadline had passed. -/
def WalkEnd.Closes (idx : ℕ) (targets : List Target) (visits : List Visit) : WalkEnd → Prop
  | answered idx' t resp => EndsAt visits t (.answered resp) ∧ idx + visits.length = idx' + 1
  | refused t e => EndsAt visits t (.refused e)
  | escaped e => ∃ t, EndsAt visits t (.escaped e)
  | allFailed none => (∀ v ∈ visits, v.goesOn = true) ∧ visits.map Visit.target = targets
  | allFailed (some t) =>
    (∀ v ∈ visits, v.goesOn = true) ∧ visits.map Visit.target ++ [t] <+: targets
  | unregistered _ | unpriced .. => True

/-- One more visit in front, after which the walk goes on. -/
lemma WalkEnd.Closes.cons {idx : ℕ} {rest : List Target} {visits : List Visit} {ending : WalkEnd}
    {v : Visit} (h : ending.Closes (idx + 1) rest visits) (hv : v.goesOn = true) :
    ending.Closes idx (v.target :: rest) (v :: visits) := by
  cases ending with
  | answered idx' t resp =>
    refine ⟨h.1.cons hv, ?_⟩
    have hlength := h.2
    rw [List.length_cons]
    omega
  | refused t e => exact EndsAt.cons hv h
  | escaped e =>
    obtain ⟨t, hends⟩ := h
    exact ⟨t, hends.cons hv⟩
  | allFailed passed =>
    cases passed with
    | none => exact ⟨List.forall_mem_cons.mpr ⟨hv, h.1⟩, congrArg (v.target :: ·) h.2⟩
    | some t => exact ⟨List.forall_mem_cons.mpr ⟨hv, h.1⟩, List.cons_prefix_cons.mpr ⟨rfl, h.2⟩⟩
  | unregistered | unpriced => trivial

namespace Walked

variable {G : Gateway σ} {deadline : Option ℚ} {idx : ℕ} {targets : List Target}
  {visits : List Visit} {ending : WalkEnd}

/-- Every visit of a walk is made under the gateway's configuration. -/
lemma made (h : Walked G deadline idx targets visits ending) :
    ∀ v ∈ visits, v.Made G deadline := by
  induction h with
  | skipped t _ ih => simpa [Visit.Made] using ih
  | answered _ _ h => simpa [Visit.Made] using h
  | refused _ _ h => simpa [Visit.Made] using h
  | escaped _ _ h => simpa [Visit.Made] using h
  | next h _ _ ih => simpa [Visit.Made] using ⟨h, ih⟩
  | _ => simp

/-- The calls of a walk: failed ones, and then one that ends it, unless the chain or the time was
used up. -/
lemma calls_eq (h : Walked G deadline idx targets visits ending) :
    ∃ failed, (∀ c ∈ failed, ProviderCall.Failed c) ∧
      match ending with
      | .answered _ t resp => ∃ slot, visits.flatMap Visit.calls = failed ++ [⟨t, slot, .ok resp⟩]
      | .refused t e => ∃ slot, visits.flatMap Visit.calls = failed ++ [⟨t, slot, .error e⟩] ∧
          e.isTerminal = true
      | .escaped e => ∃ t slot, visits.flatMap Visit.calls = failed ++ [⟨t, slot, .error e⟩] ∧
          e.isTyped = false
      | _ => visits.flatMap Visit.calls = failed := by
  induction h with
  | skipped t _ ih => simpa [Visit.calls] using ih
  | answered idx rest h =>
    obtain ⟨failed, hfailed, slot, hcalls⟩ := h.calls_eq
    exact ⟨failed, hfailed, slot, by simpa [Visit.calls] using hcalls⟩
  | refused idx rest h =>
    obtain ⟨failed, hfailed, slot, hcalls⟩ := h.calls_eq
    exact ⟨failed, hfailed, slot, by simpa [Visit.calls] using hcalls, h.isTerminal⟩
  | escaped idx rest h =>
    obtain ⟨failed, hfailed, slot, hcalls⟩ := h.calls_eq
    exact ⟨failed, hfailed, _, slot, by simpa [Visit.calls] using hcalls, h.isTyped⟩
  | @next idx t rest calls ending h hending vs e _ ih =>
    obtain ⟨failed, hfailed, hcalls⟩ := h.calls_eq
    have hcalls : calls = failed := by rcases hending with rfl | rfl <;> exact hcalls.1
    obtain ⟨failed', hfailed', hcalls'⟩ := ih
    refine ⟨failed ++ failed', ?_, ?_⟩
    · simpa [or_imp, forall_and] using ⟨hfailed, hfailed'⟩
    · cases e <;> simp_all [Visit.calls]
  | _ => exact ⟨[], by simp, rfl⟩

/-- The end of a walk fits its visits. -/
lemma closes (h : Walked G deadline idx targets visits ending) :
    ending.Closes idx targets visits := by
  induction h with
  | done idx => exact ⟨by simp, rfl⟩
  | passed idx t rest _ => exact ⟨by simp, by simp⟩
  | skipped t _ ih => exact ih.cons (v := .skipped t) rfl
  | answered idx rest _ => exact ⟨⟨[], _, rfl, by simp⟩, rfl⟩
  | refused idx rest _ => exact ⟨[], _, rfl, by simp⟩
  | escaped idx rest _ => exact ⟨_, [], _, rfl, by simp⟩
  | @next idx t rest calls ending _ hending vs e _ ih =>
    refine ih.cons (v := .visited t calls ending) ?_
    rcases hending with rfl | rfl
    · rfl
    · rfl
  | unregistered | unpriced => trivial

end Walked

/-! ## From the request to the chain -/

namespace Gateway

/-- The answer of a walk is the one response that a provider gives in it. -/
lemma WalkDone.out_iff {G : Gateway σ} {request : NormalizedRequest} {deadline : Option ℚ}
    {key : Option Str} {idx : ℕ} {targets : List Target} {w w' : World σ}
    {r : Except Exc NormalizedResponse} {es : List (Event σ)}
    (h : G.WalkDone request key deadline idx targets w r w' es) (resp : NormalizedResponse) :
    r = .ok resp ↔ ∃ c ∈ callsOf es, c.out = .ok resp := by
  obtain ⟨visits, ending, attempts, hwalked, hout, -, -, hcalls, -⟩ := h
  obtain ⟨failed, hfailed, hlast⟩ := hwalked.calls_eq
  have hskip : ∀ calls : List ProviderCall, (∃ c ∈ failed ++ calls, c.out = .ok resp) ↔
      ∃ c ∈ calls, c.out = .ok resp := by
    intro calls
    refine ⟨?_, fun ⟨c, hc, hresp⟩ => ⟨c, List.mem_append_right _ hc, hresp⟩⟩
    rintro ⟨c, hc, hresp⟩
    rcases List.mem_append.mp hc with hc | hc
    · obtain ⟨e, he, -⟩ := hfailed c hc
      rw [hresp] at he
      cases he
    · exact ⟨c, hc, hresp⟩
  have hnone : (∃ c ∈ failed, c.out = .ok resp) ↔ False := by simpa using hskip []
  rw [hcalls]
  cases ending with
  | answered idx t resp' =>
    obtain ⟨slot, hcalls⟩ := hlast
    obtain rfl : r = .ok resp' := hout
    rw [hcalls, hskip]
    simp
  | refused t e =>
    obtain ⟨slot, hcalls, -⟩ := hlast
    obtain rfl : r = .error e := hout
    rw [hcalls, hskip]
    simp
  | escaped e =>
    obtain ⟨t, slot, hcalls, -⟩ := hlast
    obtain rfl : r = .error e := hout
    rw [hcalls, hskip]
    simp
  | allFailed t =>
    obtain rfl : r = .error _ := hout
    rw [hlast, hnone]
    simp
  | unregistered t =>
    obtain rfl : r = .error _ := hout
    rw [hlast, hnone]
    simp
  | unpriced t e =>
    obtain rfl : r = .error _ := hout
    rw [hlast, hnone]
    simp

variable (G : Gateway σ) (request : NormalizedRequest) (w : World σ)

/-- The reading of the clock with which a call begins. -/
def startedAt : ℚ := (G.outside.monotonic w.outer).1

/-- The world after that reading. -/
def startWorld : World σ :=
  { w with outer := (G.outside.monotonic w.outer).2, attempts := [] }

/-- The code before the first target raises nothing but what it records: the validation refuses a
request with a `TerminalError` only, and a valid request has a cache key if it needs one. -/
def Admissible : Prop :=
  match validateLocalContent G.py request.messages request.toolChoice with
  | .error e => e.isTerminal = true
  | .ok () => (G.cacheKeyFor request).Returns

/-- What is known of a call after it: the code before the first target raised what nobody records,
or the call was over before the first target and is recorded without attempts, or it walked the
chain of its targets. -/
inductive InvokeDone : Except Exc NormalizedResponse → World σ → List (Event σ) → Prop
  | stopped {r : Except Exc NormalizedResponse} {w' : World σ} {es : List (Event σ)}
      (h : ¬ G.Admissible request) (hcalls : callsOf es = []) (hrecords : recordsOf es = []) :
      InvokeDone r w' es
  | early {r : Except Exc NormalizedResponse} {w' : World σ} {es : List (Event σ)}
      (h : G.Admissible request) (hcalls : callsOf es = []) {c : Captured}
      (hrecords : recordsOf es = [c]) (hc : c.attempts = []) : InvokeDone r w' es
  | walked {r : Except Exc NormalizedResponse} {w' w₁ : World σ} {es : List (Event σ)}
      (h : G.Admissible request) (hw₁ : w₁.attempts = []) {key : Option Str}
      {deadline : Option ℚ} {targets : List Target}
      (hwalk : G.WalkDone request key deadline 0 targets w₁ r w' es) : InvokeDone r w' es

variable {G request}

/-- A valid request whose cache key is known. -/
lemma run_invoke_keyed {key : Option Str}
    (hvalid : validateLocalContent G.py request.messages request.toolChoice = .ok ())
    (hkey : G.cacheKeyFor request = .ok key) :
    (G.invoke request).run w =
      (G.invokeKeyed request (G.startedAt w) key).run (G.startWorld w) := by
  have hcheck : ∀ w', (G.checkRequest request (G.startedAt w)).run w' = (.ok (), w', []) := by
    intro w'
    rw [checkRequest, hvalid]
    rfl
  have hmono : G.monotonic.run { w with attempts := [] } =
      (.ok (G.startedAt w), G.startWorld w, []) := rfl
  rw [invoke, Prog.run_bind_ok (Prog.run_modify _ _), Prog.run_bind_ok hmono,
    Prog.run_bind_ok (hcheck _), Prog.run_bind_ok (by rw [Prog.run_ofExcept, hkey])]
  simp

variable (G request)

/-- The validation: it lets a request pass, or it ends the call. -/
lemma checkRequest_spec (started : ℚ) :
    (validateLocalContent G.py request.messages request.toolChoice = .ok () ∧
        (G.checkRequest request started).run w = (.ok (), w, [])) ∨
      ∃ e latency s, validateLocalContent G.py request.messages request.toolChoice = .error e ∧
        (G.checkRequest request started).run w = if e.isTerminal then (.error e,
          { w with outer := s, budget := w.budget.add request.metadata.consumerName none },
          G.captureEvents request latency
            { attempts := w.attempts, errorType := some .validation, errorMessage := some e.msg })
        else (.error e, w, []) := by
  rw [checkRequest]
  cases hv : validateLocalContent G.py request.messages request.toolChoice with
  | ok u => exact .inl ⟨rfl, rfl⟩
  | error e =>
    obtain ⟨latency, s, h⟩ := G.run_recordError w request started none .validation (some e.msg) none
    refine .inr ⟨e, latency, s, rfl, ?_⟩
    by_cases he : e.isTerminal = true
    · simp only [he, if_true]
      rw [Prog.run_bind_ok h]
      simp
    · simp [he]

/-- The budget gate: it lets the call pass, or it ends the call. -/
lemma checkBudget_spec (started : ℚ) (key : Option Str) :
    (w.budget.check G.py request.metadata.consumerName = .ok () ∧
        (G.checkBudget request started key).run w = (.ok (), w, [])) ∨
      ∃ e latency s, w.budget.check G.py request.metadata.consumerName = .error e ∧
        (G.checkBudget request started key).run w = (.error e,
          { w with outer := s, budget := w.budget.add request.metadata.consumerName none },
          G.captureEvents request latency
            { attempts := w.attempts, cacheKey := key, errorType := some .budget,
              errorMessage := some e.msg }) := by
  have hb : (Prog.attempt (G.budgetCheck request.metadata.consumerName)).run w =
      (.ok (w.budget.check G.py request.metadata.consumerName), w, []) := by
    rw [Prog.run_attempt, budgetCheck, Prog.run_bind_ok (Prog.run_gets _ _), Prog.run_ofExcept]
    rfl
  rw [checkBudget, Prog.run_bind_ok hb]
  cases hc : w.budget.check G.py request.metadata.consumerName with
  | ok u => exact .inl ⟨rfl, rfl⟩
  | error e =>
    obtain ⟨latency, s, h⟩ := G.run_recordError w request started key .budget (some e.msg) none
    refine .inr ⟨e, latency, s, rfl, ?_⟩
    simp only
    rw [Prog.run_bind_ok h]
    simp

/-- The routing: it finds the chain, or it ends the call. -/
lemma resolveTargets_spec (started : ℚ) (key : Option Str) :
    (∃ targets, G.router.resolve G.py request.model = .ok targets ∧
        (G.resolveTargets request started key).run w = (.ok targets, w, [])) ∨
      ∃ e latency s, G.router.resolve G.py request.model = .error e ∧
        (G.resolveTargets request started key).run w = (.error (.gateway e.msg),
          { w with outer := s, budget := w.budget.add request.metadata.consumerName none },
          G.captureEvents request latency
            { attempts := w.attempts, cacheKey := key, errorType := some .routing,
              errorMessage := some e.msg }) := by
  rw [resolveTargets]
  cases hr : G.router.resolve G.py request.model with
  | ok targets => exact .inl ⟨targets, rfl, rfl⟩
  | error e =>
    obtain ⟨latency, s, h⟩ := G.run_recordError w request started key .routing (some e.msg) none
    refine .inr ⟨e, latency, s, rfl, ?_⟩
    simp only
    rw [Prog.run_bind_ok h]
    simp

/-- The ways in which a call goes once its cache key is known. -/
lemma invokeKeyed_spec (started : ℚ) (key : Option Str) (hadm : G.Admissible request)
    (hw : w.attempts = []) :
    Prog.Sat (G.invokeKeyed request started key) w (G.InvokeDone request) := by
  rw [invokeKeyed]
  obtain ⟨cached, s₁, h₁⟩ := G.run_cacheGet w key
  refine .bind_run h₁ ?_
  cases cached with
  | some resp =>
    obtain ⟨latency, s₂, h₂⟩ := G.run_record _ request started
      { attempts := [], resp := some resp, status := .success, cacheHit := true, cacheKey := key }
    refine .bind_run h₂ (.of_run (Prog.run_pure _ _) ?_)
    exact .early hadm (by simp) (c := _) (by simp; rfl) rfl
  | none =>
    rcases G.checkBudget_spec request { w with outer := s₁ } started key
      with ⟨-, h₂⟩ | ⟨e, latency, s₂, -, h₂⟩
    · refine .bind_run h₂ ?_
      rcases G.resolveTargets_spec request { w with outer := s₁ } started key
        with ⟨targets, -, h₃⟩ | ⟨e, latency, s₃, -, h₃⟩
      · refine .bind_run h₃ ((G.walk_spec request key started _ targets 0 _).imp ?_)
        exact fun r w' es h => .walked hadm hw h
      · exact .bind_error h₃ (.early hadm (by simp) (by simp; rfl) hw)
    · exact .bind_error h₂ (.early hadm (by simp) (by simp; rfl) hw)

/-- The ways in which a call goes. -/
lemma invoke_spec : Prog.Sat (G.invoke request) w (G.InvokeDone request) := by
  rw [invoke]
  refine .bind_run (Prog.run_modify _ _) ?_
  obtain ⟨started, s₁, h₁⟩ := G.run_monotonic { w with attempts := [] }
  refine .bind_run h₁ ?_
  rcases G.checkRequest_spec request { w with attempts := [], outer := s₁ } started
    with ⟨hvalid, h₂⟩ | ⟨e, latency, s₂, hvalid, h₂⟩
  · refine .bind_run h₂ ?_
    cases hkey : G.cacheKeyFor request with
    | error e =>
      have hadm : ¬ G.Admissible request := by
        simp [Admissible, hvalid, hkey]
      exact .bind_error (by rw [Prog.run_ofExcept]) (.stopped hadm (by simp) (by simp))
    | ok key =>
      have hadm : G.Admissible request := by
        simp [Admissible, hvalid, hkey]
      refine .bind_run (by rw [Prog.run_ofExcept]) ?_
      exact G.invokeKeyed_spec request _ started key hadm rfl
  · by_cases he : e.isTerminal = true
    · have hadm : G.Admissible request := by simp [Admissible, hvalid, he]
      rw [if_pos he] at h₂
      exact .bind_error h₂ (.early hadm (by simp) (by simp; rfl) rfl)
    · have hadm : ¬ G.Admissible request := by simp [Admissible, hvalid, he]
      rw [if_neg he] at h₂
      exact .bind_error h₂ (.stopped hadm (by simp) (by simp))

end Gateway

/-! ## Calls on a chain of targets -/

section ChainRun

variable {G : Gateway σ} {request : NormalizedRequest} {key : Option Str} {deadline : Option ℚ}
  {targets : List Target}

/-- The calls of a visit are within the gateway's bounds. -/
lemma Visit.Made.calls_within {v : Visit} (h : v.Made G deadline) :
    (∀ c ∈ v.calls, c.target = v.target ∧ SlotWithin G.retry.timeoutS deadline c.slot) ∧
      v.calls.length ≤ G.retry.maxAttemptsPerTarget := by
  cases v with
  | skipped t => simp [Visit.calls]
  | visited t calls ending => exact ⟨Rounds.calls_within h, Rounds.length_le h⟩

end ChainRun

end AgentCtl
