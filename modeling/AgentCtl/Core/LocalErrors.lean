import AgentCtl.Core.InvokeRuns
import AgentCtl.Core.StreamVisits
import AgentCtl.Core.Scripted
import AgentCtl.Providers.Shapes

set_option relaxedAutoImplicit false
set_option autoImplicit false

/-!
# Errors of the translation and the breaker

Validation runs before the first target, so that a request that is bad for local reasons counts
against no provider. The adapters translate a request inside the provider call, though: what the
translation raises on a valid request reaches the retry loop as a `RetriableError`, and the
provider is charged for a call it never got.

## Main definitions

* `AgentCtl.FailsLocally` — a provider that fails on a request before it does anything.
* `AgentCtl.Alone` — a gateway whose chain for a request is one healthy target.
* `AgentCtl.SparesBreaker` — a call leaves the breaker's verdict on a provider as it was.

## Main results

* `AgentCtl.Alone.charged_invoke`, `AgentCtl.Alone.charged_invokeStream` — a local failure is
  counted against the provider.
* `AgentCtl.local_errors_spare_breaker_iff` — the requests that leave the breaker alone.
-/

namespace AgentCtl

variable {σ : Type}

/-- The provider fails on the request before it does anything: `invoke` raises a `RetriableError`,
and the first `next` on its stream an `Exception` that is no refusal. -/
structure FailsLocally (P : Provider σ) (request : NormalizedRequest) : Prop where
  invoke : ∀ target timeout s,
    ∃ msg, P.invoke target request timeout s = (.error (.retriable msg), s)
  stream : ∃ fn, P.stream = some fn ∧ ∀ target timeout s, ∃ e : Exc, e.isException = true ∧
    e.isTerminal = false ∧ fn target request timeout s = (.ok ⟨[], some e⟩, s)

/-- The chain of the request is one healthy target: its price is known, its breaker closed, and
neither budget, cache nor deadline ends the call before it. -/
structure Alone (G : Gateway σ) (request : NormalizedRequest) (target : Target) (P : Provider σ)
    (w : World σ) : Prop where
  valid : validateLocalContent G.py request.messages request.toolChoice = .ok ()
  resolve : G.router.resolve G.py request.model = .ok [target]
  provider : G.providers.get? target.provider = some P
  price : G.costMeter.ensurePrice target.name = .ok ()
  cache : G.cache = none
  deadline : G.requestDeadlineS ≤ 0
  budget : w.budget.check G.py request.metadata.consumerName = .ok ()
  enabled : w.circuit.enabled = true
  closed : w.circuit.openedAt.get? target.provider = none
  idle : w.circuit.probeAt.get? target.provider = none

/-- The call leaves the breaker's verdict on the provider as it was, in every gateway with the
provider and in every state of it. -/
def SparesBreaker {α : Type} (py : Runtime) (P : Provider σ) (call : Gateway σ → Call σ α) : Prop :=
  ∀ (G : Gateway σ) (p : Str) (w : World σ), G.py = py → G.providers.get? p = some P →
    ((call G).final w).circuit.verdict p = w.circuit.verdict p

variable {G : Gateway σ} {request : NormalizedRequest} {target : Target} {P : Provider σ}
  {w : World σ}

/-! ## A failure is counted -/

/-- The count of failures after a call is one more than before. -/
def ChargedOnce (p : Str) (w w' : World σ) : Prop :=
  w'.circuit.fails.getD p 0 = w.circuit.fails.getD p 0 + 1

/-- A closed breaker lets the provider be tried, and nothing changes. -/
lemma CircuitBreaker.allow_of_closed {cb : CircuitBreaker} {p : Str} (now : ℚ)
    (h : cb.openedAt.get? p = none) : cb.allow p now = (true, cb) := by
  unfold allow
  by_cases he : cb.enabled = true
  · simp [he, h]
  · simp [he]

/-- A failure outside a probe adds one to the count. -/
lemma CircuitBreaker.fails_recordFailure {cb : CircuitBreaker} {p : Str} (now : ℚ)
    (he : cb.enabled = true) (h : cb.probeAt.get? p = none) :
    (cb.recordFailure p now).fails.getD p 0 = cb.fails.getD p 0 + 1 := by
  have hprobe : cb.probeAt.has p = false := by simp [OrderedDict.has, h]
  unfold recordFailure
  simp only [he, hprobe, Bool.not_true, Bool.false_eq_true, if_false]
  split <;> simp [OrderedDict.getD, nextFails]

namespace Gateway

open Prog

/-- Every attempt at a provider that fails locally fails, and the breaker hears nothing of it. -/
lemma invokeTargetFrom_of_failsLocally (hP : FailsLocally P request) (left n : ℕ) (last : Exc)
    (w : World σ) :
    Sat (G.invokeTargetFrom P target request none n last left) w (fun r w' _ =>
      (∃ msg, r = .error (.retriable msg)) ∧ w'.circuit = w.circuit) := by
  induction left generalizing n last w with
  | zero => exact .of_run (run_raise _ _) ⟨⟨_, rfl⟩, rfl⟩
  | succ left ih =>
    rw [invokeTargetFrom]
    refine .bind_run (run_pure _ _) ?_
    obtain ⟨started, s₁, h₁⟩ := G.run_monotonic w
    refine .bind_run h₁ ?_
    obtain ⟨msg, hmsg⟩ := hP.invoke target G.retry.timeoutS s₁
    have hcall : (callProvider P target request ⟨G.retry.timeoutS, none⟩).run
        { w with outer := s₁ } =
        (.ok (.error (.retriable msg)), { w with outer := s₁ },
          [.call target ⟨G.retry.timeoutS, none⟩ (.error (.retriable msg))]) := by
      have hout : (outsideDo (P.invoke target request G.retry.timeoutS)).run
          { w with outer := s₁ } =
          (.ok (.error (.retriable msg)), { w with outer := s₁ }, []) := by
        rw [outsideDo, run_modifyGet, hmsg]
      rw [callProvider, run_bind_ok hout]
      rfl
    refine .bind_run hcall ?_
    simp only [Exc.isTerminal_retriable, Exc.isRetriable_retriable, Bool.true_or,
      Bool.false_eq_true,
      if_false, if_true]
    obtain ⟨latency, s₂, h₂⟩ := G.run_recordAttempt { w with outer := s₁ } target
      (retryOutcome (.retriable msg)) started (some (Exc.retriable msg).msg)
    refine .bind_run h₂ ?_
    obtain ⟨s₃, es, h₃, -⟩ := G.run_pause { w with outer := s₂, attempts := w.attempts ++
      [⟨target.provider, target.model, retryOutcome (.retriable msg), latency,
        some (Exc.retriable msg).msg⟩] } n
    exact .bind_run h₃ ((ih (n + 1) _ _).imp fun r w' _ h => ⟨h.1, h.2⟩)

/-- The guards let the only target be tried. -/
lemma run_guards (h : Alone G request target P w) (w' : World σ) (hw : w'.circuit = w.circuit) :
    (G.deadlineExceeded target none).run w' = (.ok false, w', []) ∧
      ∃ s, (G.circuitBlocked target).run w' = (.ok false, { w' with outer := s }, []) := by
  refine ⟨rfl, ?_⟩
  obtain ⟨now, s, hb⟩ := G.run_circuitBlocked w' target
  rw [hw, CircuitBreaker.allow_of_closed now h.closed] at hb
  exact ⟨s, by simpa [hw] using hb⟩

/-- A single target that fails locally is charged once by `invoke`. -/
lemma charged_walk (h : Alone G request target P w) (hP : FailsLocally P request) (started : ℚ)
    (w' : World σ) (hw : w'.circuit = w.circuit) :
    Sat (G.walk request started none none 0 [target]) w' (fun _ w'' _ =>
      ChargedOnce target.provider w w'') := by
  obtain ⟨hdeadline, s, hblocked⟩ := run_guards h w' hw
  rw [walk]
  refine .bind_run hdeadline ?_
  simp only [h.provider, h.price, Bool.false_eq_true, if_false]
  refine .bind_run hblocked ?_
  refine .bind (.attempt (invokeTargetFrom_of_failsLocally hP _ 0 _ _)) ?_ ?_
  · rintro out w₁ es₁ ⟨out', hout, ⟨msg, rfl⟩, hw₁⟩
    obtain rfl := Except.ok.inj hout
    simp only [Exc.isTerminal_retriable, Exc.isDeadline_retriable, Exc.isRetriable_retriable,
      Bool.false_eq_true, if_false, if_true]
    obtain ⟨now, s₂, h₂⟩ := G.run_reportFailure w₁ target.provider
    refine .bind_run h₂ ?_
    obtain ⟨latency, s₃, h₃⟩ := G.run_allFailed request none started
      { w₁ with outer := s₂, circuit := w₁.circuit.recordFailure target.provider now }
    refine .of_run h₃ ?_
    have hcircuit : w₁.circuit = w.circuit := hw₁.trans hw
    unfold ChargedOnce
    rw [← CircuitBreaker.fails_recordFailure now h.enabled h.idle, ← hcircuit]
  · rintro e w₁ es₁ ⟨_, hr, -⟩
    cases hr

/-- A single target that fails locally is charged once by `invoke_stream`. -/
lemma charged_streamWalk (h : Alone G request target P w) (hP : FailsLocally P request)
    (started : ℚ) (w' : World σ) (hw : w'.circuit = w.circuit) :
    Sat (G.streamWalk request started none 0 [target]) w' (fun _ w'' _ =>
      ChargedOnce target.provider w w'') := by
  obtain ⟨hdeadline, s, hblocked⟩ := run_guards h w' hw
  obtain ⟨fn, hfn, hstream⟩ := hP.stream
  rw [streamWalk]
  refine .bind_run hdeadline ?_
  simp only [h.provider, h.price, Bool.false_eq_true, if_false]
  refine .bind_run hblocked ?_
  simp only [hfn]
  unfold nativeTarget
  refine .bind (Q := fun r w₁ _ => r = .ok false ∧ ∃ now, w₁.circuit =
    w.circuit.recordFailure target.provider now) ?_ ?_ ?_
  · refine .bind_run (run_pure _ _) ?_
    obtain ⟨t₀, s₁, h₁⟩ := G.run_monotonic { w' with outer := s }
    refine .bind_run h₁ ?_
    obtain ⟨e, hexc, hterminal, he⟩ := hstream target G.retry.timeoutS s₁
    have hopen : (outsideDo (fn target request G.retry.timeoutS)).run { w' with outer := s₁ } =
        (.ok (.ok ⟨[], some e⟩), { w' with outer := s₁ }, []) := by
      rw [outsideDo, run_modifyGet, he]
    refine .bind_run hopen (.bind_run (run_emit _ _) ?_)
    simp only [streamFrom]
    refine .bind_run (run_emit _ _) ?_
    simp only [firstPullFailed, hexc, hterminal, Bool.not_true, Bool.false_eq_true, if_false]
    obtain ⟨now, s₂, h₂⟩ := G.run_reportFailure { w' with outer := s₁ } target.provider
    refine .bind_run h₂ ?_
    obtain ⟨latency, s₃, h₃⟩ := G.run_recordStreamAttempt
      { w' with outer := s₂, circuit := w'.circuit.recordFailure target.provider now } target
      .retriable t₀ (some e.msg)
    exact .bind_run h₃ (.of_run (run_pure _ _) ⟨rfl, now, by rw [← hw]⟩)
  · rintro ended w₁ es₁ ⟨hover, now, hcircuit⟩
    obtain rfl := Except.ok.inj hover
    simp only [Bool.false_eq_true, if_false, streamWalk]
    refine .bind_run (run_gets _ _) ?_
    obtain ⟨latency, s₄, h₄⟩ := G.run_recordError w₁ request started none .allFailed
      (w₁.attempts.getLast?.bind Attempt.error) none
    refine .bind_run h₄ (.of_run (run_raise _ _) ?_)
    unfold ChargedOnce
    rw [← CircuitBreaker.fails_recordFailure now h.enabled h.idle, ← hcircuit]
  · rintro e w₁ es₁ ⟨hr, -⟩
    cases hr

end Gateway

section Calls

open Gateway

variable (h : Alone G request target P w) (hP : FailsLocally P request)

include h hP

/-- A local failure is counted against the only target of an `invoke` call. -/
lemma Alone.charged_invoke :
    ChargedOnce target.provider w ((G.invoke request).final w) := by
  have hkey : G.cacheKeyFor request = .ok none := by simp [cacheKeyFor, h.cache]
  have hdeadline : G.deadlineFor (G.startedAt w) = none := if_neg (not_lt.mpr h.deadline)
  unfold Prog.final
  rw [run_invoke_keyed w h.valid hkey]
  change Prog.Sat _ _ (fun _ w' _ => ChargedOnce target.provider w w')
  rw [invokeKeyed]
  refine .bind_run (Prog.run_pure _ _) ?_
  rcases G.checkBudget_spec request (G.startWorld w) (G.startedAt w) none
    with ⟨-, hb⟩ | ⟨e, latency, s, he, -⟩
  · refine .bind_run hb ?_
    rcases G.resolveTargets_spec request (G.startWorld w) (G.startedAt w) none
      with ⟨targets, hr, hrun⟩ | ⟨e, latency, s, he, -⟩
    · obtain rfl := Except.ok.inj (h.resolve.symm.trans hr)
      refine .bind_run hrun ?_
      rw [hdeadline]
      exact charged_walk h hP _ _ rfl
    · rw [h.resolve] at he
      cases he
  · have hbudget := h.budget
    rw [show w.budget = (G.startWorld w).budget from rfl, he] at hbudget
    cases hbudget

/-- A local failure is counted against the only target of an `invoke_stream` call. -/
lemma Alone.charged_invokeStream :
    ChargedOnce target.provider w ((G.invokeStream request).final w) := by
  change Prog.Sat (G.invokeStream request) w (fun _ w' _ => ChargedOnce target.provider w w')
  rw [invokeStream]
  refine .bind_run (Prog.run_modify _ _) ?_
  obtain ⟨started, s₁, h₁⟩ := G.run_monotonic { w with attempts := [] }
  refine .bind_run h₁ ?_
  rcases G.checkRequest_spec request { w with attempts := [], outer := s₁ } started
    with ⟨-, hv⟩ | ⟨e, latency, s, he, -⟩
  · refine .bind_run hv ?_
    rcases G.checkBudget_spec request { w with attempts := [], outer := s₁ }
      started none with ⟨-, hb⟩ | ⟨e, latency, s, he, -⟩
    · refine .bind_run hb ?_
      rcases G.resolveTargets_spec request
        { w with attempts := [], outer := s₁ } started none
        with ⟨targets, hr, hrun⟩ | ⟨e, latency, s, he, -⟩
      · obtain rfl := Except.ok.inj (h.resolve.symm.trans hr)
        refine .bind_run hrun ?_
        rw [deadlineFor, if_neg (not_lt.mpr h.deadline)]
        exact charged_streamWalk h hP _ _ rfl
      · rw [h.resolve] at he
        cases he
    · exact absurd (h.budget.symm.trans he) (by simp)
  · exact absurd (h.valid.symm.trans he) (by simp)

end Calls

/-! ## The two adapters -/

/-- A gateway with one provider, and one target for a model. -/
def loneGateway (py : Runtime) (P : Provider σ) (model : Str) : Gateway σ where
  py := py
  outside := ⟨fun s => (0, s), fun _ s => s, fun a _ s => (a, s)⟩
  router := ⟨[(model, [⟨"p", "m"⟩])], []⟩
  providers := [("p", P)]
  costMeter := ⟨[], false⟩

/-- A valid request goes to the only target. -/
lemma alone_loneGateway {py : Runtime}
    (hvalid : validateLocalContent py request.messages request.toolChoice = .ok ()) (s : σ) :
    Alone (loneGateway py P request.model) request ⟨"p", "m"⟩ P ⟨s, {}, {}, [], none⟩ where
  valid := hvalid
  resolve := by simp [Router.resolve, loneGateway]
  provider := by simp [loneGateway]
  price := rfl
  cache := rfl
  deadline := le_rfl
  budget := rfl
  enabled := (by decide +kernel : ({} : CircuitBreaker).enabled = true)
  closed := rfl
  idle := rfl

/-- A provider that fails on a request locally does not spare its breaker. -/
lemma FailsLocally.not_sparesBreaker [Nonempty σ] {py : Runtime} (hP : FailsLocally P request)
    (hvalid : validateLocalContent py request.messages request.toolChoice = .ok ()) :
    ¬ SparesBreaker py P (fun G => G.invoke request) ∧
      ¬ SparesBreaker py P (fun G => G.invokeStream request) := by
  obtain ⟨s⟩ := ‹Nonempty σ›
  have halone := alone_loneGateway (P := P) hvalid s
  have hne : ∀ w' : World σ, ChargedOnce "p" ⟨s, {}, {}, [], none⟩ w' →
      w'.circuit.verdict "p" ≠ (({} : CircuitBreaker)).verdict "p" := by
    intro w' hw' heq
    have hfails : w'.circuit.fails.getD "p" 0 = 0 := congrArg Prod.fst heq
    rw [ChargedOnce, hfails] at hw'
    exact absurd hw' (by simp [OrderedDict.getD])
  refine ⟨fun h => hne _ (halone.charged_invoke hP) ?_,
    fun h => hne _ (halone.charged_invokeStream hP) ?_⟩
  · exact h (loneGateway py P request.model) "p" _ rfl halone.provider
  · exact h (loneGateway py P request.model) "p" _ rfl halone.provider

section Adapters

variable {py : Runtime}
  (hvalid : validateLocalContent py request.messages request.toolChoice = .ok ())

include hvalid

/-- A request that the OpenAI adapter cannot translate fails locally. -/
lemma failsLocally_openAI (client : OpenAIClient σ) (h : ¬ OpenAIShaped request = true) :
    FailsLocally (openAIProvider py client) request := by
  have hraise : ∀ target timeout, ∃ e : Exc, e.IsForeign ∧
      chatKwargs py target request timeout = .error e := by
    intro target timeout
    rw [← chatKwargs_returns_iff target timeout hvalid, Except.not_returns_iff] at h
    obtain ⟨e, he⟩ := h
    exact ⟨e, raises_chatKwargs target timeout hvalid e he, he⟩
  refine ⟨fun target timeout s => ?_, _, rfl, fun target timeout s => ?_⟩
  · obtain ⟨e, hforeign, he⟩ := hraise target timeout
    exact ⟨e.msg, by simp [openAIProvider, he, typedError_of_isForeign hforeign]⟩
  · obtain ⟨e, hforeign, he⟩ := hraise target timeout
    exact ⟨e, hforeign.isException, hforeign.isTerminal, by simp [he]⟩

/-- A request that the Anthropic adapter cannot translate fails locally. -/
lemma failsLocally_anthropic (hloads : ∀ s, (py.loads s).Raises Exc.IsForeign)
    (client : AnthropicClient σ) (h : ¬ AnthropicShaped py request = true) :
    FailsLocally (anthropicProvider py client) request := by
  have hraise : ∀ target timeout, ∃ e : Exc, e.IsForeign ∧
      messageKwargs py target request timeout = .error e := by
    intro target timeout
    rw [← messageKwargs_returns_iff target timeout hvalid, Except.not_returns_iff] at h
    obtain ⟨e, he⟩ := h
    exact ⟨e, raises_messageKwargs target timeout hvalid hloads e he, he⟩
  refine ⟨fun target timeout s => ?_, _, rfl, fun target timeout s => ?_⟩
  · obtain ⟨e, hforeign, he⟩ := hraise target timeout
    exact ⟨e.msg, by simp [anthropicProvider, he, typedError_of_isForeign hforeign]⟩
  · obtain ⟨e, hforeign, he⟩ := hraise target timeout
    refine ⟨.retriable e.msg, rfl, rfl, by simp [he, typedError_of_isForeign hforeign]⟩

omit hvalid in
/-- A provider whose failures are counted is spared only by requests on which it does not fail. -/
lemma spares_iff {shaped : Prop} {Returns : Target → ℚ → Prop} {Spares : Prop}
    (hreturns : ∀ target timeout, Returns target timeout ↔ shaped)
    (hcharged : ¬ shaped → ¬ Spares) :
    ((∀ target timeout, ¬ Returns target timeout) → Spares) ↔ shaped := by
  constructor
  · intro h
    by_contra hn
    exact hcharged hn (h fun target timeout hr => hn ((hreturns target timeout).mp hr))
  · intro hs hraises
    exact absurd ((hreturns ⟨[], []⟩ 0).mpr hs) (hraises _ _)

/-- **Local errors and the breaker.** For a valid request, `invoke` and `invoke_stream` leave the
breaker's verdict on an adapter alone whenever its translation raises, in every gateway and every
state of the breaker, exactly when the request has the shape that the adapter translates, so that
it never raises. -/
theorem local_errors_spare_breaker_iff [Nonempty σ]
    (hloads : ∀ s, (py.loads s).Raises Exc.IsForeign) (openai : OpenAIClient σ)
    (anthropic : AnthropicClient σ) :
    ((((∀ target timeout, ¬ (chatKwargs py target request timeout).Returns) →
          SparesBreaker py (openAIProvider py openai) (fun G => G.invoke request)) ↔
        OpenAIShaped request = true) ∧
      (((∀ target timeout, ¬ (chatKwargs py target request timeout).Returns) →
          SparesBreaker py (openAIProvider py openai) (fun G => G.invokeStream request)) ↔
        OpenAIShaped request = true)) ∧
    ((((∀ target timeout, ¬ (messageKwargs py target request timeout).Returns) →
          SparesBreaker py (anthropicProvider py anthropic) (fun G => G.invoke request)) ↔
        AnthropicShaped py request = true) ∧
      (((∀ target timeout, ¬ (messageKwargs py target request timeout).Returns) →
          SparesBreaker py (anthropicProvider py anthropic) (fun G => G.invokeStream request)) ↔
        AnthropicShaped py request = true)) := by
  have hopenai := fun h => (failsLocally_openAI hvalid openai h).not_sparesBreaker hvalid
  have hanthropic := fun h =>
    (failsLocally_anthropic hvalid hloads anthropic h).not_sparesBreaker hvalid
  refine ⟨⟨?_, ?_⟩, ?_, ?_⟩
  · exact spares_iff (fun t τ => chatKwargs_returns_iff t τ hvalid) fun h => (hopenai h).1
  · exact spares_iff (fun t τ => chatKwargs_returns_iff t τ hvalid) fun h => (hopenai h).2
  · exact spares_iff (fun t τ => messageKwargs_returns_iff t τ hvalid) fun h => (hanthropic h).1
  · exact spares_iff (fun t τ => messageKwargs_returns_iff t τ hvalid) fun h => (hanthropic h).2

end Adapters

/-- A client that answers every request in a scripted world with an empty completion. -/
def emptyOpenAI : OpenAIClient Scripted where
  create _ s := (.ok ⟨[], none⟩, s)
  createStream _ s := (.ok ⟨[], none⟩, s)
  createEmbeddings _ _ _ s := (.ok ([], none), s)

/-- A client that answers every request in a scripted world with an empty message. -/
def emptyAnthropic : AnthropicClient Scripted where
  create _ s := (.ok ⟨[], none, 0, 0, none⟩, s)
  createStream _ s := (.ok ⟨[], none⟩, s)

/-- A request with a tool that has no name. -/
def namelessTool : NormalizedRequest :=
  { plainRequest with tools := some [.obj [("description", .str "no name")]] }

/-- A gateway with an OpenAI backend that answers every request it gets. -/
def healthyGateway : Gateway Scripted := loneGateway .plain (openAIProvider .plain emptyOpenAI) "m"

/-- The world after five calls in a row. -/
def afterFive {α : Type} (call : Call Scripted α) : World Scripted := call.final^[5] { outer := {} }

/-- The request is valid and its translation raises; five `invoke` calls, or five `invoke_stream`
calls, with it open the breaker of a provider that never got a request. -/
theorem namelessTool_opens_breaker :
    validateLocalContent .plain namelessTool.messages namelessTool.toolChoice = .ok () ∧
      (∀ target timeout, ¬ (chatKwargs .plain target namelessTool timeout).Returns) ∧
      ({} : CircuitBreaker).verdict "p" = (0, false) ∧
      (afterFive (healthyGateway.invoke namelessTool)).circuit.verdict "p" = (5, true) ∧
      (afterFive (healthyGateway.invokeStream namelessTool)).circuit.verdict "p" = (5, true) := by
  refine ⟨by decide +kernel, fun target timeout h => ?_, by decide +kernel, by decide +kernel,
    by decide +kernel⟩
  have hshape := (chatKwargs_returns_iff target timeout (by decide +kernel)).mp h
  exact absurd hshape (by decide +kernel)

/-- The request with a nameless tool, on both adapters. -/
theorem local_errors_spare_breaker_iff_namelessTool :
    ((((∀ target timeout, ¬ (chatKwargs .plain target namelessTool timeout).Returns) →
          SparesBreaker .plain (openAIProvider .plain emptyOpenAI)
            (fun G => G.invoke namelessTool)) ↔
        OpenAIShaped namelessTool = true) ∧
      (((∀ target timeout, ¬ (chatKwargs .plain target namelessTool timeout).Returns) →
          SparesBreaker .plain (openAIProvider .plain emptyOpenAI)
            (fun G => G.invokeStream namelessTool)) ↔
        OpenAIShaped namelessTool = true)) ∧
    ((((∀ target timeout, ¬ (messageKwargs .plain target namelessTool timeout).Returns) →
          SparesBreaker .plain (anthropicProvider .plain emptyAnthropic)
            (fun G => G.invoke namelessTool)) ↔
        AnthropicShaped .plain namelessTool = true) ∧
      (((∀ target timeout, ¬ (messageKwargs .plain target namelessTool timeout).Returns) →
          SparesBreaker .plain (anthropicProvider .plain emptyAnthropic)
            (fun G => G.invokeStream namelessTool)) ↔
        AnthropicShaped .plain namelessTool = true)) := by
  have hloads : ∀ s, (Runtime.plain.loads s).Raises Exc.IsForeign := by
    intro s
    exact (Except.raises_error _).mpr ⟨rfl, rfl, rfl⟩
  exact local_errors_spare_breaker_iff (by decide +kernel) hloads emptyOpenAI emptyAnthropic

end AgentCtl
