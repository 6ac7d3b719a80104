import AgentCtl.Core.DrainedStreams
import AgentCtl.Core.ErrorText
import AgentCtl.Core.RunnerFrames
import AgentCtl.Core.InvokeRuns
import AgentCtl.Server.App

set_option relaxedAutoImplicit false
set_option autoImplicit false

/-!
# Streams of providers that cannot stream

`invoke_stream` at a provider without native streaming calls `invoke` on it and cuts the response
into chunks. Over a whole chain of such providers the two runners do the same: they read the clock
at the same moments, make the same calls and reports, and record the same. What the chunks carry is
compared with the response: its tool calls are in `raw`, and the last chunk has none.

## Main definitions

* `AgentCtl.chunksOf` — the chunks of a response.
* `AgentCtl.StreamsLike` — a streaming run that does what a run of `invoke` does.
* `AgentCtl.SameCall` — what the two runners are compared by.

## Main results

* `Gateway.streamsLike` — draining `invoke_stream` does what `invoke` does.
* `AgentCtl.sameCall_iff` — the two agree when no response has tool calls.
-/

namespace AgentCtl

variable {σ : Type}

/-! ## The simulation -/

/-- The chunks that `_chunks_of` makes of a response. -/
def chunksOf (resp : NormalizedResponse) : List StreamChunk :=
  textChunks resp.text ++ [Gateway.responseDone resp]

/-- A streaming run that does what a run of `invoke` does: it leaves the same world and emits the
same events, and then delivers the chunks of the response, or raises an exception of the same
class. -/
def StreamsLike (x : Except Exc NormalizedResponse × World σ × List (Event σ))
    (y : Except Exc Unit × World σ × List (Event σ)) : Prop :=
  y.2.1 = x.2.1 ∧
    match x.1 with
    | .ok resp => y.1 = .ok () ∧ y.2.2 = x.2.2 ++ (chunksOf resp).map Event.deliver
    | .error e => (∃ e', y.1 = .error e' ∧ e'.cls = e.cls) ∧ y.2.2 = x.2.2

namespace StreamsLike

/-- Both runs raise, in the same world. -/
lemma raise {e e' : Exc} (h : e'.cls = e.cls) (w : World σ) :
    StreamsLike ((Prog.raise e : Call σ NormalizedResponse).run w)
      ((Prog.raise e' : Call σ Unit).run w) :=
  ⟨rfl, ⟨e', rfl, h⟩, rfl⟩

/-- Both runs begin with the same program. -/
lemma bind {α : Type} {m : Call σ α} {f : α → Call σ NormalizedResponse} {g : α → Call σ Unit}
    {w : World σ} (h : ∀ a w₁ es, m.run w = (.ok a, w₁, es) →
      StreamsLike ((f a).run w₁) ((g a).run w₁)) :
    StreamsLike ((m >>= f).run w) ((m >>= g).run w) := by
  rcases hm : m.run w with ⟨e | a, w₁, es⟩
  · rw [Prog.run_bind_error hm, Prog.run_bind_error hm]
    exact ⟨rfl, ⟨e, rfl, rfl⟩, rfl⟩
  · rw [Prog.run_bind_ok hm, Prog.run_bind_ok hm]
    obtain ⟨hw, hout⟩ := h a w₁ es hm
    refine ⟨hw, ?_⟩
    dsimp only
    rcases hf : ((f a).run w₁).1 with e | resp
    · rw [hf] at hout
      obtain ⟨he, hes⟩ := hout
      exact ⟨he, congrArg (es ++ ·) hes⟩
    · rw [hf] at hout
      obtain ⟨hr, hes⟩ := hout
      refine ⟨hr, ?_⟩
      rw [hes, List.append_assoc]

/-- Both runs begin with the same program, which runs in a known way. -/
lemma bind_run {α : Type} {m : Call σ α} {f : α → Call σ NormalizedResponse} {g : α → Call σ Unit}
    {w w₁ : World σ} {a : α} {es : List (Event σ)} (hm : m.run w = (.ok a, w₁, es))
    (h : StreamsLike ((f a).run w₁) ((g a).run w₁)) :
    StreamsLike ((m >>= f).run w) ((m >>= g).run w) := by
  refine bind fun b w₂ es₂ hb => ?_
  obtain ⟨hab, hrest⟩ := Prod.ext_iff.mp (hm.symm.trans hb)
  obtain ⟨hw, -⟩ := Prod.ext_iff.mp hrest
  obtain rfl := Except.ok.inj hab
  obtain rfl : w₁ = w₂ := hw
  exact h

end StreamsLike

namespace Gateway

variable (G : Gateway σ) (request : NormalizedRequest) (started : ℚ) (deadline : Option ℚ)

/-- A patient consumer gets the chunks of a response. -/
lemma run_yieldResponse {w : World σ} (hw : w.patience = none) (resp : NormalizedResponse) :
    (yieldResponse resp).run w = (.ok (), w, (chunksOf resp).map Event.deliver) := by
  have htext : (yieldText resp.text : Call σ Unit).run w =
      (.ok (), w, (textChunks resp.text).map Event.deliver) := by
    unfold yieldText textChunks
    split
    · rfl
    · rw [run_yieldOrExit_patient _ hw]
      rfl
  rw [yieldResponse, Prog.run_bind_ok htext, run_yieldOrExit_patient _ hw, chunksOf,
    List.map_append]
  rfl

/-- The retry loop lets a timeout escape neither as it is nor to a streaming consumer. -/
lemma not_isTimeout_of_invokeTarget {provider : Provider σ} {target : Target} {w w₁ : World σ}
    {e : Exc} {es : List (Event σ)}
    (h : (G.invokeTarget provider target request deadline).run w = (.error e, w₁, es))
    (hterminal : e.isTerminal = false) (hretriable : e.isRetriable = false) :
    e.isTimeout = false := by
  have hspec := G.invokeTarget_spec provider target request deadline w
  unfold Prog.Sat Prog.out Prog.final Prog.trace at hspec
  rw [h] at hspec
  obtain ⟨ending, attempts, s, hrounds, hout, -⟩ := hspec
  cases ending with
  | answered resp => cases hout
  | refused e' =>
    obtain rfl := Except.error.inj hout
    rw [hrounds.isTerminal] at hterminal
    cases hterminal
  | exhausted =>
    obtain ⟨msg, hmsg⟩ := hout
    obtain rfl := Except.error.inj hmsg
    cases hretriable
  | cut =>
    obtain rfl := Except.error.inj hout
    cases hretriable
  | escaped e' =>
    obtain rfl := Except.error.inj hout
    exact (Exc.of_not_isTyped hrounds.isTyped).2.2.1

/-- A visit leaves the consumer as it is. -/
lemma patience_of_invokeTarget {provider : Provider σ} {target : Target} {w w₁ : World σ}
    {r : Except Exc NormalizedResponse} {es : List (Event σ)}
    (h : (G.invokeTarget provider target request deadline).run w = (r, w₁, es)) :
    w₁.patience = w.patience := by
  have hspec := G.invokeTarget_spec provider target request deadline w
  unfold Prog.Sat Prog.out Prog.final Prog.trace at hspec
  rw [h] at hspec
  obtain ⟨ending, attempts, s, -, -, hw, -⟩ := hspec
  have hw₁ : w₁ = { w with outer := s, attempts := w.attempts ++ attempts } := hw
  rw [hw₁]

/-- The end of a chain without an answer. -/
lemma streamsLike_allFailed (w : World σ) :
    StreamsLike ((G.allFailed request started none).run w)
      ((G.streamAllFailed request started).run w) := by
  rw [allFailed, streamAllFailed]
  have hcls : (G.streamAllFailedExc request).cls = (G.allFailedExc request).cls := rfl
  exact .bind fun attempts w₁ _ _ => .bind fun _ w₂ _ _ => StreamsLike.raise hcls w₂

/-- What the two runners make of an answer. -/
lemma streamsLike_answered (t : Target) (resp : NormalizedResponse) (idx : ℕ)
    (next : Bool → Call σ Unit) (hnext : next true = pure ()) {w : World σ}
    (hw : w.patience = none) :
    StreamsLike
      ((do
        reportSuccess t.provider
        G.cacheSet none resp
        G.recordAnswer request started none t resp idx
        return resp : Call σ NormalizedResponse).run w)
      (((do
        reportSuccess t.provider
        G.captureOk request started t resp idx
        yieldResponse resp
        return true : Call σ Bool) >>= next).run w) := by
  rw [Prog.bind_bind]
  refine .bind_run (run_reportSuccess _ _) ?_
  have hset : (G.cacheSet none resp).run { w with circuit := w.circuit.recordSuccess t.provider } =
      (.ok (), { w with circuit := w.circuit.recordSuccess t.provider }, []) := rfl
  rw [Prog.run_bind_ok hset, Prog.bind_bind]
  obtain ⟨cost, latency, s, hrecord⟩ := G.run_recordAnswer
    { w with circuit := w.circuit.recordSuccess t.provider } request started none t resp idx
  have hcapture : (G.captureOk request started t resp idx).run
      { w with circuit := w.circuit.recordSuccess t.provider } = _ := hrecord
  rw [Prog.run_bind_ok hrecord, Prog.run_bind_ok hcapture, Prog.bind_bind]
  have hyield := run_yieldResponse (σ := σ) (w := { w with
    circuit := w.circuit.recordSuccess t.provider, outer := s,
    budget := w.budget.add request.metadata.consumerName cost }) hw resp
  rw [Prog.run_bind_ok hyield]
  have hend : ((pure true : Call σ Bool) >>= next) = pure () := hnext
  rw [hend]
  refine ⟨rfl, rfl, ?_⟩
  simp

/-- The loops of the two runners over a chain, by induction on the targets to come. -/
lemma streamsLike_walk {targets : List Target}
    (hbuffered : ∀ t ∈ targets, ∀ P, G.providers.get? t.provider = some P → P.stream = none)
    (idx : ℕ) {w : World σ} (hw : w.patience = none) :
    StreamsLike ((G.walk request started none deadline idx targets).run w)
      ((G.streamWalk request started deadline idx targets).run w) := by
  induction targets generalizing idx w with
  | nil => exact G.streamsLike_allFailed request started w
  | cons t rest ih =>
    have hrest : ∀ t' ∈ rest, ∀ P, G.providers.get? t'.provider = some P → P.stream = none :=
      fun t' ht' => hbuffered t' (List.mem_cons_of_mem _ ht')
    unfold walk streamWalk
    obtain ⟨passed, s, hpassed⟩ := G.run_deadlineExceeded w t deadline
    refine .bind_run hpassed ?_
    cases passed with
    | true => exact G.streamsLike_allFailed request started _
    | false =>
      simp only [Bool.false_eq_true, if_false]
      cases hget : G.providers.get? t.provider with
      | none =>
        dsimp only
        refine .bind fun _ w₂ _ _ => ?_
        exact .raise rfl w₂
      | some provider =>
        dsimp only
        cases hprice : G.costMeter.ensurePrice t.name with
        | error e =>
          dsimp only
          exact .bind fun _ w₂ _ _ => .raise rfl w₂
        | ok u =>
          dsimp only
          obtain ⟨now, s₁, hblocked⟩ := G.run_circuitBlocked
            { w with outer := s, attempts := w.attempts ++ [] } t
          refine .bind_run hblocked ?_
          cases hallow : (!(w.circuit.allow t.provider now).1) with
          | true =>
            simp only [if_true]
            exact ih hrest (idx + 1) hw
          | false =>
            simp only [Bool.false_eq_true, if_false]
            rw [hbuffered t List.mem_cons_self provider hget]
            dsimp only
            unfold bufferedTarget
            rw [Prog.bind_bind]
            refine .bind fun out w₂ es₂ hout => ?_
            have hinvoke := Prog.run_of_attempt hout
            have hpatience : w₂.patience = none :=
              (G.patience_of_invokeTarget request deadline hinvoke).trans hw
            cases out with
            | ok resp => exact G.streamsLike_answered request started t resp idx _ rfl hpatience
            | error e =>
              dsimp only
              by_cases hterminal : e.isTerminal = true
              · simp only [hterminal, if_true]
                rw [Prog.bind_bind]
                refine .bind fun _ w₃ _ _ => ?_
                rw [Prog.bind_bind]
                exact .bind fun _ w₄ _ _ => .raise rfl w₄
              simp only [hterminal, Bool.false_eq_true, if_false]
              by_cases hdeadline : e.isDeadline = true
              · simp only [hdeadline, if_true]
                exact ih hrest (idx + 1) hpatience
              simp only [hdeadline, Bool.false_eq_true, if_false]
              by_cases hretriable : e.isRetriable = true
              · simp only [hretriable, Bool.true_or, if_true]
                rw [Prog.bind_bind]
                obtain ⟨now₃, s₃, hreport⟩ := G.run_reportFailure w₂ t.provider
                exact .bind_run hreport (ih hrest (idx + 1) hpatience)
              · have htimeout := G.not_isTimeout_of_invokeTarget request deadline hinvoke
                  (by simpa using hterminal) (by simpa using hretriable)
                simp only [hretriable, htimeout, Bool.or_self, Bool.false_eq_true, if_false]
                exact .raise rfl w₂

/-- With caching off, both runners raise the same before the first target, or they walk the same
chain from the same world. -/
lemma runs_uncached (w : World σ) (hcache : (G.cache.isNone || !G.cacheEnabled) = true) :
    (∃ e w' es, (G.invoke request).run w = (.error e, w', es) ∧
      (G.invokeStream request).run w = (.error e, w', es) ∧ callsOf es = []) ∨
    ∃ started s targets, G.router.resolve G.py request.model = .ok targets ∧
      (G.invoke request).run w = (G.walk request started none (G.deadlineFor started) 0 targets).run
        { w with attempts := [], outer := s } ∧
      (G.invokeStream request).run w = (G.streamWalk request started (G.deadlineFor started) 0
        targets).run { w with attempts := [], outer := s } := by
  obtain ⟨started, s, hclock⟩ := G.run_monotonic { w with attempts := [] }
  have hkey : G.cacheKeyFor request = .ok none := by rw [cacheKeyFor, if_pos hcache]
  have hkeyed : (Prog.ofExcept (G.cacheKeyFor request) >>= G.invokeKeyed request started) =
      (do
        G.checkBudget request started none
        let targets ← G.resolveTargets request started none
        G.walk request started none (G.deadlineFor started) 0 targets) := by
    rw [hkey]
    rfl
  rw [invoke, invokeStream, Prog.run_bind_ok (Prog.run_modify _ _),
    Prog.run_bind_ok (Prog.run_modify _ _), Prog.run_bind_ok hclock, Prog.run_bind_ok hclock,
    hkeyed]
  simp only [List.nil_append, Prod.mk.eta]
  rcases G.checkRequest_spec request { w with attempts := [], outer := s } started
    with ⟨-, hvalid⟩ | ⟨e, latency, s', -, hinvalid⟩
  swap
  · by_cases he : e.isTerminal = true
    · rw [if_pos he] at hinvalid
      exact .inl ⟨_, _, _, Prog.run_bind_error hinvalid, Prog.run_bind_error hinvalid, by simp⟩
    · rw [if_neg he] at hinvalid
      exact .inl ⟨_, _, _, Prog.run_bind_error hinvalid, Prog.run_bind_error hinvalid, by simp⟩
  rw [Prog.run_bind_ok hvalid, Prog.run_bind_ok hvalid]
  simp only [List.nil_append, Prod.mk.eta]
  rcases G.checkBudget_spec request { w with attempts := [], outer := s } started none
    with ⟨-, hbudget⟩ | ⟨e, latency, s', -, hspent⟩
  swap
  · exact .inl ⟨_, _, _, Prog.run_bind_error hspent, Prog.run_bind_error hspent, by simp⟩
  rw [Prog.run_bind_ok hbudget, Prog.run_bind_ok hbudget]
  simp only [List.nil_append, Prod.mk.eta]
  rcases G.resolveTargets_spec request { w with attempts := [], outer := s } started none
    with ⟨targets, hresolve, hrouted⟩ | ⟨e, latency, s', -, hunrouted⟩
  swap
  · exact .inl ⟨_, _, _, Prog.run_bind_error hunrouted, Prog.run_bind_error hunrouted,
      by simp⟩
  refine .inr ⟨started, s, targets, hresolve, ?_, ?_⟩
  · rw [Prog.run_bind_ok hrouted]
    simp
  · rw [Prog.run_bind_ok hrouted]
    simp

/-- With caching off, draining `invoke_stream` does what `invoke` does. -/
lemma streamsLike_invoke {w : World σ} (hw : w.patience = none)
    (hcache : (G.cache.isNone || !G.cacheEnabled) = true)
    (hbuffered : ∀ targets, G.router.resolve G.py request.model = .ok targets →
      ∀ t ∈ targets, ∀ P, G.providers.get? t.provider = some P → P.stream = none) :
    StreamsLike ((G.invoke request).run w) ((G.invokeStream request).run w) := by
  rcases G.runs_uncached request w hcache
    with ⟨e, w', es, hinvoke, hstream, -⟩ | ⟨started, s, targets, hresolve, hinvoke, hstream⟩
  · rw [hinvoke, hstream]
    exact ⟨rfl, ⟨e, rfl, rfl⟩, rfl⟩
  · rw [hinvoke, hstream]
    exact G.streamsLike_walk request started _ (hbuffered targets hresolve) 0 hw

/-- `invoke` delivers no chunks. -/
lemma deliveredOf_invoke (w : World σ) : deliveredOf ((G.invoke request).trace w) = [] := by
  have hcovers : Covers G (AllEvents fun e => e.delivered? = none) fun _ => True := by
    constructor
    case frame => exact frame_allEvents _
    all_goals
      intros
      simp [AllEvents, Event.delivered?]
  have hkeeps := hcovers.steps.keeps_invoke request
    (fun key => keeps_allEvents_of_trace (G.trace_cacheGet key))
    (fun key resp => keeps_allEvents_of_trace (G.trace_cacheSet key resp))
    fun _ _ _ _ _ => trivial
  exact List.filterMap_eq_nil_iff.mpr (hkeeps w)

/-- With caching off, the answer of a call is the one response that a provider gives in it. -/
lemma out_invoke_iff {w : World σ} (hcache : (G.cache.isNone || !G.cacheEnabled) = true)
    (resp : NormalizedResponse) :
    (G.invoke request).out w = .ok resp ↔
      ∃ c ∈ callsOf ((G.invoke request).trace w), c.out = .ok resp := by
  unfold Prog.out Prog.trace
  rcases G.runs_uncached request w hcache
    with ⟨e, w', es, hinvoke, -, hcalls⟩ | ⟨started, s, targets, -, hinvoke, -⟩
  · rw [hinvoke, hcalls]
    simp
  · rw [hinvoke]
    exact (G.walk_spec request none started _ targets 0 _).out_iff resp

end Gateway

/-! ## The two calls compared -/

section Delivered

variable (chunks : List StreamChunk)

/-- Deliveries deliver. -/
lemma deliveredOf_map_deliver :
    deliveredOf (chunks.map (Event.deliver : StreamChunk → Event σ)) = chunks := by
  simp [deliveredOf, List.filterMap_map, Function.comp_def, Event.delivered?]

/-- Deliveries record nothing. -/
lemma recordsOf_map_deliver :
    recordsOf (chunks.map (Event.deliver : StreamChunk → Event σ)) = [] := by
  simp [recordsOf, List.filterMap_map, Function.comp_def, Event.record?]

/-- Deliveries save nothing. -/
lemma savesOf_map_deliver :
    savesOf (chunks.map (Event.deliver : StreamChunk → Event σ)) = [] := by
  simp [savesOf, List.filterMap_map, Function.comp_def, Event.save?]

end Delivered

/-- The tool calls in the raw content of a response; a content that cannot be read has none. -/
def rawToolCalls (resp : NormalizedResponse) : List Json :=
  (rawToolUsesToOpenai resp).toOption.getD []

/-- A tool call of a stream in OpenAI form. -/
def StreamToolCall.toCall (tc : StreamToolCall) : Json :=
  .obj [("id", .str tc.id), ("type", .str "function"),
    ("function", .obj [("name", .str tc.name), ("arguments", .str tc.arguments)])]

/-- Chunks that carry what a response carries: its text, and in the last one its finish reason, its
token counts and its tool calls. -/
structure Carries (chunks : List StreamChunk) (resp : NormalizedResponse) : Prop where
  text : (chunks.filter fun c => !c.done).flatMap StreamChunk.text = resp.text
  last : ∃ c, chunks.getLast? = some c ∧ c.done = true ∧ c.finishReason = resp.finishReason ∧
    c.inputTokens = resp.inputTokens ∧ c.outputTokens = resp.outputTokens ∧
    (c.toolCalls.getD []).map StreamToolCall.toCall = rawToolCalls resp

/-- Draining `invoke_stream` is equivalent to calling `invoke`: the same world is left, with its
breaker, budget and attempts; the same is recorded and saved; and the chunks carry the response, or
the exceptions are of one class. -/
structure SameCall (G : Gateway σ) (request : NormalizedRequest) (w : World σ) : Prop where
  final : (G.invokeStream request).final w = (G.invoke request).final w
  records : recordsOf ((G.invokeStream request).trace w) = recordsOf ((G.invoke request).trace w)
  saves : savesOf ((G.invokeStream request).trace w) = savesOf ((G.invoke request).trace w)
  outcome : match (G.invoke request).out w with
    | .ok resp => (G.invokeStream request).out w = .ok () ∧
        Carries (deliveredOf ((G.invokeStream request).trace w)) resp
    | .error e => (∃ e', (G.invokeStream request).out w = .error e' ∧ e'.cls = e.cls) ∧
        deliveredOf ((G.invokeStream request).trace w) = []

/-- The chunks of a response carry all but its tool calls. -/
lemma carries_chunksOf {resp : NormalizedResponse} :
    Carries (chunksOf resp) resp ↔ rawToolCalls resp = [] := by
  have hlast : (chunksOf resp).getLast? = some (Gateway.responseDone resp) :=
    List.getLast?_concat
  constructor
  · rintro ⟨-, c, hc, -, -, -, -, hcalls⟩
    obtain rfl := Option.some.inj (hlast.symm.trans hc)
    exact hcalls.symm
  · intro h
    refine ⟨?_, _, hlast, rfl, rfl, rfl, rfl, h.symm⟩
    unfold chunksOf textChunks
    split
    · next hempty => simp [Gateway.responseDone, hempty]
    · simp [Gateway.responseDone]

/-- What a streaming run that does what a run of `invoke` does makes of the comparison. -/
lemma sameCall_iff_of_streamsLike {G : Gateway σ} {request : NormalizedRequest} {w : World σ}
    (h : StreamsLike ((G.invoke request).run w) ((G.invokeStream request).run w)) :
    SameCall G request w ↔
      ∀ resp, (G.invoke request).out w = .ok resp → rawToolCalls resp = [] := by
  have hsilent : deliveredOf ((G.invoke request).trace w) = [] := G.deliveredOf_invoke request w
  obtain ⟨hfinal, hout⟩ := h
  change (G.invokeStream request).final w = (G.invoke request).final w at hfinal
  change match (G.invoke request).out w with
    | .ok resp => (G.invokeStream request).out w = .ok () ∧
        (G.invokeStream request).trace w = (G.invoke request).trace w ++
          (chunksOf resp).map Event.deliver
    | .error e => (∃ e', (G.invokeStream request).out w = .error e' ∧ e'.cls = e.cls) ∧
        (G.invokeStream request).trace w = (G.invoke request).trace w at hout
  cases hinvoke : (G.invoke request).out w with
  | error e =>
    rw [hinvoke] at hout
    obtain ⟨hraised, htrace⟩ := hout
    constructor
    · rintro - resp ⟨⟩
    · intro _
      refine ⟨hfinal, by rw [htrace], by rw [htrace], ?_⟩
      rw [hinvoke, htrace]
      exact ⟨hraised, hsilent⟩
  | ok resp =>
    rw [hinvoke] at hout
    obtain ⟨hended, htrace⟩ := hout
    have hdelivered : deliveredOf ((G.invokeStream request).trace w) = chunksOf resp := by
      rw [htrace, deliveredOf_append, hsilent, List.nil_append, deliveredOf_map_deliver]
    constructor
    · rintro ⟨-, -, -, hcarries⟩ resp' hresp'
      obtain rfl := Except.ok.inj hresp'
      rw [hinvoke, hdelivered] at hcarries
      exact carries_chunksOf.mp hcarries.2
    · intro hnone
      refine ⟨hfinal, ?_, ?_, ?_⟩
      · rw [htrace, recordsOf_append, recordsOf_map_deliver, List.append_nil]
      · rw [htrace, savesOf, List.filterMap_append, ← savesOf, ← savesOf, savesOf_map_deliver,
          List.append_nil]
      · rw [hinvoke, hdelivered]
        exact ⟨hended, carries_chunksOf.mpr (hnone resp rfl)⟩

/-- **Streams of providers that cannot stream.** Over a chain of such providers, with caching off,
draining `invoke_stream` is equivalent to calling `invoke` exactly when no response that a provider
gives in the call has a tool call in its raw content. -/
theorem sameCall_iff (G : Gateway σ) (request : NormalizedRequest) (w : World σ)
    (hcache : (G.cache.isNone || !G.cacheEnabled) = true) (hdrained : w.patience = none)
    (hbuffered : ∀ targets, G.router.resolve G.py request.model = .ok targets →
      ∀ t ∈ targets, ∀ P, G.providers.get? t.provider = some P → P.stream = none) :
    SameCall G request w ↔ ∀ c ∈ callsOf ((G.invoke request).trace w),
      ∀ resp, c.out = .ok resp → rawToolCalls resp = [] := by
  rw [sameCall_iff_of_streamsLike (G.streamsLike_invoke request hdrained hcache hbuffered)]
  constructor
  · intro h c hc resp hresp
    exact h resp ((G.out_invoke_iff request hcache resp).mpr ⟨c, hc, hresp⟩)
  · intro h resp hout
    obtain ⟨c, hc, hresp⟩ := (G.out_invoke_iff request hcache resp).mp hout
    exact h c hc resp hresp

/-- A response that asks for a call of a tool. -/
def toolResponse : NormalizedResponse :=
  { text := [], finishReason := some "tool_use", toolCalls := 1,
    raw := some [("content", .arr [.obj [("type", .str "tool_use"), ("id", .str "t1"),
      ("name", .str "get_weather"), ("input", .obj [])]])] }

/-- The first target asks for a call of a tool. -/
def askForTool : World Scripted := { outer := { outcomes := [(1, .ok toolResponse)] } }

/-- **The tool call is lost.** The response of the provider has a tool call, the last chunk of the
stream has none. -/
theorem askForTool_loses_call : ¬ SameCall scriptedGateway plainRequest askForTool := by
  intro h
  have hlike : StreamsLike ((scriptedGateway.invoke plainRequest).run askForTool)
      ((scriptedGateway.invokeStream plainRequest).run askForTool) :=
    scriptedGateway.streamsLike_invoke plainRequest rfl rfl fun _ _ _ _ P hP => by
      rw [scriptedProvider_of_get? hP]
      rfl
  have hout : (scriptedGateway.invoke plainRequest).out askForTool = .ok toolResponse := rfl
  have hnone : rawToolCalls toolResponse = [] :=
    (sameCall_iff_of_streamsLike hlike).mp h toolResponse hout
  exact absurd hnone (by decide +kernel)

/-- The comparison at the provider that asks for a tool. -/
theorem sameCall_iff_askForTool :
    SameCall scriptedGateway plainRequest askForTool ↔
      ∀ c ∈ callsOf ((scriptedGateway.invoke plainRequest).trace askForTool),
        ∀ resp, c.out = .ok resp → rawToolCalls resp = [] :=
  sameCall_iff scriptedGateway plainRequest askForTool rfl rfl fun _ _ _ _ P hP => by
    rw [scriptedProvider_of_get? hP]
    rfl

end AgentCtl
