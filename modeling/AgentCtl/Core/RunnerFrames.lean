import AgentCtl.Core.EmbeddingRunner
import AgentCtl.Core.StreamRunner

set_option relaxedAutoImplicit false
set_option autoImplicit false

/-!
# Frames of the runners

What holds of every step of a call holds of the call. A frame is a relation between the world before
a part of a call, the world after it and its events, that composes along runs; once it holds of the
steps a call is made of, it holds of `invoke`, `invoke_stream` and `embed`. Which targets a call may
reach is given as a predicate: providers are called for such targets only, and only such targets
have answers that are recorded. What touches the cache is left to those who use the frame.

## Main definitions

* `AgentCtl.Covers` — a frame that holds of the steps of a call.
* `AgentCtl.CoversSteps` — the same, with a charge and the save of its record as one step.
* `AgentCtl.AllEvents` — the frame of a law about events.

## Main results

* `CoversSteps.keeps_invoke`, `CoversSteps.keeps_invokeStream`, `CoversSteps.keeps_embed` — the
  kinds of calls.
-/

namespace AgentCtl

open Prog Gateway

variable {σ : Type}

/-- Events of a stream that is open. -/
def Event.isStreaming : Event σ → Bool
  | .pull .. | .late .. | .deliver .. | .close => true
  | _ => false

/-- The status of an answered call. -/
def Status.isSuccess : Status → Bool
  | .success | .fallbackSuccess => true
  | _ => false

/-- A record of an answer that is not from the cache has the response and the name of a target
that may be reached. -/
def Captured.From (reached : Target → Prop) (c : Captured) : Prop :=
  c.status.isSuccess = true → c.cacheHit = false →
    ∃ t resp, reached t ∧ c.modelResolved = some t.name ∧ c.resp = some resp

/-- A record of an embeddings call that was answered has the response and the name of a target that
may be reached. -/
def CapturedEmbed.From (reached : Target → Prop) (c : CapturedEmbed) : Prop :=
  c.status.isSuccess = true →
    ∃ t resp, reached t ∧ c.modelResolved = some t.name ∧ c.resp = some resp

/-- The exception of a call that raises. -/
def raisedBy {α : Type} : Except Exc α → Option Exc
  | .ok _ => none
  | .error e => some e

/-- A frame that holds of the steps of a call at targets that may be reached. -/
structure Covers (G : Gateway σ) (R : World σ → World σ → List (Event σ) → Prop)
    (reached : Target → Prop) : Prop where
  frame : Frame R
  own : ∀ w w' : World σ, w'.outer = w.outer → R w w' []
  monotonic : ∀ w, R w { w with outer := (G.outside.monotonic w.outer).2 } []
  uniform : ∀ a b w, R w { w with outer := (G.outside.uniform a b w.outer).2 } []
  sleep : ∀ d w, R w { w with outer := G.outside.sleep d w.outer } [.sleep d w.outer]
  report : ∀ p ok w, R w w [.report p ok]
  call : ∀ {name provider}, G.providers.get? name = some provider → ∀ {t}, reached t →
    ∀ request slot w, R w { w with outer := (provider.invoke t request slot.timeout w.outer).2 }
      [.call t slot (provider.invoke t request slot.timeout w.outer).1]
  streamCall : ∀ {name provider fn}, G.providers.get? name = some provider →
    provider.stream = some fn → ∀ {t}, reached t →
    ∀ request slot w, R w { w with outer := (fn t request slot.timeout w.outer).2 }
      [.streamCall t slot (raisedBy (fn t request slot.timeout w.outer).1)]
  embedCall : ∀ {name provider fn}, G.providers.get? name = some provider →
    provider.embed = some fn → ∀ {t}, reached t →
    ∀ inputs slot w, R w { w with outer := (fn t inputs slot.timeout w.outer).2 }
      [.embedCall t slot (fn t inputs slot.timeout w.outer).1]
  record : ∀ c w, c.From reached → R w w [.record c]
  save : ∀ request latency c w, c.From reached → R w w [.save (G.callRecord request latency c)]
  recordEmbed : ∀ c w, c.From reached → R w w [.recordEmbed c]
  saveEmbed : ∀ model metadata latency c w, c.From reached →
    R w w [.save (G.embedRecord model metadata latency c)]

/-- What is emitted for a record: it is saved if there is a store. -/
def Gateway.savedEvents (G : Gateway σ) (r : CallRecord) : List (Event σ) :=
  if G.hasStore then [.save r] else []

/-- A frame that holds of the steps of a call at targets that may be reached, where a capture
charges the budget and saves its record in one step. -/
structure CoversSteps (G : Gateway σ) (R : World σ → World σ → List (Event σ) → Prop)
    (reached : Target → Prop) : Prop where
  frame : Frame R
  own : ∀ w w' : World σ, w'.outer = w.outer → w'.budget = w.budget → R w w' []
  monotonic : ∀ w, R w { w with outer := (G.outside.monotonic w.outer).2 } []
  uniform : ∀ a b w, R w { w with outer := (G.outside.uniform a b w.outer).2 } []
  sleep : ∀ d w, R w { w with outer := G.outside.sleep d w.outer } [.sleep d w.outer]
  report : ∀ p ok w, R w w [.report p ok]
  call : ∀ {name provider}, G.providers.get? name = some provider → ∀ {t}, reached t →
    ∀ request slot w, R w { w with outer := (provider.invoke t request slot.timeout w.outer).2 }
      [.call t slot (provider.invoke t request slot.timeout w.outer).1]
  streamCall : ∀ {name provider fn}, G.providers.get? name = some provider →
    provider.stream = some fn → ∀ {t}, reached t →
    ∀ request slot w, R w { w with outer := (fn t request slot.timeout w.outer).2 }
      [.streamCall t slot (raisedBy (fn t request slot.timeout w.outer).1)]
  embedCall : ∀ {name provider fn}, G.providers.get? name = some provider →
    provider.embed = some fn → ∀ {t}, reached t →
    ∀ inputs slot w, R w { w with outer := (fn t inputs slot.timeout w.outer).2 }
      [.embedCall t slot (fn t inputs slot.timeout w.outer).1]
  record : ∀ c w, c.From reached → R w w [.record c]
  persist : ∀ request latency c w, c.From reached →
    R w { w with budget := w.budget.add request.metadata.consumerName (G.capturedCost c) }
      (G.savedEvents (G.callRecord request latency c))
  recordEmbed : ∀ c w, c.From reached → R w w [.recordEmbed c]
  persistEmbed : ∀ model metadata latency c w, c.From reached →
    R w { w with budget := w.budget.add metadata.consumerName (G.capturedEmbedCost c) }
      (G.savedEvents (G.embedRecord model metadata latency c))

/-- A frame that holds of every change of the state of a call holds of a charge. -/
lemma Covers.steps {G : Gateway σ} {R : World σ → World σ → List (Event σ) → Prop}
    {reached : Target → Prop} (hR : Covers G R reached) : CoversSteps G R reached where
  frame := hR.frame
  own w w' h _ := hR.own w w' h
  monotonic := hR.monotonic
  uniform := hR.uniform
  sleep := hR.sleep
  report := hR.report
  call := hR.call
  streamCall := hR.streamCall
  embedCall := hR.embedCall
  record := hR.record
  persist request latency c w hc := by
    unfold Gateway.savedEvents
    split
    · have hcharge := hR.own w { w with
        budget := w.budget.add request.metadata.consumerName (G.capturedCost c) } rfl
      exact hR.frame.trans hcharge (hR.save request latency c _ hc)
    · exact hR.own w _ rfl
  recordEmbed := hR.recordEmbed
  persistEmbed model metadata latency c w hc := by
    unfold Gateway.savedEvents
    split
    · have hcharge := hR.own w { w with
        budget := w.budget.add metadata.consumerName (G.capturedEmbedCost c) } rfl
      exact hR.frame.trans hcharge (hR.saveEmbed model metadata latency c _ hc)
    · exact hR.own w _ rfl

/-- The frame of a law about events: it holds of all of them. -/
def AllEvents (P : Event σ → Prop) (_ _ : World σ) (es : List (Event σ)) : Prop := ∀ e ∈ es, P e

/-- Laws about events compose along runs. -/
lemma frame_allEvents (P : Event σ → Prop) : Frame (AllEvents P) where
  refl _ := List.forall_mem_nil P
  trans h h' e he := (List.mem_append.mp he).elim (h e) (h' e)

/-- A program that emits nothing keeps every law about events. -/
lemma keeps_allEvents_of_trace {α : Type} {P : Event σ → Prop} {m : Call σ α}
    (h : ∀ w, m.trace w = []) : Keeps (AllEvents P) m := by
  intro w e he
  rw [h w] at he
  cases he

/-- Reading the cache emits nothing. -/
lemma Gateway.trace_cacheGet (G : Gateway σ) (key : Option Str) (w : World σ) :
    (G.cacheGet key).trace w = [] := by
  unfold cacheGet
  split
  · next k c hc =>
    have hread : (outsideDo (c.get k) : Call σ _).run w =
        (.ok (c.get k w.outer).1, { w with outer := (c.get k w.outer).2 }, []) := rfl
    rw [trace, run_bind_ok hread]
    cases (c.get k w.outer).1 <;> rfl
  · rfl

/-- Writing to the cache emits nothing. -/
lemma Gateway.trace_cacheSet (G : Gateway σ) (key : Option Str) (resp : NormalizedResponse)
    (w : World σ) : (G.cacheSet key resp).trace w = [] := by
  unfold cacheSet
  split <;> rfl

/-- The charge of a capture, and the save of its record. -/
lemma Gateway.run_meterAndPersist (G : Gateway σ) (w : World σ) (consumer : Str) (cost : Option ℚ)
    (r : CallRecord) : (G.meterAndPersist consumer cost r).run w =
      (.ok (), { w with budget := w.budget.add consumer cost }, G.savedEvents r) := by
  unfold meterAndPersist savedEvents
  cases G.hasStore with
  | true => rfl
  | false => rfl

namespace CoversSteps

variable {G : Gateway σ} {R : World σ → World σ → List (Event σ) → Prop} {reached : Target → Prop}
  (hR : CoversSteps G R reached)

include hR

/-! ## Parts of programs -/

section Parts

variable {α β : Type} {m : Call σ α} {f : α → Call σ β}

/-- Returning a value. -/
lemma pure (a : α) : Keeps R (pure a : Call σ α) := Keeps.pure hR.frame a

/-- Raising an exception. -/
lemma raise (e : Exc) : Keeps R (Prog.raise e : Call σ α) := Keeps.raise hR.frame e

/-- Reading the state. -/
lemma gets (g : World σ → α) : Keeps R (Prog.gets g : Call σ α) := Keeps.gets hR.frame g

/-- Changing the state of the call. -/
lemma modify {g : World σ → World σ} (hg : ∀ w, (g w).outer = w.outer)
    (hbudget : ∀ w, (g w).budget = w.budget) : Keeps R (Prog.modify g : Call σ Unit) :=
  fun w => hR.own w (g w) (hg w) (hbudget w)

/-- Raising, or not. -/
lemma ofExcept (x : Except Exc α) : Keeps R (Prog.ofExcept x : Call σ α) :=
  Keeps.ofExcept hR.frame x

/-- Programs may be sequenced. -/
lemma bind (hm : Keeps R m) (hf : ∀ a, Keeps R (f a)) : Keeps R (m >>= f) :=
  Keeps.bind hR.frame hm hf

end Parts

/-! ## Guards, reports and records -/

/-- A reading of the clock. -/
lemma keeps_monotonic : Keeps R G.monotonic := fun w => hR.monotonic w

/-- A report. -/
lemma keeps_report (p : Str) (ok : Bool) : Keeps R (emit (.report p ok) : Call σ Unit) :=
  fun w => hR.report p ok w

/-- Measuring a latency. -/
lemma keeps_latencySince (started : ℚ) : Keeps R (G.latencySince started) :=
  hR.bind hR.keeps_monotonic fun _ => hR.pure _

/-- An attempt with its latency. -/
lemma keeps_recordAttempt (target : Target) (outcome : AttemptOutcome) (started : ℚ)
    (error : Option Str) : Keeps R (G.recordAttempt target outcome started error) :=
  hR.bind (hR.keeps_latencySince started) fun _ => hR.modify (fun _ => rfl) fun _ => rfl

/-- An attempt of a stream. -/
lemma keeps_recordStreamAttempt (target : Target) (outcome : AttemptOutcome) (started : ℚ)
    (error : Option Str) : Keeps R (G.recordStreamAttempt target outcome started error) := by
  unfold recordStreamAttempt
  split
  · exact hR.modify (fun _ => rfl) fun _ => rfl
  · exact hR.keeps_recordAttempt _ _ _ _

/-- A reading of the clock, or none. -/
lemma keeps_monotonicIf (needed : Bool) : Keeps R (G.monotonicIf needed) := by
  cases needed with
  | true => exact hR.keeps_monotonic
  | false => exact hR.pure _

/-- The deadline guard. -/
lemma keeps_deadlineExceeded (target : Target) (deadline : Option ℚ) :
    Keeps R (G.deadlineExceeded target deadline) := by
  unfold deadlineExceeded
  split
  · exact hR.pure _
  · refine hR.bind hR.keeps_monotonic fun now => ?_
    split
    · exact hR.bind (hR.modify (fun _ => rfl) fun _ => rfl) fun _ => hR.pure _
    · exact hR.pure _

/-- The timeout of an attempt. -/
lemma keeps_timeoutWithin (deadline : Option ℚ) : Keeps R (G.timeoutWithin deadline) := by
  unfold timeoutWithin
  split
  · exact hR.pure _
  · exact hR.bind hR.keeps_monotonic fun _ => hR.pure _

/-- The breaker guard. -/
lemma keeps_circuitBlocked (target : Target) : Keeps R (G.circuitBlocked target) := by
  refine hR.bind ?_ fun allowed => ?_
  · refine hR.bind (hR.gets _) fun cb => hR.bind (hR.keeps_monotonicIf _) fun now => ?_
    exact hR.bind (hR.modify (fun _ => rfl) fun _ => rfl) fun _ => hR.pure _
  · split
    · exact hR.pure _
    · exact hR.bind (hR.modify (fun _ => rfl) fun _ => rfl) fun _ => hR.pure _

/-- The budget's answer. -/
lemma keeps_budgetCheck (consumer : Str) : Keeps R (G.budgetCheck consumer) :=
  hR.bind (hR.gets _) fun _ => hR.ofExcept _

/-- Reporting a success. -/
lemma keeps_reportSuccess (provider : Str) : Keeps R (reportSuccess provider : Call σ Unit) :=
  hR.bind (hR.modify (fun _ => rfl) fun _ => rfl) fun _ => hR.keeps_report _ _

/-- Reporting a failure. -/
lemma keeps_reportFailure (provider : Str) : Keeps R (G.reportFailure provider) := by
  refine hR.bind (hR.gets _) fun cb => hR.bind (hR.keeps_monotonicIf _) fun now => ?_
  exact hR.bind (hR.modify (fun _ => rfl) fun _ => rfl) fun _ => hR.keeps_report _ _

/-- A pause between two attempts. -/
lemma keeps_pause (n : ℕ) : Keeps R (G.pause n) := by
  unfold pause
  split
  · refine hR.bind ?_ fun d => ?_
    · unfold backoff
      dsimp only
      split
      · exact hR.pure _
      · exact hR.bind (fun w => hR.uniform _ _ w) fun _ => hR.pure _
    · exact fun w => hR.sleep d w
  · exact hR.pure _

/-- The capture of a call. -/
lemma keeps_record (request : NormalizedRequest) (started : ℚ) {c : Captured}
    (hc : c.From reached) : Keeps R (G.record request started c) := by
  refine hR.bind (fun w => hR.record c w hc) fun _ =>
    hR.bind (hR.keeps_latencySince started) fun latency => ?_
  refine .of_run fun w => ?_
  exact ⟨_, _, _, G.run_meterAndPersist w _ _ _, hR.persist request latency c w hc⟩

/-- The capture of an embeddings call. -/
lemma keeps_recordEmbed (model : Str) (metadata : Metadata) (started : ℚ) {c : CapturedEmbed}
    (hc : c.From reached) : Keeps R (G.recordEmbed model metadata started c) := by
  refine hR.bind (fun w => hR.recordEmbed c w hc) fun _ =>
    hR.bind (hR.keeps_latencySince started) fun latency => ?_
  refine .of_run fun w => ?_
  exact ⟨_, _, _, G.run_meterAndPersist w _ _ _, hR.persistEmbed model metadata latency c w hc⟩

/-- The capture of a failed call. -/
lemma keeps_recordError (request : NormalizedRequest) (started : ℚ) (key : Option Str)
    (errorType : ErrorType) (message resolved : Option Str) :
    Keeps R (G.recordError request started key errorType message resolved) := by
  refine hR.bind (hR.gets _) fun _ => hR.keeps_record request started ?_
  rintro ⟨⟩

/-- The capture of an answered call. -/
lemma keeps_recordAnswer (request : NormalizedRequest) (started : ℚ) (key : Option Str)
    {target : Target} (ht : reached target) (resp : NormalizedResponse) (idx : ℕ) :
    Keeps R (G.recordAnswer request started key target resp idx) :=
  hR.bind (hR.gets _) fun _ => hR.keeps_record request started fun _ _ =>
    ⟨target, resp, ht, rfl, rfl⟩

/-- The capture of a failed embeddings call. -/
lemma keeps_recordEmbedError (model : Str) (metadata : Metadata) (started : ℚ)
    (errorType : ErrorType) (message resolved : Option Str) :
    Keeps R (G.recordEmbedError model metadata started errorType message resolved) := by
  refine hR.bind (hR.gets _) fun _ => hR.keeps_recordEmbed model metadata started ?_
  rintro ⟨⟩

/-- The capture of a failed call, and its exception. -/
lemma keeps_recordError_raise {α : Type} (request : NormalizedRequest) (started : ℚ)
    (key : Option Str) (errorType : ErrorType) (message resolved : Option Str) (e : Exc) :
    Keeps R (G.recordError request started key errorType message resolved >>= fun _ =>
      (Prog.raise e : Call σ α)) :=
  hR.bind (hR.keeps_recordError request started key errorType message resolved) fun _ => hR.raise e

/-- The capture of a failed embeddings call, and its exception. -/
lemma keeps_recordEmbedError_raise {α : Type} (model : Str) (metadata : Metadata) (started : ℚ)
    (errorType : ErrorType) (message resolved : Option Str) (e : Exc) :
    Keeps R (G.recordEmbedError model metadata started errorType message resolved >>= fun _ =>
      (Prog.raise e : Call σ α)) :=
  hR.bind (hR.keeps_recordEmbedError model metadata started errorType message resolved) fun _ =>
    hR.raise e

/-- The capture of a stream. -/
lemma keeps_capture (request : NormalizedRequest) (started : ℚ) {target : Target}
    (ht : reached target) (resp : NormalizedResponse) (status : Status)
    (errorType : Option ErrorType) (message : Option Str) :
    Keeps R (G.capture request started target resp status errorType message) :=
  hR.bind (hR.gets _) fun _ => hR.keeps_record request started fun _ _ =>
    ⟨target, resp, ht, rfl, rfl⟩

/-! ## Calls of providers -/

/-- The attempts at one target. -/
lemma keeps_invokeTargetFrom {name : Str} {provider : Provider σ}
    (hp : G.providers.get? name = some provider) {target : Target} (ht : reached target)
    (request : NormalizedRequest) (deadline : Option ℚ) (left n : ℕ) (last : Exc) :
    Keeps R (G.invokeTargetFrom provider target request deadline n last left) := by
  induction left generalizing n last with
  | zero => exact hR.raise _
  | succ left ih =>
    rw [invokeTargetFrom]
    refine hR.bind (hR.keeps_timeoutWithin deadline) fun slot => ?_
    cases slot with
    | none => exact hR.raise _
    | some slot =>
      refine hR.bind hR.keeps_monotonic fun started => hR.bind ?_ fun out => ?_
      · exact fun w => hR.call hp ht request slot w
      cases out with
      | ok resp => exact hR.bind (hR.keeps_recordAttempt _ _ _ _) fun _ => hR.pure _
      | error e =>
        dsimp only
        split
        · exact hR.bind (hR.keeps_recordAttempt _ _ _ _) fun _ => hR.raise _
        · split
          · exact hR.bind (hR.keeps_recordAttempt _ _ _ _) fun _ =>
              hR.bind (hR.keeps_pause n) fun _ => ih (n + 1) e
          · exact hR.raise _

/-- The attempt of an embeddings call. -/
lemma keeps_embedTarget {name : Str} {provider : Provider σ}
    (hp : G.providers.get? name = some provider)
    {fn : Target → List Str → ℚ → σ → Except Exc EmbeddingResponse × σ}
    (hfn : provider.embed = some fn) {target : Target} (ht : reached target) (model : Str)
    (inputs : List Str)
    (metadata : Metadata) (started : ℚ) (slot : TimeoutSlot) (idx : ℕ) :
    Keeps R (G.embedTarget fn target model inputs metadata started slot idx) := by
  refine hR.bind hR.keeps_monotonic fun startedT => hR.bind ?_ fun out => ?_
  · exact fun w => hR.embedCall hp hfn ht inputs slot w
  cases out with
  | ok resp =>
    refine hR.bind (hR.keeps_reportSuccess _) fun _ =>
      hR.bind (hR.keeps_recordAttempt _ _ _ _) fun _ => hR.bind (hR.gets _) fun attempts => ?_
    refine hR.bind (hR.keeps_recordEmbed model metadata started fun _ => ?_) fun _ => hR.pure _
    exact ⟨target, resp, ht, rfl, rfl⟩
  | error e =>
    dsimp only
    split
    · exact hR.bind (hR.keeps_reportFailure _) fun _ =>
        hR.bind (hR.keeps_recordAttempt _ _ _ _) fun _ =>
        hR.keeps_recordEmbedError_raise _ _ _ _ _ _ _
    split
    · exact hR.bind (hR.keeps_reportFailure _) fun _ =>
        hR.bind (hR.keeps_recordAttempt _ _ _ _) fun _ => hR.pure _
    · exact hR.raise _

/-- The validation. -/
lemma keeps_checkRequest (request : NormalizedRequest) (started : ℚ) :
    Keeps R (G.checkRequest request started) := by
  unfold checkRequest
  split
  · exact hR.pure _
  · dsimp only
    split
    · exact hR.keeps_recordError_raise _ _ _ _ _ _ _
    · exact hR.raise _

/-- The budget gate. -/
lemma keeps_checkBudget (request : NormalizedRequest) (started : ℚ) (key : Option Str) :
    Keeps R (G.checkBudget request started key) := by
  refine hR.bind (.attempt (hR.keeps_budgetCheck _)) fun r => ?_
  split
  · exact hR.pure _
  · exact hR.keeps_recordError_raise _ _ _ _ _ _ _

/-- The routing, and what follows it. -/
lemma keeps_resolveTargets {α : Type} (request : NormalizedRequest) (started : ℚ)
    (key : Option Str) {f : List Target → Call σ α}
    (hf : ∀ targets, G.router.resolve G.py request.model = .ok targets → Keeps R (f targets)) :
    Keeps R (G.resolveTargets request started key >>= f) := by
  unfold resolveTargets
  split
  · next targets h => exact hf targets h
  · next e _ =>
    rw [Prog.bind_bind]
    -- what follows the routing is not reached
    exact hR.keeps_recordError_raise _ _ _ _ _ _ _

/-! ## Chains -/

/-- The end of a chain without an answer. -/
lemma keeps_allFailed (request : NormalizedRequest) (started : ℚ) (key : Option Str) :
    Keeps R (G.allFailed request started key) :=
  hR.bind (hR.gets _) fun _ => hR.keeps_recordError_raise _ _ _ _ _ _ _

/-- The loop of `invoke`, by induction on the targets to come. -/
lemma keeps_walk (request : NormalizedRequest) (started : ℚ) {key : Option Str}
    (hset : ∀ resp, Keeps R (G.cacheSet key resp)) (deadline : Option ℚ) {targets : List Target}
    (hreached : ∀ t ∈ targets, G.costMeter.ensurePrice t.name = .ok () → reached t) (idx : ℕ) :
    Keeps R (G.walk request started key deadline idx targets) := by
  induction targets generalizing idx with
  | nil => exact hR.keeps_allFailed request started key
  | cons t rest ih =>
    obtain ⟨ht, hrest⟩ := List.forall_mem_cons.mp hreached
    rw [walk]
    refine hR.bind (hR.keeps_deadlineExceeded t deadline) fun passed => ?_
    split
    · exact hR.keeps_allFailed request started key
    split
    · exact hR.keeps_recordError_raise _ _ _ _ _ _ _
    next provider hp =>
    split
    · exact hR.keeps_recordError_raise _ _ _ _ _ _ _
    next hprice =>
    refine hR.bind (hR.keeps_circuitBlocked t) fun blocked => ?_
    split
    · exact ih hrest (idx + 1)
    refine hR.bind (.attempt (hR.keeps_invokeTargetFrom hp (ht hprice) request deadline _ _ _))
      fun out => ?_
    cases out with
    | ok resp =>
      exact hR.bind (hR.keeps_reportSuccess _) fun _ => hR.bind (hset resp) fun _ =>
        hR.bind (hR.keeps_recordAnswer request started _ (ht hprice) resp idx) fun _ => hR.pure _
    | error e =>
      dsimp only
      split
      · exact hR.bind (hR.keeps_reportFailure _) fun _ => hR.keeps_recordError_raise _ _ _ _ _ _ _
      split
      · exact ih hrest (idx + 1)
      split
      · exact hR.bind (hR.keeps_reportFailure _) fun _ => ih hrest (idx + 1)
      · exact hR.raise _

/-- **Frames of `invoke`.** A frame that covers the priced targets of the chain and what the call
does to the cache holds of the call. -/
lemma keeps_invoke (request : NormalizedRequest) (hget : ∀ key, Keeps R (G.cacheGet key))
    (hset : ∀ key resp, Keeps R (G.cacheSet key resp))
    (hreached : ∀ targets, G.router.resolve G.py request.model = .ok targets →
      ∀ t ∈ targets, G.costMeter.ensurePrice t.name = .ok () → reached t) :
    Keeps R (G.invoke request) := by
  refine hR.bind (hR.modify (fun _ => rfl) fun _ => rfl) fun _ => ?_
  refine hR.bind hR.keeps_monotonic fun started => ?_
  refine hR.bind (hR.keeps_checkRequest request started) fun _ =>
    hR.bind (hR.ofExcept _) fun key => hR.bind (hget key) fun cached => ?_
  split
  · refine hR.bind (hR.keeps_record request started ?_) fun _ => hR.pure _
    rintro - ⟨⟩
  · refine hR.bind (hR.keeps_checkBudget request started key) fun _ => ?_
    exact hR.keeps_resolveTargets request started key fun targets h =>
      hR.keeps_walk request started (hset key) _ (hreached targets h) 0

/-- The loop of `embed`, by induction on the targets to come. -/
lemma keeps_embedWalk (model : Str) (inputs : List Str) (metadata : Metadata) (started : ℚ)
    (deadline : Option ℚ) {targets : List Target}
    (hreached : ∀ t ∈ targets, G.costMeter.ensurePrice t.name = .ok () → reached t) (idx : ℕ) :
    Keeps R (G.embedWalk model inputs metadata started deadline idx targets) := by
  have hfail : Keeps R (G.embedAllFailed model metadata started) :=
    hR.bind (hR.gets _) fun _ => hR.keeps_recordEmbedError_raise _ _ _ _ _ _ _
  induction targets generalizing idx with
  | nil => exact hfail
  | cons t rest ih =>
    obtain ⟨ht, hrest⟩ := List.forall_mem_cons.mp hreached
    rw [embedWalk]
    refine hR.bind (hR.keeps_deadlineExceeded t deadline) fun passed => ?_
    split
    · exact hfail
    split
    · exact hR.keeps_recordEmbedError_raise _ _ _ _ _ _ _
    next provider hp =>
    split
    · exact hR.bind (hR.modify (fun _ => rfl) fun _ => rfl) fun _ => ih hrest (idx + 1)
    next fn hfn =>
    split
    · exact hR.keeps_recordEmbedError_raise _ _ _ _ _ _ _
    next hprice =>
    refine hR.bind (hR.keeps_circuitBlocked t) fun blocked => ?_
    split
    · exact ih hrest (idx + 1)
    refine hR.bind (hR.keeps_timeoutWithin deadline) fun slot => ?_
    cases slot with
    | none => exact hR.bind (hR.modify (fun _ => rfl) fun _ => rfl) fun _ => hfail
    | some slot =>
      refine hR.bind (hR.keeps_embedTarget hp hfn (ht hprice) model inputs metadata started slot
        idx) fun r => ?_
      cases r with
      | some resp => exact hR.pure _
      | none => exact ih hrest (idx + 1)

/-- **Frames of `embed`.** A frame that covers the priced targets of the chain holds of the call. -/
lemma keeps_embed (model : Str) (inputs : List Str) (metadata : Metadata)
    (hreached : ∀ targets, G.router.resolve G.py model = .ok targets →
      ∀ t ∈ targets, G.costMeter.ensurePrice t.name = .ok () → reached t) :
    Keeps R (G.embed model inputs metadata) := by
  refine hR.bind (hR.modify (fun _ => rfl) fun _ => rfl) fun _ => ?_
  refine hR.bind hR.keeps_monotonic fun started => ?_
  refine hR.bind (.attempt (hR.keeps_budgetCheck _)) fun r => ?_
  split
  · exact hR.keeps_recordEmbedError_raise _ _ _ _ _ _ _
  split
  · exact hR.keeps_recordEmbedError_raise _ _ _ _ _ _ _
  next targets h =>
  exact hR.keeps_embedWalk model inputs metadata started _ (hreached targets h) 0

/-! ## Streams -/

section Streaming

variable (hstream : ∀ (e : Event σ) w, e.isStreaming = true → R w w [e])

include hstream

/-- A `yield`. -/
lemma keeps_yieldChunk (c : StreamChunk) : Keeps R (yieldChunk c : Call σ Bool) := by
  refine hR.bind (fun w => hstream _ w rfl) fun _ => hR.bind (hR.gets _) fun patience => ?_
  split
  · exact hR.pure _
  · exact hR.bind (fun w => hstream _ w rfl) fun _ => hR.pure _
  · exact hR.bind (hR.modify (fun _ => rfl) fun _ => rfl) fun _ => hR.pure _

/-- A `yield` outside any handler. -/
lemma keeps_yieldOrExit (c : StreamChunk) : Keeps R (yieldOrExit c : Call σ Unit) := by
  refine hR.bind (hR.keeps_yieldChunk hstream c) fun resumed => ?_
  split
  · exact hR.pure _
  · exact hR.raise _

/-- The deadline in mid-stream. -/
lemma keeps_cutByDeadline (deadline : Option ℚ) : Keeps R (G.cutByDeadline deadline) := by
  unfold cutByDeadline
  split
  · exact hR.pure _
  · refine hR.bind hR.keeps_monotonic fun now => ?_
    split
    · exact hR.bind (fun w => hstream _ w rfl) fun _ => hR.pure _
    · exact hR.pure _

/-- A `next` of the loop. -/
lemma keeps_pullUnless (pulled : Bool) (target : Target) (c : Option StreamChunk) :
    Keeps R (pullUnless pulled target c : Call σ Unit) := by
  unfold pullUnless
  split
  · exact hR.pure _
  · exact fun w => hstream _ w rfl

/-- The chunk loop, by induction on the chunks to come. -/
lemma keeps_streamLoop (request : NormalizedRequest) (started t₀ : ℚ) {target : Target}
    (ht : reached target) (deadline : Option ℚ) (ending : Option Exc) (v : StreamVars)
    (pulled : Bool) (items : List (Option StreamChunk)) :
    Keeps R (G.streamLoop request started t₀ target deadline ending v pulled items) := by
  induction items generalizing v pulled with
  | nil =>
    unfold streamLoop
    split
    · exact hR.bind (fun w => hstream _ w rfl) fun _ => hR.pure _
    · exact hR.bind (fun w => hstream _ w rfl) fun _ => hR.pure _
  | cons c rest ih =>
    unfold streamLoop
    refine hR.bind (hR.keeps_pullUnless hstream pulled target c) fun _ => ?_
    refine hR.bind (hR.keeps_cutByDeadline hstream deadline) fun cut => ?_
    split
    · exact hR.bind (hR.keeps_recordStreamAttempt _ _ _ _) fun _ =>
        hR.bind (hR.keeps_capture request started ht _ _ _ _) fun _ =>
        hR.bind (hR.keeps_yieldChunk hstream _) fun _ => hR.pure _
    cases c with
    | none => exact ih v false
    | some chunk =>
      dsimp only
      split
      · exact ih _ false
      split
      · exact ih _ false
      · refine hR.bind (hR.keeps_yieldChunk hstream chunk) fun resumed => ?_
        split
        · exact ih _ false
        · exact hR.pure _

/-- What follows the chunk loop. -/
lemma keeps_streamEnd (request : NormalizedRequest) (started t₀ : ℚ) {target : Target}
    (ht : reached target) (idx : ℕ) (v : StreamVars) (e : LoopEnd) :
    Keeps R (G.streamEnd request started t₀ target idx v e) := by
  cases e with
  | cut => exact hR.pure _
  | drained =>
    exact hR.bind (hR.keeps_reportSuccess _) fun _ =>
      hR.bind (hR.keeps_recordStreamAttempt _ _ _ _) fun _ =>
      hR.bind (hR.keeps_capture request started ht _ _ _ _) fun _ =>
      hR.bind (hR.keeps_yieldOrExit hstream _) fun _ => hR.pure _
  | raised e =>
    rw [streamEnd]
    split
    · refine hR.bind (hR.keeps_reportFailure _) fun _ => ?_
      split
      · exact hR.bind (hR.keeps_recordStreamAttempt _ _ _ _) fun _ => hR.pure _
      · exact hR.bind (hR.keeps_recordStreamAttempt _ _ _ _) fun _ =>
          hR.bind (hR.keeps_capture request started ht _ _ _ _) fun _ => hR.raise _
    · exact hR.bind (hR.keeps_recordStreamAttempt _ _ _ _) fun _ =>
        hR.bind (hR.keeps_capture request started ht _ _ _ _) fun _ => hR.raise _

/-- An iterator, from its first `next` on. -/
lemma keeps_streamFrom (request : NormalizedRequest) (started t₀ : ℚ) {target : Target}
    (ht : reached target) (deadline : Option ℚ) (idx : ℕ) (script : StreamScript) :
    Keeps R (G.streamFrom request started t₀ target deadline idx script) := by
  unfold streamFrom
  split
  · split
    · refine hR.bind (fun w => hstream _ w rfl) fun _ => ?_
      unfold firstPullFailed
      split
      · exact hR.raise _
      split
      · exact hR.bind (hR.keeps_reportFailure _) fun _ =>
          hR.bind (hR.keeps_recordStreamAttempt _ _ _ _) fun _ =>
          hR.keeps_recordError_raise _ _ _ _ _ _ _
      · exact hR.bind (hR.keeps_reportFailure _) fun _ =>
          hR.bind (hR.keeps_recordStreamAttempt _ _ _ _) fun _ => hR.pure _
    · exact hR.bind (fun w => hstream _ w rfl) fun _ =>
        hR.bind (hR.keeps_streamLoop hstream request started t₀ ht _ _ _ _ _) fun _ =>
        hR.keeps_streamEnd hstream request started t₀ ht idx _ _
  · exact hR.bind (fun w => hstream _ w rfl) fun _ =>
      hR.bind (hR.keeps_streamLoop hstream request started t₀ ht _ _ _ _ _) fun _ =>
      hR.keeps_streamEnd hstream request started t₀ ht idx _ _

/-- A target whose provider streams. -/
lemma keeps_nativeTarget {name : Str} {provider : Provider σ}
    (hp : G.providers.get? name = some provider)
    {fn : Target → NormalizedRequest → ℚ → σ → Except Exc StreamScript × σ}
    (hfn : provider.stream = some fn) {target : Target} (ht : reached target)
    (request : NormalizedRequest) (started : ℚ) (deadline : Option ℚ)
    (idx : ℕ) : Keeps R (G.nativeTarget fn target request started deadline idx) := by
  refine hR.bind (hR.keeps_timeoutWithin deadline) fun slot => ?_
  cases slot with
  | none => exact hR.bind (hR.modify (fun _ => rfl) fun _ => rfl) fun _ => hR.pure _
  | some slot =>
    refine hR.bind hR.keeps_monotonic fun t₀ => ?_
    -- the call, whatever comes of it, and what is done with its outcome
    let call : Call σ (Except Exc StreamScript) :=
      outsideDo (fn target request slot.timeout) >>= fun opened =>
        emit (.streamCall target slot (raisedBy opened)) >>= fun _ => Pure.pure opened
    have hcall : Keeps R call := fun w => hR.streamCall hp hfn ht request slot w
    have hrest : ∀ opened : Except Exc StreamScript, Keeps R (Prog.ofExcept opened >>= fun script =>
        G.streamFrom request started t₀ target deadline idx script) := fun opened =>
      hR.bind (hR.ofExcept opened) fun script =>
        hR.keeps_streamFrom hstream request started t₀ ht deadline idx script
    have hall := hR.bind hcall hrest
    rw [Prog.bind_bind] at hall
    convert hall using 3 with opened
    cases opened <;> rfl

/-- A target whose provider does not stream. -/
lemma keeps_bufferedTarget {name : Str} {provider : Provider σ}
    (hp : G.providers.get? name = some provider) {target : Target} (ht : reached target)
    (request : NormalizedRequest) (started : ℚ) (deadline : Option ℚ) (idx : ℕ) :
    Keeps R (G.bufferedTarget provider target request started deadline idx) := by
  refine hR.bind (.attempt (hR.keeps_invokeTargetFrom hp ht request deadline _ _ _))
    fun out => ?_
  cases out with
  | ok resp =>
    refine hR.bind (hR.keeps_reportSuccess _) fun _ =>
      hR.bind (hR.keeps_capture request started ht _ _ _ _) fun _ =>
      hR.bind (hR.bind ?_ fun _ => hR.keeps_yieldOrExit hstream _) fun _ => hR.pure _
    unfold yieldText
    split
    · exact hR.pure _
    · exact hR.keeps_yieldOrExit hstream _
  | error e =>
    dsimp only
    split
    · exact hR.bind (hR.keeps_reportFailure _) fun _ => hR.keeps_recordError_raise _ _ _ _ _ _ _
    split
    · exact hR.pure _
    split
    · exact hR.bind (hR.keeps_reportFailure _) fun _ => hR.pure _
    · exact hR.raise _

/-- The loop of `invoke_stream`, by induction on the targets to come. -/
lemma keeps_streamWalk (request : NormalizedRequest) (started : ℚ) (deadline : Option ℚ)
    {targets : List Target}
    (hreached : ∀ t ∈ targets, G.costMeter.ensurePrice t.name = .ok () → reached t) (idx : ℕ) :
    Keeps R (G.streamWalk request started deadline idx targets) := by
  have hfail : Keeps R (G.streamAllFailed request started) :=
    hR.bind (hR.gets _) fun _ => hR.keeps_recordError_raise _ _ _ _ _ _ _
  induction targets generalizing idx with
  | nil => exact hfail
  | cons t rest ih =>
    obtain ⟨ht, hrest⟩ := List.forall_mem_cons.mp hreached
    rw [streamWalk]
    refine hR.bind (hR.keeps_deadlineExceeded t deadline) fun passed => ?_
    split
    · exact hfail
    split
    · exact hR.keeps_recordError_raise _ _ _ _ _ _ _
    next provider hp =>
    split
    · exact hR.keeps_recordError_raise _ _ _ _ _ _ _
    next hprice =>
    refine hR.bind (hR.keeps_circuitBlocked t) fun blocked => ?_
    split
    · exact ih hrest (idx + 1)
    have hnext : ∀ ended : Bool, Keeps R (if ended then (Pure.pure () : Call σ Unit)
        else G.streamWalk request started deadline (idx + 1) rest) := by
      intro ended
      split
      · exact hR.pure _
      · exact ih hrest (idx + 1)
    dsimp only
    split
    · exact hR.bind (hR.keeps_bufferedTarget hstream hp (ht hprice) request started deadline idx)
        hnext
    · next fn hfn =>
      exact hR.bind (hR.keeps_nativeTarget hstream hp hfn (ht hprice) request started deadline idx)
        hnext

/-- **Frames of `invoke_stream`.** A frame that covers the priced targets of the chain and what an
open stream does holds of the call. -/
lemma keeps_invokeStream (request : NormalizedRequest)
    (hreached : ∀ targets, G.router.resolve G.py request.model = .ok targets →
      ∀ t ∈ targets, G.costMeter.ensurePrice t.name = .ok () → reached t) :
    Keeps R (G.invokeStream request) := by
  refine hR.bind (hR.modify (fun _ => rfl) fun _ => rfl) fun _ => ?_
  refine hR.bind hR.keeps_monotonic fun started => ?_
  refine hR.bind (hR.keeps_checkRequest request started) fun _ => ?_
  refine hR.bind (hR.keeps_checkBudget request started none) fun _ => ?_
  exact hR.keeps_resolveTargets request started none fun targets h =>
    hR.keeps_streamWalk hstream request started _ (hreached targets h) 0

end Streaming

end CoversSteps

end AgentCtl
