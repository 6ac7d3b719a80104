import AgentCtl.Core.StreamRunner
import AgentCtl.Core.InvokeRuns

set_option relaxedAutoImplicit false
set_option autoImplicit false

/-!
# How a stream visits its targets

What the chunk loop, the handlers around it, and the loop over the targets do, seen from the
consumer (the chunks delivered), from the targets (the text they offered, and when they were
started) and from the capturer (the records). A target that is given up has delivered nothing and
recorded nothing; the target at which the chain ends delivers its own text and then at most one
`done` chunk.

## Main definitions

* `AgentCtl.deliveredOf`, `AgentCtl.textOffersOf` — the chunks delivered, and the text offered.
* `AgentCtl.Event.isStart`, `isUnhandled`, `isClose` — events that start a target, exceptions that
  no handler records, and closes.
* `AgentCtl.LoopRun` — a run of the chunk loop.
* `AgentCtl.Quiet`, `AgentCtl.Delivery`, `AgentCtl.Accounted` — a target that is given up; what the
  consumer gets; how many records there are.

## Main results

* `AgentCtl.Gateway.streamLoop_spec` — the chunk loop.
* `AgentCtl.Gateway.nativeTarget_spec`, `bufferedTarget_spec` — the two kinds of target.
* `AgentCtl.Gateway.streamWalk_spec` — the loop over the targets.
-/

namespace AgentCtl

variable {σ : Type}

/-! ## Projections of a trace -/

/-- A chunk of content: text, and not the last chunk. -/
def StreamChunk.isText (c : StreamChunk) : Bool := !c.done && c.text ≠ []

/-- A target's text chunk, where it is one. -/
def textOffer (target : Target) : Option StreamChunk → List (Target × StreamChunk)
  | some c => if c.isText then [(target, c)] else []
  | none => []

namespace Event

/-- The chunk that the event delivers. -/
@[simp] def delivered? : Event σ → Option StreamChunk
  | deliver c => some c
  | _ => none

/-- The text that the event brings from a target: a text chunk pulled, or a whole response. -/
@[simp] def offers : Event σ → List (Target × StreamChunk)
  | pull t _ (.chunk c) => textOffer t c
  | call t _ (.ok resp) => textOffer t (some { text := resp.text })
  | _ => []

/-- Does the event start a target's `invoke` or `stream`? -/
@[simp] def isStart : Event σ → Bool
  | call .. | streamCall .. => true
  | _ => false

/-- Is the event an exception for which the runner has no handler? -/
@[simp] def isUnhandled : Event σ → Bool
  | call _ _ (.error e) => !e.isTyped
  | streamCall _ _ (some _) => true
  | pull _ true (.raised e) => !e.isException
  | _ => false

/-- Does the clock find the deadline passed in mid-stream? -/
@[simp] def isLate : Event σ → Bool
  | late _ => true
  | _ => false

/-- Does the consumer close the generator? -/
@[simp] def isClose : Event σ → Bool
  | close => true
  | _ => false

end Event

/-- The chunks delivered to the consumer. -/
def deliveredOf (es : List (Event σ)) : List StreamChunk := es.filterMap Event.delivered?

/-- The text chunks that targets brought, in their order. -/
def textOffersOf (es : List (Event σ)) : List (Target × StreamChunk) := es.flatMap Event.offers

section Projections

variable (e : Event σ) (es fs : List (Event σ))

@[simp] lemma deliveredOf_nil : deliveredOf ([] : List (Event σ)) = [] := rfl

@[simp] lemma textOffersOf_nil : textOffersOf ([] : List (Event σ)) = [] := rfl

@[simp] lemma deliveredOf_cons :
    deliveredOf (e :: es) = e.delivered?.toList ++ deliveredOf es :=
  filterMap_cons_toList _ _ _

@[simp] lemma textOffersOf_cons : textOffersOf (e :: es) = e.offers ++ textOffersOf es := rfl

@[simp] lemma deliveredOf_append : deliveredOf (es ++ fs) = deliveredOf es ++ deliveredOf fs :=
  List.filterMap_append

@[simp] lemma textOffersOf_append : textOffersOf (es ++ fs) = textOffersOf es ++ textOffersOf fs :=
  List.flatMap_append

end Projections

section Captures

variable (G : Gateway σ) (request : NormalizedRequest) (latency : ℤ) (c : Captured)

@[simp] lemma deliveredOf_captureEvents : deliveredOf (G.captureEvents request latency c) = [] := by
  unfold Gateway.captureEvents
  cases G.hasStore <;> simp

@[simp] lemma textOffersOf_captureEvents :
    textOffersOf (G.captureEvents request latency c) = [] := by
  unfold Gateway.captureEvents
  cases G.hasStore <;> simp

@[simp] lemma any_isStart_captureEvents :
    (G.captureEvents request latency c).any Event.isStart = false := by
  unfold Gateway.captureEvents
  cases G.hasStore <;> simp

@[simp] lemma any_isUnhandled_captureEvents :
    (G.captureEvents request latency c).any Event.isUnhandled = false := by
  unfold Gateway.captureEvents
  cases G.hasStore <;> simp

@[simp] lemma any_isLate_captureEvents :
    (G.captureEvents request latency c).any Event.isLate = false := by
  unfold Gateway.captureEvents
  cases G.hasStore <;> simp

@[simp] lemma any_isClose_captureEvents :
    (G.captureEvents request latency c).any Event.isClose = false := by
  unfold Gateway.captureEvents
  cases G.hasStore <;> simp

end Captures

/-! ## Laws of the stream runner -/

/-- A `yield`: the chunk is delivered, and the consumer may close the generator. -/
lemma run_yieldChunk (c : StreamChunk) (w : World σ) :
    ∃ (resumed : Bool) (p : Option ℕ), (yieldChunk c).run w =
      (.ok resumed, { w with patience := p },
        .deliver c :: if resumed then [] else [.close]) := by
  obtain ⟨outer, circuit, budget, attempts, patience⟩ := w
  rcases patience with _ | _ | n
  · exact ⟨true, none, rfl⟩
  · exact ⟨false, some 0, rfl⟩
  · exact ⟨true, some n, rfl⟩

/-- A `yield` outside any handler. -/
lemma run_yieldOrExit (c : StreamChunk) (w : World σ) :
    ∃ (resumed : Bool) (p : Option ℕ), (yieldOrExit c).run w =
      (if resumed then .ok () else .error .generatorExit, { w with patience := p },
        .deliver c :: if resumed then [] else [.close]) := by
  obtain ⟨resumed, p, h⟩ := run_yieldChunk c w
  refine ⟨resumed, p, ?_⟩
  rw [yieldOrExit, Prog.run_bind_ok h]
  cases resumed <;> rfl

namespace Gateway

variable (G : Gateway σ) (w : World σ)

/-- Recording an attempt at a native stream, with some latency. -/
lemma run_recordStreamAttempt (target : Target) (outcome : AttemptOutcome) (started : ℚ)
    (error : Option Str) :
    ∃ latency s, (G.recordStreamAttempt target outcome started error).run w =
      (.ok (), { w with outer := s, attempts := w.attempts ++
        [⟨target.provider, target.model, outcome, latency, error⟩] }, []) := by
  unfold recordStreamAttempt
  split
  · exact ⟨0, w.outer, rfl⟩
  · exact G.run_recordAttempt w target outcome started error

/-- Recording the outcome of a stream. -/
lemma run_capture (request : NormalizedRequest) (started : ℚ) (target : Target)
    (resp : NormalizedResponse) (status : Status) (errorType : Option ErrorType)
    (message : Option Str) :
    ∃ w' latency c, (G.capture request started target resp status errorType message).run w =
      (.ok (), w', G.captureEvents request latency c) ∧ c.resp = some resp := by
  let c : Captured :=
    { modelResolved := some target.name, attempts := w.attempts, resp := some resp,
      status := status, errorType := errorType, errorMessage := message }
  obtain ⟨latency, s, h⟩ := G.run_record w request started c
  exact ⟨_, latency, c, h, rfl⟩

/-- The deadline guard between two chunks. -/
lemma run_cutByDeadline (deadline : Option ℚ) :
    ∃ (cut : Bool) (now : ℚ) (s : σ), (G.cutByDeadline deadline).run w =
      (.ok cut, { w with outer := s }, if cut then [.late now] else []) := by
  cases deadline with
  | none => exact ⟨false, 0, w.outer, rfl⟩
  | some d =>
    obtain ⟨now, s, hnow⟩ := G.run_monotonic w
    unfold cutByDeadline
    by_cases h : d ≤ now
    · refine ⟨true, now, s, ?_⟩
      rw [Prog.run_bind_ok hnow, if_pos h]
      rfl
    · refine ⟨false, now, s, ?_⟩
      rw [Prog.run_bind_ok hnow, if_neg h]
      rfl

/-! ## The places that record a stream -/

section Records

variable (request : NormalizedRequest) (started t₀ : ℚ) (target : Target) (v : StreamVars)

/-- A cut stream: one record of the response so far, and the `done` chunk. -/
lemma streamCut_outcome :
    Prog.Sat (do
        G.recordStreamAttempt target .deadline t₀ (some "deadline exceeded mid-stream")
        G.capture request started target (v.response (some "length")) .deadline (some .deadline)
        let resumed ← yieldChunk (v.doneChunk (some "length") none)
        return (v, if resumed then LoopEnd.cut else .raised .generatorExit)) w
      (fun r _ es => ∃ (resumed : Bool) (latency : ℤ) (c : Captured),
        r = .ok (v, if resumed then .cut else .raised .generatorExit) ∧
        es = G.captureEvents request latency c ++
          .deliver (v.doneChunk (some "length") none) :: (if resumed then [] else [.close]) ∧
        c.resp = some (v.response (some "length"))) := by
  obtain ⟨latency, s₁, h₁⟩ := G.run_recordStreamAttempt w target .deadline t₀
    (some "deadline exceeded mid-stream")
  refine .bind_run h₁ ?_
  obtain ⟨w₂, latency', c, h₂, hresp⟩ := G.run_capture _ request started target
    (v.response (some "length")) .deadline (some .deadline) none
  refine .bind_run h₂ ?_
  obtain ⟨resumed, p, h₃⟩ := run_yieldChunk (v.doneChunk (some "length") none) w₂
  refine .bind_run h₃ (.of_run (Prog.run_pure _ _) ?_)
  exact ⟨resumed, latency', c, rfl, by simp, hresp⟩

/-- A drained stream: one record, and the `done` chunk. -/
lemma streamDrained_outcome (idx : ℕ) :
    Prog.Sat (G.streamDrained request started t₀ target v idx) w
      (fun r _ es => ∃ (resumed : Bool) (latency : ℤ) (c : Captured),
        r = (if resumed then .ok true else .error .generatorExit) ∧
        es = .report target.provider true :: (G.captureEvents request latency c ++
          .deliver (v.doneChunk v.finishReason v.toolCalls) ::
            (if resumed then [] else [.close])) ∧
        c.resp = some
          { v.response v.finishReason with toolCalls := (v.toolCalls.getD []).length }) := by
  rw [streamDrained]
  refine .bind_run (run_reportSuccess _ _) ?_
  obtain ⟨latency, s₁, h₁⟩ := G.run_recordStreamAttempt
    { w with circuit := w.circuit.recordSuccess target.provider } target .success t₀ none
  refine .bind_run h₁ ?_
  obtain ⟨w₂, latency', c, h₂, hresp⟩ := G.run_capture _ request started target
    { v.response v.finishReason with toolCalls := (v.toolCalls.getD []).length }
    (if idx = 0 then .success else .fallbackSuccess) none none
  refine .bind_run h₂ ?_
  obtain ⟨resumed, p, h₃⟩ := run_yieldOrExit (v.doneChunk v.finishReason v.toolCalls) w₂
  cases resumed with
  | true =>
    refine .bind_run h₃ (.of_run (Prog.run_pure _ _) ?_)
    exact ⟨true, latency', c, rfl, by simp, hresp⟩
  | false =>
    refine .bind_error h₃ ?_
    exact ⟨false, latency', c, rfl, by simp, hresp⟩

/-- An aborted stream: one record, and the exception goes on. -/
lemma streamAborted_outcome (e : Exc) :
    Prog.Sat (G.streamAborted request started t₀ target v e) w
      (fun r _ es => r = .error e ∧ ∃ (latency : ℤ) (c : Captured),
        es = G.captureEvents request latency c ∧ c.resp = some (v.response v.finishReason)) := by
  rw [streamAborted]
  obtain ⟨latency, s₁, h₁⟩ := G.run_recordStreamAttempt w target .aborted t₀
    (some "client disconnected")
  refine .bind_run h₁ ?_
  obtain ⟨w₂, latency', c, h₂, hresp⟩ := G.run_capture _ request started target
    (v.response v.finishReason) .aborted (some .clientAbort) none
  refine .bind_run h₂ (.of_run (Prog.run_raise _ _) ?_)
  exact ⟨rfl, latency', c, by simp, hresp⟩

/-- A failed stream: given up before any content if the provider did not refuse; otherwise one
record, and the call fails. -/
lemma streamFailed_outcome (e : Exc) :
    Prog.Sat (G.streamFailed request started t₀ target v e) w
      (fun r _ es =>
        (v.emitted = false ∧ r = .ok false ∧ es = [.report target.provider false]) ∨
        (r = .error (.gateway e.msg) ∧ ∃ (latency : ℤ) (c : Captured),
          es = .report target.provider false :: G.captureEvents request latency c ∧
          c.resp = some (v.response v.finishReason))) := by
  rw [streamFailed]
  obtain ⟨now, s₁, h₁⟩ := G.run_reportFailure w target.provider
  refine .bind_run h₁ ?_
  split
  · next hback =>
    obtain ⟨latency, s₂, h₂⟩ := G.run_recordStreamAttempt
      { w with outer := s₁, circuit := w.circuit.recordFailure target.provider now } target
      .retriable t₀ (some e.msg)
    refine .bind_run h₂ (.of_run (Prog.run_pure _ _) (.inl ⟨?_, rfl, rfl⟩))
    simpa using (Bool.and_eq_true _ _).mp hback |>.1
  · obtain ⟨latency, s₂, h₂⟩ := G.run_recordStreamAttempt
      { w with outer := s₁, circuit := w.circuit.recordFailure target.provider now } target
      .streamError t₀ (some e.msg)
    refine .bind_run h₂ ?_
    obtain ⟨w₃, latency', c, h₃, hresp⟩ := G.run_capture _ request started target
      (v.response v.finishReason) .error (some .stream) (some e.msg)
    refine .bind_run h₃ (.of_run (Prog.run_raise _ _) (.inr ⟨rfl, latency', c, ?_, hresp⟩))
    simp

/-- A stream that raises at its first `next`: without a handler, given up, or one record without a
response. -/
lemma firstPullFailed_outcome (e : Exc) :
    Prog.Sat (G.firstPullFailed request started t₀ target e) w
      (fun r _ es =>
        (e.isException = false ∧ r = .error e ∧ es = []) ∨
        (e.isException = true ∧ r = .ok false ∧ es = [.report target.provider false]) ∨
        (e.isException = true ∧ r = .error e ∧ ∃ (latency : ℤ) (c : Captured),
          es = .report target.provider false :: G.captureEvents request latency c ∧
          c.resp = none)) := by
  unfold firstPullFailed
  by_cases hexc : e.isException = true
  · simp only [hexc, Bool.not_true, Bool.false_eq_true, if_false]
    obtain ⟨now, s₁, h₁⟩ := G.run_reportFailure w target.provider
    split
    · refine .bind_run h₁ ?_
      obtain ⟨latency, s₂, h₂⟩ := G.run_recordStreamAttempt
        { w with outer := s₁, circuit := w.circuit.recordFailure target.provider now } target
        .terminal t₀ (some e.msg)
      refine .bind_run h₂ ?_
      obtain ⟨latency', s₃, h₃⟩ := G.run_recordError _ request started none .terminal (some e.msg)
        (some target.name)
      refine .bind_run h₃ (.of_run (Prog.run_raise _ _) (.inr (.inr ⟨trivial, rfl, ?_⟩)))
      exact ⟨latency', _, by simp; rfl, rfl⟩
    · refine .bind_run h₁ ?_
      obtain ⟨latency, s₂, h₂⟩ := G.run_recordStreamAttempt
        { w with outer := s₁, circuit := w.circuit.recordFailure target.provider now } target
        .retriable t₀ (some e.msg)
      exact .bind_run h₂ (.of_run (Prog.run_pure _ _) (.inr (.inl ⟨trivial, rfl, rfl⟩)))
  · simp only [hexc, Bool.not_false, if_true]
    exact .of_run (Prog.run_raise _ _) (.inl ⟨trivial, rfl, rfl⟩)

end Records

end Gateway

/-! ## The chunk loop -/

/-- How the chunk loop ends: the stream is drained, the provider raises, the consumer closes the
generator at a text chunk, or the deadline cuts the stream and the consumer takes the `done` chunk
that follows, or closes the generator at it. -/
inductive Break where
  | drained
  | failed (e : Exc)
  | closed
  | cut
  | cutClosed

namespace Break

/-- What the loop hands over to the handlers around it. -/
def loopEnd : Break → LoopEnd
  | drained => .drained
  | failed e => .raised e
  | closed => .raised .generatorExit
  | cut => .cut
  | cutClosed => .raised .generatorExit

/-- Has the deadline cut the stream? -/
def isCut : Break → Bool
  | cut | cutClosed => true
  | _ => false

/-- Has the consumer closed the generator? -/
def isClosed : Break → Bool
  | closed | cutClosed => true
  | _ => false

end Break

/-- A run of the chunk loop with the text chunks `texts`: it delivers them, and after a cut the
`done` chunk; they are all the text the target offered, unless a cut dropped the last chunk. Only a
cut is recorded. -/
structure LoopRun (target : Target) (pending : List (Target × StreamChunk)) (v v' : StreamVars)
    (texts : List StreamChunk) (how : Break) (es : List (Event σ)) : Prop where
  text : v'.text = v.text ++ texts.flatMap StreamChunk.text
  emitted : v'.emitted = (v.emitted || !texts.isEmpty)
  isText : ∀ c ∈ texts, c.isText = true
  offers : texts.map (Prod.mk target) <+: pending ++ textOffersOf es
  offers_eq : how.isCut = false → texts.map (Prod.mk target) = pending ++ textOffersOf es
  delivered : deliveredOf es =
    texts ++ if how.isCut then [v'.doneChunk (some "length") none] else []
  recorded : how.isCut = true → ∃ c, recordsOf es = [c] ∧
    c.resp = some (v'.response (some "length"))
  unrecorded : how.isCut = false → recordsOf es = []
  late : es.any Event.isLate = how.isCut
  starts : es.any Event.isStart = false
  handled : es.any Event.isUnhandled = false
  closes : es.any Event.isClose = how.isClosed

/-- Events that deliver, record and close nothing, raise nothing without a handler, and do not find
the deadline passed in mid-stream. -/
structure Calm (es : List (Event σ)) : Prop where
  delivered : deliveredOf es = []
  records : recordsOf es = []
  handled : es.any Event.isUnhandled = false
  late : es.any Event.isLate = false
  closes : es.any Event.isClose = false

namespace LoopRun

variable {target : Target} {pending : List (Target × StreamChunk)} {v v₁ v' : StreamVars}
  {texts : List StreamChunk} {how : Break} {es fs : List (Event σ)}

/-- A loop that ends with its stream, before it delivers any text. -/
lemma of_end (h : Calm es) (hstarts : es.any Event.isStart = false)
    (hoffers : textOffersOf es = []) (hcut : how.isCut = false)
    (hclosed : how.isClosed = false) : LoopRun target [] v v [] how es where
  text := by simp
  emitted := by simp
  isText := by simp
  offers := List.nil_prefix
  offers_eq _ := by simp [hoffers]
  delivered := by simp [h.delivered, hcut]
  recorded hcut' := by simp [hcut] at hcut'
  unrecorded _ := h.records
  late := h.late.trans hcut.symm
  starts := hstarts
  handled := h.handled
  closes := h.closes.trans hclosed.symm

/-- A chunk without text before the rest of the loop. -/
lemma after_blank (h : LoopRun target [] v₁ v' texts how fs) (hes : Calm es)
    (hstarts : es.any Event.isStart = false) (htext : v₁.text = v.text)
    (hemitted : v₁.emitted = v.emitted)
    (hoffers : pending ++ textOffersOf es = []) :
    LoopRun target pending v v' texts how (es ++ fs) where
  text := htext ▸ h.text
  emitted := hemitted ▸ h.emitted
  isText := h.isText
  offers := by simpa [← List.append_assoc, hoffers] using h.offers
  offers_eq hcut := by simpa [← List.append_assoc, hoffers] using h.offers_eq hcut
  delivered := by simpa [hes.delivered] using h.delivered
  recorded hcut := by simpa [hes.records] using h.recorded hcut
  unrecorded hcut := by simpa [hes.records] using h.unrecorded hcut
  late := by rw [List.any_append, hes.late, h.late]; rfl
  starts := by rw [List.any_append, hstarts, h.starts]; rfl
  handled := by rw [List.any_append, hes.handled, h.handled]; rfl
  closes := by rw [List.any_append, hes.closes, h.closes]; rfl

/-- A text chunk that the consumer takes, before the rest of the loop. -/
lemma after_text {c : StreamChunk} (h : LoopRun target [] v₁ v' texts how fs) (hes : Calm es)
    (hstarts : es.any Event.isStart = false) (hc : c.isText = true)
    (htext : v₁.text = v.text ++ c.text) (hemitted : v₁.emitted = true)
    (hoffers : pending ++ textOffersOf es = [(target, c)]) :
    LoopRun target pending v v' (c :: texts) how (es ++ .deliver c :: fs) where
  text := by simp [h.text, htext]
  emitted := by simp [h.emitted, hemitted]
  isText := by simpa [hc] using h.isText
  offers := by simpa [← List.append_assoc, hoffers] using h.offers
  offers_eq hcut := by simpa [← List.append_assoc, hoffers] using h.offers_eq hcut
  delivered := by simp [hes.delivered, h.delivered]
  recorded hcut := by simpa [hes.records] using h.recorded hcut
  unrecorded hcut := by simpa [hes.records] using h.unrecorded hcut
  late := by simpa [hes.late] using h.late
  starts := by simpa [hstarts] using h.starts
  handled := by simpa [hes.handled] using h.handled
  closes := by simpa [hes.closes] using h.closes

/-- A text chunk at which the consumer closes the generator. -/
lemma of_close {c : StreamChunk} (hes : Calm es) (hstarts : es.any Event.isStart = false)
    (hc : c.isText = true) (htext : v'.text = v.text ++ c.text) (hemitted : v'.emitted = true)
    (hoffers : pending ++ textOffersOf es = [(target, c)]) :
    LoopRun target pending v v' [c] .closed (es ++ [.deliver c, .close]) where
  text := by simp [htext]
  emitted := by simp [hemitted]
  isText := by simpa using hc
  offers := by simp [hoffers]
  offers_eq _ := by simp [hoffers]
  delivered := by simp [hes.delivered, Break.isCut]
  recorded hcut := by cases hcut
  unrecorded _ := by simp [hes.records]
  late := by simp [hes.late, Break.isCut]
  starts := by simp [hstarts]
  handled := by simp [hes.handled]
  closes := by simp [Break.isClosed]

/-- A cut: the record is followed by the `done` chunk, which the consumer takes or closes at. -/
lemma of_cut {G : Gateway σ} {request : NormalizedRequest} {latency : ℤ} {c : Captured}
    (hes : Calm es) (hstarts : es.any Event.isStart = false) (now : ℚ)
    (hresp : c.resp = some (v.response (some "length"))) (resumed : Bool) :
    LoopRun target pending v v [] (if resumed then .cut else .cutClosed)
      (es ++ .late now :: (G.captureEvents request latency c ++
        .deliver (v.doneChunk (some "length") none) :: if resumed then [] else [.close])) where
  text := by simp
  emitted := by simp
  isText := by simp
  offers := List.nil_prefix
  offers_eq hcut := by cases resumed <;> cases hcut
  delivered := by cases resumed <;> simp [hes.delivered, Break.isCut]
  recorded _ := ⟨c, by cases resumed <;> simp [hes.records], hresp⟩
  unrecorded hcut := by cases resumed <;> cases hcut
  late := by cases resumed <;> simp [Break.isCut]
  starts := by cases resumed <;> simp [hstarts]
  handled := by cases resumed <;> simp [hes.handled]
  closes := by cases resumed <;> simp [hes.closes, Break.isClosed]

end LoopRun

namespace Gateway

variable (G : Gateway σ)

/-- The text chunk of the first `next`, which the loop has still to look at. -/
def pendingText (target : Target) (pulled : Bool) (items : List (Option StreamChunk)) :
    List (Target × StreamChunk) :=
  if pulled then items.head?.elim [] (textOffer target) else []

/-- The next value of the loop is pulled here, unless it was pulled before. Either way its text is
all that the loop has to look at. -/
lemma run_pullUnless (pulled : Bool) (target : Target) (c : Option StreamChunk)
    (rest : List (Option StreamChunk)) (w : World σ) :
    ∃ es, (pullUnless pulled target c).run w = (.ok (), w, es) ∧
      pendingText target pulled (c :: rest) ++ textOffersOf es = textOffer target c ∧
      Calm es ∧ es.any Event.isStart = false := by
  cases pulled with
  | true => exact ⟨[], rfl, by simp [pendingText], ⟨rfl, rfl, rfl, rfl, rfl⟩, rfl⟩
  | false => exact ⟨[_], rfl, by simp [pendingText], ⟨rfl, rfl, rfl, rfl, rfl⟩, rfl⟩

/-- The chunk loop, by induction on the values that are still to come. -/
lemma streamLoop_spec (request : NormalizedRequest) (started t₀ : ℚ) (target : Target)
    (deadline : Option ℚ) (ending : Option Exc) (items : List (Option StreamChunk)) (pulled : Bool)
    (v : StreamVars) (w : World σ) :
    Prog.Sat (G.streamLoop request started t₀ target deadline ending v pulled items) w
      (fun r _ es => ∃ v' texts how, r = .ok (v', how.loopEnd) ∧
        LoopRun target (pendingText target pulled items) v v' texts how es ∧
        ∀ e, how = .failed e → ending = some e) := by
  induction items generalizing pulled v w with
  | nil =>
    have hpending : pendingText target pulled [] = [] := by cases pulled <;> rfl
    rw [hpending]
    unfold streamLoop
    cases ending with
    | none =>
      refine .bind_run (Prog.run_emit _ _) (.of_run (Prog.run_pure _ _) ?_)
      exact ⟨v, [], .drained, rfl, .of_end ⟨rfl, rfl, rfl, rfl, rfl⟩ rfl rfl rfl rfl, by simp⟩
    | some e =>
      refine .bind_run (Prog.run_emit _ _) (.of_run (Prog.run_pure _ _) ?_)
      exact ⟨v, [], .failed e, rfl, .of_end ⟨rfl, rfl, rfl, rfl, rfl⟩ rfl rfl rfl rfl, by simp⟩
  | cons c rest ih =>
    unfold streamLoop
    obtain ⟨es₀, hpull, hoffers, hcalm, hstarts⟩ := run_pullUnless pulled target c rest w
    refine .bind_run hpull ?_
    obtain ⟨cut, now, s, hcut⟩ := G.run_cutByDeadline w deadline
    refine .bind_run hcut ?_
    cases cut with
    | true =>
      simp only [if_true]
      refine (G.streamCut_outcome { w with outer := s } request started t₀ target v).imp ?_
      rintro r _ es ⟨resumed, latency, record, rfl, rfl, hresp⟩
      refine ⟨v, [], if resumed then .cut else .cutClosed, ?_, ?_, ?_⟩
      · cases resumed <;> rfl
      · simpa using LoopRun.of_cut hcalm hstarts now hresp resumed
      · cases resumed <;> simp
    | false =>
      simp only [Bool.false_eq_true, if_false, List.nil_append]
      have hblank : ∀ v₁ : StreamVars, v₁.text = v.text → v₁.emitted = v.emitted →
          textOffer target c = [] →
          Prog.Sat (G.streamLoop request started t₀ target deadline ending v₁ false rest)
            { w with outer := s } (fun r _ es => ∃ v' texts how, r = .ok (v', how.loopEnd) ∧
              LoopRun target (pendingText target pulled (c :: rest)) v v' texts how (es₀ ++ es) ∧
              ∀ e, how = .failed e → ending = some e) := by
        intro v₁ htext hemitted hc
        refine (ih false v₁ _).imp ?_
        rintro r _ es ⟨v', texts, how, hr, hrun, hfail⟩
        exact ⟨v', texts, how, hr,
          hrun.after_blank hcalm hstarts htext hemitted (hoffers.trans hc), hfail⟩
      cases c with
      | none => exact hblank v rfl rfl rfl
      | some chunk =>
        dsimp only
        by_cases hdone : chunk.done = true
        · simp only [hdone, if_true]
          exact hblank _ rfl rfl (by simp [textOffer, StreamChunk.isText, hdone])
        · by_cases hnil : chunk.text = []
          · simp only [hdone, hnil, Bool.false_eq_true, if_false, if_true]
            exact hblank _ rfl rfl (by simp [textOffer, StreamChunk.isText, hnil])
          · simp only [hdone, hnil, Bool.false_eq_true, if_false]
            have htext : chunk.isText = true := by simp [StreamChunk.isText, hdone, hnil]
            rw [textOffer, if_pos htext] at hoffers
            let v₁ : StreamVars :=
              { v.meter chunk with parts := v.parts ++ [chunk.text], emitted := true }
            have hv₁ : v₁.text = v.text ++ chunk.text := by simp [v₁, StreamVars.text]
            obtain ⟨resumed, p, h₃⟩ := run_yieldChunk chunk { w with outer := s }
            refine .bind_run h₃ ?_
            cases resumed with
            | true =>
              refine (ih false v₁ _).imp ?_
              rintro r _ es ⟨v', texts, how, hr, hrun, hfail⟩
              exact ⟨v', _, how, hr, hrun.after_text hcalm hstarts htext hv₁ rfl hoffers, hfail⟩
            | false =>
              refine .of_run (Prog.run_pure _ _) ?_
              exact ⟨v₁, _, .closed, rfl, .of_close hcalm hstarts htext hv₁ rfl hoffers, by simp⟩

end Gateway

/-! ## A target -/

/-- A target that is given up: it offered no text, and nothing was delivered, recorded or closed. -/
structure Quiet (es : List (Event σ)) : Prop extends Calm es where
  offers : textOffersOf es = []

/-- What the consumer gets from a target at which the call ends: text chunks that the target
offered, in their order, and then at most one `done` chunk. No target is started once the first
chunk is delivered, and a recorded response has the text delivered. -/
structure Delivery (r : Except Exc Unit) (target : Target) (texts last : List StreamChunk)
    (es : List (Event σ)) : Prop where
  delivered : deliveredOf es = texts ++ last
  isText : ∀ c ∈ texts, c.isText = true
  offers : texts.map (Prod.mk target) <+: textOffersOf es
  last_done : ∀ c ∈ last, c.done = true
  last_le : last.length ≤ 1
  ended : r = .ok () → last ≠ []
  raised : ∀ e, r = .error e → last ≠ [] → e = .generatorExit ∧ es.any Event.isClose = true
  split : ∃ before after, es = before ++ after ∧ deliveredOf before = [] ∧
    after.any Event.isStart = false
  recorded : ∀ c ∈ recordsOf es, ∀ resp, c.resp = some resp →
    resp.text = texts.flatMap StreamChunk.text

/-- How many records there are: none when an exception had no handler, two when the consumer closed
a stream that its deadline had cut, and one otherwise. -/
inductive Accounted (es : List (Event σ)) : Prop
  | lost (records : recordsOf es = []) (h : es.any Event.isUnhandled = true)
  | once {c : Captured} (records : recordsOf es = [c]) (h : es.any Event.isUnhandled = false)
      (hclose : es.any Event.isLate = true → es.any Event.isClose = false)
  | twice {c c' : Captured} (records : recordsOf es = [c, c']) (hlate : es.any Event.isLate = true)
      (hclose : es.any Event.isClose = true)

/-- What is known of a visited target: it is given up, or the call ends at it. -/
def TargetDone (target : Target) (r : Except Exc Bool) (es : List (Event σ)) : Prop :=
  (r = .ok false ∧ Quiet es) ∨
    (r ≠ .ok false ∧ Accounted es ∧ ∃ texts last, Delivery (r.map fun _ => ()) target texts last es)

/-- A part of a call that ends before anything is delivered. -/
lemma Delivery.of_silent {e : Exc} {target : Target} {es : List (Event σ)}
    (hdelivered : deliveredOf es = [])
    (hrecords : ∀ c ∈ recordsOf es, c.resp = none) : Delivery (.error e) target [] [] es where
  delivered := hdelivered
  isText := by simp
  offers := List.nil_prefix
  last_done := by simp
  last_le := by simp
  ended := by simp
  raised := by simp
  split := ⟨es, [], by simp, hdelivered, rfl⟩
  recorded c hc resp hresp := by simp [hrecords c hc] at hresp

/-- What follows a target that is given up. -/
lemma Delivery.after_quiet {r : Except Exc Unit} {target : Target} {texts last : List StreamChunk}
    {es fs : List (Event σ)} (hes : Quiet es) (h : Delivery r target texts last fs) :
    Delivery r target texts last (es ++ fs) where
  delivered := by simpa [hes.delivered] using h.delivered
  isText := h.isText
  offers := by simpa [hes.offers] using h.offers
  last_done := h.last_done
  last_le := h.last_le
  ended := h.ended
  raised e he hlast := by
    obtain ⟨hexit, hclose⟩ := h.raised e he hlast
    exact ⟨hexit, by rw [List.any_append, hclose, Bool.or_true]⟩
  split := by
    obtain ⟨before, after, rfl, hbefore, hafter⟩ := h.split
    exact ⟨es ++ before, after, by simp, by simp [hes.delivered, hbefore], hafter⟩
  recorded := by simpa [hes.records] using h.recorded

/-- The records that follow a target that is given up. -/
lemma Accounted.after_quiet {es fs : List (Event σ)} (hes : Quiet es) (h : Accounted fs) :
    Accounted (es ++ fs) := by
  have hrecords : recordsOf (es ++ fs) = recordsOf fs := by simp [hes.records]
  have hhandled : (es ++ fs).any Event.isUnhandled = fs.any Event.isUnhandled := by
    rw [List.any_append, hes.handled, Bool.false_or]
  have hlates : (es ++ fs).any Event.isLate = fs.any Event.isLate := by
    rw [List.any_append, hes.late, Bool.false_or]
  have hcloses : (es ++ fs).any Event.isClose = fs.any Event.isClose := by
    rw [List.any_append, hes.closes, Bool.false_or]
  cases h with
  | lost records h => exact .lost (hrecords.trans records) (hhandled.trans h)
  | once records h hclose =>
    exact .once (hrecords.trans records) (hhandled.trans h) fun hl =>
      hcloses.trans (hclose (hlates.symm.trans hl))
  | twice records hlate hclose =>
    exact .twice (hrecords.trans records) (hlates.trans hlate) (hcloses.trans hclose)

/-- A target at which the call ends with a loop: `pre` starts it, and `post` follows the loop. -/
lemma Delivery.of_loop {r : Except Exc Unit} {target : Target} {v' : StreamVars}
    {texts last : List StreamChunk} {how : Break} {pre es post : List (Event σ)}
    (h : LoopRun target (textOffersOf pre) {} v' texts how es) (hpre : deliveredOf pre = [])
    (hprerecords : recordsOf pre = [])
    (hlast :
      (if how.isCut then [v'.doneChunk (some "length") none] else []) ++ deliveredOf post = last)
    (hlast_done : ∀ c ∈ last, c.done = true) (hlast_le : last.length ≤ 1)
    (hended : r = .ok () → last ≠ [])
    (hraised : ∀ e, r = .error e → last ≠ [] → e = .generatorExit ∧
      (es ++ post).any Event.isClose = true)
    (hstarts : post.any Event.isStart = false)
    (hrecorded : ∀ c ∈ recordsOf post, ∀ resp, c.resp = some resp → resp.text = v'.text) :
    Delivery r target texts last (pre ++ (es ++ post)) where
  delivered := by simp [hpre, h.delivered, ← hlast]
  isText := h.isText
  offers := by
    simpa [← List.append_assoc] using h.offers.trans (List.prefix_append _ (textOffersOf post))
  last_done := hlast_done
  last_le := hlast_le
  ended := hended
  raised e he hne := by
    obtain ⟨hexit, hclose⟩ := hraised e he hne
    exact ⟨hexit, by rw [List.any_append, hclose, Bool.or_true]⟩
  split := ⟨pre, es ++ post, rfl, hpre, by rw [List.any_append, h.starts, hstarts]; rfl⟩
  recorded c hc resp hresp := by
    have htext : v'.text = texts.flatMap StreamChunk.text := by simpa [StreamVars.text] using h.text
    rw [recordsOf_append, hprerecords, recordsOf_append, List.nil_append] at hc
    rcases List.mem_append.mp hc with hc | hc
    · by_cases hcut : how.isCut = true
      · obtain ⟨record, hrecords, hr⟩ := h.recorded hcut
        rw [hrecords, List.mem_singleton] at hc
        subst hc
        obtain rfl := Option.some.inj (hr.symm.trans hresp)
        exact htext
      · simp [h.unrecorded (Bool.eq_false_of_not_eq_true hcut)] at hc
    · exact (hrecorded c hc resp hresp).trans htext

section Ends

variable {target : Target} {v' : StreamVars} {texts last : List StreamChunk} {how : Break}
  {pre es post : List (Event σ)} {r : Except Exc Bool}

/-- A loop without a cut, and one record after it. -/
lemma TargetDone.of_record {record : Captured}
    (h : LoopRun target (textOffersOf pre) {} v' texts how es) (hpre : Calm pre)
    (hcut : how.isCut = false) (hlate : post.any Event.isLate = false)
    (hresp : ∀ resp, record.resp = some resp → resp.text = v'.text)
    (hrecords : recordsOf post = [record]) (hstarts : post.any Event.isStart = false)
    (hhandled : post.any Event.isUnhandled = false) (hdelivered : deliveredOf post = last)
    (hlast_done : ∀ c ∈ last, c.done = true) (hlast_le : last.length ≤ 1) (hr : r ≠ .ok false)
    (hended : r = .ok true → last ≠ [])
    (hraised : ∀ e, r = .error e → last ≠ [] → e = .generatorExit ∧
      post.any Event.isClose = true) :
    TargetDone target r (pre ++ (es ++ post)) := by
  refine .inr ⟨hr, .once (c := record) ?_ ?_ fun hl => ?_, texts, last, ?_⟩
  · simp [hpre.records, h.unrecorded hcut, hrecords]
  · rw [List.any_append, List.any_append, hpre.handled, h.handled, hhandled]
    rfl
  · rw [List.any_append, List.any_append, hpre.late, h.late, hcut, hlate] at hl
    cases hl
  · refine .of_loop h hpre.delivered hpre.records ?_ hlast_done hlast_le ?_ ?_ hstarts ?_
    · simp [hcut, hdelivered]
    · intro hok
      cases r with
      | ok ended => cases ended <;> simp_all
      | error e => cases hok
    · intro e he hne
      cases r with
      | ok ended => cases he
      | error e' =>
        obtain ⟨hexit, hclose⟩ := hraised e (by cases he; rfl) hne
        exact ⟨hexit, by rw [List.any_append, hclose, Bool.or_true]⟩
    · intro c hc
      rw [hrecords, List.mem_singleton] at hc
      subst hc
      exact hresp

/-- A cut that the consumer lets pass. -/
lemma TargetDone.of_cut (h : LoopRun target (textOffersOf pre) {} v' texts .cut es)
    (hpre : Calm pre) : TargetDone target (.ok true) (pre ++ (es ++ [])) := by
  obtain ⟨record, hrecords, hresp⟩ := h.recorded rfl
  refine .inr ⟨by simp, .once (c := record) ?_ ?_ fun _ => ?_, texts,
    [v'.doneChunk (some "length") none], ?_⟩
  · simp [hpre.records, hrecords]
  · rw [List.append_nil, List.any_append, hpre.handled, h.handled]
    rfl
  · rw [List.append_nil, List.any_append, hpre.closes, h.closes]
    rfl
  · refine .of_loop h hpre.delivered hpre.records rfl ?_ le_rfl ?_ ?_ rfl ?_
    · simp [StreamVars.doneChunk]
    · simp
    · rintro e ⟨⟩
    · simp

/-- A cut at whose `done` chunk the consumer closes the generator: a second record follows. -/
lemma TargetDone.of_cutClosed {record : Captured}
    (h : LoopRun target (textOffersOf pre) {} v' texts .cutClosed es) (hpre : Calm pre)
    (hresp : ∀ resp, record.resp = some resp → resp.text = v'.text)
    (hrecords : recordsOf post = [record]) (hstarts : post.any Event.isStart = false)
    (hdelivered : deliveredOf post = []) :
    TargetDone target (.error .generatorExit) (pre ++ (es ++ post)) := by
  obtain ⟨cut, hcut, -⟩ := h.recorded rfl
  have htwo : recordsOf (pre ++ (es ++ post)) = [cut, record] := by
    simp [hpre.records, hcut, hrecords]
  refine .inr ⟨by simp, .twice htwo ?_ ?_, texts, [v'.doneChunk (some "length") none], ?_⟩
  · rw [List.any_append, List.any_append, h.late]
    simp [Break.isCut]
  · rw [List.any_append, List.any_append, h.closes]
    simp [Break.isClosed]
  · refine .of_loop h hpre.delivered hpre.records ?_ ?_ le_rfl ?_ ?_ hstarts ?_
    · simp [Break.isCut, hdelivered]
    · simp [StreamVars.doneChunk]
    · rintro ⟨⟩
    · rintro e ⟨⟩ -
      exact ⟨rfl, by rw [List.any_append, h.closes]; rfl⟩
    · intro c hc
      rw [hrecords, List.mem_singleton] at hc
      subst hc
      exact hresp

end Ends

namespace Gateway

variable (G : Gateway σ)

section End

variable {target : Target} {v' : StreamVars} {texts : List StreamChunk} {how : Break}
  {pre es : List (Event σ)} (request : NormalizedRequest) (started t₀ : ℚ) (w : World σ)

/-- A drained stream: one record, and the `done` chunk. -/
lemma streamDrained_spec (h : LoopRun target (textOffersOf pre) {} v' texts .drained es)
    (hpre : Calm pre) (idx : ℕ) :
    Prog.Sat (G.streamDrained request started t₀ target v' idx) w
      (fun r _ post => TargetDone target r (pre ++ (es ++ post))) := by
  refine (G.streamDrained_outcome w request started t₀ target v' idx).imp ?_
  rintro r _ _ ⟨resumed, latency, record, rfl, rfl, hresp⟩
  have htext : ∀ resp, record.resp = some resp → resp.text = v'.text := by
    intro resp hr
    obtain rfl := Option.some.inj (hresp.symm.trans hr)
    rfl
  cases resumed with
  | true =>
    exact .of_record h hpre rfl (by simp) htext (by simp) (by simp) (by simp) rfl
      (by simp [StreamVars.doneChunk]) (by simp) (by simp) (by simp) (by simp)
  | false =>
    refine .of_record h hpre rfl (by simp) htext (by simp) (by simp) (by simp) rfl
      (by simp [StreamVars.doneChunk]) (by simp) (by simp) (by simp) ?_
    rintro e ⟨⟩ -
    exact ⟨rfl, by simp⟩

/-- An aborted stream: one more record, and the exception goes on. -/
lemma streamAborted_spec (h : LoopRun target (textOffersOf pre) {} v' texts how es)
    (hpre : Calm pre) {e : Exc} (hend : how.loopEnd = .raised e) (he : e.isException = false) :
    Prog.Sat (G.streamAborted request started t₀ target v' e) w
      (fun r _ post => TargetDone target r (pre ++ (es ++ post))) := by
  refine (G.streamAborted_outcome w request started t₀ target v' e).imp ?_
  rintro r _ _ ⟨rfl, latency, record, rfl, hresp⟩
  have htext : ∀ resp, record.resp = some resp → resp.text = v'.text := by
    intro resp hr
    obtain rfl := Option.some.inj (hresp.symm.trans hr)
    rfl
  have hlate : ∀ hcut : how.isCut = false, TargetDone target (.error e)
      (pre ++ (es ++ G.captureEvents request latency record)) := by
    intro hcut
    exact .of_record h hpre hcut (by simp) htext (by simp) (by simp) (by simp) rfl
      (by simp) (by simp) (by simp) (by simp) (by simp)
  cases how with
  | cutClosed =>
    obtain rfl := LoopEnd.raised.inj hend
    exact .of_cutClosed h hpre htext (by simp) (by simp) (by simp)
  | failed _ => exact hlate rfl
  | closed => exact hlate rfl
  | _ => cases hend

/-- A failed stream: the target is given up if it has delivered nothing and did not refuse;
otherwise the call ends with one record. -/
lemma streamFailed_spec {e : Exc} (h : LoopRun target (textOffersOf pre) {} v' texts (.failed e) es)
    (hpre : Calm pre) :
    Prog.Sat (G.streamFailed request started t₀ target v' e) w
      (fun r _ post => TargetDone target r (pre ++ (es ++ post))) := by
  refine (G.streamFailed_outcome w request started t₀ target v' e).imp ?_
  rintro r _ _ (⟨hemitted, rfl, rfl⟩ | ⟨rfl, latency, record, rfl, hresp⟩)
  · refine .inl ⟨rfl, ?_⟩
    have htexts : texts = [] := by simpa [hemitted] using h.emitted
    have hoffers : textOffersOf pre = [] ∧ textOffersOf es = [] := by
      simpa [htexts] using (h.offers_eq rfl).symm
    refine ⟨⟨?_, ?_, ?_, ?_, ?_⟩, ?_⟩
    · simp [hpre.delivered, h.delivered, htexts, Break.isCut]
    · simp [hpre.records, h.unrecorded rfl]
    · rw [List.any_append, List.any_append, hpre.handled, h.handled]
      rfl
    · rw [List.any_append, List.any_append, hpre.late, h.late]
      rfl
    · rw [List.any_append, List.any_append, hpre.closes, h.closes]
      rfl
    · simp [hoffers]
  · have htext : ∀ resp, record.resp = some resp → resp.text = v'.text := by
      intro resp hr
      obtain rfl := Option.some.inj (hresp.symm.trans hr)
      rfl
    exact .of_record h hpre rfl (by simp) htext (by simp) (by simp) (by simp) rfl
      (by simp) (by simp) (by simp) (by simp) (by simp)

/-- The handlers around the chunk loop, and what follows it. -/
lemma streamEnd_spec (h : LoopRun target (textOffersOf pre) {} v' texts how es) (hpre : Calm pre)
    (idx : ℕ) :
    Prog.Sat (G.streamEnd request started t₀ target idx v' how.loopEnd) w
      (fun r _ post => TargetDone target r (pre ++ (es ++ post))) := by
  cases how with
  | drained => exact G.streamDrained_spec request started t₀ w h hpre idx
  | cut => exact .of_run (Prog.run_pure _ _) (.of_cut h hpre)
  | closed => exact G.streamAborted_spec request started t₀ w h hpre rfl rfl
  | cutClosed => exact G.streamAborted_spec request started t₀ w h hpre rfl rfl
  | failed e =>
    simp only [Break.loopEnd, streamEnd]
    split
    · exact G.streamFailed_spec request started t₀ w h hpre
    · next he =>
      exact G.streamAborted_spec request started t₀ w h hpre rfl (Bool.eq_false_of_not_eq_true he)

end End

section Targets

variable (request : NormalizedRequest) (started t₀ : ℚ) (target : Target) (deadline : Option ℚ)
  (idx : ℕ) (w : World σ)

/-- The loop and its handlers, after the events `pre` that opened the stream. -/
lemma streamLoop_end_spec (pre : List (Event σ)) (hpre : Calm pre) (ending : Option Exc)
    (pulled : Bool) (items : List (Option StreamChunk))
    (hpending : pendingText target pulled items = textOffersOf pre) :
    Prog.Sat (do
        let r ← G.streamLoop request started t₀ target deadline ending {} pulled items
        G.streamEnd request started t₀ target idx r.1 r.2) w
      (fun r _ es => TargetDone target r (pre ++ es)) := by
  refine .bind (G.streamLoop_spec request started t₀ target deadline ending items pulled {} w) ?_ ?_
  · rintro r w₁ es ⟨v', texts, how, hr, hloop, -⟩
    obtain rfl := Except.ok.inj hr
    exact G.streamEnd_spec request started t₀ w₁ (hpending ▸ hloop) hpre idx
  · rintro e w₁ es ⟨v', texts, how, hr, -⟩
    cases hr

/-- The handlers around the first `next`. -/
lemma firstPullFailed_spec (slot : TimeoutSlot) (e : Exc) :
    Prog.Sat (G.firstPullFailed request started t₀ target e) w (fun r _ es =>
      TargetDone target r
        (.streamCall target slot none :: .pull target true (.raised e) :: es)) := by
  refine (G.firstPullFailed_outcome w request started t₀ target e).imp ?_
  rintro r _ _ (⟨hexc, rfl, rfl⟩ | ⟨hexc, rfl, rfl⟩ | ⟨hexc, rfl, latency, record, rfl, hresp⟩)
  · refine .inr ⟨by simp, .lost (by simp) (by simp [hexc]), [], [], ?_⟩
    exact .of_silent (by simp) (by simp)
  · exact .inl ⟨rfl, ⟨by simp, by simp, by simp [hexc], by simp, by simp⟩, by simp⟩
  · refine .inr ⟨by simp, .once (c := record) (by simp) (by simp [hexc]) (by simp), [], [], ?_⟩
    exact .of_silent (by simp) (by simp [hresp])

/-- A native target. -/
lemma nativeTarget_spec (fn : Target → NormalizedRequest → ℚ → σ → Except Exc StreamScript × σ) :
    Prog.Sat (G.nativeTarget fn target request started deadline idx) w
      (fun r _ es => TargetDone target r es) := by
  unfold nativeTarget
  obtain ⟨slot, s₁, h₁, -⟩ := G.run_timeoutWithin w deadline
  refine .bind_run h₁ ?_
  cases slot with
  | none =>
    refine .bind_run (Prog.run_modify _ _) (.of_run (Prog.run_pure _ _) (.inl ⟨rfl, ?_⟩))
    exact ⟨⟨by simp, by simp, by simp, by simp, by simp⟩, by simp⟩
  | some slot =>
    obtain ⟨t₀, s₂, h₂⟩ := G.run_monotonic { w with outer := s₁ }
    refine .bind_run h₂ ?_
    obtain ⟨opened, s₃, h₃⟩ : ∃ opened s₃, (outsideDo (fn target request slot.timeout)).run
        { w with outer := s₂ } = (.ok opened, { w with outer := s₃ }, []) := ⟨_, _, rfl⟩
    refine .bind_run h₃ ?_
    cases opened with
    | error e =>
      refine .bind_run (Prog.run_emit _ _) (.of_run (Prog.run_raise _ _) ?_)
      refine .inr ⟨by simp, .lost (by simp) (by simp), [], [], .of_silent (by simp) (by simp)⟩
    | ok script =>
      refine .bind_run (Prog.run_emit _ _) ?_
      obtain ⟨items, ending⟩ := script
      cases items with
      | nil =>
        cases ending with
        | some e =>
          refine .bind_run (Prog.run_emit _ _) ?_
          exact G.firstPullFailed_spec request started t₀ target _ slot e
        | none =>
          refine .bind_run (Prog.run_emit _ _) ?_
          refine G.streamLoop_end_spec request started t₀ target deadline idx _
            [.streamCall target slot none, .pull target true .stop] ?_ none false [] rfl
          exact ⟨rfl, rfl, rfl, rfl, rfl⟩
      | cons first rest =>
        refine .bind_run (Prog.run_emit _ _) ?_
        refine G.streamLoop_end_spec request started t₀ target deadline idx _
          [.streamCall target slot none, .pull target true (.chunk first)] ?_ ending _ _ ?_
        · exact ⟨rfl, rfl, rfl, rfl, rfl⟩
        · cases first with
          | none => simp [pendingText, textOffer]
          | some c => simp [pendingText]

end Targets

end Gateway

/-! ## Buffered targets -/

/-- The text that a provider call brings. -/
def ProviderCall.offers (c : ProviderCall) : List (Target × StreamChunk) :=
  match c.out with
  | .ok resp => textOffer c.target (some { text := resp.text })
  | .error _ => []

/-- The rounds of a visit bring the text of their calls, and nothing reaches the consumer. -/
lemma view_of_rounds {es : List (Event σ)} (h : ∀ e ∈ es, e.isRound = true) :
    deliveredOf es = [] ∧ textOffersOf es = (callsOf es).flatMap ProviderCall.offers ∧
      es.any Event.isUnhandled = (callsOf es).any (fun c => !c.isTyped) ∧
      es.any Event.isLate = false ∧ es.any Event.isClose = false := by
  induction es with
  | nil => exact ⟨rfl, rfl, rfl, rfl, rfl⟩
  | cons e es ih =>
    obtain ⟨hdelivered, hoffers, hhandled, hlate, hclose⟩ :=
      ih fun e' he' => h e' (List.mem_cons_of_mem _ he')
    have hround := h e List.mem_cons_self
    cases e with
    | call t slot out =>
      cases out <;>
        simp [hdelivered, hoffers, hhandled, hlate, hclose, ProviderCall.offers,
          ProviderCall.isTyped]
    | sleep d s => simp [hdelivered, hoffers, hhandled, hlate, hclose]
    | _ => cases hround

/-- A visit brings the text of its answer, and only an escaped exception has no handler. -/
lemma Rounds.view {timeoutS : ℚ} {deadline : Option ℚ} {target : Target} {left : ℕ}
    {calls : List ProviderCall} {ending : Ending}
    (h : Rounds timeoutS deadline target left calls ending) :
    match ending with
    | .answered resp => calls.flatMap ProviderCall.offers =
        textOffer target (some { text := resp.text }) ∧ calls.any (fun c => !c.isTyped) = false
    | .escaped _ => calls.flatMap ProviderCall.offers = [] ∧ calls.any (fun c => !c.isTyped) = true
    | _ => calls.flatMap ProviderCall.offers = [] ∧ calls.any (fun c => !c.isTyped) = false := by
  induction h with
  | exhausted => exact ⟨rfl, rfl⟩
  | cut left h => exact ⟨rfl, rfl⟩
  | answered left hslot resp => exact ⟨by simp [ProviderCall.offers], rfl⟩
  | refused left hslot h => simp [ProviderCall.offers, ProviderCall.isTyped, Exc.isTyped, h]
  | escaped left hslot h => simp [ProviderCall.offers, ProviderCall.isTyped, h]
  | @again left slot hslot e h calls ending _ ih =>
    have htyped : (⟨target, slot, .error e⟩ : ProviderCall).isTyped = true := by
      simp only [ProviderCall.isTyped, Exc.isTyped, Bool.or_assoc, h, Bool.or_true]
    cases ending <;> simpa [ProviderCall.offers, htyped] using ih

/-- The text chunks of a response. -/
def textChunks (text : Str) : List StreamChunk := if text = [] then [] else [{ text := text }]

/-- A text of a response is offered as one chunk, if it is not empty. -/
lemma textOffer_text (target : Target) (text : Str) :
    textOffer target (some { text := text }) = (textChunks text).map (Prod.mk target) := by
  unfold textOffer textChunks
  by_cases h : text = [] <;> simp [StreamChunk.isText, h]

/-- What the consumer gets while a response is cut into chunks. -/
structure Chunked (texts last : List StreamChunk) (r : Except Exc Unit) (es : List (Event σ)) :
    Prop where
  delivered : deliveredOf es = texts ++ last
  last_done : ∀ c ∈ last, c.done = true
  last_le : last.length ≤ 1
  outcome : (r = .ok () ∧ last ≠ []) ∨ (r = .error .generatorExit ∧ es.any Event.isClose = true)
  records : recordsOf es = []
  starts : es.any Event.isStart = false
  handled : es.any Event.isUnhandled = false
  late : es.any Event.isLate = false

/-- An answer cut into chunks, after the rounds that brought it and its record. -/
lemma TargetDone.of_answer (G : Gateway σ) (request : NormalizedRequest) (latency : ℤ)
    {target : Target} {resp : NormalizedResponse} {record : Captured} {es fs : List (Event σ)}
    {last : List StreamChunk} {r : Except Exc Unit}
    (hdelivered : deliveredOf es = []) (hrecords : recordsOf es = [])
    (hoffers : textOffersOf es = textOffer target (some { text := resp.text }))
    (hhandled : es.any Event.isUnhandled = false) (hlate : es.any Event.isLate = false)
    (hresp : record.resp = some resp) (hfs : Chunked (textChunks resp.text) last r fs) :
    TargetDone target (r.map fun _ => true)
      (es ++ (.report target.provider true :: (G.captureEvents request latency record ++ fs))) := by
  have hmap : (r.map fun _ => true).map (fun _ => ()) = r := by cases r <;> rfl
  refine .inr ⟨by cases r <;> simp [Except.map], ?_, textChunks resp.text, last, ?_⟩
  · have hone : recordsOf (es ++ .report target.provider true ::
        (G.captureEvents request latency record ++ fs)) = [record] := by
      simp [hrecords, hfs.records]
    refine .once hone ?_ fun hl => ?_
    · simpa [hhandled] using hfs.handled
    · simp [hlate, hfs.late] at hl
  · rw [hmap]
    refine ⟨?_, ?_, ?_, hfs.last_done, hfs.last_le, ?_, ?_, ?_, ?_⟩
    · simp [hdelivered, hfs.delivered]
    · unfold textChunks
      split <;> simp_all [StreamChunk.isText]
    · rw [← textOffer_text, textOffersOf_append, hoffers]
      exact List.prefix_append _ _
    · rintro rfl
      simpa using hfs.outcome
    · rintro e rfl -
      obtain ⟨hexit, hclose⟩ : e = .generatorExit ∧ fs.any Event.isClose = true := by
        simpa using hfs.outcome
      exact ⟨hexit, by simp [hclose]⟩
    · refine ⟨es ++ .report target.provider true :: G.captureEvents request latency record, fs,
        ?_, ?_, hfs.starts⟩
      · simp
      · simp [hdelivered]
    · intro c hc resp' hresp'
      obtain rfl : c = record := by simpa [hrecords, hfs.records] using hc
      obtain rfl := Option.some.inj (hresp.symm.trans hresp')
      unfold textChunks
      split <;> simp_all

namespace Gateway

variable (G : Gateway σ) (request : NormalizedRequest) (started : ℚ)

/-- A response cut into chunks: its text, if it has any, and the `done` chunk. -/
lemma yieldResponse_spec (resp : NormalizedResponse) (w : World σ) :
    Prog.Sat (yieldResponse resp) w
      (fun r _ es => ∃ last, Chunked (textChunks resp.text) last r es) := by
  unfold yieldResponse
  have hdone : ∀ w' : World σ, Prog.Sat (yieldOrExit (responseDone resp)) w' (fun r _ es =>
      Chunked [] [responseDone resp] r es) := by
    intro w'
    obtain ⟨resumed, p, h⟩ := run_yieldOrExit (responseDone resp) w'
    refine .of_run h ?_
    cases resumed <;>
      exact ⟨by simp, by simp [responseDone], by simp, by simp, by simp, by simp, by simp, by simp⟩
  unfold textChunks yieldText
  by_cases htext : resp.text = []
  · simp only [htext, if_true]
    refine .bind_run (Prog.run_pure _ _) ((hdone w).imp fun r _ es h => ?_)
    exact ⟨[responseDone resp], h⟩
  · simp only [htext, if_false]
    obtain ⟨resumed, p, h⟩ := run_yieldOrExit { text := resp.text } w
    cases resumed with
    | true =>
      refine .bind_run h ((hdone _).imp fun r _ es hes => ⟨[responseDone resp], ?_⟩)
      exact ⟨by simp [hes.delivered], hes.last_done, hes.last_le, by simpa using hes.outcome,
        by simp [hes.records], by simpa using hes.starts, by simpa using hes.handled,
        by simpa using hes.late⟩
    | false =>
      refine .bind_error h ⟨[], ?_⟩
      exact ⟨by simp, by simp, by simp, .inr ⟨rfl, by simp⟩, by simp, by simp, by simp, by simp⟩

/-- A buffered target. -/
lemma bufferedTarget_spec (provider : Provider σ) (target : Target) (deadline : Option ℚ) (idx : ℕ)
    (w : World σ) :
    Prog.Sat (G.bufferedTarget provider target request started deadline idx) w
      (fun r _ es => TargetDone target r es) := by
  unfold bufferedTarget
  refine .bind (.attempt (G.invokeTarget_spec provider target request deadline w)) ?_ ?_
  · rintro out w₁ es₁ ⟨out', hout', ending, attempts, s₁, hrounds, hout, -, -, hround⟩
    obtain rfl := Except.ok.inj hout'
    obtain ⟨hdelivered, hoffers, hhandled, hlate, hcloses⟩ := view_of_rounds hround
    have hrecords := recordsOf_rounds hround
    have hview := hrounds.view
    rw [← hoffers, ← hhandled] at hview
    cases ending with
    | answered resp =>
      obtain ⟨hoffer, htyped⟩ := hview
      obtain rfl := hout
      refine .bind_run (run_reportSuccess _ _) ?_
      obtain ⟨w₂, latency, record, h₂, hresp⟩ := G.run_capture
        { w₁ with circuit := w₁.circuit.recordSuccess target.provider } request started target resp
        (if idx = 0 then .success else .fallbackSuccess) none none
      have hdone := fun last r fs (hfs : Chunked (textChunks resp.text) last r fs) =>
        TargetDone.of_answer G request latency hdelivered hrecords hoffer htyped hlate hresp hfs
      refine .bind_run h₂ (.bind (yieldResponse_spec resp w₂) ?_ ?_)
      · rintro _ w₃ es₃ ⟨last, hes⟩
        refine .of_run (Prog.run_pure _ _) ?_
        simpa [Except.map] using hdone last _ _ hes
      · rintro e w₃ es₃ ⟨last, hes⟩
        simpa [Except.map] using hdone last _ _ hes
    | refused e =>
      obtain ⟨hoffer, htyped⟩ := hview
      obtain rfl := hout
      simp only [hrounds.isTerminal, if_true]
      obtain ⟨now, s₂, h₂⟩ := G.run_reportFailure w₁ target.provider
      refine .bind_run h₂ ?_
      obtain ⟨latency, s₃, h₃⟩ := G.run_recordError
        { w₁ with outer := s₂, circuit := w₁.circuit.recordFailure target.provider now } request
        started none .terminal (some e.msg) (some target.name)
      refine .bind_run h₃ (.of_run (Prog.run_raise _ _) (.inr ⟨by simp, ?_, [], [], ?_⟩))
      · refine .once (by simp [hrecords]; rfl) (by simpa using htyped) fun hl => ?_
        simp [hlate] at hl
      · exact .of_silent (by simp [hdelivered]) (by simp [hrecords])
    | exhausted =>
      obtain ⟨hoffer, htyped⟩ := hview
      obtain ⟨msg, rfl⟩ := hout
      simp only [Exc.isTerminal_retriable, Exc.isDeadline_retriable, Exc.isRetriable_retriable,
        Bool.true_or, Bool.false_eq_true, if_false, if_true]
      obtain ⟨now, s₂, h₂⟩ := G.run_reportFailure w₁ target.provider
      refine .bind_run h₂ (.of_run (Prog.run_pure _ _) (.inl ⟨rfl, ?_⟩))
      exact ⟨⟨by simp [hdelivered], by simp [hrecords], by simpa using htyped, by simpa using hlate,
        by simpa using hcloses⟩, by simp [hoffer]⟩
    | cut =>
      obtain ⟨hoffer, htyped⟩ := hview
      obtain rfl := hout
      refine .of_run (Prog.run_pure _ _) (.inl ⟨rfl, ?_⟩)
      exact ⟨⟨by simp [hdelivered], by simp [hrecords], by simpa using htyped, by simpa using hlate,
        by simpa using hcloses⟩, by simp [hoffer]⟩
    | escaped e =>
      obtain ⟨hoffer, huntyped⟩ := hview
      obtain rfl := hout
      obtain ⟨ht, hr, htimeout, hd⟩ := Exc.of_not_isTyped hrounds.isTyped
      simp only [ht, hr, htimeout, hd, Bool.false_eq_true, if_false, Bool.or_false]
      refine .of_run (Prog.run_raise _ _) (.inr ⟨by simp, ?_, [], [], ?_⟩)
      · exact .lost (by simp [hrecords]) (by simpa using huntyped)
      · exact .of_silent (by simp [hdelivered]) (by simp [hrecords])
  · rintro e w₁ es₁ ⟨_, hr, -⟩
    cases hr

/-- The end of a chain without an answer. -/
lemma run_streamAllFailed (w : World σ) :
    ∃ latency s, (G.streamAllFailed request started).run w =
      (.error (G.streamAllFailedExc request),
        { w with outer := s, budget := w.budget.add request.metadata.consumerName none },
        G.captureEvents request latency
          { attempts := w.attempts, errorType := some .allFailed,
            errorMessage := w.attempts.getLast?.bind Attempt.error }) := by
  obtain ⟨latency, s, h⟩ := G.run_recordError w request started none .allFailed
    (w.attempts.getLast?.bind Attempt.error) none
  refine ⟨latency, s, ?_⟩
  rw [streamAllFailed, Prog.run_bind_ok (Prog.run_gets _ _), Prog.run_bind_ok h]
  simp

/-- What is known of the rest of a call, from some target of its chain on. -/
def StreamDone (r : Except Exc Unit) (es : List (Event σ)) : Prop :=
  Accounted es ∧ ∃ target texts last, Delivery r target texts last es

variable {G request started}

/-- A call that ends with an error record before anything is delivered. -/
lemma StreamDone.of_record {e : Exc} (latency : ℤ) {c : Captured} (hresp : c.resp = none) :
    StreamDone (.error e) (G.captureEvents request latency c) := by
  refine ⟨.once (c := c) (by simp) (by simp) (by simp), ⟨[], []⟩, [], [], ?_⟩
  exact .of_silent (by simp) (by simp [hresp])

/-- What follows a target that is given up. -/
lemma StreamDone.after_quiet {r : Except Exc Unit} {es fs : List (Event σ)} (hes : Quiet es)
    (h : StreamDone r fs) : StreamDone r (es ++ fs) := by
  obtain ⟨haccounted, target, texts, last, hdelivery⟩ := h
  exact ⟨haccounted.after_quiet hes, target, texts, last, hdelivery.after_quiet hes⟩

/-- The loop over the targets. -/
lemma streamWalk_spec (deadline : Option ℚ) (targets : List Target) (idx : ℕ) (w : World σ) :
    Prog.Sat (G.streamWalk request started deadline idx targets) w
      (fun r _ es => StreamDone r es) := by
  induction targets generalizing idx w with
  | nil =>
    obtain ⟨latency, s, h⟩ := G.run_streamAllFailed request started w
    exact .of_run h (.of_record latency rfl)
  | cons t rest ih =>
    unfold streamWalk
    obtain ⟨passed, s₁, h₁⟩ := G.run_deadlineExceeded w t deadline
    refine .bind_run h₁ ?_
    cases passed with
    | true =>
      obtain ⟨latency, s, h⟩ := G.run_streamAllFailed request started
        { w with outer := s₁, attempts := w.attempts ++
          [guardEntry t .deadline "request deadline exceeded"] }
      exact .of_run h (.of_record latency rfl)
    | false =>
      simp only [Bool.false_eq_true, if_false]
      cases hp : G.providers.get? t.provider with
      | none =>
        obtain ⟨latency, s, h⟩ := G.run_recordError _ request started none .provider
          (some (G.unregistered t)) (some t.name)
        refine .bind_run h (.of_run (Prog.run_raise _ _) ?_)
        simpa using StreamDone.of_record latency rfl
      | some provider =>
        dsimp only
        cases hc : G.costMeter.ensurePrice t.name with
        | error e =>
          obtain ⟨latency, s, h⟩ := G.run_recordError _ request started none .pricing (some e.msg)
            (some t.name)
          refine .bind_run h (.of_run (Prog.run_raise _ _) ?_)
          simpa using StreamDone.of_record latency rfl
        | ok u =>
          obtain ⟨now, s₂, h₂⟩ := G.run_circuitBlocked _ t
          refine .bind_run h₂ ?_
          cases hallow : (w.circuit.allow t.provider now).1 with
          | false => exact ih (idx + 1) _
          | true =>
            simp only [Bool.not_true, Bool.false_eq_true, if_false]
            have hrest : ∀ (m : Call σ Bool) (w₀ : World σ),
                Prog.Sat m w₀ (fun r _ es => TargetDone t r es) →
                Prog.Sat (do
                    let ended ← m
                    if ended then return ()
                    else G.streamWalk request started deadline (idx + 1) rest) w₀
                  (fun r _ es => StreamDone r es) := by
              intro m w₀ hm
              refine .bind hm ?_ ?_
              · intro ended w₁ es₁ hdone
                rcases hdone with ⟨hr, hquiet⟩ | ⟨hr, haccounted, texts, last, hdelivery⟩
                · obtain rfl := Except.ok.inj hr
                  exact (ih (idx + 1) w₁).imp fun r _ es h => h.after_quiet hquiet
                · have hover : ended = true := by cases ended <;> simp_all
                  subst hover
                  have hend : StreamDone (.ok ()) es₁ := ⟨haccounted, t, texts, last, hdelivery⟩
                  refine .of_run (Prog.run_pure _ _) ?_
                  simpa using hend
              · intro e w₁ es₁ hdone
                rcases hdone with ⟨hr, -⟩ | ⟨-, haccounted, texts, last, hdelivery⟩
                · cases hr
                · exact ⟨haccounted, t, texts, last, hdelivery⟩
            cases provider.stream with
            | none =>
              exact hrest _ _ (G.bufferedTarget_spec request started provider t deadline idx _)
            | some fn => exact hrest _ _ (G.nativeTarget_spec request started t deadline idx _ fn)

end Gateway

end AgentCtl
