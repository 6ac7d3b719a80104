import AgentCtl.Core.Scripted
import AgentCtl.Core.StreamVisits

set_option relaxedAutoImplicit false
set_option autoImplicit false

/-!
# What a stream delivers and records

A whole `invoke_stream` call, from its checks to the end of its chain. What the consumer gets comes
from a single target, in order and without a gap; a call leaves one record, unless an exception had
no handler, or the consumer closed the generator at the `done` chunk that follows a deadline cut:
that `yield` stands inside the `try`, so the handler for an aborted stream records the call again.

## Main definitions

* `AgentCtl.Gateway.ChecksTyped` — validation raises nothing but `TerminalError`.
* `AgentCtl.Charges` — the budget is charged once for every record.

## Main results

* `AgentCtl.stream_delivery` — what the consumer of a stream gets.
* `AgentCtl.one_stream_record_iff` — when a stream leaves exactly one record.
-/

namespace AgentCtl

variable {σ : Type} {G : Gateway σ} {request : NormalizedRequest}

namespace Gateway

variable (G request) in
/-- Validation raises nothing but a `TerminalError`. -/
def ChecksTyped : Prop :=
  ∀ e, validateLocalContent G.py request.messages request.toolChoice = .error e →
    e.isTerminal = true

variable (G request) in
/-- The ways in which a stream goes: validation raised what nobody records, or the call ended before
the first target, or in its chain. -/
lemma invokeStream_spec (w : World σ) :
    Prog.Sat (G.invokeStream request) w (fun r _ es =>
      (¬ G.ChecksTyped request ∧ (∃ e, r = .error e) ∧ es = []) ∨
        (G.ChecksTyped request ∧ StreamDone r es)) := by
  rw [invokeStream]
  refine .bind_run (Prog.run_modify _ _) ?_
  obtain ⟨started, s₁, h₁⟩ := G.run_monotonic { w with attempts := [] }
  refine .bind_run h₁ ?_
  rcases G.checkRequest_spec request { w with attempts := [], outer := s₁ } started
    with ⟨hvalid, h₂⟩ | ⟨e, latency, s₂, hvalid, h₂⟩
  · have hchecks : G.ChecksTyped request := by
      intro e he
      rw [hvalid] at he
      cases he
    refine .bind_run h₂ ?_
    rcases G.checkBudget_spec request { w with attempts := [], outer := s₁ }
      started none with ⟨-, h₃⟩ | ⟨e, latency, s₃, -, h₃⟩
    · refine .bind_run h₃ ?_
      rcases G.resolveTargets_spec request
        { w with attempts := [], outer := s₁ } started none
        with ⟨targets, -, h₄⟩ | ⟨e, latency, s₄, -, h₄⟩
      · refine .bind_run h₄ ((streamWalk_spec (G.deadlineFor started) targets 0 _).imp ?_)
        exact fun r _ es h => .inr ⟨hchecks, h⟩
      · exact .bind_error h₄ (.inr ⟨hchecks, .of_record _ rfl⟩)
    · exact .bind_error h₃ (.inr ⟨hchecks, .of_record _ rfl⟩)
  · by_cases he : e.isTerminal = true
    · have hchecks : G.ChecksTyped request := by
        intro e' he'
        rw [hvalid] at he'
        exact Except.error.inj he' ▸ he
      rw [if_pos he] at h₂
      exact .bind_error h₂ (.inr ⟨hchecks, .of_record _ rfl⟩)
    · rw [if_neg he] at h₂
      exact .bind_error h₂ (.inl ⟨fun h => he (h e hvalid), ⟨e, rfl⟩, rfl⟩)

end Gateway

/-- **What a stream delivers.** The chunks that a call delivers are text chunks of a single target,
in the order in which it brought them and without a gap, and then at most one `done` chunk; a call
that returns has delivered it, and one that raises has not, unless the consumer closed the generator
at it. No target is started once the first chunk is delivered. Every recorded response has the text
that was delivered. -/
theorem stream_delivery (G : Gateway σ) (request : NormalizedRequest) (w : World σ) :
    ∃ target texts last, Delivery ((G.invokeStream request).out w) target texts last
      ((G.invokeStream request).trace w) := by
  have hspec := G.invokeStream_spec request w
  unfold Prog.Sat at hspec
  rcases hspec with ⟨-, ⟨e, he⟩, hnil⟩ | ⟨-, -, hdelivery⟩
  · rw [he, hnil]
    exact ⟨⟨[], []⟩, [], [], .of_silent rfl (by simp)⟩
  · exact hdelivery

/-! ## The budget -/

/-- The budget is charged once for every record, with its cost, and by nothing else. -/
def Charges (G : Gateway σ) (consumer : Str) (w w' : World σ) (es : List (Event σ)) : Prop :=
  w'.budget = (recordsOf es).foldl (fun b c => b.add consumer (G.capturedCost c)) w.budget

section Budget

open Prog Gateway

variable {consumer : Str}

/-- Charges add up along a run. -/
lemma frame_charges : Frame (Charges G consumer) where
  refl _ := rfl
  trans h₁ h₂ := by
    unfold Charges at h₁ h₂ ⊢
    rw [recordsOf_append, List.foldl_append, ← h₁, h₂]

/-- A part that neither charges nor records. -/
lemma keeps_charges {α : Type} {m : Call σ α} (h : ∀ w, ∃ r w' es, m.run w = (r, w', es) ∧
    w'.budget = w.budget ∧ recordsOf es = []) : Keeps (Charges G consumer) m := by
  refine .of_run fun w => ?_
  obtain ⟨r, w', es, hrun, hbudget, hrecords⟩ := h w
  exact ⟨r, w', es, hrun, by rw [Charges, hrecords, hbudget]; rfl⟩

/-- A capture charges the cost that it records. -/
lemma keeps_charges_record (started : ℚ) (c : Captured) :
    Keeps (Charges G request.metadata.consumerName) (G.record request started c) := by
  refine .of_run fun w => ?_
  obtain ⟨latency, s, h⟩ := G.run_record w request started c
  exact ⟨_, _, _, h, by simp [Charges]⟩

/-- The capture of a failed call. -/
lemma keeps_charges_recordError (started : ℚ) (errorType : ErrorType)
    (message resolved : Option Str) :
    Keeps (Charges G request.metadata.consumerName)
      (G.recordError request started none errorType message resolved) :=
  .bind frame_charges (.gets frame_charges _) fun _ => keeps_charges_record started _

/-- The capture of a stream. -/
lemma keeps_charges_capture (started : ℚ) (target : Target) (resp : NormalizedResponse)
    (status : Status) (errorType : Option ErrorType) (message : Option Str) :
    Keeps (Charges G request.metadata.consumerName)
      (G.capture request started target resp status errorType message) :=
  .bind frame_charges (.gets frame_charges _) fun _ => keeps_charges_record started _

/-- A change of the state that leaves the budget alone. -/
lemma keeps_charges_modify {f : World σ → World σ} (h : ∀ w, (f w).budget = w.budget) :
    Keeps (Charges G consumer) (modify f : Call σ Unit) :=
  keeps_charges fun w => ⟨_, _, _, run_modify f w, h w, rfl⟩

/-- An event that is no record. -/
lemma keeps_charges_emit {e : Event σ} (h : e.record? = none) :
    Keeps (Charges G consumer) (emit e : Call σ Unit) :=
  keeps_charges fun w => ⟨_, _, _, run_emit e w, rfl, by rw [recordsOf_cons, h]; rfl⟩

/-- The outside world has no part in the budget. -/
lemma keeps_charges_outside {α : Type} (f : σ → α × σ) :
    Keeps (Charges G consumer) (outsideDo f : Call σ α) :=
  keeps_charges fun _ => ⟨_, _, _, rfl, rfl, rfl⟩

/-- Reading the clock charges nothing. -/
lemma keeps_charges_monotonic : Keeps (Charges G consumer) G.monotonic :=
  keeps_charges_outside _

/-- Reporting a success charges nothing. -/
lemma keeps_charges_reportSuccess (provider : Str) :
    Keeps (Charges G consumer) (reportSuccess provider) :=
  keeps_charges fun w => ⟨_, _, _, run_reportSuccess w provider, rfl, rfl⟩

/-- Reporting a failure charges nothing. -/
lemma keeps_charges_reportFailure (provider : Str) :
    Keeps (Charges G consumer) (G.reportFailure provider) := by
  refine keeps_charges fun w => ?_
  obtain ⟨now, s, h⟩ := G.run_reportFailure w provider
  exact ⟨_, _, _, h, rfl, rfl⟩

/-- An attempt at a stream charges nothing. -/
lemma keeps_charges_recordStreamAttempt (target : Target) (outcome : AttemptOutcome) (started : ℚ)
    (error : Option Str) :
    Keeps (Charges G consumer) (G.recordStreamAttempt target outcome started error) := by
  refine keeps_charges fun w => ?_
  obtain ⟨latency, s, h⟩ := G.run_recordStreamAttempt w target outcome started error
  exact ⟨_, _, _, h, rfl, rfl⟩

/-- Delivering a chunk charges nothing. -/
lemma keeps_charges_yieldChunk (c : StreamChunk) : Keeps (Charges G consumer) (yieldChunk c) := by
  refine keeps_charges fun w => ?_
  obtain ⟨resumed, p, h⟩ := run_yieldChunk c w
  exact ⟨_, _, _, h, rfl, by cases resumed <;> simp⟩

/-- Delivering a chunk outside any handler charges nothing. -/
lemma keeps_charges_yieldOrExit (c : StreamChunk) :
    Keeps (Charges G consumer) (yieldOrExit c) := by
  refine keeps_charges fun w => ?_
  obtain ⟨resumed, p, h⟩ := run_yieldOrExit c w
  exact ⟨_, _, _, h, rfl, by cases resumed <;> simp⟩

/-- The timeout of an attempt charges nothing. -/
lemma keeps_charges_timeoutWithin (deadline : Option ℚ) :
    Keeps (Charges G consumer) (G.timeoutWithin deadline) := by
  refine keeps_charges fun w => ?_
  obtain ⟨slot, s, h, -⟩ := G.run_timeoutWithin w deadline
  exact ⟨_, _, _, h, rfl, rfl⟩

/-- The deadline guard between two chunks charges nothing. -/
lemma keeps_charges_cutByDeadline (deadline : Option ℚ) :
    Keeps (Charges G consumer) (G.cutByDeadline deadline) := by
  refine keeps_charges fun w => ?_
  obtain ⟨cut, now, s, h⟩ := G.run_cutByDeadline w deadline
  refine ⟨_, _, _, h, rfl, ?_⟩
  cases cut <;> rfl

/-- The deadline guard charges nothing. -/
lemma keeps_charges_deadlineExceeded (target : Target) (deadline : Option ℚ) :
    Keeps (Charges G consumer) (G.deadlineExceeded target deadline) := by
  refine keeps_charges fun w => ?_
  obtain ⟨passed, s, h⟩ := G.run_deadlineExceeded w target deadline
  exact ⟨_, _, _, h, rfl, rfl⟩

/-- The breaker guard charges nothing. -/
lemma keeps_charges_circuitBlocked (target : Target) :
    Keeps (Charges G consumer) (G.circuitBlocked target) := by
  refine keeps_charges fun w => ?_
  obtain ⟨now, s, h⟩ := G.run_circuitBlocked w target
  exact ⟨_, _, _, h, rfl, rfl⟩

/-- The retry loop records nothing, and charges nothing. -/
lemma keeps_charges_invokeTarget (provider : Provider σ) (target : Target)
    (deadline : Option ℚ) :
    Keeps (Charges G consumer) (G.invokeTarget provider target request deadline) := by
  intro w
  obtain ⟨_, _, _, -, -, hw, -, hround⟩ := G.invokeTarget_spec provider target request deadline w
  rw [Charges, hw, recordsOf_rounds hround]
  rfl

/-! ### The runner -/

/-- The chunk loop charges what it records at a cut. -/
lemma keeps_charges_streamLoop (started t₀ : ℚ) (target : Target) (deadline : Option ℚ)
    (ending : Option Exc) (items : List (Option StreamChunk)) (pulled : Bool) (v : StreamVars) :
    Keeps (Charges G request.metadata.consumerName)
      (G.streamLoop request started t₀ target deadline ending v pulled items) := by
  induction items generalizing pulled v with
  | nil =>
    unfold streamLoop
    cases ending <;>
      exact .bind frame_charges (keeps_charges_emit rfl) fun _ => .pure frame_charges _
  | cons c rest ih =>
    unfold streamLoop
    refine .bind frame_charges ?_ fun _ => ?_
    · cases pulled
      · exact keeps_charges_emit rfl
      · exact .pure frame_charges _
    refine .bind frame_charges (keeps_charges_cutByDeadline _) fun cut => ?_
    split
    · refine .bind frame_charges (keeps_charges_recordStreamAttempt _ _ _ _) fun _ => ?_
      refine .bind frame_charges (keeps_charges_capture _ _ _ _ _ _) fun _ => ?_
      exact .bind frame_charges (keeps_charges_yieldChunk _) fun _ => .pure frame_charges _
    · split
      · exact ih false v
      · dsimp only
        split
        · exact ih false _
        · split
          · exact ih false _
          · refine .bind frame_charges (keeps_charges_yieldChunk _) fun resumed => ?_
            split
            · exact ih false _
            · exact .pure frame_charges _

/-- The handlers around the chunk loop charge what they record. -/
lemma keeps_charges_streamEnd (started t₀ : ℚ) (target : Target) (idx : ℕ) (v : StreamVars)
    (loopEnd : LoopEnd) :
    Keeps (Charges G request.metadata.consumerName)
      (G.streamEnd request started t₀ target idx v loopEnd) := by
  unfold streamEnd
  split
  · refine .bind frame_charges (keeps_charges_reportSuccess _) fun _ => ?_
    refine .bind frame_charges (keeps_charges_recordStreamAttempt _ _ _ _) fun _ => ?_
    refine .bind frame_charges (keeps_charges_capture _ _ _ _ _ _) fun _ => ?_
    exact .bind frame_charges (keeps_charges_yieldOrExit _) fun _ => .pure frame_charges _
  · exact .pure frame_charges _
  · split
    · refine .bind frame_charges (keeps_charges_reportFailure _) fun _ => ?_
      split
      · exact .bind frame_charges (keeps_charges_recordStreamAttempt _ _ _ _) fun _ =>
          .pure frame_charges _
      · refine .bind frame_charges (keeps_charges_recordStreamAttempt _ _ _ _) fun _ => ?_
        exact .bind frame_charges (keeps_charges_capture _ _ _ _ _ _) fun _ =>
          .raise frame_charges _
    · refine .bind frame_charges (keeps_charges_recordStreamAttempt _ _ _ _) fun _ => ?_
      exact .bind frame_charges (keeps_charges_capture _ _ _ _ _ _) fun _ => .raise frame_charges _

/-- An opened stream charges what it records. -/
lemma keeps_charges_streamFrom (started t₀ : ℚ) (target : Target) (deadline : Option ℚ) (idx : ℕ)
    (script : StreamScript) :
    Keeps (Charges G request.metadata.consumerName)
      (G.streamFrom request started t₀ target deadline idx script) := by
  unfold streamFrom
  split
  · split
    · refine .bind frame_charges (keeps_charges_emit rfl) fun _ => ?_
      unfold firstPullFailed
      split
      · exact .raise frame_charges _
      · split
        · refine .bind frame_charges (keeps_charges_reportFailure _) fun _ => ?_
          refine .bind frame_charges (keeps_charges_recordStreamAttempt _ _ _ _) fun _ => ?_
          exact .bind frame_charges (keeps_charges_recordError _ _ _ _) fun _ =>
            .raise frame_charges _
        · refine .bind frame_charges (keeps_charges_reportFailure _) fun _ => ?_
          exact .bind frame_charges (keeps_charges_recordStreamAttempt _ _ _ _) fun _ =>
            .pure frame_charges _
    · refine .bind frame_charges (keeps_charges_emit rfl) fun _ => ?_
      exact .bind frame_charges (keeps_charges_streamLoop _ _ _ _ _ _ _ _) fun r =>
        keeps_charges_streamEnd _ _ _ _ _ _
  · refine .bind frame_charges (keeps_charges_emit rfl) fun _ => ?_
    exact .bind frame_charges (keeps_charges_streamLoop _ _ _ _ _ _ _ _) fun r =>
      keeps_charges_streamEnd _ _ _ _ _ _

/-- A native target charges what it records. -/
lemma keeps_charges_nativeTarget
    (fn : Target → NormalizedRequest → ℚ → σ → Except Exc StreamScript × σ) (target : Target)
    (started : ℚ) (deadline : Option ℚ) (idx : ℕ) :
    Keeps (Charges G request.metadata.consumerName)
      (G.nativeTarget fn target request started deadline idx) := by
  refine .bind frame_charges (keeps_charges_timeoutWithin _) fun slot => ?_
  split
  · exact .bind frame_charges (keeps_charges_modify fun _ => rfl) fun _ => .pure frame_charges _
  · refine .bind frame_charges keeps_charges_monotonic fun t₀ => ?_
    refine .bind frame_charges (keeps_charges_outside _) fun opened => ?_
    split
    · exact .bind frame_charges (keeps_charges_emit rfl) fun _ => .raise frame_charges _
    · exact .bind frame_charges (keeps_charges_emit rfl) fun _ =>
        keeps_charges_streamFrom _ _ _ _ _ _

/-- A buffered target charges what it records. -/
lemma keeps_charges_bufferedTarget (provider : Provider σ) (target : Target) (started : ℚ)
    (deadline : Option ℚ) (idx : ℕ) :
    Keeps (Charges G request.metadata.consumerName)
      (G.bufferedTarget provider target request started deadline idx) := by
  refine .bind frame_charges (.attempt (keeps_charges_invokeTarget _ _ _)) fun out => ?_
  split
  · refine .bind frame_charges (keeps_charges_reportSuccess _) fun _ =>
      .bind frame_charges (keeps_charges_capture _ _ _ _ _ _) fun _ => ?_
    refine .bind frame_charges (.bind frame_charges ?_ fun _ => keeps_charges_yieldOrExit _)
      fun _ => .pure frame_charges _
    unfold yieldText
    split
    · exact .pure frame_charges _
    · exact keeps_charges_yieldOrExit _
  · split
    · refine .bind frame_charges (keeps_charges_reportFailure _) fun _ => ?_
      exact .bind frame_charges (keeps_charges_recordError _ _ _ _) fun _ => .raise frame_charges _
    · split
      · exact .pure frame_charges _
      · split
        · exact .bind frame_charges (keeps_charges_reportFailure _) fun _ => .pure frame_charges _
        · exact .raise frame_charges _

/-- The loop over the targets charges what it records. -/
lemma keeps_charges_streamWalk (started : ℚ) (deadline : Option ℚ) (targets : List Target)
    (idx : ℕ) :
    Keeps (Charges G request.metadata.consumerName)
      (G.streamWalk request started deadline idx targets) := by
  have hfail :
      Keeps (Charges G request.metadata.consumerName) (G.streamAllFailed request started) :=
    .bind frame_charges (.gets frame_charges _) fun _ =>
      .bind frame_charges (keeps_charges_recordError _ _ _ _) fun _ => .raise frame_charges _
  induction targets generalizing idx with
  | nil => exact hfail
  | cons t rest ih =>
    unfold streamWalk
    refine .bind frame_charges (keeps_charges_deadlineExceeded t _) fun passed => ?_
    split
    · exact hfail
    · split
      · exact .bind frame_charges (keeps_charges_recordError _ _ _ _) fun _ =>
          .raise frame_charges _
      · split
        · exact .bind frame_charges (keeps_charges_recordError _ _ _ _) fun _ =>
            .raise frame_charges _
        · refine .bind frame_charges (keeps_charges_circuitBlocked t) fun blocked => ?_
          split
          · exact ih (idx + 1)
          · dsimp only
            split
            · refine .bind frame_charges (keeps_charges_bufferedTarget _ _ _ _ _) fun ended => ?_
              split
              · exact .pure frame_charges _
              · exact ih (idx + 1)
            · refine .bind frame_charges (keeps_charges_nativeTarget _ _ _ _ _) fun ended => ?_
              split
              · exact .pure frame_charges _
              · exact ih (idx + 1)

/-- A stream charges the budget once for every record. -/
lemma keeps_charges_invokeStream (G : Gateway σ) (request : NormalizedRequest) :
    Keeps (Charges G request.metadata.consumerName) (G.invokeStream request) := by
  refine .bind frame_charges (keeps_charges_modify fun _ => rfl) fun _ => ?_
  refine .bind frame_charges keeps_charges_monotonic fun started => ?_
  refine .bind frame_charges ?_ fun _ => .bind frame_charges ?_ fun _ =>
    .bind frame_charges ?_ fun targets => keeps_charges_streamWalk _ _ _ _
  · unfold checkRequest
    split
    · exact .pure frame_charges _
    · dsimp only
      split
      · exact .bind frame_charges (keeps_charges_recordError _ _ _ _) fun _ =>
          .raise frame_charges _
      · exact .raise frame_charges _
  · refine .bind frame_charges (.attempt (.bind frame_charges (.gets frame_charges _) fun _ =>
      .ofExcept frame_charges _)) fun r => ?_
    split
    · exact .pure frame_charges _
    · exact .bind frame_charges (keeps_charges_recordError _ _ _ _) fun _ => .raise frame_charges _
  · unfold resolveTargets
    split
    · exact .pure frame_charges _
    · exact .bind frame_charges (keeps_charges_recordError _ _ _ _) fun _ => .raise frame_charges _

end Budget

/-! ## The contract -/

/-- **One record for every stream.** A call leaves exactly one record, and charges the budget with
its cost, exactly when validation raises nothing but what is recorded, every exception of a provider
has a handler, and the consumer does not close the generator once the deadline has cut the stream.
-/
theorem one_stream_record_iff (G : Gateway σ) (request : NormalizedRequest) (w : World σ) :
    (∃ c, recordsOf ((G.invokeStream request).trace w) = [c] ∧
        ((G.invokeStream request).final w).budget =
          w.budget.add request.metadata.consumerName (G.capturedCost c)) ↔
      G.ChecksTyped request ∧
        ((G.invokeStream request).trace w).any Event.isUnhandled = false ∧
        ¬ (((G.invokeStream request).trace w).any Event.isLate = true ∧
          ((G.invokeStream request).trace w).any Event.isClose = true) := by
  have hbudget := keeps_charges_invokeStream G request w
  have hspec := G.invokeStream_spec request w
  unfold Prog.Sat at hspec
  unfold Charges at hbudget
  generalize (G.invokeStream request).trace w = es at hspec hbudget ⊢
  rcases hspec with ⟨hchecks, -, rfl⟩ | ⟨hchecks, haccounted, -⟩
  · simp [hchecks]
  · cases haccounted with
    | lost hrecords h => simp [hrecords, h]
    | @once c hrecords h hclose =>
      have hbudget' : ((G.invokeStream request).final w).budget =
          w.budget.add request.metadata.consumerName (G.capturedCost c) := by
        simpa [hrecords] using hbudget
      refine iff_of_true ⟨c, hrecords, hbudget'⟩ ⟨hchecks, h, ?_⟩
      rintro ⟨hlate, hclosed⟩
      rw [hclose hlate] at hclosed
      cases hclosed
    | twice hrecords hlate hclose =>
      refine iff_of_false (by simp [hrecords]) ?_
      rintro ⟨-, -, h⟩
      exact h ⟨hlate, hclose⟩

/-- A target that streams two words. -/
def twoWords : Provider ℚ where
  invoke _ _ _ s := (.error (.retriable "busy"), s)
  stream := some fun _ _ _ s => (.ok ⟨[some { text := "good" }, some { text := "bye" }], none⟩, s)

/-- A gateway whose clock shows one second more at every reading, with a deadline of five seconds:
it passes before the second word. -/
def tickingGateway : Gateway ℚ where
  py := .plain
  outside := ⟨fun s => (s, s + 1), fun d s => s + d, fun a _ s => (a, s)⟩
  router := ⟨[("m", [⟨"p", "a"⟩])], []⟩
  providers := [("p", twoWords)]
  costMeter := ⟨[], false⟩
  requestDeadlineS := 5

/-- A consumer that takes one chunk, and closes the generator at the next one. -/
def closesAtSecond : World ℚ := { outer := 0, patience := some 1 }

/-- The deadline cuts the stream after its first word, and the consumer closes the generator at the
`done` chunk: the call is recorded as cut, and then as aborted. -/
theorem closed_cut_records_twice :
    (recordsOf ((tickingGateway.invokeStream plainRequest).trace closesAtSecond)).map
        (fun c => c.status) = [.deadline, .aborted] ∧
      ¬ ∃ c, recordsOf ((tickingGateway.invokeStream plainRequest).trace closesAtSecond) = [c] := by
  have htwo : (recordsOf ((tickingGateway.invokeStream plainRequest).trace closesAtSecond)).map
      (fun c => c.status) = [.deadline, .aborted] := by
    decide +kernel
  refine ⟨htwo, ?_⟩
  rintro ⟨c, hc⟩
  simp [hc] at htwo

end AgentCtl
