import AgentCtl.Core.StreamRunner
import AgentCtl.Core.TwoRuns

set_option relaxedAutoImplicit false
set_option autoImplicit false

/-!
# Two streams that differ in error texts

The streaming calls of a gateway, and of the same gateway with providers that word their exceptions
differently, run in lockstep as the other calls do. An exception may come from the first `next`,
from a later one, or from the consumer.

## Main definitions

* `AgentCtl.LoopEnd.Like` — ends of the chunk loop up to the text of an exception.

## Main results

* `AgentCtl.Gateway.alike_streamLoop`, `alike_streamEnd` — the chunk loop and its handlers.
* `AgentCtl.Gateway.alike_invokeStream` — streaming calls in lockstep.
-/

namespace AgentCtl

variable {σ : Type} {py : Runtime}

/-- Ends of the chunk loop that differ at most in the text of an exception. -/
inductive LoopEnd.Like (py : Runtime) : LoopEnd → LoopEnd → Prop
  | drained : LoopEnd.Like py .drained .drained
  | cut : LoopEnd.Like py .cut .cut
  | raised {e e'} : Exc.Like py e e' → LoopEnd.Like py (.raised e) (.raised e')

/-- What the chunk loop hands over, up to the text of an exception. -/
def LoopLike (py : Runtime) (r r' : StreamVars × LoopEnd) : Prop :=
  r.1 = r'.1 ∧ LoopEnd.Like py r.2 r'.2

/-! ## Yields -/

/-- The two consumers take as many chunks. -/
lemma alike_yieldChunk (c : StreamChunk) :
    Alike (σ := σ) py Eq (yieldChunk c) (yieldChunk c) := by
  refine .bind_eq (alike_emit _) fun _ => .bind_eq (alike_gets fun _ _ => rfl) fun patience => ?_
  match patience with
  | none => exact .pure rfl
  | some 0 => exact .bind_eq (alike_emit _) fun _ => .pure rfl
  | some (n + 1) =>
    exact .bind_eq (alike_modify (fun _ => rfl) fun _ _ => rfl) fun _ => .pure rfl

/-- A `yield` outside any handler. -/
lemma alike_yieldOrExit (c : StreamChunk) :
    Alike (σ := σ) py Eq (yieldOrExit c) (yieldOrExit c) := by
  refine .bind_eq (alike_yieldChunk c) fun resumed => ?_
  cases resumed with
  | true => exact .pure rfl
  | false => exact .raise (.refl _)

namespace Gateway

variable (G : Gateway σ)

/-- Both sides deliver the same response. -/
lemma alike_yieldResponse (resp : NormalizedResponse) :
    Alike (σ := σ) py Eq (yieldResponse resp) (yieldResponse resp) := by
  refine .bind_eq ?_ fun _ => alike_yieldOrExit _
  unfold yieldText
  split
  · exact .pure rfl
  · exact alike_yieldOrExit _

/-! ## The chunk loop -/

/-- Capturing a stream, with like messages. -/
lemma alike_capture (request : NormalizedRequest) (started : ℚ) (target : Target)
    (resp : NormalizedResponse) (status : Status) (errorType : Option ErrorType)
    {message message' : Option Str} (h : TextLike G.py message message') :
    Alike G.py Eq (G.capture request started target resp status errorType message)
      (G.capture request started target resp status errorType message') :=
  .bind alike_attempts fun _ as' has => G.alike_record request started ⟨as', message', has, h, rfl⟩

/-- The deadline cuts both streams at the same chunk. -/
lemma alike_cutByDeadline (deadline : Option ℚ) :
    Alike G.py Eq (G.cutByDeadline deadline) (G.cutByDeadline deadline) := by
  cases deadline with
  | none => exact .pure rfl
  | some d =>
    refine .bind_eq (G.inStep G.providers).monotonic fun now => ?_
    split
    · exact .bind_eq (alike_emit _) fun _ => .pure rfl
    · exact .pure rfl

/-- Both sides pull the same value. -/
lemma alike_pullUnless (pulled : Bool) (target : Target) (c : Option StreamChunk) :
    Alike (σ := σ) py Eq (pullUnless pulled target c) (pullUnless pulled target c) := by
  cases pulled with
  | true => exact .pure rfl
  | false => exact alike_emit _

variable {ps : OrderedDict Str (Provider σ)}

/-- **The chunk loop in lockstep**, over the same values with like endings. -/
lemma alike_streamLoop (request : NormalizedRequest) (started t₀ : ℚ) (target : Target)
    (deadline : Option ℚ) {ending ending' : Option Exc}
    (h : Option.Rel (Exc.Like G.py) ending ending') (v : StreamVars) (pulled : Bool)
    (items : List (Option StreamChunk)) :
    Alike G.py (LoopLike G.py)
      (G.streamLoop request started t₀ target deadline ending v pulled items)
      ((G.withProviders ps).streamLoop request started t₀ target deadline ending' v pulled
        items) := by
  induction items generalizing v pulled with
  | nil =>
    cases h with
    | none => exact .bind_eq (alike_emit _) fun _ => .pure ⟨rfl, .drained⟩
    | some he => exact .bind_eq (.emit (.pull he)) fun _ => .pure ⟨rfl, .raised he⟩
  | cons c rest ih =>
    refine .bind_eq (alike_pullUnless pulled target c) fun _ => ?_
    refine .bind_eq (G.alike_cutByDeadline deadline) fun cut => ?_
    cases cut with
    | true =>
      refine .bind_eq ((G.inStep ps).recordStreamAttempt target t₀ rfl fun _ => rfl) fun _ => ?_
      refine .bind_eq (G.alike_capture request started target _ _ _ rfl) fun _ => ?_
      refine .bind_eq (alike_yieldChunk _) fun resumed => ?_
      cases resumed with
      | true => exact .pure ⟨rfl, .cut⟩
      | false => exact .pure ⟨rfl, .raised (.refl _)⟩
    | false =>
      cases c with
      | none => exact ih v false
      | some chunk =>
        simp only [Bool.false_eq_true, if_false]
        split
        · exact ih _ false
        · split
          · exact ih _ false
          · refine .bind_eq (alike_yieldChunk chunk) fun resumed => ?_
            cases resumed with
            | true => exact ih _ false
            | false => exact .pure ⟨rfl, .raised (.refl _)⟩

/-- **The handlers around the chunk loop in lockstep.** -/
lemma alike_streamEnd (request : NormalizedRequest) (started t₀ : ℚ) (target : Target) (idx : ℕ)
    (v : StreamVars) {stop stop' : LoopEnd} (h : LoopEnd.Like G.py stop stop') :
    Alike G.py Eq (G.streamEnd request started t₀ target idx v stop)
      (G.streamEnd request started t₀ target idx v stop') := by
  have hstep := G.inStep G.providers
  cases h with
  | drained =>
    refine .bind_eq (hstep.lawful.reportSuccess _) fun _ => ?_
    refine .bind_eq (hstep.recordStreamAttempt target t₀ rfl fun _ => rfl) fun _ => ?_
    refine .bind_eq (G.alike_capture request started target _ _ _ rfl) fun _ => ?_
    exact .bind_eq (alike_yieldOrExit _) fun _ => .pure rfl
  | cut => exact .pure rfl
  | @raised e e' he =>
    unfold streamEnd
    dsimp only
    rw [← hstep.lawful.isException he]
    split
    · refine .bind_eq (hstep.reportFailure _) fun _ => ?_
      rw [← hstep.lawful.isTerminal he]
      split
      · exact .bind_eq
          (hstep.recordStreamAttempt target t₀ he.text fun hown => by cases hown) fun _ =>
          .pure rfl
      · refine .bind_eq
          (hstep.recordStreamAttempt target t₀ he.text fun hown => by cases hown) fun _ => ?_
        exact .bind_eq (G.alike_capture request started target _ _ _ he.text) fun _ =>
          .raise (.of_msg he.msg _)
    · refine .bind_eq (hstep.recordStreamAttempt target t₀ rfl fun _ => rfl) fun _ => ?_
      exact .bind_eq (G.alike_capture request started target _ _ _ rfl) fun _ => .raise he

/-! ## One target -/

/-- The handlers around the first `next`, for like exceptions. -/
lemma alike_firstPullFailed (request : NormalizedRequest) (started t₀ : ℚ) (target : Target)
    {e e' : Exc} (he : Exc.Like G.py e e') :
    Alike G.py Eq (G.firstPullFailed request started t₀ target e)
      (G.firstPullFailed request started t₀ target e') := by
  have hstep := G.inStep G.providers
  unfold firstPullFailed
  rw [← hstep.lawful.isException he, ← hstep.lawful.isTerminal he]
  split
  · exact .raise he
  · split
    · refine .bind_eq (hstep.reportFailure _) fun _ => ?_
      refine .bind_eq
        (hstep.recordStreamAttempt target t₀ he.text fun hown => by cases hown) fun _ => ?_
      exact .bind_eq (G.alike_recordError request started none .terminal _ he.text) fun _ =>
        .raise he
    · refine .bind_eq (hstep.reportFailure _) fun _ => ?_
      exact .bind_eq
        (hstep.recordStreamAttempt target t₀ he.text fun hown => by cases hown) fun _ => .pure rfl

/-- The iterators of two streams with like endings. -/
lemma alike_streamFrom (request : NormalizedRequest) (started t₀ : ℚ) (target : Target)
    (deadline : Option ℚ) (idx : ℕ) {script script' : StreamScript}
    (h : StreamScript.Like G.py script script') :
    Alike G.py Eq (G.streamFrom request started t₀ target deadline idx script)
      ((G.withProviders ps).streamFrom request started t₀ target deadline idx script') := by
  obtain ⟨items, ending⟩ := script
  obtain ⟨items', ending'⟩ := script'
  obtain ⟨hitems, hending⟩ := h
  obtain rfl : items = items' := hitems
  have hend : Option.Rel (Exc.Like G.py) ending ending' := hending
  cases items with
  | nil =>
    cases hend with
    | none =>
      refine .bind_eq (alike_emit _) fun _ => ?_
      refine .bind (G.alike_streamLoop request started t₀ target deadline .none _ _ _)
        fun r r' hr => ?_
      rw [← hr.1]
      exact G.alike_streamEnd request started t₀ target idx r.1 hr.2
    | some he =>
      exact .bind_eq (.emit (.pull he)) fun _ =>
        G.alike_firstPullFailed request started t₀ target he
  | cons first rest =>
    refine .bind_eq (alike_emit _) fun _ => ?_
    refine .bind (G.alike_streamLoop request started t₀ target deadline hend _ _ _)
      fun r r' hr => ?_
    rw [← hr.1]
    exact G.alike_streamEnd request started t₀ target idx r.1 hr.2

/-- A native target whose streams differ in error texts. -/
lemma alike_nativeTarget
    {fn fn' : Target → NormalizedRequest → ℚ → σ → Except Exc StreamScript × σ}
    (h : AnswersLike G.py (StreamScript.Like G.py) fn fn') (target : Target)
    (request : NormalizedRequest) (started : ℚ) (deadline : Option ℚ) (idx : ℕ) :
    Alike G.py Eq (G.nativeTarget fn target request started deadline idx)
      ((G.withProviders ps).nativeTarget fn' target request started deadline idx) := by
  have hstep := G.inStep ps
  refine .bind_eq (hstep.timeoutWithin deadline) fun slot => ?_
  cases slot with
  | none => exact .bind_eq (hstep.lawful.recordGuard target _ _) fun _ => .pure rfl
  | some slot =>
    refine .bind_eq hstep.monotonic fun t₀ => ?_
    refine .bind (alike_outsideDo fun s => ⟨(h _ _ _ s).2, (h _ _ _ s).1⟩) fun r r' hr => ?_
    cases hr with
    | ok hscript =>
      exact .bind_eq (alike_emit _) fun _ =>
        G.alike_streamFrom request started t₀ target deadline idx hscript
    | error he => exact .bind_eq (.emit (.streamCall he)) fun _ => .raise he

/-- A buffered target whose exceptions differ in their texts. -/
lemma alike_bufferedTarget {p p' : Provider σ} (h : AnswersLike G.py Eq p.invoke p'.invoke)
    (target : Target) (request : NormalizedRequest) (started : ℚ) (deadline : Option ℚ) (idx : ℕ) :
    Alike G.py Eq (G.bufferedTarget p target request started deadline idx)
      ((G.withProviders ps).bufferedTarget p' target request started deadline idx) := by
  have hstep := G.inStep ps
  refine .bind (.attempt (hstep.invokeTarget (answersInStep h) target request deadline))
    fun out out' hout => ?_
  cases hout with
  | ok heq =>
    obtain rfl := heq
    refine .bind_eq (hstep.lawful.reportSuccess _) fun _ => ?_
    refine .bind_eq (G.alike_capture request started target _ _ _ rfl) fun _ => ?_
    exact .bind_eq (alike_yieldResponse _) fun _ => .pure rfl
  | error he =>
    dsimp only
    rw [← hstep.lawful.isTerminal he, ← hstep.lawful.isDeadline he,
      ← hstep.lawful.isRetriable he, ← hstep.lawful.isTimeout he]
    split
    · exact .bind_eq (hstep.reportFailure _) fun _ =>
        .bind_eq (G.alike_recordError request started none .terminal _ he.text) fun _ => .raise he
    · split
      · exact .pure rfl
      · split
        · exact .bind_eq (hstep.reportFailure _) fun _ => .pure rfl
        · exact .raise he

/-! ## The whole call -/

/-- The end of a chain quotes the last attempt, redacted. -/
lemma alike_streamAllFailed (request : NormalizedRequest) (started : ℚ) :
    Alike G.py Eq (G.streamAllFailed request started) (G.streamAllFailed request started) :=
  .bind alike_attempts fun _ _ has =>
    .bind_eq (G.alike_recordError request started none .allFailed none has.lastError) fun _ =>
      .raise (.refl _)

/-- The loop of `invoke_stream` over the targets. -/
lemma alike_streamWalk (hps : ProvidersLike G.py G.providers ps) (request : NormalizedRequest)
    (started : ℚ) (deadline : Option ℚ) (targets : List Target) (idx : ℕ) :
    Alike G.py Eq (G.streamWalk request started deadline idx targets)
      ((G.withProviders ps).streamWalk request started deadline idx targets) := by
  have hstep := G.inStep ps
  induction targets generalizing idx with
  | nil => exact G.alike_streamAllFailed request started
  | cons target rest ih =>
    refine .bind_eq (hstep.deadlineExceeded target deadline) fun passed => ?_
    cases passed with
    | true => exact G.alike_streamAllFailed request started
    | false =>
      have hprovider := hps target.provider
      simp only [Bool.false_eq_true, if_false, withProviders]
      generalize G.providers.get? target.provider = x at hprovider ⊢
      generalize ps.get? target.provider = x' at hprovider ⊢
      cases hprovider with
      | none =>
        exact .bind_eq (G.alike_recordError request started none .provider _ rfl) fun _ =>
          .raise (.refl _)
      | @some p p' hp =>
        dsimp only
        split
        · exact .bind_eq (G.alike_recordError request started none .pricing _ rfl) fun _ =>
            .raise (.refl _)
        · refine .bind_eq (hstep.circuitBlocked target) fun blocked => ?_
          cases blocked with
          | true => exact ih (idx + 1)
          | false =>
            have hnext (ended : Bool) : Alike G.py Eq
                (if ended then pure () else G.streamWalk request started deadline (idx + 1) rest)
                (if ended then pure () else
                  (G.withProviders ps).streamWalk request started deadline (idx + 1) rest) := by
              cases ended with
              | true => exact .pure rfl
              | false => exact ih (idx + 1)
            have hstream := hp.stream
            simp only [Bool.false_eq_true, if_false]
            generalize p.stream = f at hstream ⊢
            generalize p'.stream = f' at hstream ⊢
            cases hstream with
            | none =>
              exact .bind_eq (G.alike_bufferedTarget hp.invoke target request started deadline idx)
                hnext
            | some hf =>
              exact .bind_eq (G.alike_nativeTarget hf target request started deadline idx) hnext

/-- **Streaming calls in lockstep.** -/
theorem alike_invokeStream (hps : ProvidersLike G.py G.providers ps)
    (request : NormalizedRequest) :
    Alike G.py Eq (G.invokeStream request) ((G.withProviders ps).invokeStream request) := by
  have hstep := G.inStep ps
  have hcaptures : CapturesInStep (textLikeness σ G.py) G (G.withProviders ps) :=
    G.capturesInStep
  refine .bind_eq hstep.lawful.resetAttempts fun _ => .bind_eq hstep.monotonic fun started => ?_
  refine .bind_eq (hstep.checkRequest hcaptures request started) fun _ => ?_
  refine .bind_eq (hstep.checkBudget hcaptures request started rfl) fun _ => ?_
  exact .bind_eq (hstep.resolveTargets hcaptures request started rfl) fun targets =>
    G.alike_streamWalk hps request started _ targets 0

end Gateway

end AgentCtl
