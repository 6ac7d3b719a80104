import AgentCtl.Core.Accounting
import AgentCtl.Core.StreamVisits
import AgentCtl.Core.TwoStreams

set_option relaxedAutoImplicit false
set_option autoImplicit false

/-!
# Error texts in saved records

A saved record masks every text it takes from an exception, except in its attempts: an attempt keeps
the text of a provider's exception as it was raised. At every save the attempts quote exactly the
texts that providers have raised so far. Two runs that differ in such texts only, within one
redacted image, therefore save equal records exactly if the texts raised before the saves are equal.

## Main definitions

* `AgentCtl.savesOf`, `textsOf` — the records saved in a trace, and the texts providers raised.
* `AgentCtl.quotesOf` — the provider texts that a list of attempts quotes.
* `AgentCtl.textsBeforeSaves` — for each save, the texts raised before it.
* `AgentCtl.Settles` — programs whose saves quote all that was raised before them.

## Main results

* `AgentCtl.Gateway.invoke_quoted`, `invokeStream_quoted`, `embed_quoted` — every save of a call
  quotes the texts raised before it.
* `AgentCtl.saves_eq_iff` — when two calls in lockstep save equal records.
-/

namespace AgentCtl

variable {σ : Type}

/-! ## Texts and quotes -/

/-- The text that handlers take from an exception; none of them reads that of a `GeneratorExit`. -/
def Exc.text? (e : Exc) : Option Str := if e.isException then some e.msg else none

namespace Event

/-- The text of the exception a provider raises in an event. -/
@[simp] def text? : Event σ → Option Str
  | call _ _ (.error e) => e.text?
  | embedCall _ _ (.error e) => e.text?
  | streamCall _ _ (some e) => e.text?
  | pull _ _ (.raised e) => e.text?
  | _ => none

/-- The record an event saves. -/
@[simp] def save? : Event σ → Option CallRecord
  | save r => some r
  | _ => none

end Event

/-- The texts of the exceptions that providers raise in a trace. -/
def textsOf (es : List (Event σ)) : List Str := es.filterMap Event.text?

/-- The saved records of a trace. -/
def savesOf (es : List (Event σ)) : List CallRecord := es.filterMap Event.save?

/-- The text of a provider's exception that an attempt quotes. -/
def Attempt.quote? (a : Attempt) : Option Str :=
  if a.outcome.quotesProvider then a.error else none

/-- The texts of providers' exceptions that attempts quote. -/
def quotesOf (as : List Attempt) : List Str := as.filterMap Attempt.quote?

/-- For each save of a trace, the texts raised before it, `heard` being those raised before the
trace. -/
def textsBeforeSaves (heard : List Str) : List (Event σ) → List (List Str)
  | [] => []
  | e :: es => e.save?.toList.map (fun _ => heard) ++ textsBeforeSaves (heard ++ e.text?.toList) es

section Projections

variable (e : Event σ) (es fs : List (Event σ)) (as bs : List Attempt) (heard : List Str)

@[simp] lemma textsOf_nil : textsOf ([] : List (Event σ)) = [] := rfl

@[simp] lemma savesOf_nil : savesOf ([] : List (Event σ)) = [] := rfl

@[simp] lemma quotesOf_nil : quotesOf [] = [] := rfl

@[simp] lemma textsOf_cons : textsOf (e :: es) = e.text?.toList ++ textsOf es :=
  filterMap_cons_toList _ _ _

@[simp] lemma savesOf_cons : savesOf (e :: es) = e.save?.toList ++ savesOf es :=
  filterMap_cons_toList _ _ _

@[simp] lemma textsOf_append : textsOf (es ++ fs) = textsOf es ++ textsOf fs :=
  List.filterMap_append

@[simp] lemma savesOf_append : savesOf (es ++ fs) = savesOf es ++ savesOf fs :=
  List.filterMap_append

@[simp] lemma quotesOf_append : quotesOf (as ++ bs) = quotesOf as ++ quotesOf bs :=
  List.filterMap_append

@[simp] lemma quotesOf_singleton (a : Attempt) : quotesOf [a] = a.quote?.toList := by
  unfold quotesOf
  rw [filterMap_cons_toList, List.filterMap_nil, List.append_nil]

/-- The texts heard in a first part are heard before the saves of the second. -/
lemma textsBeforeSaves_append :
    textsBeforeSaves heard (es ++ fs) =
      textsBeforeSaves heard es ++ textsBeforeSaves (heard ++ textsOf es) fs := by
  induction es generalizing heard with
  | nil => simp [textsBeforeSaves]
  | cons e es ih => simp [textsBeforeSaves, ih]

variable {es}

/-- While no provider raises, every save comes after the same texts. -/
lemma textsBeforeSaves_of_quiet (h : textsOf es = []) :
    textsBeforeSaves heard es = (savesOf es).map fun _ => heard := by
  induction es with
  | nil => rfl
  | cons e es ih =>
    obtain ⟨he, hes⟩ := List.append_eq_nil_iff.mp ((textsOf_cons e es).symm.trans h)
    rw [textsBeforeSaves, he, List.append_nil, ih hes, savesOf_cons, List.map_append]

end Projections

/-! ## Saves that quote what was raised -/

/-- Every save of the trace quotes the texts raised before it. -/
def Quoted (heard : List Str) (es : List (Event σ)) : Prop :=
  (savesOf es).map (fun r => quotesOf r.attempts) = textsBeforeSaves heard es

/-- Parts that quote what was heard, one after the other. -/
lemma Quoted.append {heard : List Str} {es fs : List (Event σ)} (h₁ : Quoted heard es)
    (h₂ : Quoted (heard ++ textsOf es) fs) : Quoted heard (es ++ fs) := by
  unfold Quoted at *
  rw [savesOf_append, List.map_append, h₁, h₂, textsBeforeSaves_append]

/-- While no provider raises, every save must quote the same texts. -/
lemma Quoted.of_quiet {heard : List Str} {es : List (Event σ)} (htexts : textsOf es = [])
    (hsaves : ∀ r ∈ savesOf es, quotesOf r.attempts = heard) : Quoted heard es := by
  unfold Quoted
  rw [textsBeforeSaves_of_quiet heard htexts]
  exact List.map_congr_left hsaves

/-- Without a save there is nothing to quote. -/
lemma Quoted.of_no_save {heard : List Str} {es : List (Event σ)} (h : savesOf es = []) :
    Quoted heard es := by
  induction es generalizing heard with
  | nil => rfl
  | cons e es ih =>
    obtain ⟨he, hes⟩ := List.append_eq_nil_iff.mp ((savesOf_cons e es).symm.trans h)
    have htail : Quoted (heard ++ e.text?.toList) es := ih hes
    unfold Quoted at *
    rw [h, List.map_nil, textsBeforeSaves, he, List.map_nil, List.nil_append, ← htail, hes]
    rfl

/-- What an outcome leaves unquoted; `none` where no save can follow. -/
abbrev Debt (α : Type) := Except Exc α → Option (List Str)

/-- A value leaves nothing unquoted. -/
def paid {α : Type} : Debt α
  | .ok _ => some []
  | .error _ => none

/-- Started with the texts `owed` raised but not quoted yet, the program quotes at every save what
has been raised before it, and leaves unquoted what `left` says. -/
def Settles {α : Type} (owed : List Str) (left : Debt α) (m : Call σ α) : Prop :=
  ∀ w, Prog.Sat m w fun r w' es => Quoted (quotesOf w.attempts ++ owed) es ∧
    ∀ d, left r = some d → quotesOf w'.attempts ++ d = quotesOf w.attempts ++ owed ++ textsOf es

/-- A program that neither raises, nor saves, nor hears a text, nor quotes one. -/
def Silent {α : Type} (m : Call σ α) : Prop :=
  ∀ w, ∃ a w' es, m.run w = (.ok a, w', es) ∧ savesOf es = [] ∧ textsOf es = [] ∧
    quotesOf w'.attempts = quotesOf w.attempts

/-- A program that saves records of the attempts made so far, and nothing else. -/
def Logs (m : Call σ Unit) : Prop :=
  ∀ w, ∃ w' es, m.run w = (.ok (), w', es) ∧ textsOf es = [] ∧ w'.attempts = w.attempts ∧
    ∀ r ∈ savesOf es, r.attempts = w.attempts

section Rules

variable {α β : Type} {owed : List Str} {left : Debt β} {m : Call σ α} {f : α → Call σ β}

/-- **Sequencing.** After a value, the second program starts with what the first one left unquoted,
or just raises. -/
lemma Settles.bind {left₁ : Debt α} (hm : Settles owed left₁ m)
    (hok : ∀ a, (∃ d, left₁ (.ok a) = some d ∧ Settles d left (f a)) ∨
      ∃ e, f a = Prog.raise e ∧ left (.error e) = none)
    (herr : ∀ e, left (.error e) = none) : Settles owed left (m >>= f) := by
  intro w
  refine .bind (hm w) ?_ ?_
  · rintro a w₁ es ⟨hq, hd⟩
    rcases hok a with ⟨d, hleft, hf⟩ | ⟨e, hraise, hleft⟩
    · refine (hf w₁).imp ?_
      rintro r w₂ fs ⟨hq₂, hd₂⟩
      rw [hd d hleft] at hq₂ hd₂
      refine ⟨hq.append hq₂, fun d' hleft' => ?_⟩
      rw [hd₂ d' hleft', textsOf_append, List.append_assoc _ (textsOf es)]
    · rw [hraise]
      refine .of_run (Prog.run_raise _ _) ⟨by rwa [List.append_nil], fun d hd => ?_⟩
      rw [hleft] at hd
      cases hd
  · rintro e w₁ es ⟨hq, -⟩
    refine ⟨hq, fun d hd => ?_⟩
    rw [herr e] at hd
    cases hd

/-- Sequencing of programs that leave nothing unquoted. -/
lemma Settles.andThen {f : α → Call σ β} (hm : Settles owed paid m)
    (hf : ∀ a, Settles [] paid (f a)) : Settles owed paid (m >>= f) :=
  .bind hm (fun a => .inl ⟨[], rfl, hf a⟩) fun _ => rfl

/-- The first step of a program, when it returns. -/
lemma Settles.step (h : ∀ w, ∃ a w' es d, m.run w = (.ok a, w', es) ∧
      Quoted (quotesOf w.attempts ++ owed) es ∧
      quotesOf w'.attempts ++ d = quotesOf w.attempts ++ owed ++ textsOf es ∧
      Settles d left (f a)) : Settles owed left (m >>= f) := by
  intro w
  obtain ⟨a, w₁, es, d, hrun, hq, hd, hf⟩ := h w
  refine .bind_run hrun ((hf w₁).imp ?_)
  rintro r w₂ fs ⟨hq₂, hd₂⟩
  rw [hd] at hq₂ hd₂
  refine ⟨hq.append hq₂, fun d' hleft => ?_⟩
  rw [hd₂ d' hleft, textsOf_append, List.append_assoc _ (textsOf es)]

/-- A silent step changes nothing of what is owed. -/
lemma Silent.bind (hm : Silent m) (hf : ∀ a, Settles owed left (f a)) :
    Settles owed left (m >>= f) := by
  refine .step fun w => ?_
  obtain ⟨a, w', es, hrun, hsaves, htexts, hquotes⟩ := hm w
  exact ⟨a, w', es, owed, hrun, .of_no_save hsaves, by rw [hquotes, htexts, List.append_nil], hf a⟩

/-- A step that logs, when nothing is owed. -/
lemma Logs.bind {m : Call σ Unit} {f : Unit → Call σ β} (hm : Logs m)
    (hf : Settles [] left (f ())) : Settles [] left (m >>= f) := by
  refine .step fun w => ?_
  obtain ⟨w', es, hrun, htexts, hattempts, hsaves⟩ := hm w
  refine ⟨(), w', es, [], hrun, .of_quiet htexts fun r hr => ?_, ?_, hf⟩
  · rw [hsaves r hr, List.append_nil]
  · rw [hattempts, htexts, List.append_nil, List.append_nil]

/-- A step in which a provider may raise, when nothing is owed. -/
lemma Settles.hear (texts : α → List Str) (hm : ∀ w, ∃ a w' es, m.run w = (.ok a, w', es) ∧
      savesOf es = [] ∧ textsOf es = texts a ∧ w'.attempts = w.attempts)
    (hf : ∀ a, Settles (texts a) left (f a)) : Settles [] left (m >>= f) := by
  refine .step fun w => ?_
  obtain ⟨a, w', es, hrun, hsaves, htexts, hattempts⟩ := hm w
  refine ⟨a, w', es, texts a, hrun, .of_no_save hsaves, ?_, hf a⟩
  rw [hattempts, htexts, List.append_nil]

/-- A step that quotes all that is owed. -/
lemma Settles.quote {m : Call σ Unit} {f : Unit → Call σ β} (hm : ∀ w, ∃ w' a,
      m.run w = (.ok (), w', []) ∧ w'.attempts = w.attempts ++ [a] ∧ a.quote?.toList = owed)
    (hf : Settles [] left (f ())) : Settles owed left (m >>= f) := by
  refine .step fun w => ?_
  obtain ⟨w', a, hrun, hattempts, ha⟩ := hm w
  refine ⟨(), w', [], [], hrun, .of_no_save rfl, ?_, hf⟩
  rw [hattempts, quotesOf_append, quotesOf_singleton, ha]
  rfl

/-- A program that just returns leaves what is owed. -/
lemma Settles.pure {b : β} (h : ∀ d, left (.ok b) = some d → d = owed) :
    Settles owed left (Pure.pure b : Call σ β) := by
  refine fun w => ⟨.of_no_save rfl, fun d hd => ?_⟩
  rw [h d hd]
  exact (List.append_nil _).symm

/-- A program that just raises leaves what is owed, unless nothing is said of it. -/
lemma Settles.raise {e : Exc} (h : ∀ d, left (.error e) = some d → d = owed) :
    Settles owed left (Prog.raise e : Call σ β) := by
  refine fun w => ⟨.of_no_save rfl, fun d hd => ?_⟩
  rw [h d hd]
  exact (List.append_nil _).symm

/-- Nothing is said of a program that raises. -/
lemma Settles.raise_paid {e : Exc} : Settles owed paid (Prog.raise e : Call σ β) :=
  .raise fun d hd => by cases hd

/-- A program that is over owes nothing. -/
lemma Settles.pure_paid {b : β} : Settles [] paid (Pure.pure b : Call σ β) :=
  .pure fun d hd => by cases hd; rfl

/-- A handler sees an outcome of which something is said, or it raises. -/
lemma Settles.bind_attempt {left₁ : Debt α} {f : Except Exc α → Call σ β}
    (hm : Settles [] left₁ m)
    (hf : ∀ x, (left₁ x = some [] ∧ Settles [] paid (f x)) ∨ ∃ e, f x = Prog.raise e) :
    Settles [] paid (Prog.attempt m >>= f) := by
  have hattempt : Settles [] (fun | .ok x => left₁ x | .error _ => none) (Prog.attempt m) := by
    intro w
    refine (Prog.Sat.attempt (hm w)).imp ?_
    rintro r w' es ⟨x, rfl, h⟩
    exact h
  refine .bind hattempt (fun x => ?_) fun _ => rfl
  rcases hf x with ⟨hleft, hx⟩ | ⟨e, he⟩
  · exact .inl ⟨[], hleft, hx⟩
  · exact .inr ⟨e, he, rfl⟩

end Rules

/-- The text that the chunk loop leaves to its handlers. -/
def LoopEnd.owed : LoopEnd → List Str
  | .raised e => e.text?.toList
  | _ => []

/-! ## The inner surface -/

/-- Reading the state is silent. -/
lemma silent_gets {α : Type} (f : World σ → α) : Silent (Prog.gets f : Call σ α) :=
  fun w => ⟨f w, w, [], rfl, rfl, rfl, rfl⟩

/-- Emitting an event without a text that is no save is silent. -/
lemma silent_emit {e : Event σ} (hsave : e.save? = none) (htext : e.text? = none) :
    Silent (Prog.emit e) :=
  fun w => ⟨(), w, [e], rfl, by rw [savesOf_cons, hsave]; rfl, by rw [textsOf_cons, htext]; rfl,
    rfl⟩

/-- Acting on the outside world is silent. -/
lemma silent_outsideDo {α : Type} (f : σ → α × σ) : Silent (outsideDo f) :=
  fun _ => ⟨_, _, _, rfl, rfl, rfl, rfl⟩

/-- An event in which a provider raises. -/
lemma Settles.hear_emit {β : Type} {left : Debt β} {e : Event σ} {f : Unit → Call σ β}
    (hsave : e.save? = none) (hf : Settles e.text?.toList left (f ())) :
    Settles [] left (Prog.emit e >>= f) :=
  .hear (fun _ => e.text?.toList)
    (fun w => ⟨(), w, [e], rfl, by rw [savesOf_cons, hsave]; rfl,
      by rw [textsOf_cons, textsOf_nil, List.append_nil], rfl⟩) fun _ => hf

/-- Delivering a chunk is silent. -/
lemma silent_yieldChunk (c : StreamChunk) : Silent (σ := σ) (yieldChunk c) := by
  intro w
  obtain ⟨resumed, p, h⟩ := run_yieldChunk c w
  refine ⟨resumed, _, _, h, ?_, ?_, rfl⟩ <;> cases resumed <;> rfl

/-- A `yield` outside any handler leaves nothing to settle. -/
lemma settles_yieldOrExit (c : StreamChunk) : Settles (σ := σ) [] paid (yieldOrExit c) := by
  refine (silent_yieldChunk c).bind fun resumed => ?_
  cases resumed with
  | true => exact .pure_paid
  | false => exact .raise_paid

namespace Gateway

variable (G : Gateway σ)

/-- Reading the clock is silent. -/
lemma silent_monotonic : Silent G.monotonic := fun _ => ⟨_, _, _, rfl, rfl, rfl, rfl⟩

/-- Computing a timeout is silent. -/
lemma silent_timeoutWithin (deadline : Option ℚ) : Silent (G.timeoutWithin deadline) := by
  intro w
  obtain ⟨slot, s, h, -⟩ := G.run_timeoutWithin w deadline
  exact ⟨slot, _, _, h, rfl, rfl, rfl⟩

/-- An attempt that quotes no provider. -/
lemma silent_recordAttempt (target : Target) {outcome : AttemptOutcome} (started : ℚ)
    (error : Option Str) (h : outcome.quotesProvider = false) :
    Silent (G.recordAttempt target outcome started error) := by
  intro w
  obtain ⟨latency, s, hrun⟩ := G.run_recordAttempt w target outcome started error
  refine ⟨(), _, _, hrun, rfl, rfl, ?_⟩
  rw [quotesOf_append, quotesOf_singleton, Attempt.quote?, h]
  exact List.append_nil _

/-- An attempt at a stream that quotes no provider is silent. -/
lemma silent_recordStreamAttempt (target : Target) {outcome : AttemptOutcome} (started : ℚ)
    (error : Option Str) (h : outcome.quotesProvider = false) :
    Silent (G.recordStreamAttempt target outcome started error) := by
  intro w
  obtain ⟨latency, s, hrun⟩ := G.run_recordStreamAttempt w target outcome started error
  refine ⟨(), _, _, hrun, rfl, rfl, ?_⟩
  rw [quotesOf_append, quotesOf_singleton, Attempt.quote?, h]
  exact List.append_nil _

/-- The attempt of a guard is silent. -/
lemma silent_recordGuard (target : Target) {outcome : AttemptOutcome} (error : Str)
    (h : outcome.quotesProvider = false) :
    Silent (σ := σ) (recordGuard target outcome error) := by
  refine fun w => ⟨(), _, _, rfl, rfl, rfl, ?_⟩
  rw [quotesOf_append, quotesOf_singleton, Attempt.quote?, h]
  exact List.append_nil _

/-- The deadline guard is silent. -/
lemma silent_deadlineExceeded (target : Target) (deadline : Option ℚ) :
    Silent (G.deadlineExceeded target deadline) := by
  intro w
  obtain ⟨passed, s, h⟩ := G.run_deadlineExceeded w target deadline
  refine ⟨passed, _, _, h, rfl, rfl, ?_⟩
  cases passed <;> exact (quotesOf_append _ _).trans (List.append_nil _)

/-- The breaker guard is silent. -/
lemma silent_circuitBlocked (target : Target) : Silent (G.circuitBlocked target) := by
  intro w
  obtain ⟨now, s, h⟩ := G.run_circuitBlocked w target
  refine ⟨_, _, _, h, rfl, rfl, ?_⟩
  cases (w.circuit.allow target.provider now).1 <;>
    exact (quotesOf_append _ _).trans (List.append_nil _)

/-- A pause is silent. -/
lemma silent_pause (n : ℕ) : Silent (G.pause n) := by
  intro w
  obtain ⟨s, es, h, hes⟩ := G.run_pause w n
  refine ⟨(), _, es, h, ?_, ?_, rfl⟩ <;> rcases hes with rfl | ⟨d, s', rfl⟩ <;> rfl

/-- Reporting a success is silent. -/
lemma silent_reportSuccess (provider : Str) : Silent (σ := σ) (reportSuccess provider) :=
  fun w => ⟨(), _, _, run_reportSuccess w provider, rfl, rfl, rfl⟩

/-- Reporting a failure is silent. -/
lemma silent_reportFailure (provider : Str) : Silent (G.reportFailure provider) := by
  intro w
  obtain ⟨now, s, h⟩ := G.run_reportFailure w provider
  exact ⟨(), _, _, h, rfl, rfl, rfl⟩

/-- A cache entry is silent. -/
lemma silent_cacheSet (key : Option Str) (resp : NormalizedResponse) :
    Silent (G.cacheSet key resp) := by
  intro w
  obtain ⟨s, h⟩ := G.run_cacheSet w key resp
  exact ⟨(), _, _, h, rfl, rfl, rfl⟩

/-- The budget check is silent, whatever comes of it. -/
lemma silent_attempt_budgetCheck (consumer : Str) :
    Silent (Prog.attempt (G.budgetCheck consumer)) := by
  intro w
  refine ⟨w.budget.check G.py consumer, w, [], ?_, rfl, rfl, rfl⟩
  have h : (G.budgetCheck consumer).run w = (w.budget.check G.py consumer, w, []) := by
    rw [budgetCheck, Prog.run_bind_ok (Prog.run_gets _ _), Prog.run_ofExcept, List.nil_append]
  rw [Prog.run_attempt, h]

/-- The deadline guard between two chunks is silent. -/
lemma silent_cutByDeadline (deadline : Option ℚ) : Silent (G.cutByDeadline deadline) := by
  intro w
  obtain ⟨cut, now, s, h⟩ := G.run_cutByDeadline w deadline
  refine ⟨cut, _, _, h, ?_, ?_, rfl⟩ <;> cases cut <;> rfl

/-- Pulling a value is silent. -/
lemma silent_pullUnless (pulled : Bool) (target : Target) (c : Option StreamChunk) :
    Silent (σ := σ) (pullUnless pulled target c) := by
  intro w
  cases pulled <;> exact ⟨(), _, _, rfl, rfl, rfl, rfl⟩

/-! ## Captures -/

/-- A capture of the attempts made so far. -/
lemma logs_capture {m : Call σ Unit} (request : NormalizedRequest)
    (h : ∀ w, ∃ latency c w', m.run w = (.ok (), w', G.captureEvents request latency c) ∧
      c.attempts = w.attempts ∧ w'.attempts = w.attempts) : Logs m := by
  intro w
  obtain ⟨latency, c, w', hrun, hc, hw'⟩ := h w
  refine ⟨w', _, hrun, ?_, hw', ?_⟩
  · unfold captureEvents
    split <;> rfl
  · intro r hr
    unfold captureEvents at hr
    split at hr
    · obtain rfl := List.mem_singleton.mp hr
      exact hc
    · cases hr

/-- The capture of a failed call. -/
lemma logs_recordError (request : NormalizedRequest) (started : ℚ) (key : Option Str)
    (errorType : ErrorType) (message resolved : Option Str) :
    Logs (G.recordError request started key errorType message resolved) := by
  refine G.logs_capture request fun w => ?_
  obtain ⟨latency, s, h⟩ := G.run_recordError w request started key errorType message resolved
  exact ⟨latency, _, _, h, rfl, rfl⟩

/-- The capture of an answered call. -/
lemma logs_recordAnswer (request : NormalizedRequest) (started : ℚ) (key : Option Str)
    (target : Target) (resp : NormalizedResponse) (idx : ℕ) :
    Logs (G.recordAnswer request started key target resp idx) := by
  refine G.logs_capture request fun w => ?_
  obtain ⟨cost, latency, s, h⟩ := G.run_recordAnswer w request started key target resp idx
  exact ⟨latency, _, _, h, rfl, rfl⟩

/-- The capture of a stream. -/
lemma logs_captureStream (request : NormalizedRequest) (started : ℚ) (target : Target)
    (resp : NormalizedResponse) (status : Status) (errorType : Option ErrorType)
    (message : Option Str) :
    Logs (G.capture request started target resp status errorType message) := by
  refine G.logs_capture request fun w => ?_
  obtain ⟨latency, s, h⟩ := G.run_record w request started
    { modelResolved := some target.name, attempts := w.attempts, resp := some resp,
      status := status, errorType := errorType, errorMessage := message }
  exact ⟨latency, _, _, h, rfl, rfl⟩

/-- A capture of the attempts made so far at an embeddings call. -/
lemma logs_recordEmbed (model : Str) (metadata : Metadata) (started : ℚ) {m : Call σ Unit}
    (h : ∀ w, ∃ c : CapturedEmbed, c.attempts = w.attempts ∧
      m.run w = (G.recordEmbed model metadata started c).run w) : Logs m := by
  intro w
  obtain ⟨c, hc, hm⟩ := h w
  obtain ⟨latency, s, hrun⟩ := G.run_recordEmbed model metadata w started c
  refine ⟨_, _, hm.trans hrun, ?_, rfl, ?_⟩
  · unfold embedEvents
    split <;> rfl
  · intro r hr
    unfold embedEvents at hr
    split at hr
    · obtain rfl := List.mem_singleton.mp hr
      exact hc
    · cases hr

/-- The capture of a failed embeddings call. -/
lemma logs_recordEmbedError (model : Str) (metadata : Metadata) (started : ℚ)
    (errorType : ErrorType) (message resolved : Option Str) :
    Logs (G.recordEmbedError model metadata started errorType message resolved) :=
  G.logs_recordEmbed model metadata started fun w =>
    ⟨{ modelResolved := resolved, attempts := w.attempts, errorType := some errorType,
       errorMessage := message }, rfl, rfl⟩

/-! ## Chat calls -/

/-- The attempt of a provider call that failed quotes the provider. -/
lemma quotes_recordAttempt (target : Target) {outcome : AttemptOutcome} (started : ℚ) {e : Exc}
    (h : outcome.quotesProvider = true) (he : e.isException = true) (w : World σ) :
    ∃ w' a, (G.recordAttempt target outcome started (some e.msg)).run w = (.ok (), w', []) ∧
      w'.attempts = w.attempts ++ [a] ∧ a.quote?.toList = e.text?.toList := by
  obtain ⟨latency, s, hrun⟩ := G.run_recordAttempt w target outcome started (some e.msg)
  refine ⟨_, _, hrun, rfl, ?_⟩
  rw [Attempt.quote?, Exc.text?, he, h]

/-- An attempt at a stream quotes the exception it is made for. -/
lemma quotes_recordStreamAttempt (target : Target) {outcome : AttemptOutcome} (started : ℚ)
    {e : Exc} (h : outcome.quotesProvider = true) (he : e.isException = true) (w : World σ) :
    ∃ w' a, (G.recordStreamAttempt target outcome started (some e.msg)).run w = (.ok (), w', []) ∧
      w'.attempts = w.attempts ++ [a] ∧ a.quote?.toList = e.text?.toList := by
  obtain ⟨latency, s, hrun⟩ := G.run_recordStreamAttempt w target outcome started (some e.msg)
  refine ⟨_, _, hrun, rfl, ?_⟩
  rw [Attempt.quote?, Exc.text?, he, h]

/-- The texts an outcome of a provider call brings up. -/
def outcomeTexts {α : Type} : Except Exc α → List Str
  | .ok _ => []
  | .error e => e.text?.toList

/-- The retry loop leaves nothing unquoted, unless an exception without a handler escapes from
it. -/
def typedDebt {α : Type} : Debt α
  | .ok _ => some []
  | .error e => if e.isTyped then some [] else none

/-- **The retry loop** quotes every text its provider raises. -/
lemma settles_invokeTargetFrom (provider : Provider σ) (target : Target)
    (request : NormalizedRequest) (deadline : Option ℚ) (left n : ℕ) (last : Exc) :
    Settles [] typedDebt (G.invokeTargetFrom provider target request deadline n last left) := by
  have htyped {e : Exc} (he : e.isTyped = true) :
      ∀ d, typedDebt (.error e : Except Exc NormalizedResponse) = some d → d = [] := by
    intro d hd
    rw [typedDebt, if_pos he] at hd
    exact (Option.some.inj hd).symm
  induction left generalizing n last with
  | zero => exact .raise (htyped rfl)
  | succ left ih =>
    refine (G.silent_timeoutWithin deadline).bind fun slot => ?_
    cases slot with
    | none => exact .raise (htyped rfl)
    | some slot =>
      refine G.silent_monotonic.bind fun t => .hear outcomeTexts (fun w => ?_) fun out => ?_
      · obtain ⟨out, s, hrun⟩ := run_callProvider w provider target request slot
        refine ⟨out, _, _, hrun, rfl, ?_, rfl⟩
        cases out <;> simp [outcomeTexts]
      cases out with
      | ok resp =>
        exact (G.silent_recordAttempt target t none rfl).bind fun _ =>
          .pure fun d hd => (Option.some.inj hd).symm
      | error e =>
        dsimp only
        split
        · next hterminal =>
          have he : e.isTyped = true := by simp [Exc.isTyped, hterminal]
          exact .quote (G.quotes_recordAttempt target t rfl (Exc.isException_of_isTyped he))
            (.raise (htyped he))
        · split
          · next hretriable =>
            have he : e.isTyped = true := by
              rw [Exc.isTyped, Bool.or_assoc, hretriable, Bool.or_true]
            refine .quote (G.quotes_recordAttempt target t ?_ (Exc.isException_of_isTyped he))
              ((G.silent_pause n).bind fun _ => ih (n + 1) e)
            unfold retryOutcome
            split <;> rfl
          · next hterminal hretriable =>
            refine .raise fun d hd => ?_
            have he : e.isTyped = false := by
              rw [Exc.isTyped, Bool.or_assoc]
              simp [hterminal, hretriable]
            rw [typedDebt, he] at hd
            cases hd

/-- Local validation raises no text of a provider. -/
lemma settles_checkRequest (request : NormalizedRequest) (started : ℚ) :
    Settles [] paid (G.checkRequest request started) := by
  unfold checkRequest
  split
  · exact .pure_paid
  · split
    · exact (G.logs_recordError request started none _ _ _).bind .raise_paid
    · exact .raise_paid

/-- The budget gate raises no text of a provider. -/
lemma settles_checkBudget (request : NormalizedRequest) (started : ℚ) (key : Option Str) :
    Settles [] paid (G.checkBudget request started key) := by
  refine (G.silent_attempt_budgetCheck _).bind fun r => ?_
  cases r with
  | ok => exact .pure_paid
  | error e => exact (G.logs_recordError request started key _ _ _).bind .raise_paid

/-- Routing raises no text of a provider. -/
lemma settles_resolveTargets (request : NormalizedRequest) (started : ℚ) (key : Option Str) :
    Settles [] paid (G.resolveTargets request started key) := by
  unfold resolveTargets
  split
  · exact .pure_paid
  · exact (G.logs_recordError request started key _ _ _).bind .raise_paid

/-- The end of a chain adds no text. -/
lemma settles_allFailed (request : NormalizedRequest) (started : ℚ) (key : Option Str) :
    Settles [] paid (G.allFailed request started key) :=
  (silent_gets _).bind fun _ =>
    (G.logs_recordError request started key _ _ _).bind .raise_paid

/-- What is left after a target: nothing, or an exception that is passed on. -/
lemma settles_attempt_invokeTarget {β : Type} (provider : Provider σ) (target : Target)
    (request : NormalizedRequest) (deadline : Option ℚ)
    {f : Except Exc NormalizedResponse → Call σ β}
    (hf : ∀ x, (∀ e, x = .error e → e.isTyped = true) → Settles [] paid (f x))
    (hraise : ∀ e, e.isTyped = false → f (.error e) = Prog.raise e) :
    Settles [] paid (Prog.attempt (G.invokeTarget provider target request deadline) >>= f) := by
  refine .bind_attempt (G.settles_invokeTargetFrom provider target request deadline _ 0 _)
    fun x => ?_
  cases x with
  | ok resp => exact .inl ⟨rfl, hf _ fun e h => by cases h⟩
  | error e =>
    cases he : e.isTyped with
    | true =>
      refine .inl ⟨by rw [typedDebt, he]; rfl, hf _ fun e' h => ?_⟩
      obtain rfl := Except.error.inj h
      exact he
    | false => exact .inr ⟨e, hraise e he⟩

/-- **The walk along a chain** quotes every text its providers raise. -/
lemma settles_walk (request : NormalizedRequest) (started : ℚ) (key : Option Str)
    (deadline : Option ℚ) (targets : List Target) (idx : ℕ) :
    Settles [] paid (G.walk request started key deadline idx targets) := by
  induction targets generalizing idx with
  | nil => exact G.settles_allFailed request started key
  | cons target rest ih =>
    refine (G.silent_deadlineExceeded target deadline).bind fun passed => ?_
    cases passed with
    | true => exact G.settles_allFailed request started key
    | false =>
      simp only [Bool.false_eq_true, if_false]
      split
      · exact (G.logs_recordError request started key _ _ _).bind .raise_paid
      · split
        · exact (G.logs_recordError request started key _ _ _).bind .raise_paid
        · refine (G.silent_circuitBlocked target).bind fun blocked => ?_
          cases blocked with
          | true => exact ih (idx + 1)
          | false =>
            refine G.settles_attempt_invokeTarget _ target request deadline (fun x hx => ?_)
              fun e he => ?_
            · cases x with
              | ok resp =>
                exact (silent_reportSuccess _).bind fun _ => (G.silent_cacheSet key resp).bind
                  fun _ => (G.logs_recordAnswer request started key target resp idx).bind .pure_paid
              | error e =>
                dsimp only
                split
                · exact (G.silent_reportFailure _).bind fun _ =>
                    (G.logs_recordError request started key _ _ _).bind .raise_paid
                · split
                  · exact ih (idx + 1)
                  · split
                    · exact (G.silent_reportFailure _).bind fun _ => ih (idx + 1)
                    · exact .raise_paid
            · obtain ⟨hterminal, hretriable, -, hdeadline⟩ := Exc.of_not_isTyped he
              simp only [hterminal, hretriable, hdeadline, Bool.false_eq_true, if_false]

/-- The events of a capture quote its attempts. -/
lemma quoted_captureEvents (request : NormalizedRequest) (latency : ℤ) (c : Captured) :
    Quoted (quotesOf c.attempts) (G.captureEvents request latency c) := by
  unfold Quoted captureEvents
  split <;> simp [textsBeforeSaves, callRecord]

/-- A cached answer is saved without attempts; a call that has made none is in no debt. -/
lemma invokeKeyed_quoted (request : NormalizedRequest) (started : ℚ) (key : Option Str)
    {w : World σ} (hw : w.attempts = []) :
    Prog.Sat (G.invokeKeyed request started key) w (fun _ _ es => Quoted [] es) := by
  obtain ⟨cached, s, hcached⟩ := G.run_cacheGet w key
  refine .bind_run hcached ?_
  cases cached with
  | some resp =>
    obtain ⟨latency, s₂, hrun⟩ := G.run_record { w with outer := s } request started
      { attempts := [], resp := some resp, status := .success, cacheHit := true, cacheKey := key }
    refine .bind_run hrun (.of_run (Prog.run_pure _ _) ?_)
    rw [List.append_nil]
    exact G.quoted_captureEvents request latency _
  | none =>
    have h : Settles [] paid (do
        G.checkBudget request started key
        let targets ← G.resolveTargets request started key
        G.walk request started key (G.deadlineFor started) 0 targets) :=
      (G.settles_checkBudget request started key).andThen fun _ =>
        (G.settles_resolveTargets request started key).andThen fun targets =>
          G.settles_walk request started key _ targets 0
    refine (h { w with outer := s }).imp ?_
    rintro r w' es ⟨hq, -⟩
    simpa [hw] using hq

/-- **Chat calls** save records that quote the texts raised before. -/
theorem invoke_quoted (request : NormalizedRequest) (w : World σ) :
    Quoted [] ((G.invoke request).trace w) := by
  suffices h : Prog.Sat (G.invoke request) w (fun _ _ es => Quoted [] es) from h
  refine .bind_run (Prog.run_modify _ _) ?_
  obtain ⟨started, s, hstarted⟩ := G.run_monotonic { w with attempts := [] }
  refine .bind_run hstarted ?_
  rcases G.checkRequest_spec request { w with attempts := [], outer := s }
    started with ⟨-, hcheck⟩ | ⟨e, latency, s₂, -, hcheck⟩
  · refine .bind_run hcheck ?_
    cases hkey : G.cacheKeyFor request with
    | error e => exact .bind_error (Prog.run_ofExcept _ _) rfl
    | ok key =>
      exact .bind_run (Prog.run_ofExcept _ _) (G.invokeKeyed_quoted request started key rfl)
  · split at hcheck
    · exact .bind_error hcheck (G.quoted_captureEvents request latency _)
    · exact .bind_error hcheck rfl

/-! ## Embedding calls -/

/-- The end of an embeddings chain adds no text. -/
lemma settles_embedAllFailed (model : Str) (metadata : Metadata) (started : ℚ) :
    Settles [] paid (G.embedAllFailed model metadata started) :=
  (silent_gets _).bind fun _ =>
    (G.logs_recordEmbedError model metadata started _ _ _).bind .raise_paid

/-- **A single target of `embed`** quotes the text its provider raises. -/
lemma settles_embedTarget (fn : Target → List Str → ℚ → σ → Except Exc EmbeddingResponse × σ)
    (target : Target) (model : Str) (inputs : List Str) (metadata : Metadata) (started : ℚ)
    (slot : TimeoutSlot) (idx : ℕ) :
    Settles [] paid (G.embedTarget fn target model inputs metadata started slot idx) := by
  refine G.silent_monotonic.bind fun t => .hear outcomeTexts (fun w => ?_) fun out => ?_
  · obtain ⟨out, s, hrun⟩ := run_callEmbed w fn target inputs slot
    refine ⟨out, _, _, hrun, rfl, ?_, rfl⟩
    cases out <;> simp [outcomeTexts]
  cases out with
  | ok resp =>
    refine (silent_reportSuccess _).bind fun _ => (G.silent_recordAttempt target t none rfl).bind
      fun _ => ?_
    have hlogs : Logs (do
        let attempts ← Prog.gets World.attempts
        G.recordEmbed model metadata started
          { modelResolved := some target.name, attempts := attempts, resp := some resp,
            status := if idx = 0 then .success else .fallbackSuccess }) :=
      G.logs_recordEmbed model metadata started fun w => ⟨_, rfl, rfl⟩
    exact hlogs.bind .pure_paid
  | error e =>
    dsimp only
    split
    · next hterminal =>
      have he : e.isTyped = true := by simp [Exc.isTyped, hterminal]
      exact (G.silent_reportFailure _).bind fun _ =>
        .quote (G.quotes_recordAttempt target t rfl (Exc.isException_of_isTyped he))
          ((G.logs_recordEmbedError model metadata started _ _ _).bind .raise_paid)
    · split
      · next hretriable =>
        have he : e.isTyped = true := by
          rw [Exc.isTyped, Bool.or_assoc, hretriable, Bool.or_true]
        exact (G.silent_reportFailure _).bind fun _ =>
          .quote (G.quotes_recordAttempt target t rfl (Exc.isException_of_isTyped he)) .pure_paid
      · exact .raise_paid

/-- The loop of `embed` over the targets. -/
lemma settles_embedWalk (model : Str) (inputs : List Str) (metadata : Metadata) (started : ℚ)
    (deadline : Option ℚ) (targets : List Target) (idx : ℕ) :
    Settles [] paid (G.embedWalk model inputs metadata started deadline idx targets) := by
  induction targets generalizing idx with
  | nil => exact G.settles_embedAllFailed model metadata started
  | cons target rest ih =>
    refine (G.silent_deadlineExceeded target deadline).bind fun passed => ?_
    cases passed with
    | true => exact G.settles_embedAllFailed model metadata started
    | false =>
      simp only [Bool.false_eq_true, if_false]
      split
      · exact (G.logs_recordEmbedError model metadata started _ _ _).bind .raise_paid
      · split
        · exact (silent_recordGuard target _ rfl).bind fun _ => ih (idx + 1)
        · split
          · exact (G.logs_recordEmbedError model metadata started _ _ _).bind .raise_paid
          · refine (G.silent_circuitBlocked target).bind fun blocked => ?_
            cases blocked with
            | true => exact ih (idx + 1)
            | false =>
              refine (G.silent_timeoutWithin deadline).bind fun slot => ?_
              cases slot with
              | none =>
                exact (silent_recordGuard target _ rfl).bind fun _ =>
                  G.settles_embedAllFailed model metadata started
              | some slot =>
                refine (G.settles_embedTarget _ target model inputs metadata started slot
                  idx).andThen fun r => ?_
                cases r with
                | some resp => exact .pure_paid
                | none => exact ih (idx + 1)

/-- The texts raised before a save, when a call starts without attempts. -/
lemma quoted_of_settles {α : Type} {m : ℚ → Call σ α} (h : ∀ started, Settles [] paid (m started))
    (w : World σ) :
    Quoted [] ((Prog.modify (fun w : World σ => { w with attempts := [] }) >>= fun _ =>
      G.monotonic >>= m).trace w) := by
  suffices hsat : Prog.Sat (Prog.modify (fun w : World σ => { w with attempts := [] }) >>= fun _ =>
      G.monotonic >>= m) w (fun _ _ es => Quoted [] es) from hsat
  exact .bind_run (Prog.run_modify _ _) ((G.silent_monotonic.bind h _).imp fun _ _ _ h => h.1)

/-- **Embedding calls** save records that quote the texts raised before. -/
theorem embed_quoted (model : Str) (inputs : List Str) (metadata : Metadata) (w : World σ) :
    Quoted [] ((G.embed model inputs metadata).trace w) := by
  refine G.quoted_of_settles (fun started => ?_) w
  refine (G.silent_attempt_budgetCheck _).bind fun r => ?_
  cases r with
  | error e => exact (G.logs_recordEmbedError model metadata started _ _ _).bind .raise_paid
  | ok =>
    dsimp only
    split
    · exact (G.logs_recordEmbedError model metadata started _ _ _).bind .raise_paid
    · exact G.settles_embedWalk model inputs metadata started _ _ 0

/-! ## Streaming calls -/

/-- The chunk loop leaves the text of the exception that ended it. -/
def loopDebt : Debt (StreamVars × LoopEnd)
  | .ok r => some r.2.owed
  | .error _ => none

/-- **The chunk loop** leaves to its handlers what its provider raised. -/
lemma settles_streamLoop (request : NormalizedRequest) (started t₀ : ℚ) (target : Target)
    (deadline : Option ℚ) (ending : Option Exc) (v : StreamVars) (pulled : Bool)
    (items : List (Option StreamChunk)) :
    Settles [] loopDebt
      (G.streamLoop request started t₀ target deadline ending v pulled items) := by
  have hdone (r : StreamVars × LoopEnd) {owed : List Str} (h : r.2.owed = owed) :
      ∀ d, loopDebt (.ok r) = some d → d = owed := fun d hd => (Option.some.inj hd).symm.trans h
  induction items generalizing v pulled with
  | nil =>
    cases ending with
    | none => exact (silent_emit rfl rfl).bind fun _ => .pure (hdone (v, .drained) rfl)
    | some e => exact .hear_emit rfl (.pure (hdone (v, .raised e) rfl))
  | cons c rest ih =>
    refine (silent_pullUnless pulled target c).bind fun _ => ?_
    refine (G.silent_cutByDeadline deadline).bind fun cut => ?_
    cases cut with
    | true =>
      refine (G.silent_recordStreamAttempt target t₀ _ rfl).bind fun _ => ?_
      refine (G.logs_captureStream request started target _ _ _ _).bind ?_
      refine (silent_yieldChunk _).bind fun resumed => ?_
      cases resumed with
      | true => exact .pure (hdone (v, .cut) rfl)
      | false => exact .pure (hdone (v, .raised .generatorExit) rfl)
    | false =>
      cases c with
      | none => exact ih v false
      | some chunk =>
        simp only [Bool.false_eq_true, if_false]
        split
        · exact ih _ false
        · split
          · exact ih _ false
          · refine (silent_yieldChunk chunk).bind fun resumed => ?_
            cases resumed with
            | true => exact ih _ false
            | false => exact .pure (hdone (_, .raised .generatorExit) rfl)

/-- **The handlers around the chunk loop** quote the text it left them. -/
lemma settles_streamEnd (request : NormalizedRequest) (started t₀ : ℚ) (target : Target) (idx : ℕ)
    (v : StreamVars) (stop : LoopEnd) :
    Settles stop.owed paid (G.streamEnd request started t₀ target idx v stop) := by
  cases stop with
  | drained =>
    exact (silent_reportSuccess _).bind fun _ =>
      (G.silent_recordStreamAttempt target t₀ none rfl).bind fun _ =>
      (G.logs_captureStream request started target _ _ _ _).bind
      ((settles_yieldOrExit _).andThen fun _ => .pure_paid)
  | cut => exact .pure_paid
  | raised e =>
    unfold streamEnd
    dsimp only
    split
    · next he =>
      refine (G.silent_reportFailure _).bind fun _ => ?_
      split
      · exact .quote (G.quotes_recordStreamAttempt target t₀ rfl he) .pure_paid
      · exact .quote (G.quotes_recordStreamAttempt target t₀ rfl he)
          ((G.logs_captureStream request started target _ _ _ _).bind .raise_paid)
    · next he =>
      have hnone : LoopEnd.owed (.raised e) = [] := by
        rw [LoopEnd.owed, Exc.text?, if_neg he]
        rfl
      rw [hnone]
      exact (G.silent_recordStreamAttempt target t₀ _ rfl).bind fun _ =>
        (G.logs_captureStream request started target _ _ _ _).bind .raise_paid

/-- The handlers around the first `next` settle its exception. -/
lemma settles_firstPullFailed (request : NormalizedRequest) (started t₀ : ℚ) (target : Target)
    (e : Exc) :
    Settles e.text?.toList paid (G.firstPullFailed request started t₀ target e) := by
  unfold firstPullFailed
  split
  · exact .raise_paid
  · next he =>
    have he : e.isException = true := by simpa using he
    split
    · exact (G.silent_reportFailure _).bind fun _ =>
        .quote (G.quotes_recordStreamAttempt target t₀ rfl he)
          ((G.logs_recordError request started none _ _ _).bind .raise_paid)
    · exact (G.silent_reportFailure _).bind fun _ =>
        .quote (G.quotes_recordStreamAttempt target t₀ rfl he) .pure_paid

/-- An opened stream, from its first `next` on. -/
lemma settles_streamFrom (request : NormalizedRequest) (started t₀ : ℚ) (target : Target)
    (deadline : Option ℚ) (idx : ℕ) (script : StreamScript) :
    Settles [] paid (G.streamFrom request started t₀ target deadline idx script) := by
  obtain ⟨items, ending⟩ := script
  have hrest (ending : Option Exc) (pulled : Bool) (items : List (Option StreamChunk)) :
      Settles [] paid (do
        let r ← G.streamLoop request started t₀ target deadline ending {} pulled items
        G.streamEnd request started t₀ target idx r.1 r.2) :=
    .bind (G.settles_streamLoop request started t₀ target deadline ending {} pulled items)
      (fun r => .inl ⟨r.2.owed, rfl, G.settles_streamEnd request started t₀ target idx r.1 r.2⟩)
      fun _ => rfl
  cases items with
  | nil =>
    cases ending with
    | none => exact (silent_emit rfl rfl).bind fun _ => hrest none false []
    | some e => exact .hear_emit rfl (G.settles_firstPullFailed request started t₀ target e)
  | cons first rest => exact (silent_emit rfl rfl).bind fun _ => hrest ending first.isSome _

/-- A native target. -/
lemma settles_nativeTarget
    (fn : Target → NormalizedRequest → ℚ → σ → Except Exc StreamScript × σ) (target : Target)
    (request : NormalizedRequest) (started : ℚ) (deadline : Option ℚ) (idx : ℕ) :
    Settles [] paid (G.nativeTarget fn target request started deadline idx) := by
  refine (G.silent_timeoutWithin deadline).bind fun slot => ?_
  cases slot with
  | none => exact (silent_recordGuard target _ rfl).bind fun _ => .pure_paid
  | some slot =>
    refine G.silent_monotonic.bind fun t₀ => (silent_outsideDo _).bind fun opened => ?_
    cases opened with
    | ok script =>
      exact (silent_emit rfl rfl).bind fun _ =>
        G.settles_streamFrom request started t₀ target deadline idx script
    | error e => exact .hear_emit rfl .raise_paid

/-- A buffered target. -/
lemma settles_bufferedTarget (provider : Provider σ) (target : Target)
    (request : NormalizedRequest) (started : ℚ) (deadline : Option ℚ) (idx : ℕ) :
    Settles [] paid (G.bufferedTarget provider target request started deadline idx) := by
  refine G.settles_attempt_invokeTarget _ target request deadline (fun x hx => ?_) fun e he => ?_
  · cases x with
    | ok resp =>
      refine (silent_reportSuccess _).bind fun _ =>
        (G.logs_captureStream request started target _ _ _ _).bind (.andThen ?_ fun _ => .pure_paid)
      refine .andThen ?_ fun _ => settles_yieldOrExit _
      unfold yieldText
      split
      · exact .pure_paid
      · exact settles_yieldOrExit _
    | error e =>
      dsimp only
      split
      · exact (G.silent_reportFailure _).bind fun _ =>
          (G.logs_recordError request started none _ _ _).bind .raise_paid
      · split
        · exact .pure_paid
        · split
          · exact (G.silent_reportFailure _).bind fun _ => .pure_paid
          · exact .raise_paid
  · obtain ⟨hterminal, hretriable, htimeout, hdeadline⟩ := Exc.of_not_isTyped he
    simp only [hterminal, hretriable, htimeout, hdeadline, Bool.false_eq_true, if_false,
      Bool.or_false]

/-- The loop of `invoke_stream` over the targets. -/
lemma settles_streamWalk (request : NormalizedRequest) (started : ℚ) (deadline : Option ℚ)
    (targets : List Target) (idx : ℕ) :
    Settles [] paid (G.streamWalk request started deadline idx targets) := by
  have hfailed : Settles [] paid (G.streamAllFailed request started) :=
    (silent_gets _).bind fun _ => (G.logs_recordError request started none _ _ _).bind .raise_paid
  induction targets generalizing idx with
  | nil => exact hfailed
  | cons target rest ih =>
    refine (G.silent_deadlineExceeded target deadline).bind fun passed => ?_
    cases passed with
    | true => exact hfailed
    | false =>
      simp only [Bool.false_eq_true, if_false]
      split
      · exact (G.logs_recordError request started none _ _ _).bind .raise_paid
      · split
        · exact (G.logs_recordError request started none _ _ _).bind .raise_paid
        · refine (G.silent_circuitBlocked target).bind fun blocked => ?_
          cases blocked with
          | true => exact ih (idx + 1)
          | false =>
            have hnext (ended : Bool) : Settles [] paid
                (if ended then pure ()
                  else G.streamWalk request started deadline (idx + 1) rest) := by
              cases ended with
              | true => exact .pure_paid
              | false => exact ih (idx + 1)
            simp only [Bool.false_eq_true, if_false]
            split
            · exact (G.settles_bufferedTarget _ target request started deadline idx).andThen hnext
            · exact (G.settles_nativeTarget _ target request started deadline idx).andThen hnext

/-- **Streaming calls** save records that quote the texts raised before. -/
theorem invokeStream_quoted (request : NormalizedRequest) (w : World σ) :
    Quoted [] ((G.invokeStream request).trace w) := by
  refine G.quoted_of_settles (fun started => ?_) w
  exact (G.settles_checkRequest request started).andThen fun _ =>
    (G.settles_checkBudget request started none).andThen fun _ =>
      (G.settles_resolveTargets request started none).andThen fun targets =>
        G.settles_streamWalk request started _ targets 0

end Gateway

end AgentCtl
