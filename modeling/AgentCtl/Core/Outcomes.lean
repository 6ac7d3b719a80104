import AgentCtl.Core.ErrorText
import AgentCtl.Providers.Shapes

set_option relaxedAutoImplicit false
set_option autoImplicit false

/-!
# What a call raises and what it records

The record of a call has an error type, and the caller gets an answer or an exception. The two speak
of the same thing: a call that returns has a record without an error type, or one of a stream that
the deadline has cut; a call that raises one of the gateway's own exceptions has one record, and its
error type tells the class of the exception. What is raised without such a record comes from
elsewhere.

Both can be narrowed down: where the model of a call is known to the router, and its targets are
registered and priced, no record blames the configuration. The error types that records may have,
and the exceptions that may leave a call without one, are therefore a parameter, `Bounds`.

A call is a sequence of parts, most of which save nothing. A part either goes on, with nothing saved
so far, or it ends the call, with all that it saves: `Explained` has one constructor for each way to
end. So parts are put together by three rules. Before a part that explains its outcome there may be
parts that save nothing (`Mute.bind`); a capture before a `return` or a `raise` is the one record of
the call (`Saves.pure`, `Saves.raise`); and a part that goes on hands its value to the next
(`Explains.bind`). The walks are inductions on the chain, and the loop of a stream one on its
chunks.

## Main definitions

* `AgentCtl.ErrorType.Raises` — the exceptions that go with an error type.
* `AgentCtl.Bounds` — the error types and the exceptions that a call may come to.
* `AgentCtl.Explained` — the records of a part of a call, and its outcome.
* `AgentCtl.Gateway.Takes` — the models that a gateway takes within the bounds.
* `AgentCtl.Gateway.Mannered` — providers that raise none of the gateway's exceptions but those of
  their contract.

## Main results

* `Gateway.explains_invoke`, `Gateway.explains_invokeStream`, `Gateway.explains_embed` — the records
  of a call explain its outcome.
* `mannered_openAIProvider`, `mannered_anthropicProvider` — the two adapters have the manners.

## Implementation notes

The exceptions of a provider are bounded for requests that local validation accepts only: the
translators of the adapters raise untyped exceptions on other ones. A walk keeps the acceptance of
its request as a hypothesis, which the first part of a call establishes.
-/

namespace AgentCtl

open Prog Gateway

variable {σ : Type}

/-- The exceptions that a call with a record of an error type raises; after a deadline in mid-stream
or a disconnect it raises nothing that a handler knows. -/
def ErrorType.Raises (e : Exc) : ErrorType → Prop
  | validation | pricing | terminal => e.isTerminal = true
  | budget => e.cls = .budgetExceeded
  | allFailed => e.cls = .allTargetsFailed
  | routing | provider | stream => e.cls = .gatewayError
  | deadline | clientAbort => False

/-- The record of a call that was neither refused nor failed: its stream may have been cut short. -/
def CallRecord.Mild (r : CallRecord) : Prop :=
  r.errorType = none ∨ r.errorType = some .deadline ∨ r.errorType = some .clientAbort

/-- An exception of a provider: it is typed, unless it is none of the gateway's. -/
def Exc.IsMannered (e : Exc) : Prop := e.isGateway = true → e.isTyped = true

/-- The error types that blame the configuration: an unknown model, a provider that is not
registered, a missing price. -/
def ErrorType.isConfiguration : ErrorType → Bool
  | routing | provider | pricing => true
  | _ => false

/-- What a call may come to: the error types of its records, and the exceptions that leave it
without one. What blames the configuration can be excluded from the first, and the gateway's own
exceptions from the second. -/
structure Bounds where
  allowed : ErrorType → Prop
  escapes : Exc → Prop
  common : ∀ k, k.isConfiguration = false → allowed k
  foreign : ∀ e, e.isGateway = false → escapes e

/-- Bounds that exclude the gateway's own exceptions from what leaves a call without a record. -/
def Bounds.mannered : Bounds where
  allowed _ := True
  escapes e := e.isGateway = false
  common _ _ := trivial
  foreign _ h := h

/-- Bounds that exclude error types that blame the configuration from the records. -/
def Bounds.blaming (allowed : ErrorType → Prop) : Bounds where
  allowed k := k.isConfiguration = true → allowed k
  escapes _ := True
  common _ hk h := absurd (hk.symm.trans h) Bool.false_ne_true
  foreign _ _ := trivial

/-- Exceptions that the loop over the targets knows, or that may leave it. -/
def Bounds.Handles (B : Bounds) (e : Exc) : Prop :=
  e.isTerminal = false → e.isRetriable = false → B.escapes e

/-- What local validation accepts. -/
def NormalizedRequest.Valid (py : Runtime) (request : NormalizedRequest) : Prop :=
  validateLocalContent py request.messages request.toolChoice = .ok ()

/-- A provider that raises none of the gateway's exceptions but those of its contract, for requests
that local validation accepts. Its stream is an iterator, and making one raises no such exception at
all. -/
structure Provider.Mannered (py : Runtime) (provider : Provider σ) : Prop where
  invoke : ∀ {request}, NormalizedRequest.Valid py request → ∀ t timeout s e,
    (provider.invoke t request timeout s).1 = .error e → e.IsMannered
  stream : ∀ {fn}, provider.stream = some fn → ∀ t request timeout s e,
    (fn t request timeout s).1 = .error e → e.isGateway = false
  embed : ∀ {fn}, provider.embed = some fn → ∀ t inputs timeout s e,
    (fn t inputs timeout s).1 = .error e → e.IsMannered

/-- A gateway all of whose providers raise none of its exceptions but those of their contract. -/
def Gateway.Mannered (G : Gateway σ) : Prop :=
  ∀ name provider, G.providers.get? name = some provider → provider.Mannered G.py

/-- A provider whose exceptions are within the bounds, for requests that local validation
accepts. -/
structure Provider.Within (B : Bounds) (py : Runtime) (provider : Provider σ) : Prop where
  invoke : ∀ {request}, NormalizedRequest.Valid py request → ∀ t timeout s e,
    (provider.invoke t request timeout s).1 = .error e → B.Handles e
  stream : ∀ {fn}, provider.stream = some fn → ∀ t request timeout s e,
    (fn t request timeout s).1 = .error e → B.escapes e
  embed : ∀ {fn}, provider.embed = some fn → ∀ t inputs timeout s e,
    (fn t inputs timeout s).1 = .error e → B.Handles e

/-- A gateway whose providers raise exceptions within the bounds only. -/
def Gateway.Within (B : Bounds) (G : Gateway σ) : Prop :=
  ∀ name provider, G.providers.get? name = some provider → provider.Within B G.py

/-- A target that a call gets by within the bounds: it is registered, and priced if it is, unless
records may say otherwise. -/
structure Gateway.Admits (B : Bounds) (G : Gateway σ) (t : Target) : Prop where
  registered : B.allowed .provider ∨ G.providers.get? t.provider ≠ none
  priced : G.providers.get? t.provider ≠ none →
    B.allowed .pricing ∨ G.costMeter.ensurePrice t.name = .ok ()

/-- A model that a gateway takes within the bounds: its chain is known, unless records may say
otherwise, and the targets of the chain are admitted. -/
structure Gateway.Takes (B : Bounds) (G : Gateway σ) (model : Str) : Prop where
  routed : B.allowed .routing ∨ (G.router.resolve G.py model).Returns
  admits : ∀ {targets}, G.router.resolve G.py model = .ok targets → ∀ t ∈ targets, G.Admits B t

/-- A target that is admitted without being registered: records may name the provider as unknown. -/
lemma Gateway.Admits.of_unregistered {B : Bounds} {G : Gateway σ} {t : Target} (h : G.Admits B t)
    (hnone : G.providers.get? t.provider = none) : B.allowed .provider :=
  h.registered.resolve_right fun hsome => hsome hnone

/-- A target that is admitted without a price: records may name the missing price. -/
lemma Gateway.Admits.of_unpriced {B : Bounds} {G : Gateway σ} {t : Target} (h : G.Admits B t)
    {provider : Provider σ} (hsome : G.providers.get? t.provider = some provider)
    {e : Exc} (he : G.costMeter.ensurePrice t.name = .error e) : B.allowed .pricing := by
  have hregistered : G.providers.get? t.provider ≠ none := by
    rw [hsome]
    exact Option.some_ne_none provider
  refine (h.priced hregistered).resolve_right fun hok => ?_
  rw [hok] at he
  cases he

/-- What no handler of the loop over the targets knows is none of the gateway's exceptions. -/
lemma Exc.IsMannered.isGateway {e : Exc} (h : e.IsMannered) (hterminal : e.isTerminal = false)
    (hretriable : e.isRetriable = false) : e.isGateway = false := by
  by_contra hgateway
  have htyped := h (by simpa using hgateway)
  rcases e with ⟨cls, msg, status⟩
  cases cls <;> simp_all [isTyped, isTerminal, isRetriable, isTimeout, Exc.isGateway]

/-- Providers with the manners are within the bounds that ask for them. -/
lemma Provider.Mannered.within {py : Runtime} {provider : Provider σ} (h : provider.Mannered py) :
    provider.Within .mannered py where
  invoke hvalid t timeout s e he hterminal hretriable :=
    (h.invoke hvalid t timeout s e he).isGateway hterminal hretriable
  stream hfn t request timeout s e he := h.stream hfn t request timeout s e he
  embed hfn t inputs timeout s e he hterminal hretriable :=
    (h.embed hfn t inputs timeout s e he).isGateway hterminal hretriable

/-- A gateway of providers with the manners is within the bounds that ask for them. -/
lemma Gateway.Mannered.within {G : Gateway σ} (h : G.Mannered) : G.Within .mannered :=
  fun name provider hget => (h name provider hget).within

/-- Within the bounds that ask for manners only, a gateway takes every model. -/
lemma Gateway.takes_mannered (G : Gateway σ) (model : Str) : G.Takes .mannered model :=
  ⟨.inl trivial, fun _ _ _ => ⟨.inl trivial, fun _ => .inl trivial⟩⟩

/-- Bounds on records ask nothing of the providers. -/
lemma Gateway.within_blaming (G : Gateway σ) (allowed : ErrorType → Prop) :
    G.Within (.blaming allowed) :=
  fun _ _ _ => ⟨fun _ _ _ _ _ _ _ _ => trivial, fun _ _ _ _ _ _ _ => trivial,
    fun _ _ _ _ _ _ _ _ _ => trivial⟩

/-- A missing price is a refusal. -/
lemma CostMeter.isTerminal_of_ensurePrice {c : CostMeter} {model : Str} {e : Exc}
    (h : c.ensurePrice model = .error e) : e.isTerminal = true := by
  unfold ensurePrice at h
  split at h
  · rw [← Except.error.inj h]
    rfl
  · cases h

/-- The records of a part of a call explain its outcome. After some of the values that it may return
the call goes on, and nothing has been saved so far. -/
inductive Explained (B : Bounds) {α : Type} (goesOn : α → Bool) :
    Except Exc α → List CallRecord → Prop
  /-- The call goes on. -/
  | on {a : α} (h : goesOn a = true) : Explained B goesOn (.ok a) []
  /-- The call returns. -/
  | returned {a : α} {r : CallRecord} (hend : goesOn a = false) (hr : r.Mild) :
    Explained B goesOn (.ok a) [r]
  /-- The call fails. -/
  | failed {e : Exc} {r : CallRecord} {k : ErrorType} (hk : B.allowed k)
    (hr : r.errorType = some k) (he : k.Raises e) : Explained B goesOn (.error e) [r]
  /-- An exception leaves the call. -/
  | left {e : Exc} {rs : List CallRecord} (he : B.escapes e) (hrs : ∀ r ∈ rs, r.Mild) :
    Explained B goesOn (.error e) rs

namespace Explained

variable {B : Bounds} {α β : Type} {goesOn : α → Bool} {rs : List CallRecord}

/-- While the call goes on, nothing has been saved. -/
lemma quiet {a : α} (h : Explained B goesOn (.ok a) rs) (hgo : goesOn a = true) : rs = [] := by
  cases h with
  | on => rfl
  | returned hend =>
    rw [hgo] at hend
    cases hend

/-- A call that is over may return another value. -/
lemma map {a : α} (h : Explained B goesOn (.ok a) rs) (hgo : goesOn a = false) {goesOn' : β → Bool}
    {b : β} (hgo' : goesOn' b = false) : Explained B goesOn' (.ok b) rs := by
  cases h with
  | on hon =>
    rw [hgo] at hon
    cases hon
  | returned _ hr => exact .returned hgo' hr

/-- An exception ends every part of a call. -/
lemma error {e : Exc} (h : Explained B goesOn (.error e) rs) {goesOn' : β → Bool} :
    Explained B goesOn' (.error e) rs := by
  cases h with
  | failed hk hr he => exact .failed hk hr he
  | left he hrs => exact .left he hrs

/-- **The error types of the records** are within the bounds. -/
lemma allowed {x : Except Exc α} (h : Explained B goesOn x rs) {r : CallRecord} (hr : r ∈ rs)
    {k : ErrorType} (hk : r.errorType = some k) : B.allowed k := by
  have hmild (hr : r.Mild) : B.allowed k := by
    rcases hr with hr | hr | hr
    · rw [hr] at hk
      cases hk
    · rw [hr] at hk
      exact B.common k (Option.some.inj hk ▸ rfl)
    · rw [hr] at hk
      exact B.common k (Option.some.inj hk ▸ rfl)
  cases h with
  | on => cases hr
  | returned _ hrMild =>
    obtain rfl := List.mem_singleton.mp hr
    exact hmild hrMild
  | failed hallowed hr' =>
    obtain rfl := List.mem_singleton.mp hr
    rw [hr'] at hk
    exact Option.some.inj hk ▸ hallowed
  | left _ hrs => exact hmild (hrs r hr)

end Explained

/-- The outcome of a program and the records that it saves are related. -/
def Says {α : Type} (Q : Except Exc α → List CallRecord → Prop) (m : Call σ α) : Prop :=
  ∀ w, Prog.Sat m w fun r _ es => Q r (savesOf es)

/-- The records of a program explain its outcome. -/
abbrev Explains (B : Bounds) {α : Type} (goesOn : α → Bool) (m : Call σ α) : Prop :=
  Says (Explained B goesOn) m

/-- A program that returns a value in `P`, and saves nothing. -/
def Mute {α : Type} (m : Call σ α) (P : α → Prop := fun _ => True) : Prop :=
  ∀ w, ∃ a w' es, m.run w = (.ok a, w', es) ∧ savesOf es = [] ∧ P a

/-- A program that saves one record with a given error type, and does nothing else. -/
def Saves (k : Option ErrorType) (m : Call σ Unit) : Prop :=
  ∀ w, ∃ w' es r, m.run w = (.ok (), w', es) ∧ savesOf es = [r] ∧ r.errorType = k

section Rules

variable {B : Bounds} {α β : Type} {P : α → Prop} {goesOn : α → Bool} {goesOn' : β → Bool}
  {m : Call σ α} {f : α → Call σ β}

/-- A value after which the call goes on. -/
lemma Says.pure_on {a : α} (h : goesOn a = true) : Explains B goesOn (pure a : Call σ α) :=
  fun _ => .on h

/-- What may leave may be raised without a record. -/
lemma Says.raise_left {e : Exc} (he : B.escapes e) :
    Explains B goesOn (raise e : Call σ α) :=
  fun _ => .left he (List.forall_mem_nil _)

/-- A silent program is mute. -/
lemma Silent.mute (hm : Silent m) : Mute m := by
  intro w
  obtain ⟨a, w', es, hrun, hsaves, -⟩ := hm w
  exact ⟨a, w', es, hrun, hsaves, trivial⟩

/-- A mute step changes nothing. -/
lemma Mute.bind {Q : Except Exc β → List CallRecord → Prop} (hm : Mute m P)
    (hf : ∀ a, P a → Says Q (f a)) : Says Q (m >>= f) := by
  intro w
  obtain ⟨a, w', es, hrun, hsaves, ha⟩ := hm w
  refine .bind_run hrun ((hf a ha w').imp fun r w'' fs h => ?_)
  rwa [savesOf_append, hsaves]

/-- A silent step changes nothing. -/
lemma Silent.andThen {Q : Except Exc β → List CallRecord → Prop} (hm : Silent m)
    (hf : ∀ a, Says Q (f a)) : Says Q (m >>= f) :=
  hm.mute.bind fun a _ => hf a

/-- A mute step before a program whose exceptions are caught. -/
lemma Mute.bind_attempt {Q : Except Exc β → Prop} (hm : Mute m P)
    (hf : ∀ a, P a → Mute (attempt (f a)) Q) : Mute (attempt (m >>= f)) Q := by
  intro w
  obtain ⟨a, w₁, es, hrun, hsaves, ha⟩ := hm w
  obtain ⟨x, w₂, fs, hrun₂, hsaves₂, hx⟩ := hf a ha w₁
  refine ⟨x, w₂, es ++ fs, ?_, ?_, hx⟩
  · rw [run_attempt, run_bind_ok hrun, run_of_attempt hrun₂]
  · rw [savesOf_append, hsaves, hsaves₂, List.append_nil]

/-- **Sequencing.** After a part of a call it goes on, or it is over. -/
lemma Explains.bind (hm : Explains B goesOn m)
    (hon : ∀ a, goesOn a = true → Explains B goesOn' (f a))
    (hend : ∀ a, goesOn a = false → ∃ b, f a = Pure.pure b ∧ goesOn' b = false) :
    Explains B goesOn' (m >>= f) := by
  intro w
  refine .bind (hm w) ?_ fun e w₁ es h => h.error
  intro a w₁ es h
  cases hgo : goesOn a with
  | true =>
    refine (hon a hgo w₁).imp fun r w₂ fs hr => ?_
    rwa [savesOf_append, h.quiet hgo]
  | false =>
    obtain ⟨b, hb, hgo'⟩ := hend a hgo
    rw [hb]
    refine .of_run (run_pure _ _) ?_
    rw [List.append_nil]
    exact h.map hgo hgo'

/-- A record with an error type, and its exception. -/
lemma Saves.raise {k : ErrorType} {e : Exc} {m : Call σ Unit} (hm : Saves (some k) m)
    (hk : B.allowed k) (he : k.Raises e) :
    Explains B goesOn (m >>= fun _ => Prog.raise e : Call σ α) := by
  intro w
  obtain ⟨w', es, r, hrun, hsaves, hr⟩ := hm w
  refine .bind_run hrun (.of_run (run_raise _ _) ?_)
  rw [List.append_nil, hsaves]
  exact .failed hk hr he

/-- A record without an error type, and a value. -/
lemma Saves.pure {a : α} {m : Call σ Unit} (hm : Saves none m) (hgo : goesOn a = false) :
    Explains B goesOn (m >>= fun _ => Pure.pure a : Call σ α) := by
  intro w
  obtain ⟨w', es, r, hrun, hsaves, hr⟩ := hm w
  refine .bind_run hrun (.of_run (run_pure _ _) ?_)
  rw [List.append_nil, hsaves]
  exact .returned hgo (.inl hr)

end Rules

/-! ## What is raised -/

/-- A refusal, or none of the gateway's exceptions. -/
def Exc.IsRefusal (e : Exc) : Prop := e.isTerminal = true ∨ e.isGateway = false

/-- A block is refused, or cannot be looked at. -/
lemma raises_validateBlock (py : Runtime) (b : Json) :
    (validateBlock py b).Raises Exc.IsRefusal := by
  unfold validateBlock
  split
  case h_2 => exact Except.raises_ok _
  next d =>
  refine Except.raises_bind ?_ fun _ _ => ?_
  · unfold rejectUnsupported
    refine Except.raises_bind ?_ fun _ _ => ?_
    · unfold Json.hashable
      split
      · exact (Except.raises_error _).mpr (.inr rfl)
      · exact (Except.raises_error _).mpr (.inr rfl)
      · exact Except.raises_ok _
    · split
      · exact (Except.raises_error _).mpr (.inl rfl)
      · exact Except.raises_ok _
  · split
    · refine Except.raises_bind ?_ fun _ _ => Except.raises_ok _
      unfold checkImageUrl
      split
      · split
        · dsimp only
          split
          · exact (Except.raises_error _).mpr (.inl rfl)
          · exact Except.raises_ok _
        · exact Except.raises_ok _
      · exact (Except.raises_error _).mpr (.inr rfl)
    · exact Except.raises_ok _

/-- Local validation refuses a request, or cannot look at it. -/
lemma raises_validateLocalContent (py : Runtime) (messages : List Dict)
    (toolChoice : Option ToolChoice) :
    (validateLocalContent py messages toolChoice).Raises Exc.IsRefusal := by
  unfold validateLocalContent
  refine Except.raises_bind (List.raises_forM fun m _ => ?_) fun _ _ => ?_
  · unfold validateMessage
    split
    · exact List.raises_forM fun b _ => raises_validateBlock py b
    · exact Except.raises_ok _
  · split
    · split
      · exact (Except.raises_error _).mpr (.inl rfl)
      · exact Except.raises_ok _
    · exact Except.raises_ok _

/-! ## Mute steps -/

/-- Emitting an event that is no save saves nothing. -/
lemma mute_emit {e : Event σ} (h : e.save? = none) : Mute (Prog.emit e) :=
  fun w => ⟨(), w, [e], rfl, by rw [savesOf_cons, h]; rfl, trivial⟩

/-- The attempt of a guard is noted without a save. -/
lemma mute_recordGuard (target : Target) (outcome : AttemptOutcome) (error : Str) :
    Mute (σ := σ) (recordGuard target outcome error) :=
  fun _ => ⟨(), _, _, rfl, rfl, trivial⟩

/-- A call of a provider saves nothing, and what it raises is within the bounds. -/
lemma mute_callProvider {B : Bounds} {py : Runtime} {provider : Provider σ}
    (hprovider : provider.Within B py) (target : Target) {request : NormalizedRequest}
    (hvalid : request.Valid py) (slot : TimeoutSlot) :
    Mute (callProvider provider target request slot) fun x => ∀ e, x = .error e → B.Handles e :=
  fun w => ⟨(provider.invoke target request slot.timeout w.outer).1, _, _, rfl, rfl,
    hprovider.invoke hvalid _ _ _⟩

/-- A call of a provider for embeddings saves nothing, and what it raises is within the bounds. -/
lemma mute_callEmbed {B : Bounds} {py : Runtime} {provider : Provider σ}
    (hprovider : provider.Within B py)
    {fn : Target → List Str → ℚ → σ → Except Exc EmbeddingResponse × σ}
    (hfn : provider.embed = some fn) (target : Target) (inputs : List Str) (slot : TimeoutSlot) :
    Mute (callEmbed fn target inputs slot) fun x => ∀ e, x = .error e → B.Handles e :=
  fun w => ⟨(fn target inputs slot.timeout w.outer).1, _, _, rfl, rfl,
    hprovider.embed hfn _ _ _ _⟩

namespace Gateway

variable (G : Gateway σ)

/-- An attempt is noted without a save. -/
lemma mute_recordAttempt (target : Target) (outcome : AttemptOutcome) (started : ℚ)
    (error : Option Str) : Mute (G.recordAttempt target outcome started error) := by
  intro w
  obtain ⟨latency, s, h⟩ := G.run_recordAttempt w target outcome started error
  exact ⟨(), _, _, h, rfl, trivial⟩

/-- An attempt of a stream is noted without a save. -/
lemma mute_recordStreamAttempt (target : Target) (outcome : AttemptOutcome) (started : ℚ)
    (error : Option Str) : Mute (G.recordStreamAttempt target outcome started error) := by
  intro w
  obtain ⟨latency, s, h⟩ := G.run_recordStreamAttempt w target outcome started error
  exact ⟨(), _, _, h, rfl, trivial⟩

/-- Reading the cache saves nothing, and raises nothing. -/
lemma mute_cacheGet (key : Option Str) : Mute (G.cacheGet key) := by
  intro w
  obtain ⟨cached, s, h⟩ := G.run_cacheGet w key
  exact ⟨cached, _, _, h, rfl, trivial⟩

/-- The budget check, whose refusal is an exception of its own. -/
lemma mute_attempt_budgetCheck (consumer : Str) :
    Mute (attempt (G.budgetCheck consumer)) fun x =>
      ∀ e, x = .error e → e.cls = .budgetExceeded := by
  intro w
  have h : (G.budgetCheck consumer).run w = (w.budget.check G.py consumer, w, []) := by
    rw [budgetCheck, run_bind_ok (run_gets _ _), run_ofExcept, List.nil_append]
  refine ⟨w.budget.check G.py consumer, w, [], by rw [run_attempt, h], rfl, fun e he => ?_⟩
  unfold BudgetGuard.check at he
  split at he
  · cases he
  split at he
  · rw [← Except.error.inj he]
  split at he
  · rw [← Except.error.inj he]
  · cases he

/-! ## Records -/

variable {G} {B : Bounds} (hstore : G.hasStore = true)

include hstore

/-- A capture saves its record. -/
lemma saves_of_capture {m : Call σ Unit} (request : NormalizedRequest) {k : Option ErrorType}
    (h : ∀ w, ∃ latency c w', m.run w = (.ok (), w', G.captureEvents request latency c) ∧
      c.errorType = k) : Saves k m := by
  intro w
  obtain ⟨latency, c, w', hrun, hc⟩ := h w
  refine ⟨w', _, G.callRecord request latency c, hrun, ?_, hc⟩
  unfold captureEvents
  rw [hstore]
  rfl

/-- The capture of a call saves one record, with the error type it was given. -/
lemma saves_record (request : NormalizedRequest) (started : ℚ) (c : Captured) :
    Saves c.errorType (G.record request started c) := by
  refine saves_of_capture hstore request fun w => ?_
  obtain ⟨latency, s, h⟩ := G.run_record w request started c
  exact ⟨latency, c, _, h, rfl⟩

/-- The capture of a failed call saves one record, with its error type. -/
lemma saves_recordError (request : NormalizedRequest) (started : ℚ) (key : Option Str)
    (k : ErrorType) (message resolved : Option Str) :
    Saves (some k) (G.recordError request started key k message resolved) := by
  refine saves_of_capture hstore request fun w => ?_
  obtain ⟨latency, s, h⟩ := G.run_recordError w request started key k message resolved
  exact ⟨latency, _, _, h, rfl⟩

/-- The capture of an answered call saves one record, without an error type. -/
lemma saves_recordAnswer (request : NormalizedRequest) (started : ℚ) (key : Option Str)
    (target : Target) (resp : NormalizedResponse) (idx : ℕ) :
    Saves none (G.recordAnswer request started key target resp idx) := by
  refine saves_of_capture hstore request fun w => ?_
  obtain ⟨cost, latency, s, h⟩ := G.run_recordAnswer w request started key target resp idx
  exact ⟨latency, _, _, h, rfl⟩

/-- The capture of a stream saves one record, with the error type it was given. -/
lemma saves_capture (request : NormalizedRequest) (started : ℚ) (target : Target)
    (resp : NormalizedResponse) (status : Status) (k : Option ErrorType) (message : Option Str) :
    Saves k (G.capture request started target resp status k message) := by
  refine saves_of_capture hstore request fun w => ?_
  obtain ⟨latency, s, h⟩ := G.run_record w request started
    { modelResolved := some target.name, attempts := w.attempts, resp := some resp,
      status := status, errorType := k, errorMessage := message }
  exact ⟨latency, _, _, h, rfl⟩

/-- The capture of an embeddings call with the attempts made so far. -/
lemma saves_recordEmbed (model : Str) (metadata : Metadata) (started : ℚ)
    (c : List Attempt → CapturedEmbed) {k : Option ErrorType} (hc : ∀ as, (c as).errorType = k) :
    Saves k (do
      let attempts ← Prog.gets World.attempts
      G.recordEmbed model metadata started (c attempts)) := by
  intro w
  obtain ⟨latency, s, h⟩ := G.run_recordEmbed model metadata w started (c w.attempts)
  refine ⟨_, _, G.embedRecord model metadata latency (c w.attempts),
    (run_bind_ok (run_gets _ _)).trans (by rw [h, List.nil_append]), ?_, hc _⟩
  unfold embedEvents
  rw [hstore]
  rfl

/-- The capture of a failed embeddings call saves one record, with its error type. -/
lemma saves_recordEmbedError (model : Str) (metadata : Metadata) (started : ℚ)
    (k : ErrorType) (message resolved : Option Str) :
    Saves (some k) (G.recordEmbedError model metadata started k message resolved) :=
  saves_recordEmbed hstore model metadata started _ fun _ => rfl

/-! ## What comes before the targets -/

/-- Local validation: what follows it is for valid requests. -/
lemma explains_checkRequest {β : Type} {goesOn : β → Bool} {f : Unit → Call σ β}
    (request : NormalizedRequest) (started : ℚ)
    (hf : request.Valid G.py → Explains B goesOn (f ())) :
    Explains B goesOn (G.checkRequest request started >>= f) := by
  unfold checkRequest
  split
  · next hvalid => exact hf hvalid
  next e he =>
  have hraise (w : World σ) : Prog.Sat (do
      if e.isTerminal then G.recordError request started none .validation (some e.msg)
      Prog.raise e : Call σ Unit) w fun r _ es =>
        r = .error e ∧ Explained B goesOn (.error e) (savesOf es) := by
    split
    · next hterminal =>
      obtain ⟨w', es, r, hrun, hsaves, hr⟩ :=
        saves_recordError hstore request started none .validation (some e.msg) none w
      refine .bind_run hrun (.of_run (run_raise _ _) ⟨rfl, ?_⟩)
      rw [List.append_nil, hsaves]
      exact .failed (B.common _ rfl) hr hterminal
    · next hterminal =>
      have hforeign := (raises_validateLocalContent _ _ _ e he).resolve_left hterminal
      exact ⟨rfl, .left (B.foreign e hforeign) (List.forall_mem_nil _)⟩
  refine fun w => .bind (hraise w) ?_ ?_
  · rintro a w₁ es ⟨h, -⟩
    cases h
  · rintro e' w₁ es ⟨h, hexplained⟩
    rwa [Except.error.inj h]

/-- The record of a call that the budget refuses explains the refusal. -/
lemma explains_checkBudget (request : NormalizedRequest) (started : ℚ) (key : Option Str) :
    Explains B (fun _ => true) (G.checkBudget request started key) := by
  refine (G.mute_attempt_budgetCheck _).bind fun x hx => ?_
  cases x with
  | ok => exact .pure_on rfl
  | error e =>
    exact (saves_recordError hstore request started key _ _ _).raise (B.common _ rfl) (hx e rfl)

/-- Routing: what follows it is for targets that are admitted. -/
lemma explains_resolveTargets {β : Type} {goesOn : β → Bool} {f : List Target → Call σ β}
    {request : NormalizedRequest} (htakes : G.Takes B request.model) (started : ℚ)
    (key : Option Str)
    (hf : ∀ targets, (∀ t ∈ targets, G.Admits B t) → Explains B goesOn (f targets)) :
    Explains B goesOn (G.resolveTargets request started key >>= f) := by
  unfold resolveTargets
  split
  · next targets hresolve => exact hf targets (htakes.admits hresolve)
  next e he =>
  have hallowed := htakes.routed.resolve_right ((Except.not_returns_iff _).mpr ⟨e, he⟩)
  rw [bind_bind]
  exact (saves_recordError hstore request started key _ _ _).raise hallowed rfl

/-- The end of a chain without an answer. -/
lemma explains_allFailed (request : NormalizedRequest) (started : ℚ) (key : Option Str) :
    Explains B (fun _ => false) (G.allFailed request started key) :=
  (silent_gets _).andThen fun _ =>
    (saves_recordError hstore request started key _ _ _).raise (B.common _ rfl) rfl

omit hstore in
/-- What the retry loop raises is known to the loop over the targets, or may leave it. -/
lemma mute_attempt_invokeTarget {provider : Provider σ} (hprovider : provider.Within B G.py)
    (target : Target) {request : NormalizedRequest} (hvalid : request.Valid G.py)
    (deadline : Option ℚ) :
    Mute (attempt (G.invokeTarget provider target request deadline))
      fun x => ∀ e, x = .error e → B.Handles e := by
  have hraise {e : Exc} (he : B.Handles e) :
      Mute (attempt (Prog.raise e : Call σ NormalizedResponse))
        fun x => ∀ e, x = .error e → B.Handles e :=
    fun w => ⟨.error e, w, [], rfl, rfl, fun e' h => Except.error.inj h ▸ he⟩
  unfold invokeTarget
  generalize (Exc.retriable "no attempt made") = last
  generalize (0 : ℕ) = n
  induction G.retry.maxAttemptsPerTarget generalizing n last with
  | zero => exact hraise fun _ h => by cases h
  | succ left ih =>
    refine (G.silent_timeoutWithin deadline).mute.bind_attempt fun slot _ => ?_
    cases slot with
    | none => exact hraise fun _ h => by cases h
    | some slot =>
      refine G.silent_monotonic.mute.bind_attempt fun t _ => ?_
      refine (mute_callProvider hprovider target hvalid slot).bind_attempt fun out hout => ?_
      cases out with
      | ok resp =>
        refine (G.mute_recordAttempt target _ t _).bind_attempt fun _ _ => ?_
        exact fun w => ⟨.ok resp, w, [], rfl, rfl, fun e h => by cases h⟩
      | error e =>
        dsimp only
        split
        · exact (G.mute_recordAttempt target _ t _).bind_attempt fun _ _ => hraise (hout e rfl)
        split
        · refine (G.mute_recordAttempt target _ t _).bind_attempt fun _ _ => ?_
          exact (G.silent_pause n).mute.bind_attempt fun _ _ => ih e (n + 1)
        · exact hraise (hout e rfl)

/-- **The records of the walk along a chain** explain its outcome. The induction is on the chain. -/
lemma explains_walk (hG : G.Within B) {request : NormalizedRequest}
    (hvalid : request.Valid G.py) (started : ℚ) (key : Option Str) (deadline : Option ℚ) (idx : ℕ)
    {targets : List Target} (htargets : ∀ t ∈ targets, G.Admits B t) :
    Explains B (fun _ => false) (G.walk request started key deadline idx targets) := by
  induction targets generalizing idx with
  | nil => exact explains_allFailed hstore request started key
  | cons target rest ih =>
    refine (G.silent_deadlineExceeded target deadline).andThen fun passed => ?_
    cases passed with
    | true => exact explains_allFailed hstore request started key
    | false =>
      have htarget := htargets target List.mem_cons_self
      have hrest := fun t ht => htargets t (List.mem_cons_of_mem _ ht)
      simp only [Bool.false_eq_true, if_false]
      split
      · next hnone =>
        exact (saves_recordError hstore request started key _ _ _).raise
          (htarget.of_unregistered hnone) rfl
      next provider hprovider =>
      split
      · next e he =>
        exact (saves_recordError hstore request started key _ _ _).raise
          (htarget.of_unpriced hprovider he) (CostMeter.isTerminal_of_ensurePrice he)
      refine (G.silent_circuitBlocked target).andThen fun blocked => ?_
      cases blocked with
      | true => exact ih (idx + 1) hrest
      | false =>
        refine (mute_attempt_invokeTarget (hG _ _ hprovider) target hvalid deadline).bind
          fun x hx => ?_
        cases x with
        | ok resp =>
          refine (silent_reportSuccess _).andThen fun _ => ?_
          refine (G.silent_cacheSet key resp).andThen fun _ => ?_
          exact (saves_recordAnswer hstore request started key target resp idx).pure rfl
        | error e =>
          dsimp only
          split
          · next hterminal =>
            refine (G.silent_reportFailure _).andThen fun _ => ?_
            exact (saves_recordError hstore request started key _ _ _).raise (B.common _ rfl)
              hterminal
          split
          · exact ih (idx + 1) hrest
          split
          · exact (G.silent_reportFailure _).andThen fun _ => ih (idx + 1) hrest
          · next hterminal _ hretriable =>
            exact .raise_left (hx e rfl (by simpa using hterminal) (by simpa using hretriable))

/-- The records of a call whose key is known explain its outcome. -/
lemma explains_invokeKeyed (hG : G.Within B) {request : NormalizedRequest}
    (htakes : G.Takes B request.model) (hvalid : request.Valid G.py) (started : ℚ)
    (key : Option Str) : Explains B (fun _ => false) (G.invokeKeyed request started key) := by
  refine (G.mute_cacheGet key).bind fun cached _ => ?_
  cases cached with
  | some resp => exact (saves_record hstore request started _).pure rfl
  | none =>
    refine (explains_checkBudget hstore request started key).bind (fun _ _ => ?_)
      fun _ h => by cases h
    refine explains_resolveTargets hstore htakes started key fun targets htargets => ?_
    exact explains_walk hstore hG hvalid started key _ 0 htargets

omit hstore in
/-- What cannot be made a key is none of the gateway's exceptions. -/
lemma raises_cacheKeyFor (request : NormalizedRequest) :
    (G.cacheKeyFor request).Raises fun e => e.isGateway = false := by
  unfold cacheKeyFor
  split
  · exact Except.raises_ok _
  split
  · exact Except.raises_ok _
  refine Except.raises_map ?_ _
  unfold makeKey
  dsimp only
  split
  · exact (Except.raises_error _).mpr rfl
  · exact Except.raises_ok _

/-- **Chat calls**: the records of a call explain its outcome. -/
theorem explains_invoke (hG : G.Within B) {request : NormalizedRequest}
    (htakes : G.Takes B request.model) :
    Explains B (fun _ => false) (G.invoke request) := by
  have hstart : Mute (σ := σ) (Prog.modify fun w => { w with attempts := [] }) :=
    fun w => ⟨(), _, [], rfl, rfl, trivial⟩
  refine hstart.bind fun _ _ => G.silent_monotonic.andThen fun started => ?_
  refine explains_checkRequest hstore request started fun hvalid => ?_
  cases hkey : G.cacheKeyFor request with
  | error e =>
    have hforeign := raises_cacheKeyFor request e hkey
    exact fun _ => .left (B.foreign e hforeign) (List.forall_mem_nil _)
  | ok key => exact explains_invokeKeyed hstore hG htakes hvalid started key

/-! ## Embeddings calls -/

/-- The end of an embeddings chain without an answer. -/
lemma explains_embedAllFailed (model : Str) (metadata : Metadata) (started : ℚ) :
    Explains B (fun _ => false) (G.embedAllFailed model metadata started) :=
  (silent_gets _).andThen fun _ =>
    (saves_recordEmbedError hstore model metadata started _ _ _).raise (B.common _ rfl) rfl

/-- A target of `embed`: the call goes on if there is no answer. -/
lemma explains_embedTarget {provider : Provider σ} (hprovider : provider.Within B G.py)
    {fn : Target → List Str → ℚ → σ → Except Exc EmbeddingResponse × σ}
    (hfn : provider.embed = some fn) (target : Target) (model : Str) (inputs : List Str)
    (metadata : Metadata) (started : ℚ) (slot : TimeoutSlot) (idx : ℕ) :
    Explains B Option.isNone (G.embedTarget fn target model inputs metadata started slot idx) := by
  refine G.silent_monotonic.andThen fun t => ?_
  refine (mute_callEmbed hprovider hfn target inputs slot).bind fun out hout => ?_
  cases out with
  | ok resp =>
    refine (silent_reportSuccess _).andThen fun _ => (G.mute_recordAttempt target _ t _).bind
      fun _ _ => ?_
    exact (saves_recordEmbed hstore model metadata started (fun attempts =>
      { modelResolved := some target.name, attempts := attempts, resp := some resp,
        status := if idx = 0 then .success else .fallbackSuccess }) fun _ => rfl).pure rfl
  | error e =>
    dsimp only
    split
    · next hterminal =>
      refine (G.silent_reportFailure _).andThen fun _ => (G.mute_recordAttempt target _ t _).bind
        fun _ _ => ?_
      exact (saves_recordEmbedError hstore model metadata started _ _ _).raise (B.common _ rfl)
        hterminal
    split
    · exact (G.silent_reportFailure _).andThen fun _ => (G.mute_recordAttempt target _ t _).bind
        fun _ _ => .pure_on rfl
    · next hterminal hretriable =>
      simp only [Bool.or_eq_true, not_or, Bool.not_eq_true] at hretriable
      exact .raise_left (hout e rfl (by simpa using hterminal) hretriable.1)

/-- **The records of the walk along an embeddings chain** explain its outcome. -/
lemma explains_embedWalk (hG : G.Within B) (model : Str) (inputs : List Str) (metadata : Metadata)
    (started : ℚ) (deadline : Option ℚ) (idx : ℕ) {targets : List Target}
    (htargets : ∀ t ∈ targets, G.Admits B t) :
    Explains B (fun _ => false)
      (G.embedWalk model inputs metadata started deadline idx targets) := by
  induction targets generalizing idx with
  | nil => exact explains_embedAllFailed hstore model metadata started
  | cons target rest ih =>
    refine (G.silent_deadlineExceeded target deadline).andThen fun passed => ?_
    cases passed with
    | true => exact explains_embedAllFailed hstore model metadata started
    | false =>
      have htarget := htargets target List.mem_cons_self
      have hrest := fun t ht => htargets t (List.mem_cons_of_mem _ ht)
      simp only [Bool.false_eq_true, if_false]
      split
      · next hnone =>
        exact (saves_recordEmbedError hstore model metadata started _ _ _).raise
          (htarget.of_unregistered hnone) rfl
      next provider hprovider =>
      split
      · exact (mute_recordGuard target _ _).bind fun _ _ => ih (idx + 1) hrest
      next fn hfn =>
      split
      · next e he =>
        exact (saves_recordEmbedError hstore model metadata started _ _ _).raise
          (htarget.of_unpriced hprovider he) (CostMeter.isTerminal_of_ensurePrice he)
      refine (G.silent_circuitBlocked target).andThen fun blocked => ?_
      cases blocked with
      | true => exact ih (idx + 1) hrest
      | false =>
        refine (G.silent_timeoutWithin deadline).andThen fun slot => ?_
        cases slot with
        | none =>
          exact (mute_recordGuard target _ _).bind fun _ _ =>
            explains_embedAllFailed hstore model metadata started
        | some slot =>
          refine (explains_embedTarget hstore (hG _ _ hprovider) hfn target model inputs metadata
            started slot idx).bind (fun r hr => ?_) fun r hr => ?_
          · cases r with
            | none => exact ih (idx + 1) hrest
            | some resp => cases hr
          · cases r with
            | none => cases hr
            | some resp => exact ⟨resp, rfl, rfl⟩

/-- **Embeddings calls**: the records of a call explain its outcome. -/
theorem explains_embed (hG : G.Within B) {model : Str} (htakes : G.Takes B model)
    (inputs : List Str) (metadata : Metadata) :
    Explains B (fun _ => false) (G.embed model inputs metadata) := by
  have hstart : Mute (σ := σ) (Prog.modify fun w => { w with attempts := [] }) :=
    fun w => ⟨(), _, [], rfl, rfl, trivial⟩
  refine hstart.bind fun _ _ => G.silent_monotonic.andThen fun started => ?_
  refine (G.mute_attempt_budgetCheck _).bind fun x hx => ?_
  cases x with
  | error e =>
    exact (saves_recordEmbedError hstore model metadata started _ _ _).raise (B.common _ rfl)
      (hx e rfl)
  | ok =>
    dsimp only
    split
    · next e he =>
      have hallowed := htakes.routed.resolve_right ((Except.not_returns_iff _).mpr ⟨e, he⟩)
      exact (saves_recordEmbedError hstore model metadata started _ _ _).raise hallowed rfl
    · next targets hresolve =>
      exact explains_embedWalk hstore hG model inputs metadata started _ 0
        (htakes.admits hresolve)

end Gateway

/-! ## Streams -/

/-- A program that saves nothing, and is at most closed. -/
def Yields (m : Call σ Unit) : Prop :=
  Says (fun r rs => rs = [] ∧ ∀ e, r = .error e → e = .generatorExit) m

/-- A `yield` outside any handler saves nothing; it raises the exit of the consumer at most. -/
lemma yields_yieldOrExit (c : StreamChunk) : Yields (σ := σ) (yieldOrExit c) := by
  refine (silent_yieldChunk c).andThen fun resumed w => ?_
  cases resumed with
  | true => exact ⟨rfl, fun e he => by cases he⟩
  | false => exact ⟨rfl, fun e he => (Except.error.inj he).symm⟩

/-- Delivering the chunks of a response saves nothing; it raises the exit of the consumer at most.
-/
lemma yields_yieldResponse (resp : NormalizedResponse) :
    Yields (σ := σ) (Gateway.yieldResponse resp) := by
  have htext : Yields (σ := σ) (yieldText resp.text) := by
    unfold yieldText
    split
    · exact fun w => ⟨rfl, fun e he => by cases he⟩
    · exact yields_yieldOrExit _
  intro w
  refine .bind (htext w) ?_ fun e w₁ es h => h
  rintro _ w₁ es ⟨hsaves, -⟩
  refine (yields_yieldOrExit _ w₁).imp ?_
  rintro r w₂ fs ⟨hsaves₂, he⟩
  exact ⟨by rw [savesOf_append, hsaves, hsaves₂, List.append_nil], he⟩

/-- An answer is recorded, and then delivered. -/
lemma Saves.yields {B : Bounds} {m m' : Call σ Unit} (hm : Saves none m) (hm' : Yields m') :
    Explains B not (m >>= fun _ => m' >>= fun _ => Pure.pure true : Call σ Bool) := by
  intro w
  obtain ⟨w', es, r, hrun, hsaves, hr⟩ := hm w
  refine .bind_run hrun (.bind (hm' w') ?_ ?_)
  · rintro _ w₁ fs ⟨hsaves₁, -⟩
    refine .of_run (run_pure _ _) ?_
    rw [List.append_nil, savesOf_append, hsaves, hsaves₁, List.append_nil]
    exact .returned rfl (.inl hr)
  · rintro e w₁ fs ⟨hsaves₁, he⟩
    obtain rfl := he e rfl
    rw [savesOf_append, hsaves, hsaves₁, List.append_nil]
    exact .left (B.foreign _ rfl) fun r' hr' => .inl (List.mem_singleton.mp hr' ▸ hr)

/-- What the loop over the chunks of a stream has saved when it ends. -/
def LoopEnd.Saved (rs : List CallRecord) : LoopEnd → Prop
  | drained => rs = []
  | cut => ∃ r, rs = [r] ∧ r.errorType = some .deadline
  | raised e => (e.isException = true → rs = []) ∧ ∀ r ∈ rs, r.Mild

/-- Only a closed generator raises what is no `Exception`. -/
lemma Exc.isGateway_of_not_isException {e : Exc} (h : e.isException = false) :
    e.isGateway = false := by
  rcases e with ⟨cls, msg, status⟩
  cases cls <;> simp_all [isException, Exc.isGateway]

namespace Gateway

variable {G : Gateway σ} {B : Bounds} (hstore : G.hasStore = true)

include hstore

/-- **The loop over the chunks** returns, and has saved what its end asks for. -/
lemma says_streamLoop (request : NormalizedRequest) (started t₀ : ℚ) (target : Target)
    (deadline : Option ℚ) (ending : Option Exc) (v : StreamVars) (pulled : Bool)
    (items : List (Option StreamChunk)) :
    Says (fun r rs => ∃ v' how, r = .ok (v', how) ∧ how.Saved rs)
      (G.streamLoop request started t₀ target deadline ending v pulled items) := by
  induction items generalizing v pulled with
  | nil =>
    cases ending with
    | none => exact fun w => ⟨v, .drained, rfl, rfl⟩
    | some e => exact fun w => ⟨v, .raised e, rfl, fun _ => rfl, List.forall_mem_nil _⟩
  | cons c rest ih =>
    refine (silent_pullUnless pulled target c).andThen fun _ => ?_
    refine (G.silent_cutByDeadline deadline).andThen fun cut => ?_
    cases cut with
    | true =>
      refine (G.mute_recordStreamAttempt target _ t₀ _).bind fun _ _ w => ?_
      obtain ⟨w', es, r, hrun, hsaves, hr⟩ := saves_capture hstore request started
        target (v.response (some "length")) .deadline (some .deadline) none w
      obtain ⟨resumed, p, hyield⟩ := run_yieldChunk (v.doneChunk (some "length") none) w'
      refine .bind_run hrun (.bind_run hyield (.of_run (run_pure _ _) ?_))
      refine ⟨v, _, rfl, ?_⟩
      rw [savesOf_append, hsaves]
      cases resumed with
      | true => exact ⟨r, rfl, hr⟩
      | false =>
        refine ⟨fun h => absurd h (by decide), fun r' hr' => ?_⟩
        obtain rfl := List.mem_singleton.mp hr'
        exact .inr (.inl hr)
    | false =>
      cases c with
      | none => exact ih v false
      | some chunk =>
        simp only [Bool.false_eq_true, if_false]
        split
        · exact ih _ false
        split
        · exact ih _ false
        refine (silent_yieldChunk chunk).andThen fun resumed => ?_
        cases resumed with
        | true => exact ih _ false
        | false =>
          exact fun w => ⟨_, .raised .generatorExit, rfl, fun h => absurd h (by decide),
            List.forall_mem_nil _⟩

/-- **What follows the loop** explains the outcome, with what the loop has saved. -/
lemma explained_streamEnd (request : NormalizedRequest) (started t₀ : ℚ) (target : Target)
    (idx : ℕ) (v : StreamVars) {how : LoopEnd} {rs : List CallRecord} (h : how.Saved rs) :
    Says (fun r rs' => Explained B not r (rs ++ rs'))
      (G.streamEnd request started t₀ target idx v how) := by
  cases how with
  | drained =>
    obtain rfl : rs = [] := h
    refine (silent_reportSuccess _).andThen fun _ => ?_
    refine (G.mute_recordStreamAttempt target _ t₀ _).bind fun _ _ => ?_
    exact (saves_capture hstore request started target _ _ none none).yields (yields_yieldOrExit _)
  | cut =>
    obtain ⟨r, rfl, hr⟩ := h
    exact fun w => .returned rfl (.inr (.inl hr))
  | raised e =>
    obtain ⟨hnone, hmild⟩ := h
    simp only [streamEnd]
    split
    · next he =>
      obtain rfl := hnone he
      refine (G.silent_reportFailure _).andThen fun _ => ?_
      split
      · exact (G.mute_recordStreamAttempt target _ t₀ _).bind fun _ _ => .pure_on rfl
      · refine (G.mute_recordStreamAttempt target _ t₀ _).bind fun _ _ => ?_
        exact (saves_capture hstore request started target _ .error (some .stream)
          (some e.msg)).raise (B.common _ rfl) rfl
    · next he =>
      refine (G.mute_recordStreamAttempt target _ t₀ _).bind fun _ _ w => ?_
      obtain ⟨w', es, r, hrun, hsaves, hr⟩ := saves_capture hstore request started
        target (v.response v.finishReason) .aborted (some .clientAbort) none w
      refine .bind_run hrun (.of_run (run_raise _ _) ?_)
      rw [List.append_nil, hsaves]
      have hforeign := Exc.isGateway_of_not_isException (by simpa using he)
      refine .left (B.foreign e hforeign) fun r' hr' => ?_
      rcases List.mem_append.mp hr' with hr' | hr'
      · exact hmild r' hr'
      · exact .inr (.inr (List.mem_singleton.mp hr' ▸ hr))

/-- The records of the loop and of the handlers behind it explain their outcome. -/
lemma explains_streamLoop_end (request : NormalizedRequest) (started t₀ : ℚ) (target : Target)
    (deadline : Option ℚ) (ending : Option Exc) (pulled : Bool) (items : List (Option StreamChunk))
    (idx : ℕ) :
    Explains B not (do
      let r ← G.streamLoop request started t₀ target deadline ending {} pulled items
      G.streamEnd request started t₀ target idx r.1 r.2) := by
  intro w
  refine .bind (says_streamLoop hstore request started t₀ target deadline ending {} pulled items w)
    ?_ ?_
  · rintro a w₁ es ⟨v, how, ha, hsaved⟩
    obtain rfl := Except.ok.inj ha
    have hend := explained_streamEnd (B := B) hstore request started t₀ target idx v hsaved w₁
    refine hend.imp fun r w₂ fs h => ?_
    rwa [savesOf_append]
  · rintro e w₁ es ⟨v, how, he, -⟩
    cases he

/-- The records of the handlers around the first `next` explain their outcome. -/
lemma explains_firstPullFailed (request : NormalizedRequest) (started t₀ : ℚ) (target : Target)
    (e : Exc) : Explains B not (G.firstPullFailed request started t₀ target e) := by
  unfold firstPullFailed
  split
  · next he =>
    exact .raise_left (B.foreign e (Exc.isGateway_of_not_isException (by simpa using he)))
  split
  · next hterminal =>
    refine (G.silent_reportFailure _).andThen fun _ => ?_
    refine (G.mute_recordStreamAttempt target _ t₀ _).bind fun _ _ => ?_
    exact (saves_recordError hstore request started none _ _ _).raise (B.common _ rfl)
      hterminal
  · refine (G.silent_reportFailure _).andThen fun _ => ?_
    exact (G.mute_recordStreamAttempt target _ t₀ _).bind fun _ _ => .pure_on rfl

/-- The records of a native stream explain its outcome. -/
lemma explains_nativeTarget {provider : Provider σ} (hprovider : provider.Within B G.py)
    {fn : Target → NormalizedRequest → ℚ → σ → Except Exc StreamScript × σ}
    (hfn : provider.stream = some fn) (target : Target) (request : NormalizedRequest) (started : ℚ)
    (deadline : Option ℚ) (idx : ℕ) :
    Explains B not (G.nativeTarget fn target request started deadline idx) := by
  refine (G.silent_timeoutWithin deadline).andThen fun slot => ?_
  cases slot with
  | none => exact (mute_recordGuard target _ _).bind fun _ _ => .pure_on rfl
  | some slot =>
    refine G.silent_monotonic.andThen fun t₀ => ?_
    have hopen : Mute (outsideDo (fn target request slot.timeout)) fun x =>
        ∀ e, x = .error e → B.escapes e :=
      fun w => ⟨(fn target request slot.timeout w.outer).1, _, _, rfl, rfl,
        hprovider.stream hfn _ _ _ _⟩
    refine hopen.bind fun x hx => ?_
    cases x with
    | error e => exact (mute_emit rfl).bind fun _ _ => .raise_left (hx e rfl)
    | ok script =>
      refine (mute_emit rfl).bind fun _ _ => ?_
      unfold streamFrom
      split
      · split
        · exact (mute_emit rfl).bind fun _ _ =>
            explains_firstPullFailed hstore request started t₀ target _
        · exact (mute_emit rfl).bind fun _ _ =>
            explains_streamLoop_end hstore request started t₀ target deadline none false [] idx
      · exact (mute_emit rfl).bind fun _ _ =>
          explains_streamLoop_end hstore request started t₀ target deadline script.ending _ _ idx

/-- The records of a buffered stream explain its outcome. -/
lemma explains_bufferedTarget {provider : Provider σ} (hprovider : provider.Within B G.py)
    (target : Target) {request : NormalizedRequest} (hvalid : request.Valid G.py) (started : ℚ)
    (deadline : Option ℚ) (idx : ℕ) :
    Explains B not (G.bufferedTarget provider target request started deadline idx) := by
  refine (mute_attempt_invokeTarget hprovider target hvalid deadline).bind fun x hx => ?_
  cases x with
  | ok resp =>
    refine (silent_reportSuccess _).andThen fun _ => ?_
    exact (saves_capture hstore request started target _ _ none none).yields
      (yields_yieldResponse resp)
  | error e =>
    dsimp only
    split
    · next hterminal =>
      refine (G.silent_reportFailure _).andThen fun _ => ?_
      exact (saves_recordError hstore request started none _ _ _).raise (B.common _ rfl)
        hterminal
    split
    · exact .pure_on rfl
    split
    · exact (G.silent_reportFailure _).andThen fun _ => .pure_on rfl
    · next hterminal _ hretriable =>
      simp only [Bool.or_eq_true, not_or, Bool.not_eq_true] at hretriable
      exact .raise_left (hx e rfl (by simpa using hterminal) hretriable.1)

/-- The end of a chain without an answer. -/
lemma explains_streamAllFailed (request : NormalizedRequest) (started : ℚ) :
    Explains B (fun _ => false) (G.streamAllFailed request started) :=
  (silent_gets _).andThen fun _ =>
    (saves_recordError hstore request started none _ _ _).raise (B.common _ rfl) rfl

/-- **The records of the walk along a chain of streams** explain its outcome. -/
lemma explains_streamWalk (hG : G.Within B) {request : NormalizedRequest}
    (hvalid : request.Valid G.py) (started : ℚ) (deadline : Option ℚ) (idx : ℕ)
    {targets : List Target} (htargets : ∀ t ∈ targets, G.Admits B t) :
    Explains B (fun _ => false) (G.streamWalk request started deadline idx targets) := by
  induction targets generalizing idx with
  | nil => exact explains_streamAllFailed hstore request started
  | cons target rest ih =>
    refine (G.silent_deadlineExceeded target deadline).andThen fun passed => ?_
    cases passed with
    | true => exact explains_streamAllFailed hstore request started
    | false =>
      have htarget := htargets target List.mem_cons_self
      have hrest := fun t ht => htargets t (List.mem_cons_of_mem _ ht)
      simp only [Bool.false_eq_true, if_false]
      split
      · next hnone =>
        exact (saves_recordError hstore request started none _ _ _).raise
          (htarget.of_unregistered hnone) rfl
      next provider hprovider =>
      split
      · next e he =>
        exact (saves_recordError hstore request started none _ _ _).raise
          (htarget.of_unpriced hprovider he) (CostMeter.isTerminal_of_ensurePrice he)
      refine (G.silent_circuitBlocked target).andThen fun blocked => ?_
      cases blocked with
      | true => exact ih (idx + 1) hrest
      | false =>
        have hover (ended : Bool) (hended : (!ended) = false) : ∃ b, (if ended = true then pure ()
            else G.streamWalk request started deadline (idx + 1) rest) = pure b ∧
            false = false := by
          obtain rfl : ended = true := by simpa using hended
          exact ⟨(), rfl, rfl⟩
        have hon (ended : Bool) (hended : (!ended) = true) : Explains B (fun _ => false)
            (if ended = true then pure ()
              else G.streamWalk request started deadline (idx + 1) rest) := by
          obtain rfl : ended = false := by simpa using hended
          exact ih (idx + 1) hrest
        simp only [Bool.false_eq_true, if_false]
        split
        · exact (explains_bufferedTarget hstore (hG _ _ hprovider) target hvalid started _
            idx).bind hon hover
        · next fn hfn =>
          exact (explains_nativeTarget hstore (hG _ _ hprovider) hfn target request started _
            idx).bind hon hover

/-- **Streaming calls**: the records of a call explain its outcome. -/
theorem explains_invokeStream (hG : G.Within B) {request : NormalizedRequest}
    (htakes : G.Takes B request.model) :
    Explains B (fun _ => false) (G.invokeStream request) := by
  have hstart : Mute (σ := σ) (Prog.modify fun w => { w with attempts := [] }) :=
    fun w => ⟨(), _, [], rfl, rfl, trivial⟩
  refine hstart.bind fun _ _ => G.silent_monotonic.andThen fun started => ?_
  refine explains_checkRequest hstore request started fun hvalid => ?_
  refine (explains_checkBudget hstore request started none).bind (fun _ _ => ?_)
    fun _ h => by cases h
  refine explains_resolveTargets hstore htakes started none fun targets htargets => ?_
  exact explains_streamWalk hstore hG hvalid started _ 0 htargets

end Gateway

/-! ## The adapters -/

/-- An exception that is none of the gateway's is mapped to a typed one. -/
lemma isTyped_typedError {e : Exc} (h : e.isGateway = false) : (typedError e).isTyped = true := by
  unfold typedError
  rw [if_neg (by simp [h])]
  split
  · rfl
  · split
    · rfl
    · rfl

variable {py : Runtime}

/-- A response of the SDK is refused, or the arguments of a call cannot be parsed. -/
lemma raises_openaiResponse (hloads : ∀ s, (py.loads s).Raises Exc.IsForeign)
    (resp : SdkResponse) : (openaiResponse py resp).Raises Exc.IsMannered := by
  unfold openaiResponse
  split
  · exact (Except.raises_error _).mpr fun _ => rfl
  next choice _ _ =>
  have hcalls : (choice.toolCalls.mapM (sdkToolUse py)).Raises Exc.IsMannered := by
    refine List.raises_mapM fun tc _ => Except.raises_bind (fun e he => ?_) fun _ _ =>
      Except.raises_pure _
    intro hgateway
    rw [(raises_parseArguments hloads _ e he).not_gateway] at hgateway
    cases hgateway
  refine Except.raises_bind ?_ fun _ _ => Except.raises_pure _
  refine Except.raises_bind ?_ fun _ _ => Except.raises_pure _
  exact Except.raises_bind hcalls fun _ _ => Except.raises_pure _

/-- **The OpenAI adapter** is mannered, if its SDK raises none of the gateway's exceptions. -/
lemma mannered_openAIProvider {client : OpenAIClient σ}
    (hloads : ∀ s, (py.loads s).Raises Exc.IsForeign)
    (hcreate : ∀ kwargs s e, (client.create kwargs s).1 = .error e → e.isGateway = false)
    (hembed : ∀ model inputs timeout s e,
      (client.createEmbeddings model inputs timeout s).1 = .error e → e.isGateway = false) :
    (openAIProvider py client).Mannered py where
  invoke {request} hvalid t timeout s e he := by
    unfold openAIProvider at he
    dsimp only at he
    split at he
    · next e' hkwargs =>
      rw [← Except.error.inj he]
      exact fun _ => isTyped_typedError (raises_chatKwargs t timeout hvalid _ hkwargs).not_gateway
    · split at he
      · next e' s' hcall =>
        rw [← Except.error.inj he]
        exact fun _ => isTyped_typedError (hcreate _ _ e' (congrArg Prod.fst hcall))
      · exact raises_openaiResponse hloads _ e he
  stream {fn} hfn t request timeout s e he := by
    obtain rfl := Option.some.inj hfn
    dsimp only at he
    split at he
    · cases he
    · split at he
      · cases he
      · cases he
  embed {fn} hfn t inputs timeout s e he := by
    obtain rfl := Option.some.inj hfn
    dsimp only at he
    split at he
    · next e' s' hcall =>
      rw [← Except.error.inj he]
      exact fun _ => isTyped_typedError (hembed _ _ _ _ e' (congrArg Prod.fst hcall))
    · cases he

/-- **The Anthropic adapter** is mannered, if its SDK raises none of the gateway's exceptions. -/
lemma mannered_anthropicProvider {client : AnthropicClient σ}
    (hloads : ∀ s, (py.loads s).Raises Exc.IsForeign)
    (hcreate : ∀ kwargs s e, (client.create kwargs s).1 = .error e → e.isGateway = false) :
    (anthropicProvider py client).Mannered py where
  invoke {request} hvalid t timeout s e he := by
    unfold anthropicProvider at he
    dsimp only at he
    split at he
    · next e' hkwargs =>
      rw [← Except.error.inj he]
      exact fun _ =>
        isTyped_typedError (raises_messageKwargs t timeout hvalid hloads _ hkwargs).not_gateway
    · split at he
      · next e' s' hcall =>
        rw [← Except.error.inj he]
        exact fun _ => isTyped_typedError (hcreate _ _ e' (congrArg Prod.fst hcall))
      · cases he
  stream {fn} hfn t request timeout s e he := by
    obtain rfl := Option.some.inj hfn
    dsimp only at he
    split at he
    · cases he
    · split at he
      · cases he
      · cases he
  embed {fn} hfn := by cases hfn

end AgentCtl
