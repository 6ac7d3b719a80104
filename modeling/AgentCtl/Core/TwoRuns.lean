import AgentCtl.Core.EmbeddingRunner
import AgentCtl.Core.InStep

set_option relaxedAutoImplicit false
set_option autoImplicit false

/-!
# Two runs that differ in error texts

A gateway, and the same gateway with providers that do the same but word their exceptions
differently, where redaction does not tell the two texts apart. Started in the same world, the two
run in lockstep: they make the same calls with the same results, and everything they emit is equal
up to such texts. In a saved record the only such texts are those of its attempts.

## Main definitions

* `AgentCtl.Exc.Like`, `Attempt.Like`, `CallRecord.Like`, `Event.Like`, `World.Like` — equality up
  to texts with one redacted image.
* `AgentCtl.ProvidersLike` — providers that differ in such texts only.
* `AgentCtl.Gateway.withProviders` — a gateway with other providers.

## Main results

* `AgentCtl.Gateway.alike_record` — like captures save like records.
* `AgentCtl.Gateway.alike_invoke`, `alike_embed` — the calls in lockstep.
-/

namespace AgentCtl

variable {σ : Type}

/-! ## Texts that redaction does not tell apart -/

section Like

variable (py : Runtime)

/-- Two texts, or none on either side, with one redacted image. -/
def TextLike (m m' : Option Str) : Prop := m.map (redact py) = m'.map (redact py)

/-- Exceptions that differ at most in their text. -/
structure Exc.Like (e e' : Exc) : Prop where
  cls : e.cls = e'.cls
  statusCode : e.statusCode = e'.statusCode
  msg : redact py e.msg = redact py e'.msg

/-- Attempts that differ at most in the text of a provider's exception. -/
structure Attempt.Like (a a' : Attempt) : Prop where
  same : a' = { a with error := a'.error }
  error : TextLike py a.error a'.error
  own : a.outcome.quotesProvider = false → a.error = a'.error

/-- Lists of such attempts. -/
abbrev AttemptsLike : List Attempt → List Attempt → Prop := List.Forall₂ (Attempt.Like py)

/-- Records that differ at most in their attempts. -/
def CallRecord.Like (r r' : CallRecord) : Prop :=
  ∃ as', AttemptsLike py r.attempts as' ∧ r' = { r with attempts := as' }

/-- Captures that differ at most in their attempts and their message. -/
def Captured.Like (c c' : Captured) : Prop :=
  ∃ as' m', AttemptsLike py c.attempts as' ∧ TextLike py c.errorMessage m' ∧
    c' = { c with attempts := as', errorMessage := m' }

/-- Captures of embeddings calls that differ at most in their attempts and their message. -/
def CapturedEmbed.Like (c c' : CapturedEmbed) : Prop :=
  ∃ as' m', AttemptsLike py c.attempts as' ∧ TextLike py c.errorMessage m' ∧
    c' = { c with attempts := as', errorMessage := m' }

/-- Worlds that differ at most in the attempts of the call. -/
def World.Like (w w' : World σ) : Prop :=
  ∃ as', AttemptsLike py w.attempts as' ∧ w' = { w with attempts := as' }

/-- Events of one kind that differ at most in the text of an exception. -/
inductive Event.Like : Event σ → Event σ → Prop
  | same (e) : Event.Like e e
  | call {t slot out out'} :
    OutcomeRel (Exc.Like py) Eq out out' → Event.Like (.call t slot out) (.call t slot out')
  | embedCall {t slot out out'} :
    OutcomeRel (Exc.Like py) Eq out out' →
      Event.Like (.embedCall t slot out) (.embedCall t slot out')
  | streamCall {t slot e e'} :
    Exc.Like py e e' → Event.Like (.streamCall t slot (some e)) (.streamCall t slot (some e'))
  | pull {t first e e'} :
    Exc.Like py e e' → Event.Like (.pull t first (.raised e)) (.pull t first (.raised e'))
  | record {c c'} : Captured.Like py c c' → Event.Like (.record c) (.record c')
  | recordEmbed {c c'} : CapturedEmbed.Like py c c' → Event.Like (.recordEmbed c) (.recordEmbed c')
  | save {r r'} : CallRecord.Like py r r' → Event.Like (.save r) (.save r')

/-- Streams of the same values, whose endings differ at most in the text of an exception. -/
structure StreamScript.Like (s s' : StreamScript) : Prop where
  items : s.items = s'.items
  ending : Option.Rel (Exc.Like py) s.ending s'.ending

/-- Functions of a provider with the same effect, whose outcomes differ at most in the text of an
exception. -/
def AnswersLike {α β γ : Type} (A : γ → γ → Prop) (f g : α → β → ℚ → σ → Except Exc γ × σ) : Prop :=
  ∀ a b timeout s, (f a b timeout s).2 = (g a b timeout s).2 ∧
    OutcomeRel (Exc.Like py) A (f a b timeout s).1 (g a b timeout s).1

/-- Providers that differ at most in the texts of the exceptions they raise. -/
structure Provider.Like (p p' : Provider σ) : Prop where
  invoke : AnswersLike py Eq p.invoke p'.invoke
  stream : Option.Rel (AnswersLike py (StreamScript.Like py)) p.stream p'.stream
  embed : Option.Rel (AnswersLike py Eq) p.embed p'.embed

/-- Providers registered under the same names that differ at most in the texts of the exceptions
they raise. -/
def ProvidersLike (ps ps' : OrderedDict Str (Provider σ)) : Prop :=
  ∀ name, Option.Rel (Provider.Like py) (ps.get? name) (ps'.get? name)

end Like

variable {py : Runtime}

namespace Exc.Like

variable {e e' : Exc}

/-- An exception is like itself. -/
lemma refl (e : Exc) : Exc.Like py e e := ⟨rfl, rfl, rfl⟩

/-- The text as an optional one. -/
lemma text (h : Exc.Like py e e') : TextLike py (some e.msg) (some e'.msg) := congrArg some h.msg

/-- Exceptions made of the two texts. -/
lemma of_msg {m m' : Str} (h : redact py m = redact py m') (cls : ExcClass) :
    Exc.Like py ⟨cls, m, none⟩ ⟨cls, m', none⟩ :=
  ⟨rfl, rfl, h⟩

end Exc.Like

/-- An attempt is like itself. -/
lemma Attempt.Like.refl (a : Attempt) : Attempt.Like py a a := ⟨rfl, rfl, fun _ => rfl⟩

/-- The error of the last attempt. -/
lemma AttemptsLike.lastError {as as' : List Attempt} (h : AttemptsLike py as as') :
    TextLike py (as.getLast?.bind Attempt.error) (as'.getLast?.bind Attempt.error) := by
  have hlast := h.getLast?
  generalize as.getLast? = a at hlast ⊢
  generalize as'.getLast? = a' at hlast ⊢
  cases hlast with
  | none => rfl
  | some h => exact h.error

namespace Gateway

variable (G : Gateway σ)

/-- The gateway with other providers. -/
def withProviders (ps : OrderedDict Str (Provider σ)) : Gateway σ := { G with providers := ps }

/-! ## Records -/

/-- A redacted message does not tell two texts with one image apart. -/
lemma redactMessage_of_like {m m' : Option Str} (h : TextLike G.py m m') :
    G.redactMessage m = G.redactMessage m' := by
  cases m with
  | none =>
    obtain rfl := Option.map_eq_none_iff.mp h.symm
    rfl
  | some t =>
    obtain ⟨t', rfl, ht⟩ := Option.map_eq_some_iff.mp h.symm
    have hnil : t = [] ↔ t' = [] := by
      rw [← redact_eq_nil_iff G.py t, ← ht, redact_eq_nil_iff]
    cases t with
    | nil => rw [hnil.mp rfl]
    | cons c cs =>
      cases t' with
      | nil => exact absurd (hnil.mpr rfl) (List.cons_ne_nil _ _)
      | cons c' cs' => exact congrArg some ht.symm

/-- The redacted error of the last attempt. -/
lemma lastError_of_like {as as' : List Attempt} (h : AttemptsLike G.py as as') :
    G.lastError as = G.lastError as' :=
  h.lastError

/-- The records saved for two captures. -/
lemma callRecord_like (request : NormalizedRequest) (latency : ℤ) {c c' : Captured}
    (h : Captured.Like G.py c c') :
    CallRecord.Like G.py (G.callRecord request latency c) (G.callRecord request latency c') := by
  obtain ⟨as', m', hattempts, hmessage, rfl⟩ := h
  refine ⟨as', hattempts, ?_⟩
  simp only [callRecord, capturedCost, G.redactMessage_of_like hmessage,
    G.lastError_of_like hattempts]

/-- The records saved for two captures of embeddings calls. -/
lemma embedRecord_like (model : Str) (metadata : Metadata) (latency : ℤ) {c c' : CapturedEmbed}
    (h : CapturedEmbed.Like G.py c c') :
    CallRecord.Like G.py (G.embedRecord model metadata latency c)
      (G.embedRecord model metadata latency c') := by
  obtain ⟨as', m', hattempts, hmessage, rfl⟩ := h
  refine ⟨as', hattempts, ?_⟩
  simp only [embedRecord, capturedEmbedCost, G.redactMessage_of_like hmessage,
    G.lastError_of_like hattempts]

end Gateway

/-! ## The inner surface in lockstep -/

/-- What counts as alike: everything but texts with one redacted image. -/
abbrev textLikeness (σ : Type) (py : Runtime) : Likeness σ where
  exc := Exc.Like py
  world := World.Like py
  event := Event.Like py
  text := TextLike py
  key := Eq

/-- Such exceptions have one class, such worlds the same breakers and the same budget. -/
lemma textLikeness_lawful (py : Runtime) : (textLikeness σ py).Lawful where
  exc_refl := Exc.Like.refl
  text_refl _ := rfl
  key_refl _ := rfl
  event_refl := .same
  cls he := he.cls
  msg he := he.text
  retriable he := .of_msg he.msg _
  circuit := by
    rintro w _ ⟨as', -, rfl⟩
    rfl
  budget := by
    rintro w _ ⟨as', -, rfl⟩
    rfl
  withCircuit := by
    rintro w _ cb ⟨as', has, rfl⟩
    exact ⟨as', has, rfl⟩
  withBudget := by
    rintro w _ b ⟨as', has, rfl⟩
    exact ⟨as', has, rfl⟩
  reset := by
    rintro w _ ⟨as', -, rfl⟩
    exact ⟨[], .nil, rfl⟩
  attempt := by
    rintro w _ target outcome latency m m' ht hown ⟨as', has, rfl⟩
    exact ⟨as' ++ [_], List.rel_append has (.cons ⟨rfl, ht, hown⟩ .nil), rfl⟩
  lastError := by
    rintro w _ ⟨as', has, rfl⟩
    exact has.lastError

/-- Programs in lockstep, up to texts with one redacted image. -/
abbrev Alike (py : Runtime) {α β : Type} (A : α → β → Prop) (m : Call σ α) (m' : Call σ β) : Prop :=
  (textLikeness σ py).Run A m m'

/-- Acting on the outside world, with one effect. -/
lemma alike_outsideDo {α β : Type} {A : α → β → Prop} {f : σ → α × σ} {g : σ → β × σ}
    (h : ∀ s, A (f s).1 (g s).1 ∧ (f s).2 = (g s).2) :
    Alike py A (outsideDo f) (outsideDo g) := by
  refine .modifyGet fun w w' hw => ?_
  obtain ⟨as', has, rfl⟩ := hw
  exact ⟨(h w.outer).1, as', has, by simp only [(h w.outer).2]⟩

/-- Acting on the outside world in the same way. -/
lemma alike_outside {α : Type} (f : σ → α × σ) :
    Alike py Eq (outsideDo f) (outsideDo f) :=
  alike_outsideDo fun _ => ⟨rfl, rfl⟩

/-- Reading a part of the world that holds no text. -/
lemma alike_gets {α : Type} {f : World σ → α}
    (h : ∀ w as', f { w with attempts := as' } = f w) :
    Alike py Eq (Prog.gets f) (Prog.gets f) := by
  refine .gets fun w w' hw => ?_
  obtain ⟨as', -, rfl⟩ := hw
  exact (h w as').symm

/-- Changing a part of the world that holds no text. -/
lemma alike_modify {f : World σ → World σ} (hattempts : ∀ w, (f w).attempts = w.attempts)
    (h : ∀ w as', f { w with attempts := as' } = { f w with attempts := as' }) :
    Alike py Eq (Prog.modify f) (Prog.modify f) := by
  refine .modify fun w w' hw => ?_
  obtain ⟨as', has, rfl⟩ := hw
  exact ⟨as', by rwa [hattempts], h w as'⟩

/-- Emitting the same event. -/
lemma alike_emit (e : Event σ) : Alike py Eq (Prog.emit e) (Prog.emit e) := .emit (.same e)

/-- The attempts made so far. -/
lemma alike_attempts : Alike (σ := σ) py (AttemptsLike py) (Prog.gets World.attempts)
    (Prog.gets World.attempts) := by
  refine .gets fun w w' hw => ?_
  obtain ⟨as', has, rfl⟩ := hw
  exact has

namespace Gateway

variable (G : Gateway σ)

/-- A gateway and the one with other providers: one configuration, one clock. -/
lemma inStep (ps : OrderedDict Str (Provider σ)) :
    InStep (textLikeness σ G.py) G (G.withProviders ps) where
  lawful := textLikeness_lawful G.py
  py := rfl
  router := rfl
  costMeter := rfl
  retry := rfl
  monotonic := alike_outside _
  uniform _ _ := alike_outside _
  sleep _ := .bind_eq (alike_gets fun _ _ => rfl) fun _ =>
    .bind_eq (alike_emit _) fun _ => alike_outside _

/-! ## Captures in lockstep -/

/-- Both sides charge the same cost, and save like records. -/
lemma alike_meterAndPersist (consumer : Str) (cost : Option ℚ) {r r' : CallRecord}
    (h : CallRecord.Like py r r') :
    Alike py Eq (G.meterAndPersist consumer cost r) (G.meterAndPersist consumer cost r') := by
  refine .bind_eq (alike_modify (fun _ => rfl) fun _ _ => rfl) fun _ => ?_
  split
  · exact .emit (.save h)
  · exact .pure rfl

/-- **Captures in lockstep**: like captures save like records. -/
lemma alike_record (request : NormalizedRequest) (started : ℚ) {c c' : Captured}
    (h : Captured.Like G.py c c') :
    Alike G.py Eq (G.record request started c) (G.record request started c') := by
  have hcost : G.capturedCost c' = G.capturedCost c := by
    obtain ⟨as', m', -, -, rfl⟩ := h
    rfl
  refine .bind_eq (.emit (.record h)) fun _ => ?_
  refine .bind_eq ((G.inStep G.providers).latencySince started) fun latency => ?_
  rw [hcost]
  exact G.alike_meterAndPersist _ _ (G.callRecord_like request latency h)

/-- Captures of embeddings calls in lockstep. -/
lemma alike_recordEmbed (model : Str) (metadata : Metadata) (started : ℚ) {c c' : CapturedEmbed}
    (h : CapturedEmbed.Like G.py c c') :
    Alike G.py Eq (G.recordEmbed model metadata started c)
      (G.recordEmbed model metadata started c') := by
  have hcost : G.capturedEmbedCost c' = G.capturedEmbedCost c := by
    obtain ⟨as', m', -, -, rfl⟩ := h
    rfl
  refine .bind_eq (.emit (.recordEmbed h)) fun _ =>
    .bind_eq ((G.inStep G.providers).latencySince started) fun latency => ?_
  rw [hcost]
  exact G.alike_meterAndPersist _ _ (G.embedRecord_like model metadata latency h)

/-- Recording a failed call, with like messages. -/
lemma alike_recordError (request : NormalizedRequest) (started : ℚ) (key : Option Str)
    (errorType : ErrorType) {message message' : Option Str} (resolved : Option Str)
    (h : TextLike G.py message message') :
    Alike G.py Eq (G.recordError request started key errorType message resolved)
      (G.recordError request started key errorType message' resolved) :=
  .bind alike_attempts fun _ as' has => G.alike_record request started ⟨as', message', has, h, rfl⟩

/-- The caches of the two runs are the same. -/
lemma alike_cacheGet (key : Option Str) : Alike py Eq (G.cacheGet key) (G.cacheGet key) := by
  unfold cacheGet
  split
  · refine .bind_eq (alike_outside _) fun r => ?_
    cases r <;> exact .pure rfl
  · exact .pure rfl

/-- Both sides cache the same response. -/
lemma alike_cacheSet (key : Option Str) (resp : NormalizedResponse) :
    Alike py Eq (G.cacheSet key resp) (G.cacheSet key resp) := by
  unfold cacheSet
  split
  · exact .bind_eq (alike_outside _) fun _ => .pure rfl
  · exact .pure rfl

/-! ## Chat calls in lockstep -/

variable {ps : OrderedDict Str (Provider σ)}

/-- Both sides capture alike. -/
lemma capturesInStep : CapturesInStep (textLikeness σ G.py) G (G.withProviders ps) where
  recordError request started key _ errorType _ _ resolved hkey hm := by
    obtain rfl := hkey
    exact G.alike_recordError request started key errorType resolved hm
  recordAnswer request started key _ target resp idx hkey := by
    obtain rfl := hkey
    exact .bind alike_attempts fun _ as' has =>
      G.alike_record request started ⟨as', none, has, rfl, rfl⟩
  cacheSet resp hkey := by
    obtain rfl := hkey
    exact G.alike_cacheSet _ resp

/-- Like providers answer alike. -/
lemma answersInStep {p p' : Provider σ} (h : AnswersLike py Eq p.invoke p'.invoke) :
    AnswersInStep (textLikeness σ py) p p' := by
  intro target request slot
  refine .bind (alike_outsideDo fun s => ⟨(h _ _ _ s).2, (h _ _ _ s).1⟩) fun out out' hout => ?_
  exact .bind_eq (.emit (.call hout)) fun _ => .pure hout

/-- The providers of the two sides answer alike. -/
lemma providersInStep (hps : ProvidersLike G.py G.providers ps) :
    ProvidersInStep (textLikeness σ G.py) G (G.withProviders ps) := by
  intro name
  have h := hps name
  unfold withProviders
  generalize G.providers.get? name = x at h ⊢
  generalize ps.get? name = x' at h ⊢
  cases h with
  | none => exact .none
  | some hp => exact .some (answersInStep hp.invoke)

/-- A call whose cache key is known. -/
lemma alike_invokeKeyed (hps : ProvidersLike G.py G.providers ps) (request : NormalizedRequest)
    (started : ℚ) (key : Option Str) :
    Alike G.py Eq (G.invokeKeyed request started key)
      ((G.withProviders ps).invokeKeyed request started key) := by
  refine .bind_eq (G.alike_cacheGet key) fun cached => ?_
  cases cached with
  | some resp =>
    exact .bind_eq (G.alike_record request started ⟨[], none, .nil, rfl, rfl⟩) fun _ => .pure rfl
  | none =>
    exact (G.inStep ps).afterMiss G.capturesInStep (G.providersInStep hps) request started rfl _

/-- **Chat calls in lockstep.** -/
theorem alike_invoke (hps : ProvidersLike G.py G.providers ps) (request : NormalizedRequest) :
    Alike G.py Eq (G.invoke request) ((G.withProviders ps).invoke request) :=
  .bind_eq (G.inStep ps).lawful.resetAttempts fun _ =>
    .bind_eq (G.inStep ps).monotonic fun started =>
      .bind_eq ((G.inStep ps).checkRequest G.capturesInStep request started) fun _ =>
        .bind_eq (.ofExcept (.refl Exc.Like.refl _)) fun key =>
          G.alike_invokeKeyed hps request started key

/-! ## Embedding calls in lockstep -/

/-- Recording a failed embeddings call, with like messages. -/
lemma alike_recordEmbedError (model : Str) (metadata : Metadata) (started : ℚ)
    (errorType : ErrorType) {message message' : Option Str} (resolved : Option Str)
    (h : TextLike G.py message message') :
    Alike G.py Eq (G.recordEmbedError model metadata started errorType message resolved)
      (G.recordEmbedError model metadata started errorType message' resolved) :=
  .bind alike_attempts fun _ as' has =>
    G.alike_recordEmbed model metadata started ⟨as', message', has, h, rfl⟩

/-- The end of an embeddings chain without an answer. -/
lemma alike_embedAllFailed (model : Str) (metadata : Metadata) (started : ℚ) :
    Alike G.py Eq (G.embedAllFailed model metadata started)
      (G.embedAllFailed model metadata started) :=
  .bind alike_attempts fun _ _ has =>
    .bind_eq (G.alike_recordEmbedError model metadata started .allFailed none has.lastError)
      fun _ => .raise (.refl _)

/-- **A single target of `embed` in lockstep.** -/
lemma alike_embedTarget {fn fn' : Target → List Str → ℚ → σ → Except Exc EmbeddingResponse × σ}
    (hfn : AnswersLike G.py Eq fn fn') (target : Target) (model : Str) (inputs : List Str)
    (metadata : Metadata) (started : ℚ) (slot : TimeoutSlot) (idx : ℕ) :
    Alike G.py Eq (G.embedTarget fn target model inputs metadata started slot idx)
      (G.embedTarget fn' target model inputs metadata started slot idx) := by
  have h := G.inStep G.providers
  refine .bind_eq h.monotonic fun t => ?_
  refine .bind (A := OutcomeRel (Exc.Like G.py) Eq) ?_ fun out out' hout => ?_
  · refine .bind (alike_outsideDo fun s => ⟨(hfn _ _ _ s).2, (hfn _ _ _ s).1⟩)
      fun out out' hout => ?_
    exact .bind_eq (.emit (.embedCall hout)) fun _ => .pure hout
  cases hout with
  | ok heq =>
    obtain rfl := heq
    refine .bind_eq (h.lawful.reportSuccess _) fun _ =>
      .bind_eq (h.recordAttempt target t rfl fun _ => rfl) fun _ =>
      .bind alike_attempts fun _ as' has => ?_
    exact .bind_eq (G.alike_recordEmbed model metadata started ⟨as', none, has, rfl, rfl⟩)
      fun _ => .pure rfl
  | error he =>
    dsimp only
    rw [← h.lawful.isTerminal he, ← h.lawful.isRetriable he, ← h.lawful.isTimeout he]
    split
    · exact .bind_eq (h.reportFailure _) fun _ =>
        .bind_eq (h.recordAttempt target t he.text fun hown => by cases hown) fun _ =>
        .bind_eq (G.alike_recordEmbedError model metadata started .terminal _ he.text)
        fun _ => .raise he
    · split
      · exact .bind_eq (h.reportFailure _) fun _ =>
          .bind_eq (h.recordAttempt target t he.text fun hown => by cases hown)
          fun _ => .pure rfl
      · exact .raise he

/-- The loop of `embed` over the targets. -/
lemma alike_embedWalk (hps : ProvidersLike G.py G.providers ps) (model : Str) (inputs : List Str)
    (metadata : Metadata) (started : ℚ) (deadline : Option ℚ) (targets : List Target) (idx : ℕ) :
    Alike G.py Eq (G.embedWalk model inputs metadata started deadline idx targets)
      ((G.withProviders ps).embedWalk model inputs metadata started deadline idx targets) := by
  have h := G.inStep ps
  induction targets generalizing idx with
  | nil => exact G.alike_embedAllFailed model metadata started
  | cons target rest ih =>
    refine .bind_eq (h.deadlineExceeded target deadline) fun passed => ?_
    cases passed with
    | true => exact G.alike_embedAllFailed model metadata started
    | false =>
      have hprovider := hps target.provider
      simp only [Bool.false_eq_true, if_false, withProviders]
      generalize G.providers.get? target.provider = x at hprovider ⊢
      generalize ps.get? target.provider = x' at hprovider ⊢
      cases hprovider with
      | none =>
        exact .bind_eq (G.alike_recordEmbedError model metadata started .provider _ rfl) fun _ =>
          .raise (.refl _)
      | @some p p' hp =>
        have hembed := hp.embed
        dsimp only
        generalize p.embed = f at hembed ⊢
        generalize p'.embed = f' at hembed ⊢
        cases hembed with
        | none => exact .bind_eq (h.lawful.recordGuard target _ _) fun _ => ih (idx + 1)
        | some hf =>
          dsimp only
          split
          · exact .bind_eq (G.alike_recordEmbedError model metadata started .pricing _ rfl)
              fun _ => .raise (.refl _)
          · refine .bind_eq (h.circuitBlocked target) fun blocked => ?_
            cases blocked with
            | true => exact ih (idx + 1)
            | false =>
              refine .bind_eq (h.timeoutWithin deadline) fun slot => ?_
              cases slot with
              | none =>
                exact .bind_eq (h.lawful.recordGuard target _ _) fun _ =>
                  G.alike_embedAllFailed model metadata started
              | some slot =>
                refine .bind_eq
                  (G.alike_embedTarget hf target model inputs metadata started slot idx) fun r => ?_
                cases r with
                | some resp => exact .pure rfl
                | none => exact ih (idx + 1)

/-- **Embedding calls in lockstep.** -/
theorem alike_embed (hps : ProvidersLike G.py G.providers ps) (model : Str) (inputs : List Str)
    (metadata : Metadata) :
    Alike G.py Eq (G.embed model inputs metadata)
      ((G.withProviders ps).embed model inputs metadata) := by
  have h := G.inStep ps
  refine .bind_eq h.lawful.resetAttempts fun _ => .bind_eq h.monotonic fun started => ?_
  refine .bind (.attempt (h.budgetCheck _)) fun r r' hr => ?_
  cases hr with
  | error he =>
    exact .bind_eq (G.alike_recordEmbedError model metadata started .budget none he.text)
      fun _ => .raise he
  | ok =>
    simp only [withProviders]
    split
    · exact .bind_eq (G.alike_recordEmbedError model metadata started .routing none rfl)
        fun _ => .raise (.refl _)
    · exact G.alike_embedWalk hps model inputs metadata started _ _ 0

end Gateway

end AgentCtl
