import AgentCtl.Core.Outcomes
import AgentCtl.Server.Ledger

set_option relaxedAutoImplicit false
set_option autoImplicit false

/-!
# Failures that clients are told

A server with a store leaves a trace of every failure in two places: in the reply to the client, and
in the records that `agent-ctl captures` shows. They agree in every run in which no two calls of the
gateway, each with its reply, overlap, whatever requests arrive: the failures that clients are told,
in their order, are those of the records, in theirs. (Calls that overlap may save their records in
one order and answer in another one.)

## Main definitions

* `AgentCtl.HttpReply.failure?` — the failure of the gateway that a client is told.
* `AgentCtl.CallRecord.failure?` — the failure that a record stands for.

## Main results

* `AgentCtl.failures_told_and_recorded` — the two are the same.
-/

namespace AgentCtl

open Prog

variable {σ : Type}

/-! ## Failures -/

/-- The types of the errors that a failed call of the gateway is answered with. -/
def gatewayFailures : List Str :=
  ["terminal_error", "budget_exceeded", "upstream_error", "gateway_error"]

/-- The type that the body of an error reply states. -/
def statedType (body : Dict) : Option Str :=
  match Dict.get body "error" with
  | .obj d =>
    match Dict.get d "type" with
    | .str t => some t
    | _ => none
  | _ => none

/-- The failure that an error reply states. -/
def Reply.stated? : Reply → Option Str
  | error _ body => (statedType body).filter gatewayFailures.elem
  | _ => none

/-- The failure that an exception of the gateway stands for. -/
def Exc.failure? (e : Exc) : Option Str :=
  if e.isGateway then (gatewayErrorReply e).stated? else none

/-- The failure that a client is told: an error reply, or a stream that breaks off. -/
def Reply.failure? : Reply → Option Str
  | events _ broken => broken.bind Exc.failure?
  | r => r.stated?

/-- The failure of the gateway that a client is told. -/
def HttpReply.failure? : HttpReply → Option Str
  | reply r => r.failure?
  | _ => none

/-- The failure that an error type stands for; a stream cut short is none. -/
def ErrorType.failure? : ErrorType → Option Str
  | validation | pricing | terminal => some "terminal_error"
  | budget => some "budget_exceeded"
  | allFailed => some "upstream_error"
  | routing | provider | stream => some "gateway_error"
  | deadline | clientAbort => none

/-- The failure that a record stands for. -/
def CallRecord.failure? (r : CallRecord) : Option Str := r.errorType.bind ErrorType.failure?

/-- The failure of a refusal. -/
lemma Exc.failure?_of_isTerminal {e : Exc} (h : e.isTerminal = true) :
    e.failure? = some "terminal_error" := by
  rcases e with ⟨cls, msg, status⟩
  cases cls with
  | terminalError | unknownPriceError => rfl
  | _ => cases h

/-- **An error type stands for the failure of its exception.** -/
lemma ErrorType.Raises.failure?_eq {k : ErrorType} {e : Exc} (h : k.Raises e) :
    k.failure? = e.failure? := by
  rcases e with ⟨cls, msg, status⟩
  cases k with
  | validation | pricing | terminal => exact (Exc.failure?_of_isTerminal h).symm
  | budget | allFailed | routing | provider | stream =>
    obtain rfl : cls = _ := h
    rfl
  | deadline | clientAbort => cases h

/-- A record of a call that was neither refused nor failed stands for no failure. -/
lemma CallRecord.Mild.failure? {r : CallRecord} (h : r.Mild) : r.failure? = none := by
  unfold CallRecord.failure?
  rcases h with h | h | h
  · rw [h]
    rfl
  · rw [h]
    rfl
  · rw [h]
    rfl

/-- **The failures of a call** are that of its exception. -/
lemma Explained.failures {α : Type} {r : Except Exc α} {rs : List CallRecord}
    (h : Explained .mannered (fun _ => false) r rs) :
    rs.filterMap CallRecord.failure? = ((raisedBy r).bind Exc.failure?).toList := by
  cases h with
  | on h => cases h
  | returned _ hr =>
    rw [List.filterMap_cons_none hr.failure?]
    rfl
  | @failed e r k _ hr he =>
    have hfailure : r.failure? = e.failure? := by
      rw [CallRecord.failure?, hr]
      exact he.failure?_eq
    change _ = e.failure?.toList
    rw [← hfailure, filterMap_cons_toList, List.filterMap_nil, List.append_nil]
  | @left e rs he hrs =>
    have hfailure : e.failure? = none := by
      rw [Exc.failure?, he]
      rfl
    change _ = e.failure?.toList
    rw [hfailure, List.filterMap_eq_nil_iff.mpr fun r hr => (hrs r hr).failure?]
    rfl

/-! ## Handlers -/

/-- What a handler replies tells of the failures that are recorded. -/
def ToldAsRecorded (r : Except Exc Reply) (rs : List CallRecord) : Prop :=
  rs.filterMap CallRecord.failure? = (HttpServer.replyOf r).failure?.toList

namespace Server

variable {S : Server σ}

/-- A reply that is no failure of the gateway, without a record. -/
lemma says_pure {r : Reply} (h : r.failure? = none) :
    Says ToldAsRecorded (pure r : Call σ Reply) := by
  intro w
  change [] = (r.failure?).toList
  rw [h]
  rfl

/-- An exception that escapes, without a record. -/
lemma says_raise (e : Exc) : Says ToldAsRecorded (Prog.raise e : Call σ Reply) := fun _ => rfl

/-- What becomes of an exception is told. -/
lemma failure?_orErrorReply (e : Exc) (w : World σ) : ∃ r,
    (orErrorReply e).run w = (r, w, []) ∧ (HttpServer.replyOf r).failure? = e.failure? := by
  unfold orErrorReply
  cases he : e.isGateway with
  | true =>
    refine ⟨_, rfl, ?_⟩
    rw [Exc.failure?, if_pos he]
    unfold gatewayErrorReply
    split
    · rfl
    split
    · rfl
    split
    · rfl
    · rfl
  | false =>
    refine ⟨.error e, rfl, ?_⟩
    rw [Exc.failure?, he]
    rfl

/-- **The answer of a request**: a call of the gateway, whose exception becomes a reply. -/
lemma says_attempt {α : Type} {m : Call σ α} (hm : Explains .mannered (fun _ => false) m)
    {f : Except Exc α → Call σ Reply} (herror : ∀ e, f (.error e) = orErrorReply e)
    (hok : ∀ a w, ∃ r, (f (.ok a)).run w = (r, w, []) ∧ (HttpServer.replyOf r).failure? = none) :
    Says ToldAsRecorded (attempt m >>= f) := by
  intro w
  refine .bind (hm w).attempt ?_ ?_
  · rintro x w₁ es ⟨y, hy, hexplained⟩
    obtain rfl := Except.ok.inj hy
    have hfailures := hexplained.failures
    cases x with
    | ok a =>
      obtain ⟨r, hrun, hr⟩ := hok a w₁
      refine .of_run hrun ?_
      unfold ToldAsRecorded
      rw [List.append_nil, hfailures, hr]
      rfl
    | error e =>
      obtain ⟨r, hrun, hr⟩ := failure?_orErrorReply e w₁
      rw [herror]
      refine .of_run hrun ?_
      unfold ToldAsRecorded
      rw [List.append_nil, hfailures, hr]
      rfl
  · rintro e w₁ es ⟨y, hy, -⟩
    cases hy

/-- **The answer as a stream**: an exception becomes a reply, or breaks the stream off. -/
lemma says_answerStream {request : NormalizedRequest}
    (hm : Explains .mannered (fun _ => false) (S.gateway.invokeStream request))
    (head : AnswerHead) :
    Says ToldAsRecorded (S.answerStream request head) := by
  intro w
  have hlisten : Prog.Sat (listen (S.gateway.invokeStream request)) w fun r _ es =>
      ∃ x, r = .ok (x, es) ∧ Explained .mannered (fun _ => false) x (savesOf es) := ⟨_, rfl, hm w⟩
  refine .bind hlisten ?_ ?_
  · rintro a w₁ es ⟨x, ha, hexplained⟩
    obtain rfl := Except.ok.inj ha
    have hfailures := hexplained.failures
    cases x with
    | ok u =>
      refine .of_run (run_pure _ _) ?_
      unfold ToldAsRecorded
      rw [List.append_nil, hfailures]
      rfl
    | error e =>
      cases hchunks : deliveredOf es with
      | nil =>
        obtain ⟨r, hrun, hr⟩ := failure?_orErrorReply e w₁
        simp only
        refine .of_run hrun ?_
        unfold ToldAsRecorded
        rw [List.append_nil, hfailures, hr]
        rfl
      | cons c cs =>
        simp only
        refine .of_run (run_pure _ _) ?_
        unfold ToldAsRecorded
        rw [List.append_nil, hfailures]
        rfl
  · rintro e w₁ es ⟨x, hx, -⟩
    cases hx

variable (hstore : S.gateway.hasStore = true) (hG : S.gateway.Mannered)

include hstore hG

/-- **The chat handler.** -/
lemma says_chatCompletions (id : Str) (created body : Json) :
    Says ToldAsRecorded (S.chatCompletions id created body) := by
  unfold chatCompletions
  split
  case h_2 => exact says_pure rfl
  split
  case h_2 => exact says_pure rfl
  split
  · exact says_pure rfl
  split
  · exact says_pure rfl
  split
  · split
    · exact says_pure rfl
    · exact says_raise _
  next request _ =>
  split
  · exact says_answerStream (Gateway.explains_invokeStream hstore hG.within
      (S.gateway.takes_mannered request.model)) _
  · refine says_attempt (Gateway.explains_invoke hstore hG.within
      (S.gateway.takes_mannered request.model)) (fun _ => rfl) fun resp w => ?_
    dsimp only
    generalize toOpenaiResponse resp _ = body
    cases body with
    | ok body => exact ⟨.ok (.json body), rfl, rfl⟩
    | error e => exact ⟨.error e, rfl, rfl⟩

/-- **The embeddings handler.** -/
lemma says_embeddings (body : Json) : Says ToldAsRecorded (S.embeddings body) := by
  unfold embeddings
  split
  case h_2 => exact says_pure rfl
  split
  case h_2 => exact says_pure rfl
  split
  · exact says_pure rfl
  split
  · exact says_pure rfl
  split
  · exact says_pure rfl
  · exact says_pure rfl
  · exact says_attempt (Gateway.explains_embed hstore hG.within
      (S.gateway.takes_mannered _) _ _) (fun _ => rfl)
      fun resp w => ⟨.ok (.json (toOpenaiEmbeddings resp _)), rfl, rfl⟩

end Server

/-! ## Runs of the server -/

namespace HttpServer

variable {S : HttpServer σ}

/-- The records of one more call. -/
lemma savedBy_concat (w : World σ) (xs : List Served) (x : Served) :
    S.savedBy w (xs ++ [x]) = S.savedBy w xs ++ savesOf (S.runServed (S.replay w xs) x).2.2 := by
  induction xs generalizing w with
  | nil => exact List.append_nil _
  | cons y ys ih =>
    rw [List.cons_append, savedBy, savedBy, ih, List.append_assoc]
    rfl

/-- The body for a request without the token. -/
lemma of_authError {request : HttpRequest} {body : Dict}
    (h : S.authError request = .ok (some body)) :
    body = errorBody "missing or invalid bearer token" "unauthorized" := by
  unfold authError at h
  obtain ⟨path, -, h⟩ := Except.bind_eq_ok.mp h
  split at h
  · cases Except.ok.inj h
  split at h
  · cases Except.ok.inj h
  · cases Except.ok.inj h
  obtain ⟨actual, -, h⟩ := Except.bind_eq_ok.mp h
  obtain ⟨expected, -, h⟩ := Except.bind_eq_ok.mp h
  split at h
  · cases Except.ok.inj h
  · exact (Option.some.inj (Except.ok.inj h)).symm

/-- What the middleware refuses is no failure of the gateway. -/
lemma failure?_of_safetyMiddleware {request : HttpRequest} {limits : Limits} {now : ℚ} {r : Reply}
    (h : (S.safetyMiddleware limits request now).1 = .refused r) : r.failure? = none := by
  unfold safetyMiddleware at h
  split at h
  · split at h
    · obtain rfl := Verdict.refused.inj h
      rfl
    · cases h
  split at h
  · obtain rfl := Verdict.refused.inj h
    rfl
  split at h
  · cases h
  · next body hbody =>
    rw [of_authError hbody] at h
    dsimp only at h
    split at h
    · obtain rfl := Verdict.refused.inj h
      rfl
    · obtain rfl := Verdict.refused.inj h
      rfl
  split at h
  · cases h
  · dsimp only at h
    split at h
    · obtain rfl := Verdict.refused.inj h
      rfl
    · cases h

/-- A reply that is sent before a handler runs is no failure of the gateway. -/
lemma failure?_of_outset {request : HttpRequest} {limits : Limits} {now : ℚ} {r : HttpReply}
    (h : S.outset request (S.safetyMiddleware limits request now).1 = .inl r) :
    r.failure? = none := by
  cases hverdict : (S.safetyMiddleware limits request now).1 with
  | refused r' =>
    rw [hverdict] at h
    obtain rfl := Sum.inl.inj h
    exact failure?_of_safetyMiddleware hverdict
  | raised e =>
    rw [hverdict] at h
    obtain rfl := Sum.inl.inj h
    rfl
  | passed =>
    rw [hverdict] at h
    unfold outset at h
    dsimp only at h
    split at h
    · obtain rfl := Sum.inl.inj h
      rfl
    · obtain rfl := Sum.inl.inj h
      rfl
    · obtain rfl := Sum.inl.inj h
      rfl
    · cases h
    · cases h
    · obtain rfl := Sum.inl.inj h
      rfl

/-- The refusal of a body is no failure of the gateway. -/
lemma failure?_of_parseOutcome {buffer : Bytes} {r : HttpReply}
    (h : S.parseOutcome buffer = .inl r) : r.failure? = none := by
  unfold parseOutcome parseBody at h
  split at h
  · obtain rfl := Sum.inl.inj h
    rfl
  · next r' hparse =>
    obtain rfl := Sum.inl.inj h
    split at hparse
    · cases hparse
    · split at hparse
      · obtain rfl := Except.error.inj (Except.ok.inj hparse)
        rfl
      · cases hparse
  · cases h

end HttpServer

/-- **Failures are told and recorded.** Whatever requests a server with a store gets, in runs in
which no two of its gateway calls, each with its reply, overlap, if its providers raise none of the
gateway's exceptions but those of their contract: the failures of the gateway that clients have been
told, by an error reply or by a stream that breaks off, are those of the records saved so far, of
the same types in the same order. -/
theorem failures_told_and_recorded {S : HttpServer σ} (hstore : S.gateway.hasStore = true)
    (hmannered : S.gateway.Mannered) {w : World σ} {ms : List HttpMove} {h : Hub σ}
    (hrun : S.run { world := w } ms = some h) :
    (h.answered.filterMap fun a => a.2.failure?) =
      (S.savedBy w h.served).filterMap CallRecord.failure? := by
  refine PartialRun.historyInvariant (I := fun _ h =>
    (h.answered.filterMap fun a => a.2.failure?) =
      (S.savedBy w h.served).filterMap CallRecord.failure?) rfl ?_ hrun
  intro ms h m h' hprefix hsame hstep
  have hanswer {r : HttpReply} {id : ℕ} (hr : r.failure? = none) :
      ((h.answered ++ [(id, r)]).filterMap fun a => a.2.failure?) =
        (S.savedBy w h.served).filterMap CallRecord.failure? := by
    rw [List.filterMap_append, hsame, filterMap_cons_toList, hr, List.filterMap_nil]
    exact List.append_nil _
  cases HttpServer.httpStep_of_step hstep with
  | answered hid hr => exact hanswer (HttpServer.failure?_of_outset hr)
  | opened | read | parsed | gone => exact hsame
  | overrun => exact hanswer rfl
  | unparsed hget hparse => exact hanswer (HttpServer.failure?_of_parseOutcome hparse)
  | @called id answerId patience bytes body created request endpoint x hget hx =>
    have hworld := HttpServer.world_run hprefix
    have htold :
        ToldAsRecorded (S.runServed h.world x).1 (savesOf (S.runServed h.world x).2.2) := by
      unfold HttpServer.runServed HttpServer.handle
      cases x.endpoint with
      | chatCompletions => exact Server.says_chatCompletions hstore hmannered _ _ _ _
      | embeddings => exact Server.says_embeddings hstore hmannered _ _
    change ((h.answered ++ [(id, _)]).filterMap fun a : ℕ × HttpReply => a.2.failure?) =
      (S.savedBy w (h.served ++ [x])).filterMap CallRecord.failure?
    rw [HttpServer.savedBy_concat, ← hworld, List.filterMap_append, List.filterMap_append, hsame,
      htold, filterMap_cons_toList, List.filterMap_nil, List.append_nil]

/-! ## One failure -/

/-- A backend that knows no model. -/
def absentModelClient : OpenAIClient Scripted where
  create _ s := (.error ⟨.other "NotFoundError", "no such model", some 404⟩, s)
  createStream _ s := (.error ⟨.other "NotFoundError", "no such model", some 404⟩, s)
  createEmbeddings _ _ _ s := (.error ⟨.other "NotFoundError", "no such model", some 404⟩, s)

/-- The adapter in front of it. -/
def absentModelProvider : Provider Scripted :=
  openAIProvider (readsOne listedBody) absentModelClient

/-- A server over this backend. -/
def absentModelServer : HttpServer Scripted :=
  { tokenServer with
    gateway := { tokenServer.gateway with
      providers := [("p", absentModelProvider), ("q", absentModelProvider)] } }

/-- Its providers keep their contract. -/
lemma mannered_absentModelServer : absentModelServer.gateway.Mannered := by
  have hprovider : absentModelProvider.Mannered (readsOne listedBody) := by
    refine mannered_openAIProvider (fun s => ?_) (fun _ _ e he => ?_) fun _ _ _ _ e he => ?_
    · unfold readsOne
      dsimp only
      split
      · exact Except.raises_ok _
      · exact (Except.raises_error _).mpr ⟨rfl, rfl, rfl⟩
    · rw [← Except.error.inj he]
      rfl
    · rw [← Except.error.inj he]
      rfl
  intro name provider hget
  have hmem : (name, provider) ∈ absentModelServer.gateway.providers := OrderedDict.mem_of_get? hget
  rcases List.mem_cons.mp hmem with hp | hq
  · obtain rfl : provider = absentModelProvider := congrArg Prod.snd hp
    exact hprovider
  · obtain rfl : provider = absentModelProvider := congrArg Prod.snd (List.mem_singleton.mp hq)
    exact hprovider

/-- Of three replies that are no success one is a failure of the gateway, and it is recorded. -/
theorem failures_told_and_recorded_threeRequests :
    ∃ h, absentModelServer.run { world := { outer := {} } } threeRequests = some h ∧
      h.answered.length = 3 ∧
      (h.answered.filterMap fun a => a.2.failure?) = ["terminal_error"] := by
  have hrecorded : (absentModelServer.run { world := { outer := {} } } threeRequests).map (fun h =>
      (h.answered.length,
        (absentModelServer.savedBy { outer := {} } h.served).filterMap CallRecord.failure?)) =
      some (3, [Str.ofString "terminal_error"]) := by decide +kernel
  obtain ⟨h, hrun, hrecorded⟩ := Option.map_eq_some_iff.mp hrecorded
  obtain ⟨hlength, hfailures⟩ := Prod.mk.inj hrecorded
  exact ⟨h, hrun, hlength,
    (failures_told_and_recorded rfl mannered_absentModelServer hrun).trans hfailures⟩

end AgentCtl
