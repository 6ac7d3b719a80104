import AgentCtl.Core.RunnerFrames
import AgentCtl.Core.Scripted
import AgentCtl.Server.Handlers

set_option relaxedAutoImplicit false
set_option autoImplicit false

/-!
# Cost governance over HTTP

A server that refuses direct `provider/model` names, lists the names of its routes and aliases, and
prices with `fail_unknown`, calls listed and priced targets only. The answers it records have a cost
as long as floats reach as far as their token counts: `CostMeter.cost` divides the counts by a
million, and `_safe_cost` swallows the `OverflowError` of a count of more than three hundred digits,
by its design to let no capture break a call. The routing and the pricing of a call decide which
targets it may reach; the rest is a law about the events of the runners.

## Main definitions

* `Router.Lists` — the targets listed under a name.
* `AgentCtl.CountsInRange` — the token counts that a cost can be computed of.
* `AgentCtl.Governed` — the law about events.
* `AgentCtl.Server.Governs` — a server that is set up as above.

## Main results

* `AgentCtl.chat_and_embeddings_governed` — it holds of both handlers.
* `AgentCtl.hugeAnswer_has_no_cost` — an answer that is recorded without a cost.
-/

namespace AgentCtl

open Prog

variable {σ : Type}

/-- The targets listed under a name in the routes, or in the aliases. -/
def Router.Lists (r : Router) (model : Str) (t : Target) : Prop :=
  (∃ targets, r.routes.get? model = some targets ∧ t ∈ targets) ∨ r.aliases.get? model = some t

/-- The targets that a call for a model may reach: listed under its name, and priced. -/
def Gateway.MayReach (G : Gateway σ) (model : Str) (t : Target) : Prop :=
  G.router.Lists model t ∧ (G.costMeter.priceFor t.name).isSome

/-- The token counts whose millionths are in the range of floats. -/
def CountsInRange (inputTokens outputTokens : ℤ) : Prop :=
  millionthOverflows inputTokens = false ∧ millionthOverflows outputTokens = false

/-- Providers are called for targets that may be reached, and a record of an answer that is not from
the cache has a cost exactly if its token counts are in range. -/
def Governed (G : Gateway σ) (model : Str) : Event σ → Prop
  | .call t .. | .embedCall t .. | .streamCall t .. => G.MayReach model t
  | .record c => c.status.isSuccess = true → c.cacheHit = false → ∃ resp, c.resp = some resp ∧
      (G.capturedCost c ≠ none ↔ CountsInRange resp.inputTokens resp.outputTokens)
  | .recordEmbed c => c.status.isSuccess = true → ∃ resp, c.resp = some resp ∧
      (G.capturedEmbedCost c ≠ none ↔ CountsInRange resp.inputTokens 0)
  | .save r => r.status.isSuccess = true → r.cacheHit = false →
      (r.costUsd ≠ none ↔ CountsInRange r.inputTokens r.outputTokens)
  | _ => True

/-- A server that refuses direct names, lists the names of its routes and aliases, and refuses
models without a price. -/
structure Server.Governs (S : Server σ) : Prop where
  direct : S.allowDirectModels = false
  models : ∀ model, model ∈ S.models ↔
    model ∈ S.gateway.router.routes.keys ∨ model ∈ S.gateway.router.aliases.keys
  failUnknown : S.gateway.costMeter.failUnknown = true

/-! ## Costs -/

/-- The name of a target is not empty. -/
lemma Target.name_ne_nil (t : Target) : t.name ≠ [] := by
  unfold Target.name
  intro h
  have hslash := (List.append_eq_nil_iff.mp (List.append_eq_nil_iff.mp h).1).2
  exact absurd hslash (by simp)

namespace Gateway

variable {G : Gateway σ} {model : Str}

/-- A priced target has a cost for the counts in range. -/
lemma safeCost_ne_none_iff {t : Target} (ht : (G.costMeter.priceFor t.name).isSome)
    (inputTokens outputTokens : ℤ) : G.safeCost (some t.name) inputTokens outputTokens ≠ none ↔
      CountsInRange inputTokens outputTokens := by
  obtain ⟨price, hprice⟩ := Option.isSome_iff_exists.mp ht
  unfold safeCost CostMeter.cost CostMeter.exactCost CountsInRange
  split
  · next h => cases h
  · next h => exact absurd (Option.some.inj h) t.name_ne_nil
  · next h =>
    rw [← Option.some.inj h, hprice]
    cases millionthOverflows inputTokens with
    | true => simp
    | false => cases millionthOverflows outputTokens <;> simp

/-- The answer of a target that may be reached, and when it has a cost. -/
lemma capturedCost_ne_none_iff {c : Captured} (hc : c.From (G.MayReach model))
    (hstatus : c.status.isSuccess = true) (hhit : c.cacheHit = false) :
    ∃ resp, c.resp = some resp ∧
      (G.capturedCost c ≠ none ↔ CountsInRange resp.inputTokens resp.outputTokens) := by
  obtain ⟨t, resp, ⟨-, hprice⟩, hresolved, hresp⟩ := hc hstatus hhit
  refine ⟨resp, hresp, ?_⟩
  unfold capturedCost
  rw [hhit, hresp, hresolved]
  exact safeCost_ne_none_iff hprice _ _

/-- The record of such an answer. -/
lemma callRecord_costUsd_ne_none_iff (request : NormalizedRequest) (latency : ℤ) {c : Captured}
    (hc : c.From (G.MayReach model)) (hstatus : c.status.isSuccess = true)
    (hhit : c.cacheHit = false) :
    (G.callRecord request latency c).costUsd ≠ none ↔
      CountsInRange (G.callRecord request latency c).inputTokens
        (G.callRecord request latency c).outputTokens := by
  obtain ⟨resp, hresp, hcost⟩ := capturedCost_ne_none_iff hc hstatus hhit
  simpa only [callRecord, hresp, Option.map_some, Option.getD_some] using hcost

/-- The embeddings answer of a target that may be reached, and when it has a cost. -/
lemma capturedEmbedCost_ne_none_iff {c : CapturedEmbed} (hc : c.From (G.MayReach model))
    (hstatus : c.status.isSuccess = true) :
    ∃ resp, c.resp = some resp ∧
      (G.capturedEmbedCost c ≠ none ↔ CountsInRange resp.inputTokens 0) := by
  obtain ⟨t, resp, ⟨-, hprice⟩, hresolved, hresp⟩ := hc hstatus
  refine ⟨resp, hresp, ?_⟩
  unfold capturedEmbedCost
  rw [hresp, hresolved]
  exact safeCost_ne_none_iff hprice _ _

/-- The record of such an embeddings answer. -/
lemma embedRecord_costUsd_ne_none_iff (name : Str) (metadata : Metadata) (latency : ℤ)
    {c : CapturedEmbed} (hc : c.From (G.MayReach model)) (hstatus : c.status.isSuccess = true) :
    (G.embedRecord name metadata latency c).costUsd ≠ none ↔
      CountsInRange (G.embedRecord name metadata latency c).inputTokens
        (G.embedRecord name metadata latency c).outputTokens := by
  obtain ⟨resp, hresp, hcost⟩ := capturedEmbedCost_ne_none_iff hc hstatus
  simpa only [embedRecord, hresp, Option.map_some, Option.getD_some] using hcost

/-- The steps of a call that reaches such targets only are governed. -/
lemma covers_governed (G : Gateway σ) (model : Str) :
    Covers G (AllEvents (Governed G model)) (G.MayReach model) where
  frame := frame_allEvents _
  own _ _ _ := List.forall_mem_nil _
  monotonic _ := List.forall_mem_nil _
  uniform _ _ _ := List.forall_mem_nil _
  sleep _ _ := List.forall_mem_singleton.mpr trivial
  report _ _ _ := List.forall_mem_singleton.mpr trivial
  call _ _ ht _ _ _ := List.forall_mem_singleton.mpr ht
  streamCall _ _ _ ht _ _ _ := List.forall_mem_singleton.mpr ht
  embedCall _ _ _ ht _ _ _ := List.forall_mem_singleton.mpr ht
  record _ _ hc := List.forall_mem_singleton.mpr (capturedCost_ne_none_iff hc)
  save request latency _ _ hc :=
    List.forall_mem_singleton.mpr (callRecord_costUsd_ne_none_iff request latency hc)
  recordEmbed _ _ hc := List.forall_mem_singleton.mpr (capturedEmbedCost_ne_none_iff hc)
  saveEmbed name metadata latency _ _ hc :=
    List.forall_mem_singleton.mpr fun hstatus _ =>
      embedRecord_costUsd_ne_none_iff name metadata latency hc hstatus

end Gateway

/-! ## The server -/

namespace Server

variable {S : Server σ} {model : Str}

/-- A name that is not refused resolves to targets listed under it. -/
lemma lists_of_resolve (hS : S.Governs) (hmodel : S.directModelBlocked model = false)
    {targets : List Target} (h : S.gateway.router.resolve S.gateway.py model = .ok targets)
    {t : Target} (ht : t ∈ targets) : S.gateway.router.Lists model t := by
  unfold Router.resolve at h
  split at h
  · next targets' hroute =>
    obtain rfl := Except.ok.inj h
    exact .inl ⟨targets', hroute, ht⟩
  next hroute =>
  split at h
  · next target halias =>
    obtain rfl := Except.ok.inj h
    rw [List.mem_singleton.mp ht]
    exact .inr halias
  next halias =>
  split at h
  · -- a direct name that is not listed is refused
    next hslash =>
    have hlisted : model ∉ S.models := by
      rw [hS.models, OrderedDict.mem_keys_iff, OrderedDict.mem_keys_iff, hroute, halias]
      simp
    unfold directModelBlocked at hmodel
    rw [hS.direct, hslash] at hmodel
    simp [hlisted] at hmodel
  · cases h

/-- A target of the chain that passes the price check may be reached. -/
lemma mayReach_of_resolve (hS : S.Governs) (hmodel : S.directModelBlocked model = false)
    {targets : List Target} (h : S.gateway.router.resolve S.gateway.py model = .ok targets) :
    ∀ t ∈ targets, S.gateway.costMeter.ensurePrice t.name = .ok () →
      S.gateway.MayReach model t := by
  intro t ht hprice
  refine ⟨lists_of_resolve hS hmodel h ht, ?_⟩
  unfold CostMeter.ensurePrice at hprice
  rw [hS.failUnknown, Bool.true_and] at hprice
  split at hprice
  · cases hprice
  · next hsome => simpa [Option.isSome_iff_ne_none] using hsome

/-- What becomes of an exception is governed. -/
lemma keeps_orErrorReply {P : Event σ → Prop} (e : Exc) :
    Keeps (AllEvents P) (orErrorReply e : Call σ Reply) := by
  unfold orErrorReply
  split
  · exact .pure (frame_allEvents P) _
  · exact .raise (frame_allEvents P) _

/-- The answer of a request is governed. -/
lemma keeps_answer (hS : S.Governs) {request : NormalizedRequest}
    (hmodel : S.directModelBlocked request.model = false) (head : AnswerHead) :
    Keeps (AllEvents (Governed S.gateway request.model)) (S.answer request head) := by
  have hF := frame_allEvents (Governed S.gateway request.model)
  have hinvoke := (Gateway.covers_governed S.gateway request.model).steps.keeps_invoke request
    (fun key => keeps_allEvents_of_trace (S.gateway.trace_cacheGet key))
    (fun key resp => keeps_allEvents_of_trace (S.gateway.trace_cacheSet key resp))
    fun targets h => mayReach_of_resolve hS hmodel h
  refine .bind hF (.attempt hinvoke) fun r => ?_
  cases r with
  | error e => exact keeps_orErrorReply e
  | ok resp => exact .bind hF (.ofExcept hF _) fun _ => .pure hF _

/-- The answer of a request as a stream is governed. -/
lemma keeps_answerStream (hS : S.Governs) {request : NormalizedRequest}
    (hmodel : S.directModelBlocked request.model = false) (head : AnswerHead) :
    Keeps (AllEvents (Governed S.gateway request.model)) (S.answerStream request head) := by
  have hF := frame_allEvents (Governed S.gateway request.model)
  have hstreaming : ∀ (e : Event σ) (w : World σ), e.isStreaming = true →
      AllEvents (Governed S.gateway request.model) w w [e] := by
    intro e w he
    refine List.forall_mem_singleton.mpr ?_
    cases e <;> trivial
  have hstream :=
    (Gateway.covers_governed S.gateway request.model).steps.keeps_invokeStream hstreaming request
      fun targets h => mayReach_of_resolve hS hmodel h
  refine .bind hF (.listen hstream) fun r => ?_
  split
  · exact keeps_orErrorReply _
  · exact .pure hF _
  · exact .pure hF _

/-- **Chat completions** are governed, streaming or not. -/
lemma keeps_chatCompletions (hS : S.Governs) (id : Str) (created body : Json) :
    Keeps (AllEvents (Governed S.gateway (requestedModel body)))
      (S.chatCompletions id created body) := by
  have hF := frame_allEvents (Governed S.gateway (requestedModel body))
  unfold chatCompletions
  split
  case h_2 => exact .pure hF _
  next d =>
  split
  case h_2 => exact .pure hF _
  next model hmodel =>
  split
  · exact .pure hF _
  split
  · exact .pure hF _
  next hallowed =>
  split
  · split
    · exact .pure hF _
    · exact .raise hF _
  next request hrequest =>
  have hrequested : requestedModel (.obj d) = model := by
    unfold requestedModel
    dsimp only
    rw [hmodel]
  have hname : request.model = model := model_of_toNormalized hmodel hrequest
  have hallowed' : S.directModelBlocked request.model = false := by
    rw [hname]
    exact Bool.eq_false_iff.mpr hallowed
  rw [hrequested, ← hname]
  split
  · exact keeps_answerStream hS hallowed' _
  · exact keeps_answer hS hallowed' _

/-- **Embeddings** are governed. -/
lemma keeps_embeddings (hS : S.Governs) (body : Json) :
    Keeps (AllEvents (Governed S.gateway (requestedModel body))) (S.embeddings body) := by
  have hF := frame_allEvents (Governed S.gateway (requestedModel body))
  unfold embeddings
  split
  case h_2 => exact .pure hF _
  next d =>
  split
  case h_2 => exact .pure hF _
  next model hmodel =>
  split
  · exact .pure hF _
  split
  · exact .pure hF _
  next hallowed =>
  split
  · exact .pure hF _
  · exact .pure hF _
  next inputs _ _ =>
  have hrequested : requestedModel (.obj d) = model := by
    unfold requestedModel
    dsimp only
    rw [hmodel]
  rw [hrequested] at hF ⊢
  have hembed := (Gateway.covers_governed S.gateway model).steps.keeps_embed model inputs
    { consumer := some (consumerOf S.gateway.py d) }
    fun targets h => mayReach_of_resolve hS (Bool.eq_false_iff.mpr hallowed) h
  refine .bind hF (.attempt hembed) fun r => ?_
  cases r with
  | error e => exact keeps_orErrorReply e
  | ok resp => exact .pure hF _

end Server

/-- **Cost governance cannot be bypassed.** On a server that governs costs, whatever a body of
either kind asks for, and whatever the state of the call is, every provider that is called is called
for a target listed under the requested name and priced, and a record of an answer that is not from
the cache has a cost exactly if floats reach as far as the millionths of its token counts. -/
theorem chat_and_embeddings_governed (S : Server σ) (hS : S.Governs) (id : Str) (created : Json)
    (body : Json) (w : World σ) :
    (∀ e ∈ (S.chatCompletions id created body).trace w,
      Governed S.gateway (requestedModel body) e) ∧
    ∀ e ∈ (S.embeddings body).trace w, Governed S.gateway (requestedModel body) e :=
  ⟨Server.keeps_chatCompletions hS id created body w, Server.keeps_embeddings hS body w⟩

/-- The scripted gateway with prices, one by full name and one by bare model. -/
def pricedGateway : Gateway Scripted :=
  { scriptedGateway with costMeter := ⟨[("p/a", 1, 2), ("b", 1, 2)], true⟩ }

/-- A server that governs its costs. -/
def pricedServer : Server Scripted where
  gateway := pricedGateway
  conv := plainConversions
  models := ["m"]
  allowDirectModels := false

/-- A chat body for a listed model. -/
def listedBody : Json :=
  .obj [("model", .str "m"),
    ("messages", .arr [.obj [("role", .str "user"), ("content", .str "hi")]])]

/-- The first target fails, the second answers. -/
def failThenAnswer : World Scripted :=
  { outer := { outcomes := [(1, .error (.retriable "busy")), (1, .error (.retriable "busy")),
      (1, .ok { text := "hi", inputTokens := 10, outputTokens := 20 })] } }

/-- The first target answers, with a count of input tokens of more than three hundred digits. -/
def hugeAnswer : World Scripted :=
  { outer :=
      { outcomes := [(1, .ok { text := "hi", inputTokens := 10 ^ 320, outputTokens := 1 })] } }

/-- A saved record of an answer that is not from the cache, without a cost. -/
def Event.savesFreeAnswer : Event σ → Bool
  | .save r => r.status.isSuccess && !r.cacheHit && r.costUsd.isNone
  | _ => false

/-- The priced server governs its costs. -/
lemma governs_pricedServer : pricedServer.Governs :=
  ⟨rfl, fun model => by simp [pricedServer, pricedGateway, scriptedGateway, OrderedDict.keys], rfl⟩

/-- **An answer without a cost.** On a server that governs costs a provider answers with a huge
count of tokens, and the record of its answer has no cost. -/
theorem hugeAnswer_has_no_cost : pricedServer.Governs ∧
    ¬ ∀ r, Event.save r ∈ (pricedServer.chatCompletions "1" (.int 0) listedBody).trace hugeAnswer →
      r.status.isSuccess = true → r.cacheHit = false → r.costUsd ≠ none := by
  refine ⟨governs_pricedServer, fun hcosts => ?_⟩
  have hfree : ((pricedServer.chatCompletions "1" (.int 0) listedBody).trace hugeAnswer).any
      Event.savesFreeAnswer = true := by decide +kernel
  obtain ⟨e, he, hfree⟩ := List.any_eq_true.mp hfree
  cases e with
  | save r =>
    simp only [Event.savesFreeAnswer, Bool.and_eq_true, Bool.not_eq_true'] at hfree
    obtain ⟨⟨hstatus, hhit⟩, hcost⟩ := hfree
    exact hcosts r he hstatus hhit (Option.isNone_iff_eq_none.mp hcost)
  | _ => cases hfree

/-- The calls of both targets, and the record of the answer, are governed. -/
theorem chat_and_embeddings_governed_listedBody :
    (∀ e ∈ (pricedServer.chatCompletions "1" (.int 0) listedBody).trace failThenAnswer,
      Governed pricedServer.gateway "m" e) ∧
    ∀ e ∈ (pricedServer.embeddings listedBody).trace failThenAnswer,
      Governed pricedServer.gateway "m" e :=
  chat_and_embeddings_governed pricedServer governs_pricedServer "1" (.int 0) listedBody
    failThenAnswer

end AgentCtl
