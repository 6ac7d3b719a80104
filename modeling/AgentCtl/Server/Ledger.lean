import AgentCtl.Core.Ledger
import AgentCtl.Server.Connections

set_option relaxedAutoImplicit false
set_option autoImplicit false

/-!
# The budget of a server

A server charges its budget by the records it saves, and by nothing else: in every state of every
run in which no two calls of the gateway overlap, whatever requests arrive and however they
interleave, the records that have been saved so far tell the total, the account of every consumer
with a cap, and whether its next call is refused.

Sums are exact. The source sums floats, in the order of the calls, so that a sum of its own over the
records may differ from the budget in the last digits, and a call at the very cap may be decided
otherwise.

## Main definitions

* `AgentCtl.HttpServer.savedBy` — the records of some calls of the gateway.

## Main results

* `AgentCtl.Server.keeps_handlers` — a frame of the gateway's calls is one of the handlers.
* `AgentCtl.budget_told_by_records` — what the records tell of the budget.
-/

namespace AgentCtl

open Prog

variable {σ : Type}

namespace Server

variable {S : Server σ} {R : World σ → World σ → List (Event σ) → Prop}

/-- What becomes of an exception does nothing. -/
lemma keeps_orErrorReply_frame (hF : Frame R) (e : Exc) :
    Keeps R (orErrorReply e : Call σ Reply) := by
  unfold orErrorReply
  split
  · exact .pure hF _
  · exact .raise hF _

/-- **Frames of the handlers.** A frame that holds of the calls of the gateway for the model that a
body names holds of the handlers that make them. -/
lemma keeps_handlers (hF : Frame R) {body : Json}
    (hinvoke : ∀ request, request.model = requestedModel body → Keeps R (S.gateway.invoke request))
    (hstream : ∀ request, request.model = requestedModel body →
      Keeps R (S.gateway.invokeStream request))
    (hembed : ∀ inputs metadata, Keeps R (S.gateway.embed (requestedModel body) inputs metadata))
    (id : Str) (created : Json) :
    Keeps R (S.chatCompletions id created body) ∧ Keeps R (S.embeddings body) := by
  have hrequested {d : Dict} {model : Str} (hmodel : d.get "model" = .str model) :
      requestedModel (.obj d) = model := by
    unfold requestedModel
    dsimp only
    rw [hmodel]
  constructor
  · unfold chatCompletions
    split
    case h_2 => exact .pure hF _
    split
    case h_2 => exact .pure hF _
    next model hmodel =>
    split
    · exact .pure hF _
    split
    · exact .pure hF _
    split
    · split
      · exact .pure hF _
      · exact .raise hF _
    next request hrequest =>
    have hname : request.model = requestedModel _ :=
      (model_of_toNormalized hmodel hrequest).trans (hrequested hmodel).symm
    split
    · refine .bind hF (.listen (hstream request hname)) fun r => ?_
      split
      · exact keeps_orErrorReply_frame hF _
      · exact .pure hF _
      · exact .pure hF _
    · refine .bind hF (.attempt (hinvoke request hname)) fun r => ?_
      cases r with
      | error e => exact keeps_orErrorReply_frame hF e
      | ok resp => exact .bind hF (.ofExcept hF _) fun _ => .pure hF _
  · unfold embeddings
    split
    case h_2 => exact .pure hF _
    split
    case h_2 => exact .pure hF _
    next model hmodel =>
    split
    · exact .pure hF _
    split
    · exact .pure hF _
    split
    · exact .pure hF _
    · exact .pure hF _
    · rw [hrequested hmodel] at hembed
      refine .bind hF (.attempt (hembed _ _)) fun r => ?_
      cases r with
      | error e => exact keeps_orErrorReply_frame hF e
      | ok resp => exact .pure hF _

end Server

namespace HttpServer

variable {S : HttpServer σ}

/-- The records that some calls of the gateway save, one call after the other. -/
def savedBy (S : HttpServer σ) (w : World σ) : List Served → List CallRecord
  | [] => []
  | x :: xs => savesOf (S.runServed w x).2.2 ++ S.savedBy (S.runServed w x).2.1 xs

/-- One call keeps the budget by what it saves. -/
lemma entered_runServed (hstore : S.gateway.hasStore = true) (w : World σ) (x : Served) :
    Entered w (S.runServed w x).2.1 (S.runServed w x).2.2 := by
  have hhandlers := Server.keeps_handlers (S := S.toServer) frame_entered
    (fun request _ => Gateway.keeps_entered_invoke hstore request)
    (fun request _ => Gateway.keeps_entered_invokeStream hstore request)
    (Gateway.keeps_entered_embed hstore (requestedModel x.body)) x.answerId x.created
  unfold runServed handle
  cases x.endpoint with
  | chatCompletions => exact hhandlers.1 { w with patience := x.patience }
  | embeddings => exact hhandlers.2 { w with patience := x.patience }

/-- Calls made one after the other enter what they save into the budget, and nothing else. -/
lemma budget_replay (hstore : S.gateway.hasStore = true) (w : World σ) (xs : List Served) :
    (S.replay w xs).budget = w.budget.enter (S.savedBy w xs) := by
  induction xs generalizing w with
  | nil => rfl
  | cons x xs ih =>
    have hone : (S.runServed w x).2.1.budget = _ := entered_runServed hstore w x
    change (S.replay (S.runServed w x).2.1 xs).budget = _
    rw [ih, hone, savedBy, BudgetGuard.enter_append]

/-- The budget of a server is what its records make of the one that it began with. -/
lemma budget_run (hstore : S.gateway.hasStore = true) {w : World σ} {ms : List HttpMove}
    {h : Hub σ} (hrun : S.run { world := w } ms = some h) :
    h.world.budget = w.budget.enter (S.savedBy w h.served) := by
  rw [world_run hrun, budget_replay hstore]

end HttpServer

/-! ## What the records tell -/

/-- **The records tell the budget.** Whatever requests a server with a store gets, in runs in which
no two of its gateway calls overlap, and in exact arithmetic: the total of its budget is what the
records saved so far have cost, the account of a consumer with a cap is what its own records have
cost, and a call of this consumer passes the budget exactly if its records, and all records, stay
below their caps with one more call like its last one. -/
theorem budget_told_by_records {S : HttpServer σ} (hstore : S.gateway.hasStore = true)
    {caps : OrderedDict Str ℚ} {globalCap : Option ℚ} {maxConsumers : ℕ}
    {w : World σ} (hw : w.budget = .fresh caps globalCap maxConsumers)
    {ms : List HttpMove} {h : Hub σ} (hrun : S.run { world := w } ms = some h) :
    let rs := S.savedBy w h.served
    (w.budget.enabled = true → h.world.budget.globalSpent = totalOf rs) ∧
      ∀ c cap, caps.get? c = some cap →
        h.world.budget.spentBy c = spentOf rs c ∧
        (h.world.budget.check S.gateway.py c = .ok () ↔
          spentOf rs c + lastOf rs c < cap ∧
            ∀ g, globalCap = some g → totalOf rs + lastOf rs c < g) := by
  intro rs
  have hbudget : h.world.budget = (BudgetGuard.fresh caps globalCap maxConsumers).enter rs := by
    rw [HttpServer.budget_run hstore hrun, hw]
  rw [hbudget]
  refine ⟨fun henabled => ?_, fun c cap hcap => ?_⟩
  · rw [hw] at henabled
    exact BudgetGuard.globalSpent_enter henabled rs
  · exact BudgetGuard.check_enter S.gateway.py hcap rs

/-- The consumer of a request that names no user. -/
def noUser : Str := "openai-compat-server"

/-- A budget for less than two calls. -/
def narrowBudget : BudgetGuard := .fresh [(noUser, 1 / 10000)] none 10000

/-- One call is made and saved, and its record tells that the next one is refused. -/
theorem budget_told_by_records_threeRequests :
    ∃ h, tokenServer.run { world := { failThenAnswer with budget := narrowBudget } } threeRequests =
        some h ∧ h.world.budget.globalSpent = 1 / 20000 ∧
      h.world.budget.spentBy noUser = 1 / 20000 ∧
      ¬ h.world.budget.check tokenServer.gateway.py noUser = .ok () := by
  have htold : (tokenServer.run { world := { failThenAnswer with budget := narrowBudget } }
      threeRequests).map (fun h =>
        let rs := tokenServer.savedBy { failThenAnswer with budget := narrowBudget } h.served
        (totalOf rs, spentOf rs noUser, lastOf rs noUser)) =
      some (1 / 20000, 1 / 20000, 1 / 20000) := by decide +kernel
  obtain ⟨h, hrun, htold⟩ := Option.map_eq_some_iff.mp htold
  obtain ⟨htotal, hrest⟩ := Prod.mk.inj htold
  obtain ⟨hspent, hlast⟩ := Prod.mk.inj hrest
  obtain ⟨hglobal, hcapped⟩ := budget_told_by_records rfl rfl hrun
  obtain ⟨haccount, hcheck⟩ := hcapped noUser (1 / 10000) rfl
  refine ⟨h, hrun, (hglobal rfl).trans htotal, haccount.trans hspent, ?_⟩
  rw [hcheck, hspent, hlast]
  norm_num

end AgentCtl
