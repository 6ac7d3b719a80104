import AgentCtl.Providers.Shapes
import AgentCtl.Server.ContentForms

set_option relaxedAutoImplicit false
set_option autoImplicit false

/-!
# What the adapters send for a text part

Here is what the adapters send for a message that says its text as a string, and for one that says
it as a text part: the same for a message of a user, and for one of an assistant, unless it has tool
calls beside its text and goes to the Anthropic adapter, which then reads string content only. The
text part of a system or tool message is sent as JSON text, or as a user message.

## Main definitions

* `AgentCtl.SameChatKwargs`, `AgentCtl.SameMessageKwargs` — what is sent differs at most in the form
  of its texts.
* `AgentCtl.sentToOpenai`, `AgentCtl.sentToAnthropic` — what a body makes the adapters send.

## Main results

* `AgentCtl.sent_textPart_iff` — when a text part is sent as its string is.
-/

namespace AgentCtl

open Except

/-! ## What is sent -/

/-- Arguments for an OpenAI backend that differ at most in the form of their texts. -/
structure SameChatKwargs (a b : ChatKwargs) : Prop where
  messages : List.Forall₂ SameMessage a.messages b.messages
  rest : a = { b with messages := a.messages }

/-- Arguments for an Anthropic backend that differ at most in the form of their texts. -/
structure SameMessageKwargs (a b : MessageKwargs) : Prop where
  messages : List.Forall₂ SameMessage a.messages b.messages
  rest : a = { b with messages := a.messages }

section Sent

variable (py : Runtime) (conv : Conversions) (target : Target) (timeout : ℚ) (defaultMaxTokens : ℤ)

/-- What a body makes the OpenAI adapter send. -/
def sentToOpenai (body : Dict) : Except Exc ChatKwargs := do
  chatKwargs py target (← toNormalized py conv body defaultMaxTokens) timeout

/-- What a body makes the Anthropic adapter send. -/
def sentToAnthropic (body : Dict) : Except Exc MessageKwargs := do
  messageKwargs py target (← toNormalized py conv body defaultMaxTokens) timeout

end Sent

/-! ## Related translations -/

/-- A message that is not like the other makes the lists unlike. -/
lemma not_forall₂_of_head {m m' : Dict} {ms ms' : List Dict} (h : ¬ SameMessage m m') :
    ¬ List.Forall₂ SameMessage (m :: ms) (m' :: ms') :=
  fun hall => h (List.forall₂_cons.mp hall).1

/-- What is sent before both does not matter. -/
lemma forall₂_append_iff (out : List Dict) {ms ms' : List Dict} :
    List.Forall₂ SameMessage (out ++ ms) (out ++ ms') ↔ List.Forall₂ SameMessage ms ms' := by
  induction out with
  | nil => rfl
  | cons m out ih =>
    rw [List.cons_append, List.cons_append, List.forall₂_cons, ih]
    exact and_iff_right (.refl m)

section OpenAI

variable {py : Runtime} {conv : Conversions} {defaultMaxTokens : ℤ} (target : Target) (timeout : ℚ)

/-- A message with a string is sent with its role and the string. -/
lemma anthropicMessageToOpenai_str (py : Runtime) {m : Dict} {s : Str}
    (hm : m.get "content" = .str s) :
    anthropicMessageToOpenai py m = .ok [[("role", m.get "role"), ("content", .str s)]] := by
  unfold anthropicMessageToOpenai
  rw [hm]

/-- A message with a text part is sent with the string; unless it is an assistant's, it becomes a
user's. -/
lemma anthropicMessageToOpenai_textPart (m : Dict) {s : Str} (hs : s ≠ []) :
    anthropicMessageToOpenai py (withTextPart m s) = .ok [[("role",
      if (m.get "role").eqStr "assistant" then .str "assistant" else .str "user"),
        ("content", .str s)]] := by
  unfold anthropicMessageToOpenai
  rw [get_content_withTextPart, get_withTextPart m s (by simp)]
  dsimp only
  split
  · simp [assistantToOpenai, textPart, asDict, Json.join, Json.joinFrom, withToolCalls, hs]
  · simp [userBlockToOpenai, textPart, asDict, UserPiece.toolMessage?, UserPiece.part?,
      userMessageOf, Json.join, Json.joinFrom]

/-- Two messages that are translated make the translations differ by what they become. -/
lemma anthropicMessagesToOpenai_rel {m m' out out' : Dict}
    (hm : anthropicMessageToOpenai py m = .ok [out])
    (hm' : anthropicMessageToOpenai py m' = .ok [out']) (pre post : List Dict) :
    OutcomeRel Eq (fun ms ms' => ∃ p q, ms = p ++ out :: q ∧ ms' = p ++ out' :: q)
      (anthropicMessagesToOpenai py (pre ++ m :: post))
      (anthropicMessagesToOpenai py (pre ++ m' :: post)) := by
  unfold anthropicMessagesToOpenai
  rw [List.mapM_append, List.mapM_append, List.mapM_cons, List.mapM_cons, hm, hm']
  cases pre.mapM (anthropicMessageToOpenai py) with
  | error e => exact .error rfl
  | ok x =>
    cases post.mapM (anthropicMessageToOpenai py) with
    | error e => exact .error rfl
    | ok y => exact .ok ⟨x.flatten, y.flatten, by simp, by simp⟩

/-- Requests that differ in their messages and system text. -/
lemma chatKwargs_rel {request : NormalizedRequest} {messages : List Dict} {system : Option Str}
    {Q : List Dict → List Dict → Prop}
    (h : OutcomeRel Eq Q (chatMessages py request)
      (chatMessages py { request with messages := messages, system := system })) :
    OutcomeRel Eq (fun a b => Q a.messages b.messages ∧ a = { b with messages := a.messages })
      (chatKwargs py target request timeout)
      (chatKwargs py target { request with messages := messages, system := system } timeout) := by
  refine h.bind fun ms ms' hQ => ?_
  show OutcomeRel Eq _ (chatTools request >>= _) (chatTools request >>= _)
  cases chatTools request with
  | error e => exact .error rfl
  | ok tools =>
    show OutcomeRel Eq _ (chatToolChoice request >>= _) (chatToolChoice request >>= _)
    cases chatToolChoice request with
    | error e => exact .error rfl
    | ok toolChoice => exact .ok ⟨hQ, rfl⟩

/-- The message of a system text. -/
def systemMessage (text : Str) : Dict := [("role", .str "system"), ("content", .str text)]

/-- Requests with one other message. -/
lemma chatMessages_rel {request : NormalizedRequest} {m m' out out' : Dict} {pre post : List Dict}
    (hmessages : request.messages = pre ++ m :: post)
    (hm : anthropicMessageToOpenai py m = .ok [out])
    (hm' : anthropicMessageToOpenai py m' = .ok [out']) :
    OutcomeRel Eq (fun ms ms' => ∃ p q, ms = p ++ out :: q ∧ ms' = p ++ out' :: q)
      (chatMessages py request)
      (chatMessages py { request with messages := pre ++ m' :: post }) := by
  unfold chatMessages
  rw [hmessages]
  refine (anthropicMessagesToOpenai_rel hm hm' pre post).bind ?_
  rintro _ _ ⟨p, q, rfl, rfl⟩
  dsimp only
  cases request.system with
  | none => exact .ok ⟨p, q, rfl, rfl⟩
  | some t => exact .ok ⟨systemMessage t :: p, q, rfl, rfl⟩

/-- Requests with another system text. -/
lemma chatMessages_system_rel (py : Runtime) {request : NormalizedRequest} {t : Str}
    (ht : request.system = some t) (t' : Str) :
    OutcomeRel Eq (fun ms ms' => ∃ q, ms = systemMessage t :: q ∧ ms' = systemMessage t' :: q)
      (chatMessages py request) (chatMessages py { request with system := some t' }) := by
  unfold chatMessages
  rw [ht]
  dsimp only
  cases anthropicMessagesToOpenai py request.messages with
  | error e => exact .error rfl
  | ok ms => exact .ok ⟨ms, rfl, rfl⟩

/-- Another system text is sent as another message. -/
lemma chatKwargs_system {request : NormalizedRequest} {t t' : Str} (hne : t ≠ t')
    (ht : request.system = some t) :
    OutcomeRel Eq (fun a b => ¬ SameChatKwargs a b) (chatKwargs py target request timeout)
      (chatKwargs py target { request with system := some t' } timeout) := by
  refine (chatKwargs_rel target timeout (chatMessages_system_rel py ht t')).imp ?_
  rintro a b ⟨⟨q, ha, hb⟩, -⟩ hsame
  have hall := hsame.messages
  rw [ha, hb] at hall
  have hcontent := (List.forall₂_cons.mp hall).1.content
  simp only [systemMessage, Dict.get_cons] at hcontent
  simp [asParts, textPart] at hcontent
  exact hne hcontent

/-- A text part is sent as its string if the message's role stays the same. -/
lemma chatKwargs_textPart {request : NormalizedRequest} {before after : List Dict} {m : Dict}
    {s : Str} (hs : s ≠ []) (hm : m.get "content" = .str s)
    (hmessages : request.messages = before ++ m :: after) :
    OutcomeRel Eq (fun a b => SameChatKwargs a b ↔ m.get "role" =
        if (m.get "role").eqStr "assistant" then .str "assistant" else .str "user")
      (chatKwargs py target request timeout)
      (chatKwargs py target { request with messages := before ++ withTextPart m s :: after }
        timeout) := by
  have hrel := chatMessages_rel hmessages (anthropicMessageToOpenai_str py hm)
    (anthropicMessageToOpenai_textPart m hs)
  refine (chatKwargs_rel target timeout hrel).imp ?_
  rintro a b ⟨⟨p, q, ha, hb⟩, hrest⟩
  constructor
  · intro h
    have hall := h.messages
    rw [ha, hb, forall₂_append_iff] at hall
    have hkey := (List.forall₂_cons.mp hall).1.rest "role" (by simp)
    simpa using hkey
  · intro h
    refine ⟨?_, hrest⟩
    rw [ha, hb, forall₂_append_iff, ← h]
    exact List.forall₂_same.mpr fun d _ => .refl d

/-- What the OpenAI adapter sends for a string and for the text part. -/
lemma sentToOpenai_textPart_iff {body m : Dict} {pre post : List Json} {s : Str} (hs : s ≠ [])
    (hbody : body.get "messages" = .arr (pre ++ .obj m :: post)) (hm : m.get "content" = .str s)
    (hrole : m.get "role" = .str "system" ∨ m.get "role" = .str "user" ∨
      m.get "role" = .str "assistant" ∨ m.get "role" = .str "tool") :
    OutcomeRel Eq SameChatKwargs (sentToOpenai py conv target timeout defaultMaxTokens body)
        (sentToOpenai py conv target timeout defaultMaxTokens
          (OrderedDict.insert body "messages" (.arr (pre ++ .obj (withTextPart m s) :: post)))) ↔
      ((sentToOpenai py conv target timeout defaultMaxTokens body).Returns →
        m.get "role" = .str "user" ∨ m.get "role" = .str "assistant") := by
  refine sent_iff (fun request => chatKwargs py target request timeout) py conv defaultMaxTokens
    hbody hm ?_ ?_
  · intro hsys request t t' hne ht
    have hrole : m.get "role" = .str "system" := (eqStr_iff _ _).mp hsys
    refine (chatKwargs_system target timeout hne ht).imp fun a b hnot => ?_
    exact iff_of_false hnot (by simp [hrole])
  · intro hsys request before after hmessages
    refine (chatKwargs_textPart target timeout hs hm hmessages).imp fun a b hiff => ?_
    rw [hiff]
    rcases hrole with hrole | hrole | hrole | hrole
    · simp [isSystem, hrole] at hsys
    all_goals simp [hrole]

end OpenAI

section Anthropic

variable {py : Runtime} {conv : Conversions} {defaultMaxTokens : ℤ} (target : Target) (timeout : ℚ)

/-- Both ways of being related are not changed by what is sent before. -/
lemma not_forall₂_append (out : List Dict) {ms ms' : List Dict}
    (h : ¬ List.Forall₂ SameMessage ms ms') :
    ¬ List.Forall₂ SameMessage (out ++ ms) (out ++ ms') := by
  rw [forall₂_append_iff]
  exact h

/-- What the loop does with the first messages depends on them alone: it adds to its output, and
leaves tool results for the next ones. -/
lemma openaiMessagesFrom_append (py : Runtime) (pre : List Dict) (pending : List Json) :
    ∃ x : Except Exc (List Dict × List Json), ∀ ms, openaiMessagesFrom py pending (pre ++ ms) = (do
      let (out, pending) ← x
      return out ++ (← openaiMessagesFrom py pending ms)) := by
  induction pre generalizing pending with
  | nil =>
    refine ⟨.ok ([], pending), fun ms => ?_⟩
    cases h : openaiMessagesFrom py pending ms <;> simp [h]
  | cons m pre ih =>
    by_cases htool : (m.get "role").eqStr "tool" = true
    · obtain ⟨x, hx⟩ := ih (pending ++ [toolResultBlock m])
      refine ⟨x, fun ms => ?_⟩
      rw [List.cons_append, openaiMessagesFrom_tool htool, hx]
    · obtain ⟨x, hx⟩ := ih []
      refine ⟨(do
        let out ← messageToAnthropic py pending m
        let (rest, pending) ← x
        return (out ++ rest, pending)), fun ms => ?_⟩
      rw [List.cons_append, openaiMessagesFrom_cons (Bool.eq_false_of_not_eq_true htool), hx]
      cases messageToAnthropic py pending m with
      | error e => rfl
      | ok out =>
        cases x with
        | error e => rfl
        | ok r =>
          obtain ⟨rest, pending⟩ := r
          simp only [ok_bind, pure_eq_ok]
          cases openaiMessagesFrom py pending ms <;> simp

/-- Conversations that differ in one message are related if they are from that message on. -/
lemma openaiMessagesToAnthropic_rel {Q : List Dict → List Dict → Prop}
    (hQ : ∀ out ms ms', Q ms ms' → Q (out ++ ms) (out ++ ms')) {ms ms' : List Dict}
    (h : ∀ pending, OutcomeRel Eq Q (openaiMessagesFrom py pending ms)
      (openaiMessagesFrom py pending ms')) (pre : List Dict) :
    OutcomeRel Eq Q (openaiMessagesToAnthropic py (pre ++ ms))
      (openaiMessagesToAnthropic py (pre ++ ms')) := by
  obtain ⟨x, hx⟩ := openaiMessagesFrom_append py pre []
  unfold openaiMessagesToAnthropic
  rw [hx, hx]
  cases x with
  | error e => exact .error rfl
  | ok r => exact (h r.2).bind fun out out' hout => .ok (hQ r.1 out out' hout)

/-- Messages that become unlike messages. -/
lemma openaiMessagesFrom_cons_rel {Q : List Dict → List Dict → Prop} {m m' : Dict}
    (hm : (m.get "role").eqStr "tool" = false) (hm' : (m'.get "role").eqStr "tool" = false)
    {pending pending' : List Json}
    (h : OutcomeRel Eq (fun out out' => ∀ rest, Q (out ++ rest) (out' ++ rest))
      (messageToAnthropic py pending m) (messageToAnthropic py pending' m')) (ms : List Dict) :
    OutcomeRel Eq Q (openaiMessagesFrom py pending (m :: ms))
      (openaiMessagesFrom py pending' (m' :: ms)) := by
  rw [openaiMessagesFrom_cons hm, openaiMessagesFrom_cons hm']
  refine h.bind fun out out' hout => ?_
  cases openaiMessagesFrom py [] ms with
  | error e => exact .error rfl
  | ok rest => exact .ok (hout rest)

/-- Tool results that differ make what is sent differ. -/
lemma openaiMessagesFrom_pending_rel {pending pending' : List Json} (hne : pending ≠ pending')
    (hlength : pending.length = pending'.length) (ms : List Dict) :
    OutcomeRel Eq (fun out out' => ¬ List.Forall₂ SameMessage out out')
      (openaiMessagesFrom py pending ms) (openaiMessagesFrom py pending' ms) := by
  have hnil : pending ≠ [] ∧ pending' ≠ [] := by
    constructor
    · rintro rfl
      exact hne (List.length_eq_zero_iff.mp hlength.symm).symm
    · rintro rfl
      exact hne (List.length_eq_zero_iff.mp hlength)
  have hunlike : ∀ {xs xs' : List Json}, xs ≠ xs' →
      ¬ SameMessage [("role", .str "user"), ("content", .arr xs)]
        [("role", .str "user"), ("content", .arr xs')] := by
    intro xs xs' hxs h
    have hcontent := h.content
    simp [asParts] at hcontent
    exact hxs hcontent
  induction ms generalizing pending pending' with
  | nil =>
    unfold openaiMessagesFrom flushToolResults
    rw [if_neg hnil.1, if_neg hnil.2]
    exact .ok (not_forall₂_of_head (hunlike hne))
  | cons m ms ih =>
    by_cases htool : (m.get "role").eqStr "tool" = true
    · rw [openaiMessagesFrom_tool htool, openaiMessagesFrom_tool htool]
      refine ih (fun h => hne (List.append_cancel_right h)) (by simp [hlength]) (by simp)
    · rw [Bool.not_eq_true] at htool
      refine openaiMessagesFrom_cons_rel htool htool ?_ ms
      unfold messageToAnthropic flushToolResults
      cases translateContent py m with
      | error e => exact .error rfl
      | ok m' =>
        simp only [ok_bind, if_neg hnil.1, if_neg hnil.2, List.isEmpty_eq_false_iff.mpr hnil.1,
          List.isEmpty_eq_false_iff.mpr hnil.2, Bool.not_false, Bool.and_true]
        split
        · refine .ok fun rest => not_forall₂_of_head (hunlike ?_)
          exact fun h => hne (List.append_cancel_right h)
        · split
          · cases toolCallsMessage py m' with
            | error e => exact .error rfl
            | ok msg => exact .ok fun rest => not_forall₂_of_head (hunlike hne)
          · exact .ok fun rest => not_forall₂_of_head (hunlike hne)

/-- A string is translated as it is. -/
lemma translateContent_str {m : Dict} {s : Str} (hm : m.get "content" = .str s) :
    translateContent py m = .ok m := by
  unfold translateContent
  rw [hm]

/-- A text part is translated as it is. -/
lemma translateContent_textPart (m : Dict) (s : Str) :
    translateContent py (withTextPart m s) = .ok (withTextPart (withTextPart m s) s) := by
  have hpart : openaiBlockToAnthropic py (textPart s) = .ok (textPart s) := by
    simp [openaiBlockToAnthropic, textPart]
  unfold translateContent
  rw [get_content_withTextPart]
  simp only [List.mapM_cons, List.mapM_nil, hpart]
  rfl

/-- The translated message still says the text. -/
lemma sameMessage_translated {m : Dict} {s : Str} (hm : m.get "content" = .str s) :
    SameMessage m (withTextPart (withTextPart m s) s) where
  content := by
    rw [hm, get_content_withTextPart]
    rfl
  rest k hk := by rw [get?_withTextPart _ s hk, get?_withTextPart _ s hk]

/-- A message of a user, or of an assistant without tool calls, becomes like messages. -/
lemma messageToAnthropic_textPart (py : Runtime) {m : Dict} {s : Str} (hs : s ≠ [])
    (hm : m.get "content" = .str s)
    (hcalls : ((m.get "role").eqStr "assistant" && (m.get "tool_calls").truthy) = false)
    (pending : List Json) :
    OutcomeRel Eq (fun out out' => ∀ rest, List.Forall₂ SameMessage (out ++ rest) (out' ++ rest))
      (messageToAnthropic py pending m) (messageToAnthropic py pending (withTextPart m s)) := by
  have hlike : ∀ {m₁ m₂ : Dict}, SameMessage m₁ m₂ → ∀ rest,
      List.Forall₂ SameMessage ([m₁] ++ rest) ([m₂] ++ rest) :=
    fun h rest => .cons h (List.forall₂_same.mpr fun d _ => .refl d)
  unfold messageToAnthropic
  rw [translateContent_str hm, translateContent_textPart, ok_bind, ok_bind,
    get_withTextPart m s (k := "role") (by simp),
    get_withTextPart m s (k := "tool_calls") (by simp),
    hm, get_content_withTextPart, hcalls]
  split
  · refine .ok (hlike ?_)
    have hblocks : userBlocks (.str s) = userBlocks (.arr [textPart s]) := by
      unfold userBlocks textBlocks
      dsimp only
      rw [if_neg hs]
      rfl
    rw [hblocks]
    exact .refl _
  · rw [if_neg Bool.false_ne_true, if_neg Bool.false_ne_true]
    refine .ok fun rest => ?_
    rw [List.append_assoc, List.append_assoc, forall₂_append_iff]
    exact hlike (sameMessage_translated hm) rest

/-- A message with tool calls loses the text part. -/
lemma messageToAnthropic_textPart_calls (py : Runtime) {m : Dict} {s : Str} (hs : s ≠ [])
    (hm : m.get "content" = .str s)
    (hcalls : ((m.get "role").eqStr "assistant" && (m.get "tool_calls").truthy) = true)
    (pending : List Json) :
    OutcomeRel Eq (fun out out' => ∀ rest, ¬ List.Forall₂ SameMessage (out ++ rest) (out' ++ rest))
      (messageToAnthropic py pending m) (messageToAnthropic py pending (withTextPart m s)) := by
  have huser : ((m.get "role").eqStr "user" && !pending.isEmpty) = false := by
    rw [eqStr_unique ((Bool.and_eq_true _ _).mp hcalls).1 (by simp)]
    rfl
  unfold messageToAnthropic
  rw [translateContent_str hm, translateContent_textPart, ok_bind, ok_bind,
    get_withTextPart m s (k := "role") (by simp),
    get_withTextPart m s (k := "tool_calls") (by simp),
    hcalls, huser, if_neg Bool.false_ne_true, if_neg Bool.false_ne_true, if_pos rfl, if_pos rfl]
  unfold toolCallsMessage
  rw [get_withTextPart _ s (k := "tool_calls") (by simp),
    get_withTextPart m s (k := "tool_calls") (by simp), hm, get_content_withTextPart]
  cases (m.get "tool_calls").elements with
  | error e => exact .error rfl
  | ok calls =>
    simp only [ok_bind]
    cases calls.mapM (callToToolUse py) with
    | error e => exact .error rfl
    | ok uses =>
      refine .ok fun rest => ?_
      rw [List.append_assoc, List.append_assoc, forall₂_append_iff]
      refine not_forall₂_of_head fun h => ?_
      have hcontent := h.content
      simp [asParts, textBlocks, hs] at hcontent

/-- The result of a tool becomes another one. -/
lemma toolResultBlock_textPart_ne {m : Dict} {s : Str} (hm : m.get "content" = .str s) :
    toolResultBlock m ≠ toolResultBlock (withTextPart m s) := by
  intro h
  unfold toolResultBlock at h
  rw [hm, get_content_withTextPart, get_withTextPart m s (k := "tool_call_id") (by simp)] at h
  have htext : s = (Json.arr [textPart s]).dumps false := by
    simpa [resultText, Json.isStr] using h
  have hlt := length_lt_dumps_textPart false s
  rw [← htext] at hlt
  exact lt_irrefl _ hlt

/-- Conversations with the two forms of a message that is no tool result. -/
lemma related_textPart {Q : List Dict → List Dict → Prop} {m : Dict} {s : Str}
    (htool : (m.get "role").eqStr "tool" = false)
    (hQ : ∀ out {ms ms' : List Dict}, Q ms ms' → Q (out ++ ms) (out ++ ms'))
    (h : ∀ pending, OutcomeRel Eq (fun out out' => ∀ rest, Q (out ++ rest) (out' ++ rest))
      (messageToAnthropic py pending m) (messageToAnthropic py pending (withTextPart m s)))
    (before after : List Dict) :
    OutcomeRel Eq Q (openaiMessagesToAnthropic py (before ++ m :: after))
      (openaiMessagesToAnthropic py (before ++ withTextPart m s :: after)) := by
  have htool' : ((withTextPart m s).get "role").eqStr "tool" = false := by
    rw [get_withTextPart m s (by simp), htool]
  exact openaiMessagesToAnthropic_rel (fun out _ _ => hQ out)
    (fun pending => openaiMessagesFrom_cons_rel htool htool' (h pending) after) before

/-- Conversations with the two forms of a tool message. -/
lemma unlike_of_tool (py : Runtime) {m : Dict} {s : Str} (hm : m.get "content" = .str s)
    (htool : (m.get "role").eqStr "tool" = true) (before after : List Dict) :
    OutcomeRel Eq (fun out out' => ¬ List.Forall₂ SameMessage out out')
      (openaiMessagesToAnthropic py (before ++ m :: after))
      (openaiMessagesToAnthropic py (before ++ withTextPart m s :: after)) := by
  have htool' : ((withTextPart m s).get "role").eqStr "tool" = true := by
    rw [get_withTextPart m s (by simp), htool]
  refine openaiMessagesToAnthropic_rel (fun out _ _ => not_forall₂_append out) ?_ before
  intro pending
  rw [openaiMessagesFrom_tool htool, openaiMessagesFrom_tool htool']
  refine openaiMessagesFrom_pending_rel (fun h => ?_) (by simp) after
  have hlast := List.append_cancel_left h
  exact toolResultBlock_textPart_ne hm (List.cons.inj hlast).1

/-- Requests with another system text or other messages. -/
lemma messageKwargs_rel {request : NormalizedRequest} {messages : List Dict} (system : Option Str)
    {Q : List Dict → List Dict → Prop}
    (h : OutcomeRel Eq Q (openaiMessagesToAnthropic py request.messages)
      (openaiMessagesToAnthropic py messages)) :
    OutcomeRel Eq (fun a b => Q a.messages b.messages ∧ a.system = request.system ∧
        b.system = system ∧ a = { b with messages := a.messages, system := a.system })
      (messageKwargs py target request timeout)
      (messageKwargs py target { request with messages := messages, system := system }
        timeout) := by
  refine h.bind fun ms ms' hQ => ?_
  show OutcomeRel Eq _ (messageTools request >>= _) (messageTools request >>= _)
  cases messageTools request with
  | error e => exact .error rfl
  | ok tools =>
    show OutcomeRel Eq _ (messageToolChoice py request >>= _) (messageToolChoice py request >>= _)
    cases messageToolChoice py request with
    | error e => exact .error rfl
    | ok toolChoice => exact .ok ⟨hQ, rfl, rfl, rfl⟩

/-- Another system text is sent as such. -/
lemma messageKwargs_system {request : NormalizedRequest} {t t' : Str} (hne : t ≠ t')
    (ht : request.system = some t) :
    OutcomeRel Eq (fun a b => ¬ SameMessageKwargs a b) (messageKwargs py target request timeout)
      (messageKwargs py target { request with system := some t' } timeout) := by
  have hrefl := OutcomeRel.refl (fun _ => rfl) (openaiMessagesToAnthropic py request.messages)
  refine (messageKwargs_rel target timeout (some t') hrefl).imp ?_
  rintro a b ⟨-, ha, hb, -⟩ hsame
  have heq := congrArg MessageKwargs.system hsame.rest
  rw [ha, ht] at heq
  exact hne (Option.some.inj (heq.trans hb))

/-- A text part is sent as its string, but for tool results and beside tool calls. -/
lemma messageKwargs_textPart {request : NormalizedRequest} {before after : List Dict} {m : Dict}
    {s : Str} (hs : s ≠ []) (hm : m.get "content" = .str s)
    (hmessages : request.messages = before ++ m :: after) :
    OutcomeRel Eq (fun a b => SameMessageKwargs a b ↔ (m.get "role").eqStr "tool" = false ∧
        ((m.get "role").eqStr "assistant" && (m.get "tool_calls").truthy) = false)
      (messageKwargs py target request timeout)
      (messageKwargs py target { request with messages := before ++ withTextPart m s :: after }
        timeout) := by
  by_cases htool : (m.get "role").eqStr "tool" = true
  · -- a tool message: the tool results differ
    have hlist := unlike_of_tool py hm htool before after
    rw [← hmessages] at hlist
    refine (messageKwargs_rel target timeout _ hlist).imp fun a b h => ?_
    exact iff_of_false (fun hsame => h.1 hsame.messages) (by simp [htool])
  rw [Bool.not_eq_true] at htool
  by_cases hcalls : ((m.get "role").eqStr "assistant" && (m.get "tool_calls").truthy) = true
  · -- an assistant message with tool calls: the texts differ
    have hlist := related_textPart htool not_forall₂_append
      (messageToAnthropic_textPart_calls py hs hm hcalls) before after
    rw [← hmessages] at hlist
    refine (messageKwargs_rel target timeout _ hlist).imp fun a b h => ?_
    exact iff_of_false (fun hsame => h.1 hsame.messages) (by simp [hcalls])
  · rw [Bool.not_eq_true] at hcalls
    have hlist := related_textPart htool (fun out _ _ => (forall₂_append_iff out).mpr)
      (messageToAnthropic_textPart py hs hm hcalls) before after
    rw [← hmessages] at hlist
    refine (messageKwargs_rel target timeout _ hlist).imp ?_
    rintro a b ⟨hlike, ha, hb, hrest⟩
    refine iff_of_true ⟨hlike, ?_⟩ ⟨htool, hcalls⟩
    rw [ha, ← hb] at hrest
    exact hrest

/-- What the Anthropic adapter sends for a string and for the text part. -/
lemma sentToAnthropic_textPart_iff {body m : Dict} {pre post : List Json} {s : Str} (hs : s ≠ [])
    (hbody : body.get "messages" = .arr (pre ++ .obj m :: post)) (hm : m.get "content" = .str s)
    (hrole : m.get "role" = .str "system" ∨ m.get "role" = .str "user" ∨
      m.get "role" = .str "assistant" ∨ m.get "role" = .str "tool") :
    OutcomeRel Eq SameMessageKwargs (sentToAnthropic py conv target timeout defaultMaxTokens body)
        (sentToAnthropic py conv target timeout defaultMaxTokens
          (OrderedDict.insert body "messages" (.arr (pre ++ .obj (withTextPart m s) :: post)))) ↔
      ((sentToAnthropic py conv target timeout defaultMaxTokens body).Returns →
        m.get "role" = .str "user" ∨
          (m.get "role" = .str "assistant" ∧ (m.get "tool_calls").truthy = false)) := by
  refine sent_iff (fun request => messageKwargs py target request timeout) py conv defaultMaxTokens
    hbody hm ?_ ?_
  · intro hsys request t t' hne ht
    have hrole : m.get "role" = .str "system" := (eqStr_iff _ _).mp hsys
    refine (messageKwargs_system target timeout hne ht).imp fun a b hnot => ?_
    exact iff_of_false hnot (by simp [hrole])
  · intro hsys request before after hmessages
    refine (messageKwargs_textPart target timeout hs hm hmessages).imp fun a b hiff => ?_
    rw [hiff]
    rcases hrole with hrole | hrole | hrole | hrole
    · simp [isSystem, hrole] at hsys
    all_goals simp [hrole]

end Anthropic

/-! ## Both adapters -/

/-- **Two forms of a text.** A body with a message that has a string, and the body with the text
part in its place: if the first makes the OpenAI adapter send anything, then both make it send the
same exactly when the message is a user's or an assistant's; and the Anthropic adapter when it is a
user's, or an assistant's without tool calls. If the first is refused, so is the second, alike. -/
theorem sent_textPart_iff (py : Runtime) (conv : Conversions) (target : Target) (timeout : ℚ)
    (defaultMaxTokens : ℤ) {body m : Dict} {pre post : List Json} {s : Str} (hs : s ≠ [])
    (hbody : body.get "messages" = .arr (pre ++ .obj m :: post)) (hm : m.get "content" = .str s)
    (hrole : m.get "role" = .str "system" ∨ m.get "role" = .str "user" ∨
      m.get "role" = .str "assistant" ∨ m.get "role" = .str "tool") :
    let body' := OrderedDict.insert body "messages" (.arr (pre ++ .obj (withTextPart m s) :: post))
    (OutcomeRel Eq SameChatKwargs (sentToOpenai py conv target timeout defaultMaxTokens body)
        (sentToOpenai py conv target timeout defaultMaxTokens body') ↔
      ((sentToOpenai py conv target timeout defaultMaxTokens body).Returns →
        m.get "role" = .str "user" ∨ m.get "role" = .str "assistant")) ∧
    (OutcomeRel Eq SameMessageKwargs (sentToAnthropic py conv target timeout defaultMaxTokens body)
        (sentToAnthropic py conv target timeout defaultMaxTokens body') ↔
      ((sentToAnthropic py conv target timeout defaultMaxTokens body).Returns →
        m.get "role" = .str "user" ∨
          (m.get "role" = .str "assistant" ∧ (m.get "tool_calls").truthy = false))) :=
  ⟨sentToOpenai_textPart_iff target timeout hs hbody hm hrole,
    sentToAnthropic_textPart_iff target timeout hs hbody hm hrole⟩

/-- A user's question. -/
def question : Dict := [("role", .str "user"), ("content", .str "Who is it?")]

/-- A text and a tool call of an assistant. -/
def remarkAndCall : Dict :=
  [("role", .str "assistant"), ("content", .str "Let me look."),
    ("tool_calls", .arr [.obj [("id", .str "t1"), ("type", .str "function"),
      ("function", .obj [("name", .str "look"), ("arguments", .str "\x7b\x7d")])]])]

/-- The result of a tool. -/
def toolAnswer : Dict :=
  [("role", .str "tool"), ("tool_call_id", .str "t1"), ("content", .str "Rome")]

/-- What was said before the question: the results of the tool are still to be sent with it. -/
def lookUp : List Json :=
  [.obj [("role", .str "user"), ("content", .str "Where is he?")], .obj remarkAndCall,
    .obj toolAnswer]

/-- What was said after the question. -/
def reply : List Json := [.obj [("role", .str "assistant"), ("content", .str "The mayor.")]]

/-- A body with a message in the middle of a conversation with a tool. -/
def conversationAbout (m : Dict) : Dict :=
  [("model", .str "m"), ("messages", .arr (lookUp ++ .obj m :: reply))]

/-- The question after a tool's answer is sent, and sent alike in both forms. -/
theorem sent_textPart_iff_question :
    (sentToOpenai Runtime.plain plainConversions ⟨"p", "a"⟩ 1 1024
      (conversationAbout question)).Returns ∧
    OutcomeRel Eq SameChatKwargs
      (sentToOpenai Runtime.plain plainConversions ⟨"p", "a"⟩ 1 1024 (conversationAbout question))
      (sentToOpenai Runtime.plain plainConversions ⟨"p", "a"⟩ 1 1024
        (OrderedDict.insert (conversationAbout question) "messages"
          (.arr (lookUp ++ .obj (withTextPart question "Who is it?") :: reply)))) ∧
    OutcomeRel Eq SameMessageKwargs
      (sentToAnthropic Runtime.plain plainConversions ⟨"p", "a"⟩ 1 1024
        (conversationAbout question))
      (sentToAnthropic Runtime.plain plainConversions ⟨"p", "a"⟩ 1 1024
        (OrderedDict.insert (conversationAbout question) "messages"
          (.arr (lookUp ++ .obj (withTextPart question "Who is it?") :: reply)))) := by
  have hbody : Dict.get (conversationAbout question) "messages" =
      .arr (lookUp ++ .obj question :: reply) := rfl
  have hm : Dict.get question "content" = .str "Who is it?" := rfl
  have h := sent_textPart_iff Runtime.plain plainConversions ⟨"p", "a"⟩ 1 1024 (by simp) hbody hm
    (.inr (.inl rfl))
  exact ⟨⟨_, rfl⟩, h.1.mpr fun _ => .inl rfl, h.2.mpr fun _ => .inl rfl⟩

/-- A body with one message. -/
def bodyOf (m : Dict) : Dict := [("model", .str "m"), ("messages", .arr [.obj m])]

/-- A system message. -/
def instruction : Dict := [("role", .str "system"), ("content", .str "Be brief.")]

/-- An instruction and a tool's answer become another text, and a remark beside a tool call is
lost. -/
theorem textPart_sent_otherwise :
    ¬ OutcomeRel Eq SameChatKwargs
        (sentToOpenai Runtime.plain plainConversions ⟨"p", "a"⟩ 1 1024 (bodyOf instruction))
        (sentToOpenai Runtime.plain plainConversions ⟨"p", "a"⟩ 1 1024
          (OrderedDict.insert (bodyOf instruction) "messages"
            (.arr [.obj (withTextPart instruction "Be brief.")]))) ∧
    ¬ OutcomeRel Eq SameMessageKwargs
        (sentToAnthropic Runtime.plain plainConversions ⟨"p", "a"⟩ 1 1024 (bodyOf toolAnswer))
        (sentToAnthropic Runtime.plain plainConversions ⟨"p", "a"⟩ 1 1024
          (OrderedDict.insert (bodyOf toolAnswer) "messages"
            (.arr [.obj (withTextPart toolAnswer "Rome")]))) ∧
    ¬ OutcomeRel Eq SameMessageKwargs
        (sentToAnthropic Runtime.plain plainConversions ⟨"p", "a"⟩ 1 1024 (bodyOf remarkAndCall))
        (sentToAnthropic Runtime.plain plainConversions ⟨"p", "a"⟩ 1 1024
          (OrderedDict.insert (bodyOf remarkAndCall) "messages"
            (.arr [.obj (withTextPart remarkAndCall "Let me look.")]))) := by
  refine ⟨fun h => ?_, fun h => ?_, fun h => ?_⟩
  · have hbody : Dict.get (bodyOf instruction) "messages" = .arr ([] ++ .obj instruction :: []) :=
      rfl
    have hm : Dict.get instruction "content" = .str "Be brief." := rfl
    have hrole := (sentToOpenai_textPart_iff ⟨"p", "a"⟩ 1 (by simp) hbody hm
      (.inl rfl)).mp h ⟨_, rfl⟩
    simp [instruction] at hrole
  · have hbody : Dict.get (bodyOf toolAnswer) "messages" = .arr ([] ++ .obj toolAnswer :: []) := rfl
    have hm : Dict.get toolAnswer "content" = .str "Rome" := rfl
    have hrole := (sentToAnthropic_textPart_iff ⟨"p", "a"⟩ 1 (by simp) hbody hm
      (.inr (.inr (.inr rfl)))).mp h ⟨_, rfl⟩
    simp [toolAnswer] at hrole
  · have hbody : Dict.get (bodyOf remarkAndCall) "messages" =
        .arr ([] ++ .obj remarkAndCall :: []) := rfl
    have hm : Dict.get remarkAndCall "content" = .str "Let me look." := rfl
    have hrole := (sentToAnthropic_textPart_iff ⟨"p", "a"⟩ 1 (by simp) hbody hm
      (.inr (.inr (.inl rfl)))).mp h ⟨_, rfl⟩
    rcases hrole with hrole | ⟨-, hcalls⟩
    · simp [remarkAndCall] at hrole
    · cases hcalls

end AgentCtl
