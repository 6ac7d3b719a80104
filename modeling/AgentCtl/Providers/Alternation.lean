import AgentCtl.Providers.Conservation
import Mathlib.Data.List.Chain

set_option relaxedAutoImplicit false
set_option autoImplicit false

/-!
# Roles alternate in Anthropic form

An Anthropic backend wants messages of users and assistants in turn. The results of tools are
messages of their own in OpenAI form; the translator keeps them in a buffer, and sends them as the
first blocks of the next user message, or as a user message before the next assistant message. So
the roles of a well-ordered OpenAI conversation alternate after the translation, and every result is
sent once.

## Main definitions

* `AgentCtl.ToolOrder` — users, assistants and tools in the order OpenAI's form has them.
* `AgentCtl.toolResultIds` — the calls that the results in a message answer.
* `AgentCtl.Buffered` — what the buffer says about the last message.

## Main results

* `AgentCtl.openaiMessagesToAnthropic_alternates` — roles alternate, and every result is there.
-/

namespace AgentCtl

open Except

/-! ## Conversations with tools -/

/-- Is the message one of this role? -/
def hasRole (role : Str) (m : Dict) : Bool := (m.get "role").eqStr role

/-- What may follow a message: users and assistants take turns, and the results of tools follow an
assistant message or one another. -/
structure MayFollow (a b : Dict) : Prop where
  user : hasRole "user" b = true → hasRole "user" a = false
  assistant : hasRole "assistant" b = true → hasRole "assistant" a = false
  tool : hasRole "tool" b = true → hasRole "assistant" a = true ∨ hasRole "tool" a = true

/-- The id of the call that a `tool_result` block answers. -/
def toolResultId? : Json → Option Json
  | .obj d =>
    if (Dict.get d "type").eqStr "tool_result" then some (Dict.get d "tool_use_id") else none
  | _ => none

/-- The ids of the calls that the results in a message answer. -/
def toolResultIds (m : Dict) : List Json := (blocksOf m).filterMap toolResultId?

/-- The id of the call that a tool message answers. -/
def toolCallId (m : Dict) : Json := m.get "tool_call_id" (.str "")

/-- An OpenAI conversation: no two user messages and no two assistant messages stand side by side,
every run of tool messages directly follows an assistant message, and users send no results. -/
structure ToolOrder (messages : List Dict) : Prop where
  roles : ∀ m ∈ messages,
    hasRole "user" m = true ∨ hasRole "assistant" m = true ∨ hasRole "tool" m = true
  first : ∀ m ∈ messages.head?, hasRole "tool" m = false
  adjacent : messages.IsChain MayFollow
  results : ∀ m ∈ messages, hasRole "user" m = true → toolResultIds m = []

/-! ## One message -/

section Message

variable {py : Runtime}

/-- A translated block answers what it answered before. -/
lemma toolResultId_openaiBlockToAnthropic {b b' : Json} (h : openaiBlockToAnthropic py b = .ok b') :
    toolResultId? b' = toolResultId? b := by
  have hcases := openaiBlockToAnthropic_cases h
  by_cases htype : (blockType b).eqStr "image_url" = true
  · rw [if_pos htype] at hcases
    obtain ⟨d, source, url, rfl, -, rfl, -⟩ := hcases
    have hd : (Dict.get d "type").eqStr "tool_result" = false := eqStr_unique htype (by simp)
    simp [toolResultId?, imageBlock, hd]
  · rw [if_neg htype] at hcases
    rw [hcases]

/-- Translated blocks answer what they answered before. -/
lemma filterMap_openaiBlockToAnthropic {content blocks : List Json}
    (h : content.mapM (openaiBlockToAnthropic py) = .ok blocks) :
    blocks.filterMap toolResultId? = content.filterMap toolResultId? := by
  have hrel := List.mapM_eq_ok h
  clear h
  induction hrel with
  | nil => rfl
  | cons hb _ ih =>
    rw [List.filterMap_cons, List.filterMap_cons, toolResultId_openaiBlockToAnthropic hb, ih]

/-- Translated content answers what it answered before. -/
lemma toolResultIds_translateContent {m m' : Dict} (h : translateContent py m = .ok m') :
    toolResultIds m' = toolResultIds m := by
  unfold translateContent at h
  split at h
  next content hcontent =>
    obtain ⟨blocks, hblocks, h⟩ := bind_eq_ok.mp h
    obtain rfl := Except.ok.inj h
    have hm : blocksOf m = content := by simp [blocksOf, hcontent]
    have hm' : blocksOf (m.insert "content" (.arr blocks)) = blocks := by
      simp [blocksOf, Dict.get_insert]
    unfold toolResultIds
    rw [hm, hm', filterMap_openaiBlockToAnthropic hblocks]
  next => rw [Except.ok.inj h]

/-- Text blocks answer nothing. -/
@[simp] lemma filterMap_textBlocks (s : Str) : (textBlocks s).filterMap toolResultId? = [] := by
  unfold textBlocks
  split
  · rfl
  · simp [toolResultId?]

/-- The block of a tool message answers its call. -/
@[simp] lemma toolResultId_toolResultBlock (m : Dict) :
    toolResultId? (toolResultBlock m) = some (toolCallId m) := by
  simp [toolResultId?, toolResultBlock, toolCallId]

/-- The blocks that a user message adds to the pending ones answer what the message answers. -/
lemma filterMap_userBlocks (m : Dict) :
    (userBlocks (m.get "content")).filterMap toolResultId? = toolResultIds m := by
  unfold toolResultIds blocksOf
  cases m.get "content" <;> simp [userBlocks]

/-- A message of its role with these blocks. -/
def roleMessage (role : Str) (blocks : List Json) : Dict :=
  [("role", .str role), ("content", .arr blocks)]

@[simp] lemma hasRole_roleMessage (role role' : Str) (blocks : List Json) :
    hasRole role (roleMessage role' blocks) = decide (role' = role) := by
  simp [hasRole, roleMessage]

@[simp] lemma toolResultIds_roleMessage (role : Str) (blocks : List Json) :
    toolResultIds (roleMessage role blocks) = blocks.filterMap toolResultId? := by
  simp [toolResultIds, blocksOf, roleMessage]

/-- A message with tool calls is an assistant message that answers nothing. -/
lemma of_toolCallsMessage {m msg : Dict} (h : toolCallsMessage py m = .ok msg) :
    hasRole "assistant" msg = true ∧ toolResultIds msg = [] := by
  unfold toolCallsMessage at h
  obtain ⟨calls, -, h⟩ := bind_eq_ok.mp h
  obtain ⟨uses, huses, h⟩ := bind_eq_ok.mp h
  obtain rfl := Except.ok.inj h
  have hnone : uses.filterMap toolResultId? = [] := by
    refine List.filterMap_eq_nil_iff.mpr fun u hu => ?_
    obtain ⟨tc, -, htc⟩ := (List.mem_mapM_iff huses u).mp hu
    obtain ⟨call, -, rfl⟩ := callToToolUse_eq htc
    simp [toolResultId?, calledBlock]
  refine ⟨by simp [hasRole], ?_⟩
  change List.filterMap toolResultId? (_ ++ uses) = []
  rw [List.filterMap_append, hnone, List.append_nil]
  cases m.get "content" <;> simp

/-- Pending results are sent as a message that answers their calls, if there are any. -/
lemma flatMap_flushToolResults (pending : List Json) :
    (flushToolResults pending).flatMap toolResultIds = pending.filterMap toolResultId? := by
  unfold flushToolResults
  split
  next h => simp [h]
  next =>
    rw [List.flatMap_cons, List.flatMap_nil, List.append_nil]
    exact toolResultIds_roleMessage "user" pending

/-- A user message is translated to one user message, with the pending results before its own
blocks. -/
lemma messageToAnthropic_user {pending : List Json} {m : Dict} {out : List Dict}
    (hm : hasRole "user" m = true) (h : messageToAnthropic py pending m = .ok out) :
    ∃ u, out = [u] ∧ hasRole "user" u = true ∧
      toolResultIds u = pending.filterMap toolResultId? ++ toolResultIds m := by
  unfold messageToAnthropic at h
  obtain ⟨m', hm', h⟩ := bind_eq_ok.mp h
  have hids := toolResultIds_translateContent hm'
  have hassistant : (m.get "role").eqStr "assistant" = false := eqStr_unique hm (by simp)
  unfold hasRole at hm
  rw [hm, hassistant, Bool.true_and, Bool.false_and, if_neg Bool.false_ne_true] at h
  cases pending with
  | nil =>
    obtain rfl := Except.ok.inj h
    refine ⟨m', rfl, ?_, by simp [hids]⟩
    unfold hasRole
    rwa [get_translateContent hm' (by simp)]
  | cons b bs =>
    obtain rfl := Except.ok.inj h
    refine ⟨roleMessage "user" (b :: bs ++ userBlocks (m'.get "content")), rfl, by simp, ?_⟩
    rw [toolResultIds_roleMessage, List.filterMap_append, filterMap_userBlocks, hids]

/-- An assistant message is translated to one assistant message, after the pending results. It
answers nothing unless the message did. -/
lemma messageToAnthropic_assistant {pending : List Json} {m : Dict} {out : List Dict}
    (hm : hasRole "assistant" m = true) (h : messageToAnthropic py pending m = .ok out) :
    ∃ a, out = flushToolResults pending ++ [a] ∧ hasRole "assistant" a = true ∧
      (toolResultIds m = [] → toolResultIds a = []) := by
  unfold messageToAnthropic at h
  obtain ⟨m', hm', h⟩ := bind_eq_ok.mp h
  have huser : (m.get "role").eqStr "user" = false := eqStr_unique hm (by simp)
  unfold hasRole at hm
  rw [huser, hm, Bool.false_and, Bool.true_and, if_neg Bool.false_ne_true] at h
  split at h
  next =>
    obtain ⟨msg, hmsg, h⟩ := bind_eq_ok.mp h
    obtain rfl := Except.ok.inj h
    exact ⟨msg, rfl, (of_toolCallsMessage hmsg).1, fun _ => (of_toolCallsMessage hmsg).2⟩
  next =>
    obtain rfl := Except.ok.inj h
    refine ⟨m', rfl, ?_, fun h => by rw [toolResultIds_translateContent hm', h]⟩
    unfold hasRole
    rwa [get_translateContent hm' (by simp)]

end Message

/-! ## The buffer -/

/-- What the buffer says about the messages so far. It holds results exactly after a tool message,
and then the last message sent was an assistant's; after any other message that one was sent
last. -/
def Buffered (pending : List Json) (last : Option Str) : Option Dict → Prop
  | none => pending = [] ∧ last = none
  | some m =>
    hasRole "tool" m = true ∧ pending ≠ [] ∧ last = some "assistant" ∨
      hasRole "user" m = true ∧ pending = [] ∧ last = some "user" ∨
      hasRole "assistant" m = true ∧ pending = [] ∧ last = some "assistant"

/-- What is sent after a message of the role given takes turns with it. -/
def AlternatesAfter (last : Option Str) : List Dict → Prop
  | [] => True
  | m :: ms => ∃ role : Str, (role = "user" ∨ role = "assistant") ∧ hasRole role m = true ∧
      last ≠ some role ∧ AlternatesAfter (some role) ms

/-- The first message of what is left may follow the one before it. -/
def MayBegin (prev : Option Dict) (m : Dict) : Prop :=
  match prev with
  | none => hasRole "tool" m = false
  | some a => MayFollow a m

/-- No message has two roles. -/
lemma hasRole_unique {m : Dict} {r r' : Str} (h : hasRole r m = true) (hne : r ≠ r') :
    hasRole r' m = false :=
  eqStr_unique h hne

section Loop

variable {py : Runtime} {pending : List Json} {last : Option Str} {prev : Option Dict} {m : Dict}

/-- Before a user message the last message sent is no user's. -/
lemma Buffered.last_ne_user (h : Buffered pending last prev) (hbegin : MayBegin prev m)
    (hm : hasRole "user" m = true) : last ≠ some "user" := by
  cases prev with
  | none => simp [h.2]
  | some a =>
    rcases h with ⟨-, -, rfl⟩ | ⟨ha, -, -⟩ | ⟨-, -, rfl⟩
    · simp
    · rw [hbegin.user hm] at ha
      cases ha
    · simp

/-- Before an assistant message the last message sent is an assistant's exactly if results are
pending. -/
lemma Buffered.before_assistant (h : Buffered pending last prev) (hbegin : MayBegin prev m)
    (hm : hasRole "assistant" m = true) :
    pending = [] ∧ last ≠ some "assistant" ∨ pending ≠ [] ∧ last = some "assistant" := by
  cases prev with
  | none => exact .inl ⟨h.1, by simp [h.2]⟩
  | some a =>
    rcases h with ⟨-, hpending, rfl⟩ | ⟨-, rfl, rfl⟩ | ⟨ha, -, -⟩
    · exact .inr ⟨hpending, rfl⟩
    · exact .inl ⟨rfl, by simp⟩
    · rw [hbegin.assistant hm] at ha
      cases ha

/-- Before a tool message the last message sent is an assistant's. -/
lemma Buffered.last_of_tool (h : Buffered pending last prev) (hbegin : MayBegin prev m)
    (hm : hasRole "tool" m = true) : last = some "assistant" := by
  cases prev with
  | none =>
    rw [show hasRole "tool" m = false from hbegin] at hm
    cases hm
  | some a =>
    rcases h with ⟨-, -, rfl⟩ | ⟨ha, -, -⟩ | ⟨-, -, rfl⟩
    · rfl
    · -- a user message is followed by no tool message
      rcases hbegin.tool hm with h | h
      · rw [hasRole_unique ha (by simp)] at h
        cases h
      · rw [hasRole_unique ha (by simp)] at h
        cases h
    · rfl

/-- After an assistant message or a tool message the buffer is sent before the next message, and
roles alternate if what follows is no user message. -/
lemma alternatesAfter_flush {pending : List Json} {last : Option Str} {a : Dict} {rest : List Dict}
    (hlast : pending = [] ∧ last ≠ some "assistant" ∨ pending ≠ [] ∧ last = some "assistant")
    (ha : hasRole "assistant" a = true) (hrest : AlternatesAfter (some "assistant") rest) :
    AlternatesAfter last (flushToolResults pending ++ a :: rest) := by
  rcases hlast with ⟨rfl, hlast⟩ | ⟨hpending, rfl⟩
  · exact ⟨"assistant", .inr rfl, ha, hlast, hrest⟩
  · unfold flushToolResults
    rw [if_neg hpending]
    refine ⟨"user", .inl rfl, by simp [hasRole], by simp, ?_⟩
    exact ⟨"assistant", .inr rfl, ha, by simp, hrest⟩

/-- The loop sends messages whose roles alternate. The induction is on the messages left, with the
message before them. -/
lemma alternatesAfter_openaiMessagesFrom (messages : List Dict) {pending : List Json}
    {last : Option Str} {prev : Option Dict} {out : List Dict}
    (hbuffered : Buffered pending last prev)
    (hroles : ∀ m ∈ messages,
      hasRole "user" m = true ∨ hasRole "assistant" m = true ∨ hasRole "tool" m = true)
    (hfirst : ∀ m ∈ messages.head?, MayBegin prev m) (hchain : messages.IsChain MayFollow)
    (h : openaiMessagesFrom py pending messages = .ok out) : AlternatesAfter last out := by
  induction messages generalizing pending last prev out with
  | nil =>
    obtain rfl := Except.ok.inj h
    unfold flushToolResults
    split
    next => trivial
    next hpending =>
      refine ⟨"user", .inl rfl, by simp [hasRole], ?_, trivial⟩
      cases prev with
      | none => exact absurd hbuffered.1 hpending
      | some a =>
        rcases hbuffered with ⟨-, -, rfl⟩ | ⟨-, hnil, -⟩ | ⟨-, hnil, -⟩
        · simp
        · exact absurd hnil hpending
        · exact absurd hnil hpending
  | cons m ms ih =>
    obtain ⟨hm, hms⟩ := List.forall_mem_cons.mp hroles
    obtain ⟨hnext, hchain⟩ := List.isChain_cons.mp hchain
    have hbegin : MayBegin prev m := hfirst m rfl
    rcases hm with huser | hassistant | htool
    · rw [openaiMessagesFrom_cons (hasRole_unique huser (by simp))] at h
      obtain ⟨out₁, hout₁, h⟩ := bind_eq_ok.mp h
      obtain ⟨rest, hrest, h⟩ := bind_eq_ok.mp h
      obtain rfl := Except.ok.inj h
      obtain ⟨u, rfl, hu, -⟩ := messageToAnthropic_user huser hout₁
      have hnone : Buffered [] (some "user") (some m) := .inr (.inl ⟨huser, rfl, rfl⟩)
      have htail := ih hnone hms hnext hchain hrest
      exact ⟨"user", .inl rfl, hu, hbuffered.last_ne_user hbegin huser, htail⟩
    · rw [openaiMessagesFrom_cons (hasRole_unique hassistant (by simp))] at h
      obtain ⟨out₁, hout₁, h⟩ := bind_eq_ok.mp h
      obtain ⟨rest, hrest, h⟩ := bind_eq_ok.mp h
      obtain rfl := Except.ok.inj h
      obtain ⟨a, rfl, ha, -⟩ := messageToAnthropic_assistant hassistant hout₁
      have hnone : Buffered [] (some "assistant") (some m) := .inr (.inr ⟨hassistant, rfl, rfl⟩)
      have htail := ih hnone hms hnext hchain hrest
      rw [List.append_assoc]
      exact alternatesAfter_flush (hbuffered.before_assistant hbegin hassistant) ha htail
    · rw [openaiMessagesFrom_tool htool] at h
      have hone : Buffered (pending ++ [toolResultBlock m]) last (some m) :=
        .inl ⟨htool, by simp, hbuffered.last_of_tool hbegin htool⟩
      exact ih hone hms hnext hchain h

/-- What alternates is of users and assistants, and no two neighbours are of one role. -/
lemma AlternatesAfter.isChain {out : List Dict} (h : AlternatesAfter last out) :
    (∀ m ∈ out, hasRole "user" m = true ∨ hasRole "assistant" m = true) ∧
      out.IsChain fun a b => hasRole "user" a ≠ hasRole "user" b := by
  induction out generalizing last with
  | nil => exact ⟨by simp, .nil⟩
  | cons m ms ih =>
    obtain ⟨role, hrole, hm, -, hms⟩ := h
    obtain ⟨hroles, hchain⟩ := ih hms
    refine ⟨List.forall_mem_cons.mpr ⟨?_, hroles⟩, List.isChain_cons.mpr ⟨?_, hchain⟩⟩
    · rcases hrole with rfl | rfl
      · exact .inl hm
      · exact .inr hm
    · intro b hb
      cases ms with
      | nil => cases hb
      | cons c cs =>
        obtain rfl : c = b := by simpa using hb
        obtain ⟨role', hrole', hc, hne, -⟩ := hms
        rcases hrole with rfl | rfl <;> rcases hrole' with rfl | rfl
        · exact absurd rfl hne
        · rw [hm, hasRole_unique hc (by simp)]
          simp
        · rw [hc, hasRole_unique hm (by simp)]
          simp
        · exact absurd rfl hne

/-- The loop sends the pending results and those of the tool messages, in order, in user messages;
nothing else is answered, unless an assistant message answers something. -/
lemma toolResultIds_openaiMessagesFrom (messages : List Dict) {pending : List Json}
    {out : List Dict} (hroles : ∀ m ∈ messages,
      hasRole "user" m = true ∨ hasRole "assistant" m = true ∨ hasRole "tool" m = true)
    (hresults : ∀ m ∈ messages, hasRole "user" m = true → toolResultIds m = [])
    (h : openaiMessagesFrom py pending messages = .ok out) :
    (out.filter (hasRole "user")).flatMap toolResultIds =
        pending.filterMap toolResultId? ++ (messages.filter (hasRole "tool")).map toolCallId ∧
      ((∀ m ∈ messages, hasRole "assistant" m = true → toolResultIds m = []) →
        ∀ m ∈ out, hasRole "user" m = false → toolResultIds m = []) := by
  have hflush : ∀ pending : List Json,
      (flushToolResults pending).filter (hasRole "user") = flushToolResults pending := by
    intro pending
    unfold flushToolResults
    split <;> simp [hasRole]
  have hflushed : ∀ (pending : List Json), ∀ m ∈ flushToolResults pending,
      hasRole "user" m = true := by
    intro pending m hm
    rw [← hflush] at hm
    exact (List.mem_filter.mp hm).2
  induction messages generalizing pending out with
  | nil =>
    obtain rfl := Except.ok.inj h
    refine ⟨by simp [hflush, flatMap_flushToolResults], fun _ m hm hrole => ?_⟩
    rw [hflushed pending m hm] at hrole
    cases hrole
  | cons m ms ih =>
    obtain ⟨hm, hms⟩ := List.forall_mem_cons.mp hroles
    obtain ⟨hresult, hresults⟩ := List.forall_mem_cons.mp hresults
    rcases hm with huser | hassistant | htool
    · rw [openaiMessagesFrom_cons (hasRole_unique huser (by simp))] at h
      obtain ⟨out₁, hout₁, h⟩ := bind_eq_ok.mp h
      obtain ⟨rest, hrest, h⟩ := bind_eq_ok.mp h
      obtain rfl := Except.ok.inj h
      obtain ⟨u, rfl, hu, hids⟩ := messageToAnthropic_user huser hout₁
      obtain ⟨hrestIds, hrestNone⟩ := ih hms hresults hrest
      constructor
      · simp [hu, hids, hresult huser, hrestIds, hasRole_unique huser]
      · intro hassistants b hb hrole
        rcases List.mem_cons.mp hb with rfl | hb
        · rw [hu] at hrole
          cases hrole
        · exact hrestNone (fun a ha => hassistants a (.tail _ ha)) b hb hrole
    · rw [openaiMessagesFrom_cons (hasRole_unique hassistant (by simp))] at h
      obtain ⟨out₁, hout₁, h⟩ := bind_eq_ok.mp h
      obtain ⟨rest, hrest, h⟩ := bind_eq_ok.mp h
      obtain rfl := Except.ok.inj h
      obtain ⟨a, rfl, ha, hids⟩ := messageToAnthropic_assistant hassistant hout₁
      obtain ⟨hrestIds, hrestNone⟩ := ih hms hresults hrest
      have hauser : hasRole "user" a = false := hasRole_unique ha (by simp)
      constructor
      · simp [hflush, flatMap_flushToolResults, hauser, hrestIds, hasRole_unique hassistant]
      · intro hassistants b hb hrole
        rcases List.mem_append.mp hb with hb | hb
        · rcases List.mem_append.mp hb with hb | hb
          · rw [hflushed pending b hb] at hrole
            cases hrole
          · obtain rfl := List.mem_singleton.mp hb
            exact hids (hassistants m (.head _) hassistant)
        · exact hrestNone (fun a ha => hassistants a (.tail _ ha)) b hb hrole
    · rw [openaiMessagesFrom_tool htool] at h
      obtain ⟨hrestIds, hrestNone⟩ := ih hms hresults h
      refine ⟨?_, fun hassistants => hrestNone fun a ha => hassistants a (.tail _ ha)⟩
      simp [hrestIds, htool]

end Loop

/-- Messages whose other roles answer nothing are answered by their user messages. -/
lemma flatMap_toolResultIds_filter {out : List Dict}
    (h : ∀ m ∈ out, hasRole "user" m = false → toolResultIds m = []) :
    out.flatMap toolResultIds = (out.filter (hasRole "user")).flatMap toolResultIds := by
  induction out with
  | nil => rfl
  | cons m ms ih =>
    obtain ⟨hm, hms⟩ := List.forall_mem_cons.mp h
    by_cases huser : hasRole "user" m = true
    · simp [huser, ih hms]
    · simp [huser, hm (by simpa using huser), ih hms]

/-- **Role alternation.** A well-ordered OpenAI conversation that is translated becomes user and
assistant messages in turn. The results in its user messages answer the calls that the tool messages
answered, in their order; and so do all results in it, if no assistant message came with any. -/
theorem openaiMessagesToAnthropic_alternates (py : Runtime) (messages out : List Dict)
    (horder : ToolOrder messages) (h : openaiMessagesToAnthropic py messages = .ok out) :
    (∀ m ∈ out, hasRole "user" m = true ∨ hasRole "assistant" m = true) ∧
      out.IsChain (fun a b => hasRole "user" a ≠ hasRole "user" b) ∧
      (out.filter (hasRole "user")).flatMap toolResultIds =
        (messages.filter (hasRole "tool")).map toolCallId ∧
      ((∀ m ∈ messages, hasRole "assistant" m = true → toolResultIds m = []) →
        out.flatMap toolResultIds = (messages.filter (hasRole "tool")).map toolCallId) := by
  have hempty : Buffered [] none none := ⟨rfl, rfl⟩
  have halternates : AlternatesAfter none out :=
    alternatesAfter_openaiMessagesFrom messages hempty horder.roles horder.first horder.adjacent h
  obtain ⟨hids, hnone⟩ := toolResultIds_openaiMessagesFrom messages horder.roles horder.results h
  refine ⟨halternates.isChain.1, halternates.isChain.2, hids, fun hassistants => ?_⟩
  rw [flatMap_toolResultIds_filter (hnone hassistants)]
  exact hids

/-- Two calls, their results, and a word of the user. -/
def toolConversation : List Dict :=
  [[("role", .str "user"), ("content", .str "compare")],
    [("role", .str "assistant"), ("content", .null),
      ("tool_calls", .arr [.obj [("id", .str "a"), ("function", .obj [("name", .str "read")])],
        .obj [("id", .str "b"), ("function", .obj [("name", .str "read")])]])],
    [("role", .str "tool"), ("tool_call_id", .str "a"), ("content", .str "1")],
    [("role", .str "tool"), ("tool_call_id", .str "b"), ("content", .str "2")],
    [("role", .str "user"), ("content", .str "go on")]]

/-- No message of it has blocks. -/
lemma toolResultIds_toolConversation : ∀ m ∈ toolConversation, toolResultIds m = [] := by
  simp [toolConversation, toolResultIds, blocksOf]

/-- In the conversation each result follows the call it answers. -/
lemma toolOrder_toolConversation : ToolOrder toolConversation where
  roles := by decide
  first := by simp [toolConversation, hasRole]
  adjacent := by
    refine .cons_cons ⟨?_, ?_, ?_⟩ (.cons_cons ⟨?_, ?_, ?_⟩ (.cons_cons ⟨?_, ?_, ?_⟩
      (.cons_cons ⟨?_, ?_, ?_⟩ (.singleton _)))) <;> decide
  results m hm _ := toolResultIds_toolConversation m hm

/-- Its Anthropic form has both results, in messages whose roles alternate. -/
theorem toolConversation_alternates :
    ∃ out, openaiMessagesToAnthropic .plain toolConversation = .ok out ∧
      out.IsChain (fun a b => hasRole "user" a ≠ hasRole "user" b) ∧
      out.flatMap toolResultIds = [.str "a", .str "b"] := by
  obtain ⟨-, hchain, -, hids⟩ :=
    openaiMessagesToAnthropic_alternates .plain toolConversation _ toolOrder_toolConversation rfl
  exact ⟨_, rfl, hchain, hids fun m hm _ => toolResultIds_toolConversation m hm⟩

end AgentCtl
