import AgentCtl.Library.ExceptList
import AgentCtl.Providers.OpenAIProvider

set_option relaxedAutoImplicit false
set_option autoImplicit false

/-!
# Messages that are in OpenAI form already

A request that enters over HTTP carries OpenAI messages, and an OpenAI-compatible backend should
get them as they are. The translator rebuilds every message whose content is no block list from
its role and content alone, so the tool calls of an assistant and the call ids of tool messages
do not survive.

## Main definitions

* `AgentCtl.OpenAIMessage` — chat messages in OpenAI form with string or null content.
* `AgentCtl.SameConversation` — equal messages, key by key.

## Main results

* `AgentCtl.chatMessages_openAIForm` — what `_chat_kwargs` sends for OpenAI messages.
* `AgentCtl.openAIForm_sent_unchanged_iff` — the messages sent are the messages given exactly when
  none of them carries tool calls or a tool call id.
-/

namespace AgentCtl

/-- A chat message in OpenAI form with string or null content. An assistant message may carry
tool calls, and a tool message carries the id of the call it answers. -/
structure OpenAIMessage (m : Dict) : Prop where
  keys : ∀ k ∈ m.keys, k ∈ ([("role" : Str), "content", "tool_calls", "tool_call_id"] : List Str)
  role : m.get? "role" ∈ [some (.str "user"), some (.str "assistant"), some (.str "tool")]
  content : m.get? "content" = some .null ∨ ∃ s, m.get? "content" = some (.str s)
  toolCalls : ∀ v, m.get? "tool_calls" = some v →
    m.get? "role" = some (.str "assistant") ∧ ∃ calls, v = .arr calls
  toolCallId : (m.get? "role" = some (.str "tool") ∧ ∃ id, m.get? "tool_call_id" = some (.str id)) ∨
    (m.get? "role" ≠ some (.str "tool") ∧ m.get? "tool_call_id" = none)

/-- Two conversations are equal, message by message. -/
def SameConversation (ms ms' : List Dict) : Prop := List.Forall₂ Dict.Same ms ms'

/-- What the translator keeps of a message without content blocks. -/
def roleAndContent (m : Dict) : Dict := [("role", m.get "role"), ("content", m.get "content")]

/-- The message that carries the system text of a request, if it has one. -/
def systemMessages (request : NormalizedRequest) : List Dict :=
  match request.system with
  | some s => [[("role", .str "system"), ("content", .str s)]]
  | none => []

variable (py : Runtime)

/-- A message whose content is no block list keeps its role and content only. -/
lemma anthropicMessageToOpenai_openAIForm {m : Dict} (h : OpenAIMessage m) :
    anthropicMessageToOpenai py m = .ok [roleAndContent m] := by
  have hget : m.get "content" = (m.get? "content").getD .null := rfl
  unfold anthropicMessageToOpenai roleAndContent
  rcases h.content with hc | ⟨s, hc⟩
  · simp [hget, hc]
  · simp [hget, hc]

/-- The translation of a conversation in OpenAI form. -/
lemma anthropicMessagesToOpenai_openAIForm {ms : List Dict} (h : ∀ m ∈ ms, OpenAIMessage m) :
    anthropicMessagesToOpenai py ms = .ok (ms.map roleAndContent) := by
  unfold anthropicMessagesToOpenai
  rw [List.mapM_ok fun m hm => anthropicMessageToOpenai_openAIForm py (h m hm)]
  have hflat : (ms.map fun m => [roleAndContent m]).flatten = ms.map roleAndContent := by
    induction ms with
    | nil => rfl
    | cons m ms ih => simpa using ih fun x hx => h x (List.mem_cons_of_mem _ hx)
  simp [hflat]

/-- The messages of `_chat_kwargs` for a conversation in OpenAI form. -/
lemma chatMessages_openAIForm {request : NormalizedRequest}
    (h : ∀ m ∈ request.messages, OpenAIMessage m) :
    chatMessages py request =
      .ok (systemMessages request ++ request.messages.map roleAndContent) := by
  unfold chatMessages systemMessages
  rw [anthropicMessagesToOpenai_openAIForm py h]
  cases request.system <;> rfl

/-- The messages in the keyword arguments are those of `chatMessages`. -/
lemma chatKwargs_messages {target : Target} {request : NormalizedRequest} {timeout : ℚ}
    {kwargs : ChatKwargs} (h : chatKwargs py target request timeout = .ok kwargs) :
    chatMessages py request = .ok kwargs.messages := by
  unfold chatKwargs at h
  cases hm : chatMessages py request with
  | error e => simp [hm] at h
  | ok messages =>
    cases ht : chatTools request with
    | error e => simp [hm, ht] at h
    | ok tools =>
      cases hc : chatToolChoice request with
      | error e => simp [hm, ht, hc] at h
      | ok toolChoice =>
        simp only [hm, ht, hc, Except.ok_bind, Except.pure_eq_ok, Except.ok.injEq] at h
        rw [← h]

/-- A message in OpenAI form survives when it has nothing beside its role and content. -/
lemma same_roleAndContent_iff {m : Dict} (h : OpenAIMessage m) :
    Dict.Same m (roleAndContent m) ↔
      m.get? "tool_calls" = none ∧ m.get? "tool_call_id" = none := by
  have hrole : m.get? "role" = some (m.get "role") := by
    have hr := h.role
    simp only [List.mem_cons, List.not_mem_nil, or_false] at hr
    rcases hr with hr | hr | hr <;> simp [Dict.get, OrderedDict.getD, hr]
  have hcontent : m.get? "content" = some (m.get "content") := by
    rcases h.content with hc | ⟨s, hc⟩ <;> simp [Dict.get, OrderedDict.getD, hc]
  constructor
  · intro hs
    exact ⟨by simpa [roleAndContent] using hs "tool_calls",
      by simpa [roleAndContent] using hs "tool_call_id"⟩
  · rintro ⟨hcalls, hid⟩ k
    by_cases hk : k ∈ m.keys
    · have hmem := h.keys k hk
      simp only [List.mem_cons, List.not_mem_nil, or_false] at hmem
      rcases hmem with rfl | rfl | rfl | rfl <;> simp [roleAndContent, hrole, hcontent, hcalls, hid]
    · have hnone : m.get? k = none := by
        rw [OrderedDict.mem_keys_iff] at hk
        simpa using hk
      have h1 : k ≠ "role" := by
        rintro rfl
        simp [hrole] at hnone
      have h2 : k ≠ "content" := by
        rintro rfl
        simp [hcontent] at hnone
      simp [roleAndContent, hnone, Ne.symm h1, Ne.symm h2]

/-- **OpenAI messages survive only without tool history.** For a conversation in OpenAI form,
`_chat_kwargs` sends, behind the system text, the conversation it was given exactly when no message
of it carries tool calls or a tool call id. -/
theorem openAIForm_sent_unchanged_iff (request : NormalizedRequest)
    (h : ∀ m ∈ request.messages, OpenAIMessage m) :
    ∃ sent, anthropicMessagesToOpenai py request.messages = .ok sent ∧
      (∀ target timeout kwargs, chatKwargs py target request timeout = .ok kwargs →
        kwargs.messages = systemMessages request ++ sent) ∧
      (SameConversation request.messages sent ↔
        ∀ m ∈ request.messages, m.get? "tool_calls" = none ∧ m.get? "tool_call_id" = none) := by
  refine ⟨request.messages.map roleAndContent, anthropicMessagesToOpenai_openAIForm py h, ?_, ?_⟩
  · intro target timeout kwargs hk
    have hm := chatKwargs_messages py hk
    rw [chatMessages_openAIForm py h] at hm
    exact (Except.ok.inj hm).symm
  · unfold SameConversation
    rw [List.forall₂_map_right_iff, List.forall₂_same]
    exact forall₂_congr fun m hm => same_roleAndContent_iff (h m hm)

/-- A tool loop as it enters over HTTP: a question, the assistant's tool call, its result. -/
def weatherLoop : List Dict :=
  [[("role", .str "user"), ("content", .str "Weather in Paris?")],
   [("role", .str "assistant"), ("content", .null),
    ("tool_calls", .arr [.obj [("id", .str "call_1"), ("type", .str "function"),
      ("function", .obj [("name", .str "get_weather"),
        ("arguments", .str "\x7b\"city\": \"Paris\"\x7d")])]])],
   [("role", .str "tool"), ("tool_call_id", .str "call_1"), ("content", .str "18C")]]

/-- The tool loop is in OpenAI form. -/
lemma openAIMessage_weatherLoop : ∀ m ∈ weatherLoop, OpenAIMessage m := by
  intro m hm
  simp only [weatherLoop, List.mem_cons, List.not_mem_nil, or_false] at hm
  rcases hm with rfl | rfl | rfl <;> constructor <;> simp [OrderedDict.keys]

/-- The request that carries it. -/
def weatherRequest : NormalizedRequest := { model := "gpt-4o", messages := weatherLoop }

/-- What is sent for the tool loop. -/
theorem openAIForm_sent_unchanged_iff_weatherLoop :
    ∃ sent, anthropicMessagesToOpenai Runtime.plain weatherLoop = .ok sent ∧
      (SameConversation weatherLoop sent ↔
        ∀ m ∈ weatherLoop, m.get? "tool_calls" = none ∧ m.get? "tool_call_id" = none) := by
  obtain ⟨sent, hs, -, hiff⟩ :=
    openAIForm_sent_unchanged_iff Runtime.plain weatherRequest openAIMessage_weatherLoop
  exact ⟨sent, hs, hiff⟩

/-- The backend gets the tool loop without its call and without the id of the result. -/
theorem weatherLoop_loses_tool_history :
    (∀ m ∈ weatherLoop, OpenAIMessage m) ∧
      ∃ kwargs, chatKwargs Runtime.plain ⟨"openai", "gpt-4o"⟩ weatherRequest 60 = .ok kwargs ∧
        ¬ SameConversation weatherLoop kwargs.messages := by
  have hsent : anthropicMessagesToOpenai Runtime.plain weatherRequest.messages =
      .ok (weatherLoop.map roleAndContent) :=
    anthropicMessagesToOpenai_openAIForm _ openAIMessage_weatherLoop
  refine ⟨openAIMessage_weatherLoop,
    ⟨"gpt-4o", weatherLoop.map roleAndContent, 1024, 60, none, none, none⟩, ?_, ?_⟩
  · simp only [chatKwargs, chatMessages, hsent]
    rfl
  · intro h
    have htool := (List.forall₂_iff_get.mp h).2 2 (by decide) (by decide)
    have hid := htool "tool_call_id"
    simp [weatherLoop, roleAndContent] at hid

end AgentCtl
