import AgentCtl.Providers.Alternation

set_option relaxedAutoImplicit false
set_option autoImplicit false

/-!
# Translation to Anthropic form is a projection

A request carries messages of either dialect, and `openai_messages_to_anthropic` is applied to all
of them. It leaves messages alone that are in Anthropic form already, and all that it returns is in
Anthropic form; so it changes nothing the second time.

## Main definitions

* `AgentCtl.IsPlain` — nothing in the message is to be translated.
* `AgentCtl.IsSettled` — the message is translated to itself.

## Main results

* `AgentCtl.openaiMessagesToAnthropic_settled` — settled messages are returned as they are.
* `AgentCtl.openaiMessagesToAnthropic_projection` — what is returned is plain and settled, and plain
  messages are returned as they are.
-/

namespace AgentCtl

open Except

/-! ## Messages that are left alone -/

/-- Nothing in the message is to be translated: it is no tool message, has no tool calls, and no
image or audio in OpenAI form among its content blocks. -/
structure IsPlain (m : Dict) : Prop where
  tool : hasRole "tool" m = false
  calls : hasToolCalls m = false
  image : ∀ b ∈ blocksOf m, (blockType b).eqStr "image_url" = false
  audio : ∀ b ∈ blocksOf m, (blockType b).eqStr "input_audio" = false

/-- The message is translated to itself. -/
structure IsSettled (py : Runtime) (m : Dict) : Prop where
  tool : hasRole "tool" m = false
  calls : hasToolCalls m = false
  content : translateContent py m = .ok m

variable {py : Runtime}

/-- Between messages that are neither tool messages nor have tool calls nothing is pending, and each
is its translated content. -/
lemma openaiMessagesFrom_nil_cons {m : Dict} (htool : hasRole "tool" m = false)
    (hcalls : hasToolCalls m = false) (ms : List Dict) :
    openaiMessagesFrom py [] (m :: ms) = (do
      let m' ← translateContent py m
      return m' :: (← openaiMessagesFrom py [] ms)) := by
  rw [openaiMessagesFrom_cons htool]
  cases hm : translateContent py m with
  | error e => simp [messageToAnthropic, hm]
  | ok m' =>
    rw [messageToAnthropic_nil hm, hcalls, if_neg Bool.false_ne_true]
    rfl

/-- Settled messages are returned as they are. -/
lemma openaiMessagesToAnthropic_settled {messages : List Dict}
    (h : ∀ m ∈ messages, IsSettled py m) :
    openaiMessagesToAnthropic py messages = .ok messages := by
  change openaiMessagesFrom py [] messages = .ok messages
  induction messages with
  | nil => rfl
  | cons m ms ih =>
    obtain ⟨hm, hms⟩ := List.forall_mem_cons.mp h
    rw [openaiMessagesFrom_nil_cons hm.tool hm.calls, hm.content, ih hms]
    rfl

/-- Content that is translated to itself block by block. -/
lemma translateContent_eq_self {m : Dict}
    (h : ∀ b ∈ blocksOf m, openaiBlockToAnthropic py b = .ok b) :
    translateContent py m = .ok m := by
  unfold translateContent
  split
  next content hcontent =>
    have hblocks : content.mapM (openaiBlockToAnthropic py) = .ok content := by
      rw [List.mapM_ok fun b hb => h b (by simpa [blocksOf, hcontent] using hb), List.map_id']
    have hget : m.get? "content" = some (.arr content) := by
      unfold Dict.get OrderedDict.getD at hcontent
      cases hv : m.get? "content" with
      | none =>
        rw [hv] at hcontent
        cases hcontent
      | some v =>
        rw [hv] at hcontent
        exact congrArg some hcontent
    rw [hblocks, ok_bind, OrderedDict.insert_eq_self hget]
    rfl
  next => rfl

/-! ## What is returned is settled -/

/-- A translated block is translated to itself. -/
lemma openaiBlockToAnthropic_settled {b b' : Json} (h : openaiBlockToAnthropic py b = .ok b') :
    openaiBlockToAnthropic py b' = .ok b' := by
  have hcases := openaiBlockToAnthropic_cases h
  by_cases htype : (blockType b).eqStr "image_url" = true
  · rw [if_pos htype] at hcases
    obtain ⟨d, source, url, -, -, rfl, -⟩ := hcases
    simp [openaiBlockToAnthropic, imageBlock]
  · rw [if_neg htype] at hcases
    rwa [hcases] at h ⊢

/-- A text block is translated to itself. -/
lemma textBlocks_settled {s : Str} {b : Json} (hb : b ∈ textBlocks s) :
    openaiBlockToAnthropic py b = .ok b := by
  unfold textBlocks at hb
  split at hb
  · cases hb
  · obtain rfl := List.mem_singleton.mp hb
    simp [openaiBlockToAnthropic]

/-- The block of a tool message is translated to itself. -/
lemma toolResultBlock_settled (m : Dict) :
    openaiBlockToAnthropic py (toolResultBlock m) = .ok (toolResultBlock m) := by
  simp [openaiBlockToAnthropic, toolResultBlock]

/-- The block of a tool call is translated to itself. -/
lemma calledBlock_settled (call : Dict) :
    openaiBlockToAnthropic py (.obj (calledBlock py call)) = .ok (.obj (calledBlock py call)) := by
  simp [openaiBlockToAnthropic, calledBlock]

/-- The blocks of translated content are translated to themselves. -/
lemma blocks_translateContent_settled {m m' : Dict} (h : translateContent py m = .ok m') :
    ∀ b ∈ blocksOf m', openaiBlockToAnthropic py b = .ok b := by
  unfold translateContent at h
  split at h
  next content hcontent =>
    obtain ⟨blocks, hblocks, h⟩ := bind_eq_ok.mp h
    obtain rfl := Except.ok.inj h
    intro b hb
    have hb : b ∈ blocks := by simpa [blocksOf, Dict.get_insert] using hb
    obtain ⟨b₀, -, hb₀⟩ := (List.mem_mapM_iff hblocks b).mp hb
    exact openaiBlockToAnthropic_settled hb₀
  next c hc =>
    obtain rfl := Except.ok.inj h
    intro b hb
    have hnil : blocksOf m = [] := by
      unfold blocksOf
      cases hv : m.get "content" with
      | arr content => exact absurd hv (hc content)
      | _ => rfl
    rw [hnil] at hb
    cases hb

/-- A message of blocks that are translated to themselves is settled. -/
lemma roleMessage_settled {role : Str} (hrole : role ≠ "tool") {blocks : List Json}
    (h : ∀ b ∈ blocks, openaiBlockToAnthropic py b = .ok b) : IsSettled py (roleMessage role blocks)
    where
  tool := by simpa using hrole
  calls := by simp [hasToolCalls, roleMessage, Json.truthy]
  content := translateContent_eq_self (by simpa [blocksOf, roleMessage] using h)

/-- Pending results are sent as a settled message. -/
lemma flushToolResults_settled {pending : List Json}
    (h : ∀ b ∈ pending, openaiBlockToAnthropic py b = .ok b) :
    ∀ m ∈ flushToolResults pending, IsSettled py m := by
  unfold flushToolResults
  split
  next => simp
  next =>
    intro m hm
    obtain rfl := List.mem_singleton.mp hm
    exact roleMessage_settled (by simp : ("user" : Str) ≠ "tool") h

/-- A message with tool calls becomes a settled one. -/
lemma toolCallsMessage_settled {m msg : Dict} (h : toolCallsMessage py m = .ok msg) :
    IsSettled py msg := by
  unfold toolCallsMessage at h
  obtain ⟨calls, -, h⟩ := bind_eq_ok.mp h
  obtain ⟨uses, huses, h⟩ := bind_eq_ok.mp h
  obtain rfl := Except.ok.inj h
  refine roleMessage_settled (by simp : ("assistant" : Str) ≠ "tool") fun b hb => ?_
  rcases List.mem_append.mp hb with hb | hb
  · cases hc : m.get "content" with
    | str s =>
      rw [hc] at hb
      exact textBlocks_settled hb
    | _ =>
      rw [hc] at hb
      cases hb
  · obtain ⟨tc, -, htc⟩ := (List.mem_mapM_iff huses b).mp hb
    obtain ⟨call, -, rfl⟩ := callToToolUse_eq htc
    exact calledBlock_settled call

/-- What one message becomes is settled. -/
lemma messageToAnthropic_settled {pending : List Json} {m : Dict} {out : List Dict}
    (htool : hasRole "tool" m = false)
    (hpending : ∀ b ∈ pending, openaiBlockToAnthropic py b = .ok b)
    (h : messageToAnthropic py pending m = .ok out) : ∀ m' ∈ out, IsSettled py m' := by
  unfold messageToAnthropic at h
  obtain ⟨m', hm', h⟩ := bind_eq_ok.mp h
  have hblocks := blocks_translateContent_settled hm'
  split at h
  next =>
    -- the pending results and the blocks of a user are one message
    obtain rfl := Except.ok.inj h
    intro u hu
    obtain rfl := List.mem_singleton.mp hu
    refine roleMessage_settled (by simp : ("user" : Str) ≠ "tool") fun b hb => ?_
    rcases List.mem_append.mp hb with hb | hb
    · exact hpending b hb
    · unfold blocksOf at hblocks
      cases hc : m'.get "content" with
      | str s =>
        rw [hc] at hb
        exact textBlocks_settled hb
      | arr blocks =>
        rw [hc] at hb hblocks
        exact hblocks b hb
      | _ =>
        rw [hc] at hb
        cases hb
  next =>
    split at h
    next =>
      obtain ⟨msg, hmsg, h⟩ := bind_eq_ok.mp h
      obtain rfl := Except.ok.inj h
      refine List.forall_mem_append.mpr ⟨flushToolResults_settled hpending, ?_⟩
      rintro a ha
      obtain rfl := List.mem_singleton.mp ha
      exact toolCallsMessage_settled hmsg
    next hcalls =>
      obtain rfl := Except.ok.inj h
      refine List.forall_mem_append.mpr ⟨flushToolResults_settled hpending, ?_⟩
      rintro a ha
      obtain rfl := List.mem_singleton.mp ha
      refine ⟨?_, ?_, translateContent_eq_self hblocks⟩
      · unfold hasRole at htool ⊢
        rwa [get_translateContent hm' (by simp)]
      · unfold hasToolCalls
        rw [get_translateContent hm' (by simp), get_translateContent hm' (by simp)]
        simpa using hcalls

/-- All that the loop sends is settled. -/
lemma openaiMessagesFrom_settled (messages : List Dict) {pending : List Json} {out : List Dict}
    (hpending : ∀ b ∈ pending, openaiBlockToAnthropic py b = .ok b)
    (h : openaiMessagesFrom py pending messages = .ok out) : ∀ m ∈ out, IsSettled py m := by
  induction messages generalizing pending out with
  | nil =>
    obtain rfl := Except.ok.inj h
    exact flushToolResults_settled hpending
  | cons m ms ih =>
    by_cases htool : hasRole "tool" m = true
    · rw [openaiMessagesFrom_tool htool] at h
      refine ih (List.forall_mem_append.mpr ⟨hpending, ?_⟩) h
      intro b hb
      obtain rfl := List.mem_singleton.mp hb
      exact toolResultBlock_settled m
    · have htool : hasRole "tool" m = false := by simpa using htool
      rw [openaiMessagesFrom_cons htool] at h
      obtain ⟨out₁, hout₁, h⟩ := bind_eq_ok.mp h
      obtain ⟨rest, hrest, h⟩ := bind_eq_ok.mp h
      obtain rfl := Except.ok.inj h
      exact List.forall_mem_append.mpr
        ⟨messageToAnthropic_settled htool hpending hout₁, ih (by simp) hrest⟩

/-! ## Plain messages are settled -/

/-- A plain message whose content can be translated is settled. -/
lemma IsPlain.settled {m m' : Dict} (hm : IsPlain m) (h : translateContent py m = .ok m') :
    IsSettled py m := by
  refine ⟨hm.tool, hm.calls, translateContent_eq_self fun b hb => ?_⟩
  unfold translateContent at h
  split at h
  next content hcontent =>
    obtain ⟨blocks, hblocks, -⟩ := bind_eq_ok.mp h
    have hmem : b ∈ content := by simpa [blocksOf, hcontent] using hb
    obtain ⟨b', hb'⟩ := (List.returns_mapM _ _).mp ⟨blocks, hblocks⟩ b hmem
    have hcases := openaiBlockToAnthropic_cases hb'
    rw [if_neg (by simp [hm.image b hb])] at hcases
    rwa [hcases] at hb'
  next c hc =>
    unfold blocksOf at hb
    cases hv : m.get "content" with
    | arr content => exact absurd hv (hc content)
    | _ =>
      rw [hv] at hb
      cases hb

/-! ## Settled messages are plain -/

/-- A block that is translated to itself is no image or audio in OpenAI form. -/
lemma blockType_of_translated {b : Json} (h : openaiBlockToAnthropic py b = .ok b) :
    (blockType b).eqStr "image_url" = false ∧ (blockType b).eqStr "input_audio" = false := by
  constructor
  · have hcases := openaiBlockToAnthropic_cases h
    by_contra himage
    rw [if_pos (by simpa using himage)] at hcases
    obtain ⟨d, source, url, -, -, hself, -⟩ := hcases
    rw [hself] at himage
    simp [blockType, imageBlock] at himage
  · cases b with
    | obj d =>
      rw [openaiBlockToAnthropic] at h
      obtain ⟨_, hunsupported, -⟩ := bind_eq_ok.mp h
      by_contra haudio
      have htype : (Dict.get d "type").eqStr "input_audio" = true := by
        simpa [blockType] using haudio
      unfold rejectUnsupported at hunsupported
      obtain ⟨-, -, hrefused⟩ := bind_eq_ok.mp hunsupported
      rw [if_pos htype] at hrefused
      cases hrefused
    | _ => rfl

/-- A settled message is plain. -/
lemma IsSettled.plain {m : Dict} (h : IsSettled py m) : IsPlain m := by
  have hblocks := blocks_translateContent_settled h.content
  exact ⟨h.tool, h.calls, fun b hb => (blockType_of_translated (hblocks b hb)).1,
    fun b hb => (blockType_of_translated (hblocks b hb)).2⟩

/-- Plain messages that are translated are settled. -/
lemma settled_of_isPlain {messages out : List Dict} (hplain : ∀ m ∈ messages, IsPlain m)
    (h : openaiMessagesFrom py [] messages = .ok out) : ∀ m ∈ messages, IsSettled py m := by
  induction messages generalizing out with
  | nil => simp
  | cons m ms ih =>
    obtain ⟨hm, hms⟩ := List.forall_mem_cons.mp hplain
    rw [openaiMessagesFrom_nil_cons hm.tool hm.calls] at h
    obtain ⟨m', hm', h⟩ := bind_eq_ok.mp h
    obtain ⟨rest, hrest, -⟩ := bind_eq_ok.mp h
    exact List.forall_mem_cons.mpr ⟨hm.settled hm', ih hms hrest⟩

/-- An image in OpenAI form. -/
def pictureMessage : Dict :=
  [("role", .str "assistant"), ("content", .arr [.obj [("type", .str "image_url"),
    ("image_url", .str "data:image/png;base64,AAAA")]])]

/-- **The translation is a projection.** What it returns it returns unchanged the second time, and
no message of it is a tool message, has tool calls, or has an image or audio in OpenAI form; and
messages that are none of these and have none of these are returned as they are. -/
theorem openaiMessagesToAnthropic_projection (py : Runtime) (messages out : List Dict)
    (h : openaiMessagesToAnthropic py messages = .ok out) :
    openaiMessagesToAnthropic py out = .ok out ∧ (∀ m ∈ out, IsPlain m) ∧
      ((∀ m ∈ messages, IsPlain m) → out = messages) := by
  have hsettled := openaiMessagesFrom_settled messages (by simp) h
  refine ⟨openaiMessagesToAnthropic_settled hsettled, fun m hm => (hsettled m hm).plain,
    fun hplain => ?_⟩
  have hsame := openaiMessagesToAnthropic_settled (settled_of_isPlain hplain h)
  rw [hsame] at h
  exact (Except.ok.inj h).symm

/-- A conversation with tool results and an image is translated, and then left alone. -/
theorem toolConversation_projection :
    ∃ out, openaiMessagesToAnthropic .plain (toolConversation ++ [pictureMessage]) = .ok out ∧
      openaiMessagesToAnthropic .plain out = .ok out := by
  obtain ⟨hsame, -⟩ :=
    openaiMessagesToAnthropic_projection .plain (toolConversation ++ [pictureMessage]) _ rfl
  exact ⟨_, rfl, hsame⟩

end AgentCtl
