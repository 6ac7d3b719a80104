import AgentCtl.Library.Piecewise
import AgentCtl.Providers.BlocksInOpenai

set_option relaxedAutoImplicit false
set_option autoImplicit false

/-!
# What the translators keep of a conversation

Both translators work message by message on the messages of users and assistants whose content is a
list of blocks, and raise nothing of the gateway's own on valid ones. So they keep all blocks of a
conversation if they keep those of each message. The Anthropic translator passes blocks on, but
leaves them out of an assistant message that has tool calls beside them.

## Main definitions

* `AgentCtl.InAnthropic` — a block is represented in messages for an Anthropic backend.
* `AgentCtl.IsCalled` — a block is that of a tool call beside it.

## Main results

* `AgentCtl.translators_conserve_iff` — when the translators keep every block.
-/

namespace AgentCtl

open Except

/-! ## What Anthropic messages say -/

/-- Is the value of an `image_url` block a URL, an object with one, or nothing? -/
def isUrlValue : Json → Bool
  | .null => true
  | .str _ => true
  | .obj iu => OrderedDict.has iu "url" || iu.isEmpty
  | _ => false

/-- The source of an image is what a URL says: base64 data for a `data:` URI, the URL otherwise. -/
def PictureFrom (source : Dict) (url : Str) : Prop :=
  if url.startsWith "data:" = true then
    source.get "type" = .str "base64" ∧ source.get "data" = .str (url.partition 44).2.2 ∧
      source.get "media_type" =
        (Json.str (Str.splitHead 59 ((url.partition 44).1.drop 5))).orElse (.str "image/png")
  else source.get "type" = .str "url" ∧ source.get "url" = .str url

/-- A message shows the image of a URL as an image block. -/
def ShowsPicture (m : Dict) (url : Json) : Prop :=
  ∃ (p source : Dict) (u : Str), .obj p ∈ blocksOf m ∧ p.get "type" = .str "image" ∧
    p.get "source" = .obj source ∧ url = .str u ∧ PictureFrom source u

/-- A block is represented in Anthropic messages: an image by its URL, if it has one, as an image
block, and any other block as it is. -/
def InAnthropic (out : List Dict) (b : Json) : Prop :=
  ∃ m ∈ out,
    match b with
    | .obj d =>
      if (Dict.get d "type").eqStr "image_url" then
        isUrlValue (Dict.get d "image_url") = true ∧ ShowsPicture m (imageUrlOf d)
      else HasBlock m b
    | b => HasBlock m b

/-- An `image_url` block has a URL. -/
def hasUrl : Json → Bool
  | .obj d => !(Dict.get d "type").eqStr "image_url" || isUrlValue (Dict.get d "image_url")
  | _ => true

/-- The tool calls of a message, in OpenAI form. -/
def toolCallsOf (m : Dict) : List Json :=
  match m.get "tool_calls" with
  | .arr calls => calls
  | _ => []

/-- Is the message one of an assistant with tool calls? -/
def hasToolCalls (m : Dict) : Bool :=
  (m.get "role").eqStr "assistant" && (m.get "tool_calls").truthy

/-- The input that the arguments of a tool call stand for: `{}` where they are no JSON text. -/
def inputOf (py : Runtime) : Json → Json
  | .str s =>
    if s = [] then .obj []
    else
      match py.loads s with
      | .ok v => v
      | .error _ => .obj []
  | _ => .obj []

/-- The `tool_use` block that a tool call stands for. -/
def calledBlock (py : Runtime) (call : Dict) : Dict :=
  [("type", .str "tool_use"), ("id", call.get "id" (.str "")),
    ("name", (dictOf (call.get "function")).get "name" (.str "")),
    ("input", inputOf py ((dictOf (call.get "function")).get "arguments" (.str "")))]

/-- A block is the `tool_use` block of a tool call beside it. -/
def IsCalled (py : Runtime) (m : Dict) (b : Json) : Prop :=
  ∃ call : Dict, .obj call ∈ toolCallsOf m ∧ Json.Same b (.obj (calledBlock py call))

/-! ## The Anthropic translator -/

section Anthropic

variable {py : Runtime}

/-- No tool results are pending between messages with lists of blocks, so that each of them is
translated on its own. -/
lemma piecewise_openaiMessagesToAnthropic :
    Piecewise BlockMessage (openaiMessagesToAnthropic py) (messageToAnthropic py []) := by
  intro messages hmessages
  show openaiMessagesFrom py [] messages = _
  induction messages with
  | nil => rfl
  | cons m ms ih =>
    obtain ⟨hm, hms⟩ := List.forall_mem_cons.mp hmessages
    have htool : (m.get "role").eqStr "tool" = false := by
      rcases hm.role with hrole | hrole <;> exact eqStr_unique hrole (by simp)
    rw [openaiMessagesFrom_cons htool, ih hms, List.mapM_cons]
    cases messageToAnthropic py [] m with
    | error e => rfl
    | ok out => cases ms.mapM (messageToAnthropic py []) <;> rfl

/-- A message that no results are pending for. -/
lemma messageToAnthropic_nil {m m' : Dict} (h : translateContent py m = .ok m') :
    messageToAnthropic py [] m =
      if hasToolCalls m then (do return [← toolCallsMessage py m']) else .ok [m'] := by
  have hpending : ((m.get "role").eqStr "user" && !([] : List Json).isEmpty) = false := by simp
  unfold messageToAnthropic hasToolCalls
  rw [h, ok_bind, hpending, if_neg Bool.false_ne_true]
  rfl

/-- The block that a valid block becomes: an image for an image URL, itself otherwise. -/
lemma openaiBlockToAnthropic_cases {b b' : Json} (h : openaiBlockToAnthropic py b = .ok b') :
    if (blockType b).eqStr "image_url" then
      ∃ (d source : Dict) (url : Str), b = .obj d ∧ imageUrlOf d = .str url ∧
        b' = .obj (imageBlock source) ∧ PictureFrom source url
    else b' = b := by
  cases b with
  | obj d =>
    rw [openaiBlockToAnthropic] at h
    obtain ⟨-, -, h⟩ := bind_eq_ok.mp h
    unfold blockType
    dsimp only
    by_cases htype : (Dict.get d "type").eqStr "image_url" = true
    · rw [if_pos htype] at h ⊢
      obtain ⟨image, himage, h⟩ := bind_eq_ok.mp h
      obtain rfl := Except.ok.inj h
      unfold openaiImageUrlToAnthropic at himage
      obtain ⟨url, hurl, himage⟩ := bind_eq_ok.mp himage
      have hstr : imageUrlOf d = .str url := by
        unfold checkImageUrl at hurl
        split at hurl
        · split at hurl
          · dsimp only at hurl
            split at hurl
            · cases hurl
            · rename_i hu _ _
              rw [hu, Except.ok.inj hurl]
          · rename_i hu _
            rw [hu, Except.ok.inj hurl]
        · cases hurl
      by_cases hdata : url.startsWith "data:" = true
      · rw [if_pos hdata] at himage
        obtain rfl := Except.ok.inj himage
        refine ⟨d, _, url, rfl, hstr, rfl, ?_⟩
        unfold PictureFrom
        rw [if_pos hdata]
        refine ⟨by simp, by simp, ?_⟩
        by_cases hnil : Str.splitHead 59 ((url.partition 44).1.drop 5) = []
        · simp [Json.orElse, Json.truthy, hnil]
        · simp [Json.orElse, Json.truthy, hnil]
      · rw [if_neg hdata] at himage
        obtain rfl := Except.ok.inj himage
        refine ⟨d, _, url, rfl, hstr, rfl, ?_⟩
        unfold PictureFrom
        rw [if_neg hdata]
        exact ⟨by simp, by simp⟩
    · rw [if_neg htype] at h ⊢
      exact (Except.ok.inj h).symm
  | _ => exact (Except.ok.inj h).symm

/-- A message without tool calls keeps all its blocks, images if they have a URL. -/
lemma inAnthropic_translateContent_iff {m m' : Dict} (h : translateContent py m = .ok m') {b : Json}
    (hb : b ∈ blocksOf m) : InAnthropic [m'] b ↔ hasUrl b = true := by
  unfold translateContent at h
  unfold blocksOf at hb
  split at h
  · next content hcontent =>
    rw [hcontent] at hb
    obtain ⟨blocks, hblocks, h⟩ := bind_eq_ok.mp h
    obtain rfl := Except.ok.inj h
    obtain ⟨b', hb'⟩ := (List.returns_mapM _ _).mp ⟨blocks, hblocks⟩ b hb
    have hmem : b' ∈ blocks := (List.mem_mapM_iff hblocks b').mpr ⟨b, hb, hb'⟩
    have hmem : b' ∈ blocksOf (OrderedDict.insert m "content" (.arr blocks)) := by
      unfold blocksOf
      rw [Dict.get_insert, if_pos rfl]
      exact hmem
    have hkept := openaiBlockToAnthropic_cases hb'
    unfold InAnthropic hasUrl
    simp only [List.mem_singleton, exists_eq_left]
    cases b with
    | obj d =>
      unfold blockType at hkept
      dsimp only at hkept ⊢
      split
      · next htype =>
        rw [if_pos htype] at hkept
        obtain ⟨d', source, url, hd, hurl, rfl, hpicture⟩ := hkept
        obtain rfl := Json.obj.inj hd
        have hshows : ShowsPicture (OrderedDict.insert m "content" (.arr blocks)) (imageUrlOf d) :=
          ⟨imageBlock source, source, url, hmem, by simp [imageBlock], by simp [imageBlock], hurl,
            hpicture⟩
        rw [htype, Bool.not_true, Bool.false_or]
        exact and_iff_left hshows
      · next htype =>
        rw [if_neg htype] at hkept
        rw [Bool.eq_false_of_not_eq_true htype, Bool.not_false, Bool.true_or]
        exact iff_of_true ⟨b', hmem, hkept ▸ .refl _⟩ rfl
    | _ => exact iff_of_true ⟨b', hmem, hkept ▸ .refl _⟩ rfl
  · next hne =>
    split at hb
    · next blocks hblocks => exact absurd hblocks (hne blocks)
    · cases hb

/-- Arguments that can be read are read as their input. -/
lemma parseArguments_eq {v args : Json} (h : parseArguments py v = .ok args) :
    args = inputOf py v := by
  unfold parseArguments at h
  cases v with
  | str s =>
    unfold inputOf
    dsimp only
    by_cases hnil : s = []
    · rw [if_pos (by simp [hnil, Json.truthy])] at h
      rw [if_pos hnil]
      exact (Except.ok.inj h).symm
    · rw [if_neg (by simp [hnil, Json.truthy])] at h
      rw [if_neg hnil]
      dsimp only at h
      cases hloads : py.loads s with
      | ok w =>
        rw [hloads] at h
        exact (Except.ok.inj h).symm
      | error e =>
        rw [hloads] at h
        simp only at h
        split at h
        · exact (Except.ok.inj h).symm
        · cases h
  | _ => split at h <;> exact (Except.ok.inj h).symm

/-- A tool call that can be read becomes its block. -/
lemma callToToolUse_eq {tc u : Json} (h : callToToolUse py tc = .ok u) :
    ∃ call : Dict, tc = .obj call ∧ u = .obj (calledBlock py call) := by
  unfold callToToolUse at h
  obtain ⟨call, hcall, h⟩ := bind_eq_ok.mp h
  obtain ⟨fn, hfn, h⟩ := bind_eq_ok.mp h
  obtain ⟨args, hargs, h⟩ := bind_eq_ok.mp h
  obtain rfl := Except.ok.inj h
  have hshape := (returns_asDict_orElse (call.get "function")).mp ⟨fn, hfn⟩
  rw [asDict_orElse hshape] at hfn
  obtain rfl := Except.ok.inj hfn
  refine ⟨call, ?_, by rw [parseArguments_eq hargs]; rfl⟩
  cases tc with
  | obj d =>
    obtain rfl := Except.ok.inj hcall
    rfl
  | _ => cases hcall

/-- A message with tool calls keeps no block but those of the calls. -/
lemma inAnthropic_toolCalls_iff {m msg : Dict} {blocks : List Json}
    (hcontent : m.get "content" = .arr blocks) (htruthy : (m.get "tool_calls").truthy = true)
    (hmsg : toolCallsMessage py m = .ok msg) (b : Json) :
    InAnthropic [msg] b ↔ IsCalled py m b := by
  have hshape := (returns_toolCallsMessage htruthy).mp ⟨msg, hmsg⟩
  split at hshape
  · next calls hcalls =>
    unfold toolCallsMessage at hmsg
    simp only [hcontent, hcalls, Json.elements, ok_bind, List.nil_append] at hmsg
    obtain ⟨uses, huses, hmsg⟩ := bind_eq_ok.mp hmsg
    obtain rfl := Except.ok.inj hmsg
    have hmem : ∀ u, u ∈ blocksOf [("role", .str "assistant"), ("content", .arr uses)] ↔
        ∃ call : Dict, .obj call ∈ calls ∧ u = .obj (calledBlock py call) := by
      intro u
      have huse : u ∈ blocksOf [("role", .str "assistant"), ("content", .arr uses)] ↔ u ∈ uses := by
        simp [blocksOf]
      rw [huse, List.mem_mapM_iff huses]
      constructor
      · rintro ⟨tc, htc, hu⟩
        obtain ⟨call, rfl, rfl⟩ := callToToolUse_eq hu
        exact ⟨call, htc, rfl⟩
      · rintro ⟨call, hcall, rfl⟩
        obtain ⟨u, hu⟩ := (List.returns_mapM _ _).mp ⟨uses, huses⟩ _ hcall
        obtain ⟨_, hd, rfl⟩ := callToToolUse_eq hu
        obtain rfl := Json.obj.inj hd
        exact ⟨_, hcall, hu⟩
    have hhas : HasBlock [("role", .str "assistant"), ("content", .arr uses)] b ↔
        IsCalled py m b := by
      unfold HasBlock IsCalled toolCallsOf
      rw [hcalls]
      constructor
      · rintro ⟨u, hu, hsame⟩
        obtain ⟨call, hcall, rfl⟩ := (hmem u).mp hu
        exact ⟨call, hcall, hsame⟩
      · rintro ⟨call, hcall, hsame⟩
        exact ⟨_, (hmem _).mpr ⟨call, hcall, rfl⟩, hsame⟩
    unfold InAnthropic
    simp only [List.mem_singleton, exists_eq_left]
    cases b with
    | obj d =>
      dsimp only
      split
      · next htype =>
        -- the calls of a message are no images
        refine iff_of_false ?_ ?_
        · rintro ⟨-, p, source, url, hp, himage, -⟩
          obtain ⟨call, -, he⟩ := (hmem _).mp hp
          obtain rfl := Json.obj.inj he
          simp [calledBlock] at himage
        · rintro ⟨call, -, hsame⟩
          rw [hsame.eqStr_get] at htype
          simp [calledBlock] at htype
      · exact hhas
    | _ => exact hhas
  · cases hshape

/-- A block that a message with tool calls keeps has no image without a location. -/
lemma IsCalled.hasUrl {m : Dict} {b : Json} (h : IsCalled py m b) : hasUrl b = true := by
  obtain ⟨call, -, hsame⟩ := h
  cases b with
  | obj d =>
    have htype := hsame.eqStr_get "type" "image_url"
    have huse : (Dict.get (calledBlock py call) "type").eqStr "image_url" = false := by
      simp [calledBlock]
    rw [AgentCtl.hasUrl, htype, huse]
    rfl
  | _ => rfl

/-- A validated message of blocks keeps all of them if it can be translated, its images have URLs
and any tool calls are those of its blocks. -/
lemma keeps_messageToAnthropic {m : Dict} (hm : BlockMessage m)
    (hvalid : ∀ content, m.get "content" = .arr content →
      ∀ b ∈ content, validateBlock py b = .ok ()) :
    (∃ out, messageToAnthropic py [] m = .ok out ∧ ∀ b ∈ blocksOf m, InAnthropic out b) ↔
      AnthropicShaped.message py m = true ∧ (∀ b ∈ blocksOf m, hasUrl b = true) ∧
        (hasToolCalls m = true → ∀ b ∈ blocksOf m, IsCalled py m b) := by
  obtain ⟨m', hm', hcalls⟩ := translateContent_ok hvalid
  obtain ⟨content, hcontent⟩ := hm.content
  have hcontent' : ∃ blocks, m'.get "content" = .arr blocks := by
    unfold translateContent at hm'
    rw [hcontent] at hm'
    obtain ⟨blocks, -, hm'⟩ := bind_eq_ok.mp hm'
    obtain rfl := Except.ok.inj hm'
    exact ⟨blocks, by rw [Dict.get_insert, if_pos rfl]⟩
  obtain ⟨blocks, hblocks⟩ := hcontent'
  rw [messageToAnthropic_nil hm']
  by_cases hhas : hasToolCalls m = true
  · have htruthy : (m'.get "tool_calls").truthy = true := by
      rw [hcalls]
      exact ((Bool.and_eq_true _ _).mp hhas).2
    have hshape : AnthropicShaped.message py m = true ↔ (toolCallsMessage py m').Returns := by
      rw [returns_toolCallsMessage htruthy, hcalls, AnthropicShaped.message]
      unfold hasToolCalls at hhas
      rw [hhas, Bool.not_true, Bool.false_or]
    have hcalled : ∀ b, IsCalled py m' b ↔ IsCalled py m b := by
      intro b
      unfold IsCalled toolCallsOf
      rw [hcalls]
    rw [if_pos hhas, hshape]
    constructor
    · rintro ⟨out, hout, hkept⟩
      obtain ⟨msg, hmsg, hout⟩ := bind_eq_ok.mp hout
      obtain rfl := Except.ok.inj hout
      have hall : ∀ b ∈ blocksOf m, IsCalled py m b := fun b hb =>
        (hcalled b).mp ((inAnthropic_toolCalls_iff hblocks htruthy hmsg b).mp (hkept b hb))
      exact ⟨⟨msg, hmsg⟩, fun b hb => (hall b hb).hasUrl, fun _ => hall⟩
    · rintro ⟨⟨msg, hmsg⟩, -, hall⟩
      refine ⟨[msg], by rw [hmsg]; rfl, fun b hb => ?_⟩
      have hcall := (hcalled b).mpr (hall hhas b hb)
      exact (inAnthropic_toolCalls_iff hblocks htruthy hmsg b).mpr hcall
  · have hshape : AnthropicShaped.message py m = true := by
      unfold hasToolCalls at hhas
      rw [AnthropicShaped.message, Bool.eq_false_of_not_eq_true hhas]
      rfl
    rw [if_neg hhas]
    constructor
    · rintro ⟨out, hout, hkept⟩
      obtain rfl := Except.ok.inj hout
      refine ⟨hshape, fun b hb => ?_, fun h => absurd h hhas⟩
      exact (inAnthropic_translateContent_iff hm' hb).mp (hkept b hb)
    · rintro ⟨-, hall, -⟩
      refine ⟨[m'], rfl, fun b hb => ?_⟩
      exact (inAnthropic_translateContent_iff hm' hb).mpr (hall b hb)

end Anthropic

/-! ## Conversations -/

/-- A message is translated as it is, or not at all. -/
lemma piecewise_anthropicMessagesToOpenai (py : Runtime) :
    Piecewise BlockMessage (anthropicMessagesToOpenai py) (anthropicMessageToOpenai py) :=
  fun _ _ => rfl

section Conversations

variable {py : Runtime} {messages : List Dict} {toolChoice : Option ToolChoice}
  (hblocks : ∀ m ∈ messages, BlockMessage m)
  (hvalid : validateLocalContent py messages toolChoice = .ok ())

include hblocks hvalid

/-- What the OpenAI translator keeps of a conversation. -/
lemma conserves_anthropicMessagesToOpenai :
    Conserves (fun e => e.isTerminal = true) (anthropicMessagesToOpenai py)
        (fun m out => ∀ b ∈ blocksOf m, InOpenai py out b) messages ↔
      ∀ m ∈ messages, OpenAIShaped.message m = true ∧ ∀ b ∈ blocksOf m, isReadBlock m b = true := by
  have hcontent := (of_validateLocalContent hvalid).1
  have hraises : ∀ m ∈ messages, (anthropicMessageToOpenai py m).Raises
      fun e => ¬ e.isTerminal = true := by
    intro m hm e he
    rw [(raises_anthropicMessageToOpenai (hcontent m hm) e he).isTerminal]
    exact Bool.false_ne_true
  rw [(piecewise_anthropicMessagesToOpenai py).conserves_iff hblocks hraises]
  exact forall₂_congr fun m hm => keeps_anthropicMessageToOpenai (hblocks m hm) (hcontent m hm)

/-- What the Anthropic translator keeps of a conversation. -/
lemma conserves_openaiMessagesToAnthropic (hloads : ∀ s, (py.loads s).Raises Exc.IsForeign) :
    Conserves (fun e => e.isTerminal = true) (openaiMessagesToAnthropic py)
        (fun m out => ∀ b ∈ blocksOf m, InAnthropic out b) messages ↔
      ∀ m ∈ messages, AnthropicShaped.message py m = true ∧ (∀ b ∈ blocksOf m, hasUrl b = true) ∧
        (hasToolCalls m = true → ∀ b ∈ blocksOf m, IsCalled py m b) := by
  have hcontent := (of_validateLocalContent hvalid).1
  have hraises : ∀ m ∈ messages, (messageToAnthropic py [] m).Raises
      fun e => ¬ e.isTerminal = true := by
    intro m hm e he
    rw [(raises_messageToAnthropic hloads (hcontent m hm) [] e he).isTerminal]
    exact Bool.false_ne_true
  rw [piecewise_openaiMessagesToAnthropic.conserves_iff hblocks hraises]
  exact forall₂_congr fun m hm => keeps_messageToAnthropic (hblocks m hm) (hcontent m hm)

/-- **Which blocks are kept.** Of validated messages with lists of blocks, the OpenAI translator
keeps every block if it can translate the messages and they have no blocks but those it reads; the
Anthropic translator keeps every block if it can translate them, image URLs are URLs, and an
assistant message with tool calls has no blocks but those of its calls. -/
theorem translators_conserve_iff (hloads : ∀ s, (py.loads s).Raises Exc.IsForeign) :
    (Conserves (fun e => e.isTerminal = true) (anthropicMessagesToOpenai py)
        (fun m out => ∀ b ∈ blocksOf m, InOpenai py out b) messages ↔
      ∀ m ∈ messages, OpenAIShaped.message m = true ∧ ∀ b ∈ blocksOf m, isReadBlock m b = true) ∧
    (Conserves (fun e => e.isTerminal = true) (openaiMessagesToAnthropic py)
        (fun m out => ∀ b ∈ blocksOf m, InAnthropic out b) messages ↔
      ∀ m ∈ messages, AnthropicShaped.message py m = true ∧ (∀ b ∈ blocksOf m, hasUrl b = true) ∧
        (hasToolCalls m = true → ∀ b ∈ blocksOf m, IsCalled py m b)) :=
  ⟨conserves_anthropicMessagesToOpenai hblocks hvalid,
    conserves_openaiMessagesToAnthropic hblocks hvalid hloads⟩

end Conversations

/-- A question about a picture, a tool call and its result. -/
def pictureConversation : List Dict :=
  [[("role", .str "user"),
    ("content", .arr [.obj [("type", .str "text"), ("text", .str "Where is this?")],
      .obj [("type", .str "image"), ("source", .obj [("type", .str "url"),
        ("url", .str "https://example.com/a.png")])]])],
   [("role", .str "assistant"),
    ("content", .arr [.obj [("type", .str "tool_use"), ("id", .str "t1"), ("name", .str "look"),
      ("input", .obj [])]])],
   [("role", .str "user"),
    ("content", .arr [.obj [("type", .str "tool_result"), ("tool_use_id", .str "t1"),
      ("content", .str "Rome")]])]]

/-- Its messages have lists of blocks. -/
lemma blockMessage_pictureConversation : ∀ m ∈ pictureConversation, BlockMessage m := by
  simp only [pictureConversation, List.forall_mem_cons, List.not_mem_nil, false_implies,
    implies_true, and_true]
  exact ⟨⟨.inl rfl, _, rfl⟩, ⟨.inr rfl, _, rfl⟩, ⟨.inl rfl, _, rfl⟩⟩

/-- Both translators keep it. -/
theorem translators_conserve_iff_pictureConversation :
    Conserves (fun e => e.isTerminal = true) (anthropicMessagesToOpenai Runtime.plain)
        (fun m out => ∀ b ∈ blocksOf m, InOpenai Runtime.plain out b) pictureConversation ∧
    Conserves (fun e => e.isTerminal = true) (openaiMessagesToAnthropic Runtime.plain)
        (fun m out => ∀ b ∈ blocksOf m, InAnthropic out b) pictureConversation := by
  have hloads : ∀ s, (Runtime.plain.loads s).Raises Exc.IsForeign := fun s =>
    (raises_error _).mpr ⟨rfl, rfl, rfl⟩
  have hvalid : validateLocalContent Runtime.plain pictureConversation none = .ok () := rfl
  obtain ⟨hopenai, hanthropic⟩ := translators_conserve_iff blockMessage_pictureConversation hvalid
    hloads
  refine ⟨hopenai.mpr ?_, hanthropic.mpr ?_⟩
  · have hall : (pictureConversation.all fun m =>
        OpenAIShaped.message m && (blocksOf m).all (isReadBlock m)) = true := by decide
    simpa using hall
  · have hall : (pictureConversation.all fun m =>
        AnthropicShaped.message Runtime.plain m && (blocksOf m).all hasUrl && !hasToolCalls m) =
        true := by decide
    intro m hm
    obtain ⟨hshape, hno⟩ := (Bool.and_eq_true _ _).mp (List.all_eq_true.mp hall m hm)
    obtain ⟨hshape, hurl⟩ := (Bool.and_eq_true _ _).mp hshape
    exact ⟨hshape, List.all_eq_true.mp hurl, fun hhas => by simp [hhas] at hno⟩

/-- An assistant message with a picture. -/
def pictureAnswer : Dict :=
  [("role", .str "assistant"), ("content", .arr [.obj [("type", .str "image_url"),
    ("image_url", .obj [("url", .str "https://example.com/a.png")])]])]

/-- An assistant message with a text block, and a tool call beside it. -/
def textAndCall : Dict :=
  [("role", .str "assistant"),
    ("content", .arr [.obj [("type", .str "text"), ("text", .str "Let me look.")]]),
    ("tool_calls", .arr [.obj [("id", .str "t1"), ("type", .str "function"),
      ("function", .obj [("name", .str "look"), ("arguments", .str "\x7b\x7d")])]])]

/-- The OpenAI translator drops the picture, and the Anthropic translator the text. -/
theorem blocks_dropped :
    (validateLocalContent Runtime.plain [pictureAnswer] none = .ok () ∧
      BlockMessage pictureAnswer ∧
      ¬ Conserves (fun e => e.isTerminal = true) (anthropicMessagesToOpenai Runtime.plain)
        (fun m out => ∀ b ∈ blocksOf m, InOpenai Runtime.plain out b) [pictureAnswer]) ∧
    (validateLocalContent Runtime.plain [textAndCall] none = .ok () ∧ BlockMessage textAndCall ∧
      ¬ Conserves (fun e => e.isTerminal = true) (openaiMessagesToAnthropic Runtime.plain)
        (fun m out => ∀ b ∈ blocksOf m, InAnthropic out b) [textAndCall]) := by
  have hpicture : BlockMessage pictureAnswer := ⟨.inr rfl, _, rfl⟩
  have hvalid : validateLocalContent Runtime.plain [pictureAnswer] none = .ok () := rfl
  have htext : BlockMessage textAndCall := ⟨.inr rfl, _, rfl⟩
  have hvalid' : validateLocalContent Runtime.plain [textAndCall] none = .ok () := rfl
  refine ⟨⟨hvalid, hpicture, fun h => ?_⟩, ⟨hvalid', htext, fun h => ?_⟩⟩
  · have hread := ((conserves_anthropicMessagesToOpenai (by simpa using hpicture) hvalid).mp h
      pictureAnswer (by simp)).2 _ (List.mem_singleton_self _)
    exact absurd hread (by decide)
  · have hloads : ∀ s, (Runtime.plain.loads s).Raises Exc.IsForeign := fun s =>
      (raises_error _).mpr ⟨rfl, rfl, rfl⟩
    obtain ⟨call, hcall, hsame⟩ := ((conserves_openaiMessagesToAnthropic (by simpa using htext)
      hvalid' hloads).mp h textAndCall (by simp)).2.2 rfl _ (List.mem_singleton_self _)
    have htype := hsame.eqStr_get "type" "text"
    simp [calledBlock] at htype

end AgentCtl
