import AgentCtl.Library.ExceptList
import AgentCtl.Providers.Tooltrans
import Mathlib.Data.List.Chain

set_option relaxedAutoImplicit false
set_option autoImplicit false

/-!
# The two message translators are inverse to each other

An alternating conversation in Anthropic form is a list of turns. Its OpenAI form has a message
for every tool result and one for what a user says beside them; on the way back the results wait
in the buffer `pending` until the user's message, the next assistant message or the end of the
conversation. Turns say what a conversation means; a message *encodes* a turn, with the keys of
its objects in any order.

## Main definitions

* `AgentCtl.Turn`, `AgentCtl.Alternating` — well-formed conversations.
* `AgentCtl.Encodes` — a message of Anthropic form that says what a turn says.
* `AgentCtl.Turn.openai` — the OpenAI messages of a turn.
* `AgentCtl.blockForm` — a message with string content `s` as one with the single block `[text s]`.

## Main results

* `AgentCtl.anthropicMessagesToOpenai_encodes` — the OpenAI form of encoded turns.
* `AgentCtl.openaiMessagesFrom_turns` — the way back, from any pending tool results.
* `AgentCtl.translators_inverse` — both compositions of the translators.
-/

namespace AgentCtl

/-! ## Turns -/

/-- The source of an image: a plain URL, or base64 data with a media type. -/
inductive ImageSource where
  | url (url : Str) (notData : url.startsWith "data:" = false)
  | base64 (mediaType data : Str) (nonempty : mediaType ≠ []) (noSemicolon : 59 ∉ mediaType)
      (noComma : 44 ∉ mediaType)

/-- A part of what a user says. -/
inductive UserPart where
  | text (s : Str)
  | image (src : ImageSource)

/-- A tool call of the assistant; its input is an object. -/
structure ToolUse where
  id : Json
  name : Json
  input : Dict

/-- The result of a tool call. -/
structure ToolResult where
  toolUseId : Json
  text : Str

/-- What a user says after the tool results: nothing, a text, or text and images. -/
inductive Tail where
  | nothing
  | text (s : Str) (nonempty : s ≠ [])
  | parts (ps : List UserPart) (hasImage : ∃ src, .image src ∈ ps)

/-- A turn of the user. -/
structure UserTurn where
  results : List ToolResult
  tail : Tail
  nonempty : results ≠ [] ∨ tail ≠ .nothing

/-- A turn of the assistant: some text, then tool calls. -/
structure AssistantTurn where
  text : Option Str
  calls : List ToolUse
  text_nonempty : text ≠ some []
  nonempty : text.isSome ∨ calls ≠ []

/-- A turn of a conversation. -/
inductive Turn where
  | user (t : UserTurn)
  | assistant (t : AssistantTurn)

/-- Is it a turn of the user? -/
def Turn.isUser : Turn → Bool
  | .user _ => true
  | .assistant _ => false

/-- User and assistant take turns. -/
def Alternating (turns : List Turn) : Prop := turns.IsChain fun a b => a.isUser ≠ b.isUser

/-! ## Anthropic form -/

/-- A content block. -/
inductive Block where
  | part (p : UserPart)
  | toolUse (u : ToolUse)
  | toolResult (r : ToolResult)

/-- The blocks of what follows the tool results. -/
def Tail.userParts : Tail → List UserPart
  | .nothing => []
  | .text s _ => [.text s]
  | .parts ps _ => ps

/-- The blocks of a turn. -/
def Turn.blocks : Turn → List Block
  | .user t => t.results.map .toolResult ++ t.tail.userParts.map .part
  | .assistant t => t.text.toList.map (fun s => .part (.text s)) ++ t.calls.map .toolUse

/-- The role of a turn. -/
def Turn.role : Turn → Str
  | .user _ => "user"
  | .assistant _ => "assistant"

/-- The source of an image block. -/
def ImageSource.source : ImageSource → Dict
  | .url u _ => [("type", .str "url"), ("url", .str u)]
  | .base64 mediaType data _ _ _ =>
    [("type", .str "base64"), ("media_type", .str mediaType), ("data", .str data)]

/-- The entries of a text block. -/
def textBlock (s : Str) : Dict := [("type", .str "text"), ("text", .str s)]

/-- The entries of a `tool_use` block. -/
def ToolUse.block (u : ToolUse) : Dict :=
  [("type", .str "tool_use"), ("id", u.id), ("name", u.name), ("input", .obj u.input)]

/-- The entries of a `tool_result` block. -/
def ToolResult.block (r : ToolResult) : Dict :=
  [("type", .str "tool_result"), ("tool_use_id", r.toolUseId), ("content", .str r.text)]

/-- A JSON value is a content block; the keys of its objects may stand in any order. -/
inductive EncodesBlock : Block → Json → Prop
  | text {s : Str} {d : Dict} (h : Dict.Same d (textBlock s)) :
      EncodesBlock (.part (.text s)) (.obj d)
  | image {src : ImageSource} {d source : Dict} (h : Dict.Same d (imageBlock source))
      (hsource : Dict.Same source src.source) : EncodesBlock (.part (.image src)) (.obj d)
  | toolUse {u : ToolUse} {d : Dict} (h : Dict.Same d u.block) : EncodesBlock (.toolUse u) (.obj d)
  | toolResult {r : ToolResult} {d : Dict} (h : Dict.Same d r.block) :
      EncodesBlock (.toolResult r) (.obj d)

/-- A message content says what the blocks say: it is the list of them, or the text of a single
text block. -/
inductive EncodesContent : List Block → Json → Prop
  | blocks {bs : List Block} {vs : List Json} (h : List.Forall₂ EncodesBlock bs vs) :
      EncodesContent bs (.arr vs)
  | text (s : Str) : EncodesContent [.part (.text s)] (.str s)

/-- A message says what a turn says. -/
def Encodes (t : Turn) (m : Dict) : Prop :=
  ∃ content, Dict.Same m [("role", .str t.role), ("content", content)] ∧
    EncodesContent t.blocks content

/-! ## OpenAI form -/

/-- The URL of an image: its own, or a `data:` URI. -/
def ImageSource.openaiUrl : ImageSource → Str
  | .url u _ => u
  | .base64 mediaType data _ _ _ => "data:" ++ (mediaType ++ (";base64," ++ data))

/-- A part of a user message. -/
def UserPart.openai : UserPart → Dict
  | .text s => textBlock s
  | .image src => [("type", .str "image_url"), ("image_url", .obj [("url", .str src.openaiUrl)])]

/-- A tool call. -/
def ToolUse.openai (u : ToolUse) : Json :=
  .obj [("id", u.id), ("type", .str "function"),
    ("function", .obj [("name", u.name), ("arguments", .str ((Json.obj u.input).dumps false))])]

/-- A tool message. -/
def ToolResult.openai (r : ToolResult) : Dict :=
  [("role", .str "tool"), ("tool_call_id", r.toolUseId), ("content", .str r.text)]

/-- The user message of what follows the tool results. -/
def Tail.openai : Tail → List Dict
  | .nothing => []
  | .text s _ => [[("role", .str "user"), ("content", .str s)]]
  | .parts ps _ => [[("role", .str "user"), ("content", .arr (ps.map fun p => .obj p.openai))]]

/-- The message of an assistant turn. -/
def AssistantTurn.openai (t : AssistantTurn) : Dict :=
  withToolCalls [("role", .str "assistant"), ("content", (t.text.map Json.str).getD .null)]
    (t.calls.map ToolUse.openai)

/-- The OpenAI messages of a turn. -/
def Turn.openai : Turn → List Dict
  | .user t => t.results.map ToolResult.openai ++ t.tail.openai
  | .assistant t => [t.openai]

/-! ## From Anthropic to OpenAI -/

variable (py : Runtime)

/-- An image source has entries. -/
lemma ne_nil_of_source {src : ImageSource} {source : Dict} (h : Dict.Same source src.source) :
    source ≠ [] := by
  rintro rfl
  have htype := h "type"
  cases src <;> simp [ImageSource.source] at htype

/-- The OpenAI form of an encoded image. -/
lemma anthropicImageToOpenai_encodes {src : ImageSource} {d source : Dict}
    (h : Dict.Same d (imageBlock source)) (hsource : Dict.Same source src.source) :
    anthropicImageToOpenai py d = .ok (UserPart.image src).openai := by
  have hd : asDict ((d.get "source").orElse (.obj [])) = .ok source := by
    rw [h.get]
    simp [imageBlock, Json.orElse, Json.truthy,
      ne_nil_of_source hsource, asDict]
  unfold anthropicImageToOpenai
  rw [hd]
  simp only [Except.ok_bind, hsource.get]
  cases src with
  | url u hu =>
    simp [ImageSource.source, UserPart.openai,
      ImageSource.openaiUrl]
  | base64 mediaType data hne hsemi hcomma =>
    simp [ImageSource.source, Json.orElse, Json.truthy, hne,
      Runtime.format, UserPart.openai, ImageSource.openaiUrl]

/-- What a block of a user message becomes. -/
def Block.piece : Block → UserPiece
  | .part p => .part p.openai
  | .toolResult r => .toolMessage r.openai
  | .toolUse _ => .nothing

/-- A content block of a user message in OpenAI form. -/
lemma userBlockToOpenai_encodes {b : Block} {v : Json} (h : EncodesBlock b v) :
    userBlockToOpenai py v = .ok b.piece := by
  cases h with
  | text h =>
    simp [userBlockToOpenai, asDict, h.get, textBlock, Block.piece, UserPart.openai]
  | @image src d source h hsource =>
    have himage := anthropicImageToOpenai_encodes py h hsource
    simp [userBlockToOpenai, asDict, h.get, imageBlock, Block.piece, himage]
  | toolUse h =>
    simp [userBlockToOpenai, asDict, h.get, ToolUse.block, Block.piece]
  | toolResult h =>
    simp [userBlockToOpenai, asDict, h.get, ToolResult.block,
      Json.isStr, resultText, Block.piece,
      ToolResult.openai]

/-- A loop over values related to a list, when every round gives the value of the related one. -/
lemma mapM_of_forall₂ {ε α β γ : Type} {R : α → β → Prop} {f : β → Except ε γ} {g : α → γ}
    (hf : ∀ a b, R a b → f b = .ok (g a)) {xs : List α} {ys : List β} (h : List.Forall₂ R xs ys) :
    ys.mapM f = .ok (xs.map g) := by
  induction h with
  | nil => rfl
  | cons hab _ ih =>
    rw [List.mapM_cons, hf _ _ hab, ih]
    rfl

/-- The pieces of a user turn: a message for each tool result, then the parts. -/
lemma pieces_user (t : UserTurn) :
    ((Turn.user t).blocks.map Block.piece).filterMap UserPiece.toolMessage? =
        t.results.map ToolResult.openai ∧
      ((Turn.user t).blocks.map Block.piece).filterMap UserPiece.part? =
        t.tail.userParts.map UserPart.openai := by
  have hresults : ∀ rs : List ToolResult,
      (rs.map (Block.piece ∘ .toolResult)).filterMap UserPiece.toolMessage? =
          rs.map ToolResult.openai ∧
        (rs.map (Block.piece ∘ .toolResult)).filterMap UserPiece.part? = [] := by
    intro rs
    induction rs with
    | nil => exact ⟨rfl, rfl⟩
    | cons r rs ih => simp [Block.piece, UserPiece.toolMessage?, UserPiece.part?, ih.1]
  have hparts : ∀ ps : List UserPart,
      (ps.map (Block.piece ∘ .part)).filterMap UserPiece.toolMessage? = [] ∧
        (ps.map (Block.piece ∘ .part)).filterMap UserPiece.part? = ps.map UserPart.openai := by
    intro ps
    induction ps with
    | nil => exact ⟨rfl, rfl⟩
    | cons p ps ih => simp [Block.piece, UserPiece.toolMessage?, UserPiece.part?, ih.2]
  simp only [Turn.blocks, List.map_append, List.map_map, List.filterMap_append]
  rw [(hresults _).1, (hresults _).2, (hparts _).1, (hparts _).2]
  simp

/-- The user message of the parts after the tool results. -/
lemma userMessageOf_tail (tail : Tail) :
    userMessageOf (tail.userParts.map UserPart.openai) = .ok tail.openai := by
  cases tail with
  | nothing => rfl
  | text s hs =>
    simp [userMessageOf, Tail.userParts, Tail.openai, UserPart.openai, textBlock,
      Json.join, Json.joinFrom]
  | parts ps himage =>
    obtain ⟨src, hsrc⟩ := himage
    have hne : ps ≠ [] := List.ne_nil_of_mem hsrc
    have hall : (ps.map UserPart.openai).all (fun p => (p.get "type").eqStr "text") = false := by
      rw [List.all_eq_false]
      refine ⟨_, List.mem_map_of_mem hsrc, ?_⟩
      simp [UserPart.openai]
    simp [userMessageOf, Tail.userParts, Tail.openai, hne, hall]

/-- The encoded tool calls of an assistant turn are dicts of type `tool_use`. -/
lemma calls_encodes {calls : List ToolUse} {vs : List Json}
    (h : List.Forall₂ EncodesBlock (calls.map .toolUse) vs) :
    ∃ ds : List Dict, vs.mapM asDict = .ok ds ∧
      ds.filter (fun d => (d.get "type").eqStr "text") = [] ∧
      (ds.filter fun d => (d.get "type").eqStr "tool_use").map toolUseToCall =
        calls.map ToolUse.openai := by
  induction calls generalizing vs with
  | nil =>
    cases h
    exact ⟨[], rfl, rfl, rfl⟩
  | cons u calls ih =>
    rw [List.map_cons, List.forall₂_cons_left_iff] at h
    obtain ⟨v, vs, hv, hvs, rfl⟩ := h
    obtain ⟨ds, hds, htext, hcalls⟩ := ih hvs
    cases hv with
    | @toolUse _ d hd =>
      refine ⟨d :: ds, ?_, ?_, ?_⟩
      · rw [List.mapM_cons, hds]
        rfl
      · simp [hd.get, ToolUse.block, htext]
      · simp [hd.get, ToolUse.block, hcalls, toolUseToCall, ToolUse.openai]

/-- The OpenAI message of an encoded assistant turn. -/
lemma assistantToOpenai_encodes {t : AssistantTurn} {vs : List Json}
    (h : List.Forall₂ EncodesBlock (Turn.assistant t).blocks vs) :
    assistantToOpenai vs = .ok t.openai := by
  rcases htext : t.text with _ | s
  · simp only [Turn.blocks, htext] at h
    obtain ⟨ds, hds, hnone, hcalls⟩ := calls_encodes h
    simp [assistantToOpenai, hds, hnone, hcalls, Json.join, Json.joinFrom, AssistantTurn.openai,
      htext]
  · have hs : s ≠ [] := fun he => t.text_nonempty (by rw [htext, he])
    simp only [Turn.blocks, htext, Option.toList_some, List.map_cons, List.map_nil,
      List.singleton_append, List.forall₂_cons_left_iff] at h
    obtain ⟨v, vs, hv, hvs, rfl⟩ := h
    obtain ⟨ds, hds, hnone, hcalls⟩ := calls_encodes hvs
    cases hv with
    | @text _ d hd =>
      have hmap : (Json.obj d :: vs).mapM asDict = .ok (d :: ds) := by
        rw [List.mapM_cons, hds]
        rfl
      simp [assistantToOpenai, hmap, hd.get, textBlock, hnone, hcalls, Json.join, Json.joinFrom,
        AssistantTurn.openai, htext, hs]

/-- A turn of a single text block is a message with that text. -/
lemma openai_of_blocks_text {t : Turn} {s : Str} (h : t.blocks = [.part (.text s)]) :
    t.openai = [([("role", .str t.role), ("content", .str s)] : Dict)] := by
  cases t with
  | user t =>
    obtain ⟨results, tail, hne⟩ := t
    cases results with
    | cons r rs => simp [Turn.blocks] at h
    | nil =>
      cases tail with
      | nothing => simp [Turn.blocks, Tail.userParts] at h
      | text s' hs' =>
        have he : s' = s := by simpa [Turn.blocks, Tail.userParts] using h
        simp [Turn.openai, Tail.openai, Turn.role, he]
      | parts ps himage =>
        -- a list with an image is no single text
        obtain ⟨src, hsrc⟩ := himage
        have hps : ps = [.text s] := by
          rcases ps with _ | ⟨p, _ | ⟨p', ps⟩⟩ <;> simp_all [Turn.blocks, Tail.userParts]
        simp [hps] at hsrc
  | assistant t =>
    obtain ⟨text, calls, htext, hne⟩ := t
    cases text with
    | none => cases calls <;> simp [Turn.blocks] at h
    | some s' =>
      cases calls with
      | nil =>
        have he : s' = s := by simpa [Turn.blocks] using h
        simp [Turn.openai, AssistantTurn.openai, withToolCalls, Turn.role, he]
      | cons u us => simp [Turn.blocks] at h

/-- **The OpenAI form of an encoded turn.** -/
lemma anthropicMessageToOpenai_encodes {t : Turn} {m : Dict} (h : Encodes t m) :
    anthropicMessageToOpenai py m = .ok t.openai := by
  obtain ⟨content, hm, hcontent⟩ := h
  have hrole : m.get "role" = .str t.role := by simp [hm.get]
  have hget : m.get "content" = content := by simp [hm.get]
  unfold anthropicMessageToOpenai
  rw [hget, hrole]
  generalize hb : t.blocks = bs at hcontent
  cases hcontent with
  | @blocks _ vs hvs =>
    subst hb
    cases t with
    | user t =>
      have hpieces :=
        mapM_of_forall₂ (fun b v => userBlockToOpenai_encodes py (b := b) (v := v)) hvs
      simp [Turn.role, hpieces, (pieces_user t).1, (pieces_user t).2, userMessageOf_tail,
        Turn.openai]
    | assistant t => simp [Turn.role, assistantToOpenai_encodes hvs, Turn.openai]
  | text s => simp [openai_of_blocks_text hb]

/-- The OpenAI form of an encoded conversation. -/
lemma anthropicMessagesToOpenai_encodes {turns : List Turn} {ms : List Dict}
    (h : List.Forall₂ Encodes turns ms) :
    anthropicMessagesToOpenai py ms = .ok (turns.flatMap Turn.openai) := by
  unfold anthropicMessagesToOpenai
  rw [mapM_of_forall₂ (fun t m => anthropicMessageToOpenai_encodes py (t := t) (m := m)) h]
  simp [List.flatMap_def]

/-! ## From OpenAI to Anthropic -/

/-- The parts of a `data:` URI around its comma. -/
lemma partition_dataUri {mediaType : Str} (data : Str) (h : 44 ∉ mediaType) :
    Str.partition 44 ("data:" ++ (mediaType ++ (";base64," ++ data))) =
      ("data:" ++ (mediaType ++ ";base64"), true, data) := by
  have hhead : (44 : CodePoint) ∉ ("data:" : Str) ++ (mediaType ++ ";base64") := by
    simp only [List.mem_append, not_or]
    exact ⟨by decide, h, by decide⟩
  have happend : ("data:" : Str) ++ (mediaType ++ (";base64," ++ data)) =
      (("data:" : Str) ++ (mediaType ++ ";base64")) ++ 44 :: data := by
    have hcomma : Str.ofString ";base64," = Str.ofString ";base64" ++ [44] := by decide
    simp [hcomma]
  rw [happend, Str.partition_append data hhead]

/-- The media type in the head of a `data:` URI. -/
lemma mediaType_dataUri {mediaType : Str} (h : 59 ∉ mediaType) :
    Str.splitHead 59 ((("data:" : Str) ++ (mediaType ++ ";base64")).drop 5) = mediaType := by
  have hdrop : (("data:" : Str) ++ (mediaType ++ ";base64")).drop 5 =
      mediaType ++ 59 :: ("base64" : Str) := rfl
  rw [hdrop, Str.splitHead_append _ h]

/-- The Anthropic source of the URL of an image. -/
lemma openaiImageUrlToAnthropic_openai (src : ImageSource) :
    openaiImageUrlToAnthropic (UserPart.image src).openai = .ok (imageBlock src.source) := by
  have hurl : imageUrlOf (UserPart.image src).openai = .str src.openaiUrl := by
    simp [imageUrlOf, UserPart.openai]
  unfold openaiImageUrlToAnthropic
  rw [hurl]
  cases src with
  | url u hu => simp [ImageSource.openaiUrl, checkImageUrl, hu, ImageSource.source]
  | base64 mediaType data hne hsemi hcomma =>
    have hdata : Str.startsWith ("data:" ++ (mediaType ++ (";base64," ++ data))) "data:" = true :=
      Str.startsWith_iff.mpr ⟨_, rfl⟩
    have hbase : Str.contains ("data:" ++ (mediaType ++ ";base64")) "base64" = true := by
      have := Str.contains_of_append (("data:" : Str) ++ (mediaType ++ ";")) "base64" []
      have hsemi : Str.ofString ";base64" = Str.ofString ";" ++ Str.ofString "base64" := by decide
      simpa [hsemi] using this
    have hcheck : checkImageUrl (.str ("data:" ++ (mediaType ++ (";base64," ++ data)))) =
        .ok ("data:" ++ (mediaType ++ (";base64," ++ data))) := by
      simp [checkImageUrl, hdata, partition_dataUri data hcomma, hbase]
    simp only [ImageSource.openaiUrl, hcheck, Except.ok_bind, hdata, if_true,
      partition_dataUri data hcomma, mediaType_dataUri hsemi, hne, if_false, ImageSource.source,
      Except.pure_eq_ok]

/-- A part of a user message in Anthropic form. -/
def UserPart.anthropic : UserPart → Dict
  | .text s => textBlock s
  | .image src => imageBlock src.source

/-- A part of a user message, back in Anthropic form. -/
lemma openaiBlockToAnthropic_openai (p : UserPart) :
    openaiBlockToAnthropic py (.obj p.openai) = .ok (.obj p.anthropic) := by
  cases p with
  | text s => simp [openaiBlockToAnthropic, UserPart.openai, textBlock, UserPart.anthropic]
  | image src =>
    have himage := openaiImageUrlToAnthropic_openai src
    simp only [UserPart.openai] at himage
    simp [openaiBlockToAnthropic, UserPart.openai, himage, UserPart.anthropic]

/-- A tool call, back in Anthropic form, when `json.loads` inverts `json.dumps` on its input. -/
lemma callToToolUse_openai {u : ToolUse} (h : py.LoadsDumps (.obj u.input)) :
    callToToolUse py u.openai = .ok (.obj u.block) := by
  have hne : (Json.obj u.input).dumps false ≠ [] := by
    cases u.input with
    | nil => simp [Json.dumps]
    | cons kv kvs => simp [Json.dumps]
  have hargs : parseArguments py (.str ((Json.obj u.input).dumps false)) = .ok (.obj u.input) := by
    unfold Runtime.LoadsDumps at h
    simp [parseArguments, Json.truthy, hne, h]
  simp [callToToolUse, ToolUse.openai, asDict, Json.orElse, Json.truthy, hargs, ToolUse.block]

/-- The blocks of tool results. -/
def resultBlocks (results : List ToolResult) : List Json := results.map fun r => .obj r.block

/-- The blocks of what a user says beside tool results. -/
def Tail.anthropicParts (tail : Tail) : List Json := tail.userParts.map fun p => .obj p.anthropic

/-- The user message of tool results and what follows them. -/
def userMessage (results : List ToolResult) (tail : Tail) : Dict :=
  match results, tail with
  | [], .text s _ => [("role", .str "user"), ("content", .str s)]
  | results, tail =>
    [("role", .str "user"), ("content", .arr (resultBlocks results ++ tail.anthropicParts))]

/-- Results that no user text follows are a message of their own. -/
lemma flushToolResults_eq {results : List ToolResult} (h : results ≠ []) :
    flushToolResults (resultBlocks results) = [userMessage results .nothing] := by
  cases results with
  | nil => exact absurd rfl h
  | cons r rs =>
    simp [flushToolResults, resultBlocks, userMessage, Tail.anthropicParts, Tail.userParts]

/-- The message of an assistant turn. -/
def AssistantTurn.message (t : AssistantTurn) : Dict :=
  match t.text, t.calls with
  | some s, [] => [("role", .str "assistant"), ("content", .str s)]
  | text, calls =>
    [("role", .str "assistant"), ("content", .arr ((text.toList.map fun s => .obj (textBlock s)) ++
      calls.map fun u => .obj u.block))]

/-- The Anthropic message of a turn, as the translator writes it. -/
def Turn.message : Turn → Dict
  | .user t => userMessage t.results t.tail
  | .assistant t => t.message

/-- Tool messages go to the end of the buffer. -/
lemma openaiMessagesFrom_results (pending : List Json) (results : List ToolResult)
    (ms : List Dict) :
    openaiMessagesFrom py pending (results.map ToolResult.openai ++ ms) =
      openaiMessagesFrom py (pending ++ resultBlocks results) ms := by
  induction results generalizing pending with
  | nil => simp [resultBlocks]
  | cons r rs ih =>
    have hblock : toolResultBlock r.openai = .obj r.block := by
      simp [toolResultBlock, ToolResult.openai, resultText, Json.isStr, ToolResult.block]
    have hrole : (Dict.get r.openai "role").eqStr "tool" = true := by simp [ToolResult.openai]
    rw [List.map_cons, List.cons_append, openaiMessagesFrom]
    simp only [hrole, if_true, hblock]
    rw [ih]
    simp [resultBlocks]

/-- The parts of a user message, translated back. -/
lemma mapM_openaiBlockToAnthropic (ps : List UserPart) :
    (ps.map fun p => Json.obj p.openai).mapM (openaiBlockToAnthropic py) =
      .ok (ps.map fun p => .obj p.anthropic) := by
  induction ps with
  | nil => rfl
  | cons p ps ih =>
    rw [List.map_cons, List.mapM_cons, openaiBlockToAnthropic_openai, ih]
    rfl

/-- A user message takes the results before it from the buffer. -/
lemma openaiMessagesFrom_tail (results : List ToolResult) {tail : Tail} (h : tail ≠ .nothing)
    {ms sent : List Dict} (hms : openaiMessagesFrom py [] ms = .ok sent) :
    openaiMessagesFrom py (resultBlocks results) (tail.openai ++ ms) =
      .ok (userMessage results tail :: sent) := by
  cases tail with
  | nothing => exact absurd rfl h
  | text s hs =>
    cases results with
    | nil =>
      simp [Tail.openai, openaiMessagesFrom, resultBlocks, translateContent, hms,
        flushToolResults, userMessage]
    | cons r rs =>
      simp [Tail.openai, openaiMessagesFrom, resultBlocks, translateContent, hms, userBlocks,
        textBlocks, hs, userMessage, Tail.anthropicParts, Tail.userParts, UserPart.anthropic,
        textBlock]
  | parts ps himage =>
    have hparts := mapM_openaiBlockToAnthropic py ps
    cases results with
    | nil =>
      simp [Tail.openai, openaiMessagesFrom, resultBlocks, translateContent, hms, hparts,
        flushToolResults, userMessage, Tail.anthropicParts, Tail.userParts, OrderedDict.insert]
    | cons r rs =>
      simp [Tail.openai, openaiMessagesFrom, resultBlocks, translateContent, hms, hparts,
        userBlocks, userMessage, Tail.anthropicParts, Tail.userParts, OrderedDict.insert]

/-- The tool calls of a turn, translated back. -/
lemma mapM_callToToolUse {calls : List ToolUse}
    (h : ∀ u ∈ calls, py.LoadsDumps (.obj u.input)) :
    (calls.map ToolUse.openai).mapM (callToToolUse py) = .ok (calls.map fun u => .obj u.block) := by
  induction calls with
  | nil => rfl
  | cons u us ih =>
    rw [List.map_cons, List.mapM_cons, callToToolUse_openai py (h u List.mem_cons_self),
      ih fun v hv => h v (List.mem_cons_of_mem _ hv)]
    rfl

/-- An assistant message comes after the results in the buffer. -/
lemma openaiMessagesFrom_assistant (pending : List Json) {t : AssistantTurn}
    (h : ∀ u ∈ t.calls, py.LoadsDumps (.obj u.input)) {ms sent : List Dict}
    (hms : openaiMessagesFrom py [] ms = .ok sent) :
    openaiMessagesFrom py pending (t.openai :: ms) =
      .ok (flushToolResults pending ++ t.message :: sent) := by
  have hcalls := mapM_callToToolUse py h
  obtain ⟨text, calls, htext, hne⟩ := t
  cases calls with
  | nil =>
    cases text with
    | none => simp at hne
    | some s =>
      simp [AssistantTurn.openai, withToolCalls, openaiMessagesFrom, translateContent, hms,
        Json.truthy, AssistantTurn.message]
  | cons u us =>
    rw [List.map_cons] at hcalls
    cases text with
    | none =>
      simp [AssistantTurn.openai, withToolCalls, OrderedDict.insert, openaiMessagesFrom,
        translateContent, hms, Json.truthy, toolCallsMessage, Json.elements, hcalls,
        AssistantTurn.message]
    | some s =>
      have hs : s ≠ [] := fun he => htext (by rw [he])
      simp [AssistantTurn.openai, withToolCalls, OrderedDict.insert, openaiMessagesFrom,
        translateContent, hms, Json.truthy, toolCallsMessage, Json.elements, hcalls, textBlocks, hs,
        AssistantTurn.message, textBlock]

/-- **The way back.** From any pending tool results, unless the user speaks next, the translator
sends these results, then a message for every turn. -/
lemma openaiMessagesFrom_turns {turns : List Turn} (halt : Alternating turns)
    (hloads : ∀ t ∈ turns, ∀ u, .toolUse u ∈ t.blocks → py.LoadsDumps (.obj u.input))
    (results : List ToolResult)
    (hnext : results = [] ∨ ∀ t ∈ turns.head?, t.isUser = false) :
    openaiMessagesFrom py (resultBlocks results) (turns.flatMap Turn.openai) =
      .ok (flushToolResults (resultBlocks results) ++ turns.map Turn.message) := by
  induction turns generalizing results with
  | nil => simp [openaiMessagesFrom]
  | cons t ts ih =>
    have htail : Alternating ts := halt.tail
    have hloads' : ∀ t ∈ ts, ∀ u, .toolUse u ∈ t.blocks → py.LoadsDumps (.obj u.input) :=
      fun t ht => hloads t (List.mem_cons_of_mem _ ht)
    rw [List.flatMap_cons]
    cases t with
    | user t =>
      have hnil : results = [] := by simpa [Turn.isUser] using hnext
      subst hnil
      have hresults : openaiMessagesFrom py (resultBlocks []) (Turn.openai (.user t) ++
          ts.flatMap Turn.openai) = openaiMessagesFrom py (resultBlocks t.results)
          (t.tail.openai ++ ts.flatMap Turn.openai) := by
        rw [Turn.openai, List.append_assoc, openaiMessagesFrom_results]
        simp [resultBlocks]
      rw [hresults]
      by_cases hnothing : t.tail = .nothing
      · -- the results stay in the buffer, and the next turn is not the user's
        have hnext' : ∀ t' ∈ ts.head?, t'.isUser = false := by
          intro t' ht'
          simpa [Turn.isUser] using List.IsChain.rel_head? halt ht'
        have hne : t.results ≠ [] := t.nonempty.resolve_right (fun h => h hnothing)
        have hrest := ih htail hloads' t.results (Or.inr hnext')
        rw [hnothing, Tail.openai, List.nil_append, hrest, flushToolResults_eq hne]
        simp [resultBlocks, flushToolResults, Turn.message, hnothing]
      · have hrest := ih htail hloads' [] (Or.inl rfl)
        rw [openaiMessagesFrom_tail py t.results hnothing hrest]
        simp [resultBlocks, flushToolResults, Turn.message]
    | assistant t =>
      have hcalls : ∀ u ∈ t.calls, py.LoadsDumps (.obj u.input) := fun u hu =>
        hloads _ List.mem_cons_self u (by simp [Turn.blocks, hu])
      have hrest := ih htail hloads' [] (Or.inl rfl)
      rw [Turn.openai, List.singleton_append, openaiMessagesFrom_assistant py _ hcalls hrest]
      simp [resultBlocks, flushToolResults, Turn.message]

/-! ## There and back -/

/-- A part of a user message is encoded by its own block. -/
lemma encodesBlock_part (p : UserPart) : EncodesBlock (.part p) (.obj p.anthropic) := by
  cases p with
  | text s => exact .text fun _ => rfl
  | image src => exact .image (fun _ => rfl) fun _ => rfl

/-- Blocks that encode the members of a list, one by one. -/
lemma encodesBlocks_map {α : Type} {f : α → Block} {g : α → Json}
    (h : ∀ a, EncodesBlock (f a) (g a)) (as : List α) :
    List.Forall₂ EncodesBlock (as.map f) (as.map g) := by
  rw [List.forall₂_map_left_iff, List.forall₂_map_right_iff, List.forall₂_same]
  exact fun a _ => h a

/-- The user message of results and tail says what they say. -/
lemma encodes_userMessage (t : UserTurn) : Encodes (.user t) (userMessage t.results t.tail) := by
  have hblocks : List.Forall₂ EncodesBlock (Turn.user t).blocks
      (resultBlocks t.results ++ t.tail.anthropicParts) :=
    List.rel_append (encodesBlocks_map (fun r => .toolResult fun _ => rfl) _)
      (encodesBlocks_map encodesBlock_part _)
  unfold userMessage
  split
  · next s hs hresults htail =>
    refine ⟨.str s, fun _ => rfl, ?_⟩
    have hone : (Turn.user t).blocks = [.part (.text s)] := by
      simp [Turn.blocks, hresults, htail, Tail.userParts]
    rw [hone]
    exact .text s
  · exact ⟨_, fun _ => rfl, .blocks hblocks⟩

/-- The message of an assistant turn says what the turn says. -/
lemma encodes_assistantMessage (t : AssistantTurn) : Encodes (.assistant t) t.message := by
  have hblocks : List.Forall₂ EncodesBlock (Turn.assistant t).blocks
      ((t.text.toList.map fun s => .obj (textBlock s)) ++ t.calls.map fun u => .obj u.block) :=
    List.rel_append (encodesBlocks_map (fun s => .text fun _ => rfl) _)
      (encodesBlocks_map (fun u => .toolUse fun _ => rfl) _)
  unfold AssistantTurn.message
  split
  · next s htext hcalls =>
    refine ⟨.str s, fun _ => rfl, ?_⟩
    have hone : (Turn.assistant t).blocks = [.part (.text s)] := by
      simp [Turn.blocks, htext, hcalls]
    rw [hone]
    exact .text s
  · exact ⟨_, fun _ => rfl, .blocks hblocks⟩

/-- The translator's message of a turn says what the turn says. -/
lemma encodes_message (t : Turn) : Encodes t t.message := by
  cases t with
  | user t => exact encodes_userMessage t
  | assistant t => exact encodes_assistantMessage t

/-- A message with string content as one with a single text block. -/
def blockForm (m : Dict) : Dict :=
  match m.get "content" with
  | .str s => m.insert "content" (.arr [.obj (textBlock s)])
  | _ => m

/-- In block form, a message that encodes a turn has the turn's blocks. -/
lemma blockForm_encodes {t : Turn} {m : Dict} (h : Encodes t m) :
    ∃ vs, List.Forall₂ EncodesBlock t.blocks vs ∧
      Dict.Same (blockForm m) [("role", .str t.role), ("content", .arr vs)] := by
  obtain ⟨content, hm, hcontent⟩ := h
  have hget : m.get "content" = content := by simp [hm.get]
  unfold blockForm
  rw [hget]
  generalize t.blocks = bs at hcontent
  cases hcontent with
  | blocks hvs => exact ⟨_, hvs, hm⟩
  | text s =>
    refine ⟨[.obj (textBlock s)], .cons (.text fun _ => rfl) .nil, fun k => ?_⟩
    simp only [OrderedDict.get?_insert, hm k, OrderedDict.get?_cons]
    by_cases hk : Str.ofString "content" = k
    · subst hk
      simp
    · simp [hk]

/-- Two values that encode the same block are equal. -/
lemma same_of_encodesBlock {b : Block} {v v' : Json} (h : EncodesBlock b v)
    (h' : EncodesBlock b v') : Json.Same v v' := by
  cases h with
  | text h =>
    cases h' with
    | text h' => exact .congr h h' (.refl _)
  | image h hs =>
    cases h' with
    | image h' hs' =>
      exact .congr h h' (.cons _ (.refl _) (.cons _ (.congr hs hs' (.refl _)) (.refl _)))
  | toolUse h =>
    cases h' with
    | toolUse h' => exact .congr h h' (.refl _)
  | toolResult h =>
    cases h' with
    | toolResult h' => exact .congr h h' (.refl _)

/-- Two messages that encode the same turn are equal in block form. -/
lemma same_of_encodes {t : Turn} {m m' : Dict} (h : Encodes t m) (h' : Encodes t m') :
    Json.Same (.obj (blockForm m)) (.obj (blockForm m')) := by
  obtain ⟨vs, hvs, hm⟩ := blockForm_encodes h
  obtain ⟨vs', hvs', hm'⟩ := blockForm_encodes h'
  refine .congr hm hm' (.cons _ (.refl _) (.cons _ (.arr ?_) (.refl _)))
  have hblocks : ∀ {bs : List Block} {xs ys : List Json}, List.Forall₂ EncodesBlock bs xs →
      List.Forall₂ EncodesBlock bs ys → List.Forall₂ Json.Same xs ys := by
    intro bs xs ys hx
    induction hx generalizing ys with
    | nil =>
      intro hy
      cases hy
      exact .nil
    | cons hb _ ih =>
      intro hy
      cases hy with
      | cons hb' hy => exact .cons (same_of_encodesBlock hb hb') (ih hy)
  exact hblocks hvs hvs'

/-- **The translators are inverse to each other.** Let the messages `ms` encode alternating turns,
and let `json.loads` invert `json.dumps` on the inputs of their tool calls. `ms` is sent as the
OpenAI form of the turns, `sent`. This, translated back, is `ms` again once string content `s` is
identified with the single block `[text s]`; and translating that result once more gives `sent`
itself. -/
theorem translators_inverse {turns : List Turn} {ms : List Dict} (halt : Alternating turns)
    (henc : List.Forall₂ Encodes turns ms)
    (hloads : ∀ t ∈ turns, ∀ u, .toolUse u ∈ t.blocks → py.LoadsDumps (.obj u.input)) :
    ∃ sent back, anthropicMessagesToOpenai py ms = .ok sent ∧
      sent = turns.flatMap Turn.openai ∧ openaiMessagesToAnthropic py sent = .ok back ∧
      List.Forall₂ (fun m m' => Json.Same (.obj (blockForm m)) (.obj (blockForm m'))) back ms ∧
      anthropicMessagesToOpenai py back = .ok sent := by
  have hback : openaiMessagesToAnthropic py (turns.flatMap Turn.openai) =
      .ok (turns.map Turn.message) := by
    simpa [openaiMessagesToAnthropic, resultBlocks, flushToolResults] using
      openaiMessagesFrom_turns py halt hloads [] (Or.inl rfl)
  have henc' : List.Forall₂ Encodes turns (turns.map Turn.message) := by
    rw [List.forall₂_map_right_iff, List.forall₂_same]
    exact fun t _ => encodes_message t
  refine ⟨_, _, anthropicMessagesToOpenai_encodes py henc, rfl, hback, ?_,
    anthropicMessagesToOpenai_encodes py henc'⟩
  rw [List.forall₂_map_left_iff]
  exact henc.imp fun t m hm => same_of_encodes (encodes_message t) hm

/-- The tool call of a small conversation. -/
def parisCall : ToolUse := ⟨.str "call_1", .str "weather", [("city", .str "Paris")]⟩

/-- A question, a tool call with some text, and its result together with an image. -/
def parisTurns : List Turn :=
  [.user ⟨[], .text "weather?" (by simp), Or.inr (by simp)⟩,
   .assistant ⟨some "let me look", [parisCall], by simp, Or.inl rfl⟩,
   .user ⟨[⟨.str "call_1", "20 C"⟩],
     .parts [.image (.base64 "image/png" "aGk=" (by simp) (by decide) (by decide))]
       ⟨_, List.mem_singleton_self _⟩,
     Or.inl (by simp)⟩]

/-- The same conversation in Anthropic form. -/
def parisMessages : List Dict :=
  [[("role", .str "user"),
      ("content", .arr [.obj [("text", .str "weather?"), ("type", .str "text")]])],
   [("role", .str "assistant"), ("content", .arr [
     .obj [("type", .str "text"), ("text", .str "let me look")],
     .obj [("type", .str "tool_use"), ("id", .str "call_1"), ("name", .str "weather"),
       ("input", .obj [("city", .str "Paris")])]])],
   [("content", .arr [
     .obj [("type", .str "tool_result"), ("tool_use_id", .str "call_1"), ("content", .str "20 C")],
     .obj [("type", .str "image"), ("source", .obj [("type", .str "base64"),
       ("media_type", .str "image/png"), ("data", .str "aGk=")])]]), ("role", .str "user")]]

/-- A run time that reads the arguments of the call. -/
def parisRuntime : Runtime :=
  { Runtime.plain with
    loads := fun s =>
      if s = ("\x7b\"city\": \"Paris\"\x7d" : Str) then .ok (.obj [("city", .str "Paris")])
      else Runtime.plain.loads s }

/-- The order of two keys does not matter. -/
lemma same_swap {k k' : Str} (h : k ≠ k') (v v' : Json) :
    Dict.Same [(k, v), (k', v')] [(k', v'), (k, v)] := by
  intro k₀
  by_cases hk : k = k₀
  · subst hk
    simp [Ne.symm h]
  · simp [hk]

/-- The messages encode the turns. -/
lemma encodes_paris : List.Forall₂ Encodes parisTurns parisMessages := by
  refine .cons ⟨_, fun _ => rfl, .blocks (.cons (.text (same_swap (by simp) _ _)) .nil)⟩ ?_
  refine .cons ⟨_, fun _ => rfl, .blocks (.cons (.text fun _ => rfl)
    (.cons (.toolUse fun _ => rfl) .nil))⟩ ?_
  exact .cons ⟨_, same_swap (by simp) _ _, .blocks (.cons (.toolResult fun _ => rfl)
    (.cons (.image (fun _ => rfl) fun _ => rfl) .nil))⟩ .nil

/-- The small conversation, there and back. -/
theorem translators_inverse_paris :
    ∃ sent back, anthropicMessagesToOpenai parisRuntime parisMessages = .ok sent ∧
      sent = parisTurns.flatMap Turn.openai ∧
      openaiMessagesToAnthropic parisRuntime sent = .ok back ∧
      List.Forall₂ (fun m m' => Json.Same (.obj (blockForm m)) (.obj (blockForm m'))) back
        parisMessages ∧
      anthropicMessagesToOpenai parisRuntime back = .ok sent := by
  refine translators_inverse parisRuntime ?_ encodes_paris ?_
  · simp [Alternating, parisTurns, Turn.isUser]
  · intro t ht u hu
    have hparis : u = parisCall := by
      simp only [parisTurns, List.mem_cons, List.not_mem_nil, or_false] at ht
      rcases ht with rfl | rfl | rfl
      · simp [Turn.blocks, Tail.userParts] at hu
      · simpa [Turn.blocks] using hu
      · simp [Turn.blocks, Tail.userParts] at hu
    have htext : (Json.obj parisCall.input).dumps false = "\x7b\"city\": \"Paris\"\x7d" := by decide
    rw [hparis, Runtime.LoadsDumps, htext]
    rfl

end AgentCtl
