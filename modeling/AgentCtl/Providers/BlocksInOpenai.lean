import AgentCtl.Providers.Shapes

set_option relaxedAutoImplicit false
set_option autoImplicit false

/-!
# What the OpenAI translator keeps of a message

Each content block of a message says something: a text, an image, a call of a tool, its result, or
what only its type knows. The OpenAI translator keeps a block if the messages it makes of the
block's message say the same. It reads two types of blocks in an assistant message and four in a
user message, and leaves out all others.

## Main definitions

* `AgentCtl.InOpenai` — a block is represented in messages for an OpenAI backend.
* `AgentCtl.BlockMessage` — messages of a user or an assistant with a list of blocks.
* `AgentCtl.isReadBlock` — the blocks that the translator reads.

## Main results

* `AgentCtl.keeps_anthropicMessageToOpenai` — when the translator keeps all blocks of a message.
-/

namespace AgentCtl

open Except

/-! ## What messages say -/

/-- The content blocks of a message. -/
def blocksOf (m : Dict) : List Json :=
  match m.get "content" with
  | .arr blocks => blocks
  | _ => []

/-- The type of a content block; what is no object has none. -/
def blockType : Json → Json
  | .obj d => Dict.get d "type"
  | _ => .null

/-- A message says a text: in the string that is its content, where `null` stands for the empty
one, or in a text part. -/
def SaysText (m : Dict) (text : Json) : Prop :=
  (∃ s t : Str, text = .str t ∧ (m.get "content" = .str s ∨ m.get "content" = .null ∧ s = []) ∧
    t <:+: s) ∨
  ∃ p : Dict, .obj p ∈ blocksOf m ∧ (p.get "type").eqStr "text" = true ∧ p.get "text" = text

/-- A message shows the image behind a URL. -/
def ShowsUrl (m : Dict) (url : Json) : Prop :=
  ∃ p iu : Dict, .obj p ∈ blocksOf m ∧ (p.get "type").eqStr "image_url" = true ∧
    p.get "image_url" = .obj iu ∧ iu.get "url" = url

/-- A message calls a tool. -/
def CallsTool (m : Dict) (id name input : Json) : Prop :=
  ∃ (calls : List Json) (call fn : Dict), m.get "tool_calls" = .arr calls ∧ .obj call ∈ calls ∧
    call.get "id" = id ∧ call.get "function" = .obj fn ∧ fn.get "name" = name ∧
    fn.get "arguments" = .str (input.dumps false)

/-- A message reports the result of a tool call. -/
def ReportsResult (m : Dict) (id content : Json) : Prop :=
  (m.get "role").eqStr "tool" = true ∧ m.get "tool_call_id" = id ∧
    m.get "content" = resultText content

/-- A message has a block as it is, but for the order of keys. -/
def HasBlock (m : Dict) (b : Json) : Prop := ∃ b' ∈ blocksOf m, Json.Same b b'

/-- The URL of an image: a `data:` URI for base64 data. -/
def pictureUrl (py : Runtime) (source : Dict) : Json :=
  if (source.get "type").eqStr "base64" then
    .str ("data:" ++ (py.format ((source.get "media_type").orElse (.str "image/png")) ++
      (";base64," ++ py.format (source.get "data" (.str "")))))
  else source.get "url" (.str "")

/-- Is the source of an image one that a URL can say: base64 data, a URL, or nothing? A file of the
provider is not. -/
def isUrlSource (source : Dict) : Bool :=
  (source.get "type").eqStr "base64" || OrderedDict.has source "url" || source.isEmpty

/-- A block is represented in OpenAI messages: texts, tool calls and results in OpenAI form, an
image by the URL of its source if it has one, and any other block as it is. -/
def InOpenai (py : Runtime) (out : List Dict) (b : Json) : Prop :=
  ∃ m ∈ out,
    match b with
    | .obj d =>
      if (Dict.get d "type").eqStr "text" then SaysText m (Dict.get d "text" (.str ""))
      else if (Dict.get d "type").eqStr "image" then
        isUrlSource (dictOf (Dict.get d "source")) = true ∧
          ShowsUrl m (pictureUrl py (dictOf (Dict.get d "source")))
      else if (Dict.get d "type").eqStr "tool_use" then
        CallsTool m (Dict.get d "id" (.str "")) (Dict.get d "name" (.str ""))
          (Dict.get d "input" (.obj []))
      else if (Dict.get d "type").eqStr "tool_result" then
        ReportsResult m (Dict.get d "tool_use_id" (.str "")) (Dict.get d "content")
      else HasBlock m b
    | b => HasBlock m b

/-! ## Messages with block lists -/

/-- A message of a user or an assistant whose content is a list of blocks. -/
structure BlockMessage (m : Dict) : Prop where
  role : (m.get "role").eqStr "user" = true ∨ (m.get "role").eqStr "assistant" = true
  content : ∃ blocks, m.get "content" = .arr blocks

/-- An image block has a source that a URL can say. -/
def hasUrlSource : Json → Bool
  | .obj d => isUrlSource (dictOf (Dict.get d "source"))
  | _ => false

/-- The blocks that the OpenAI translator reads: texts and tool calls of an assistant; texts, images
and tool results of a user. -/
def isReadBlock (m : Dict) (b : Json) : Bool :=
  if (m.get "role").eqStr "assistant" then
    (blockType b).eqStr "text" || (blockType b).eqStr "tool_use"
  else
    (blockType b).eqStr "text" || ((blockType b).eqStr "image" && hasUrlSource b) ||
      (blockType b).eqStr "image_url" || (blockType b).eqStr "tool_result"

/-! ## The OpenAI translator -/

section OpenAI

variable {py : Runtime}

/-- Tool calls change no other entry of a message. -/
lemma get_withToolCalls (msg : Dict) (calls : List Json) {k : Str} (hk : k ≠ "tool_calls") :
    (withToolCalls msg calls).get k = msg.get k := by
  unfold withToolCalls
  split
  · rfl
  · rw [Dict.get_insert, if_neg hk.symm]

/-- Tool calls are an entry of their message. -/
lemma get_toolCalls_withToolCalls (msg : Dict) {calls : List Json} (hcalls : calls ≠ []) :
    (withToolCalls msg calls).get "tool_calls" = .arr calls := by
  rw [withToolCalls, if_neg hcalls, Dict.get_insert, if_pos rfl]

/-- A joined text has each of its parts in it. -/
lemma infix_of_join {vs : List Json} {s : Str} (h : Json.join vs = .ok s) :
    ∀ v ∈ vs, ∃ t, v = .str t ∧ t <:+: s := by
  suffices hfrom : ∀ i s, Json.joinFrom i vs = .ok s → ∀ v ∈ vs, ∃ t, v = .str t ∧ t <:+: s from
    hfrom 0 s h
  clear h s
  induction vs with
  | nil => rintro i s - v ⟨⟩
  | cons v vs ih =>
    intro i s h
    cases v with
    | str t =>
      rw [Json.joinFrom] at h
      obtain ⟨rest, hrest, h⟩ := bind_eq_ok.mp h
      obtain rfl := Except.ok.inj h
      intro v hv
      rcases List.mem_cons.mp hv with rfl | hv
      · exact ⟨t, rfl, (List.prefix_append t rest).isInfix⟩
      · obtain ⟨u, rfl, hu⟩ := ih (i + 1) rest hrest v hv
        exact ⟨u, rfl, hu.trans (List.suffix_append t rest).isInfix⟩
    | _ => cases h

/-- Blocks that all are objects. -/
lemma eq_map_of_mapM_asDict {content : List Json} {ds : List Dict}
    (h : content.mapM asDict = .ok ds) : content = ds.map .obj := by
  have hrel := List.mapM_eq_ok h
  clear h
  induction hrel with
  | nil => rfl
  | @cons b d content ds hb _ ih =>
    cases b with
    | obj d' =>
      obtain rfl := Except.ok.inj hb
      rw [List.map_cons, ← ih]
    | _ => cases hb

/-- A message without a list of blocks has none of them as it is. -/
lemma not_hasBlock {m : Dict} {b : Json} (hm : blocksOf m = []) : ¬ HasBlock m b := by
  rintro ⟨b', hb', -⟩
  rw [hm] at hb'
  cases hb'

/-- A message without a list of blocks shows no image. -/
lemma not_showsUrl {m : Dict} {url : Json} (hm : blocksOf m = []) : ¬ ShowsUrl m url := by
  rintro ⟨p, iu, hp, -⟩
  rw [hm] at hp
  cases hp

/-- A block of an assistant message is kept if the translator reads it. -/
lemma inOpenai_assistant_iff {content : List Json} {msg : Dict}
    (h : assistantToOpenai content = .ok msg) {b : Json} (hb : b ∈ content) :
    InOpenai py [msg] b ↔
      ((blockType b).eqStr "text" || (blockType b).eqStr "tool_use") = true := by
  unfold assistantToOpenai at h
  obtain ⟨ds, hds, h⟩ := bind_eq_ok.mp h
  obtain ⟨text, htext, h⟩ := bind_eq_ok.mp h
  obtain rfl := Except.ok.inj h
  obtain rfl := eq_map_of_mapM_asDict hds
  obtain ⟨d, hd, rfl⟩ := List.mem_map.mp hb
  generalize hcalls : (ds.filter fun b => (b.get "type").eqStr "tool_use").map toolUseToCall = calls
  have hcontent : (withToolCalls [("role", .str "assistant"),
      ("content", if text = [] then .null else .str text)] calls).get "content" =
      if text = [] then .null else .str text := get_withToolCalls _ _ (by simp)
  have hblocks : blocksOf (withToolCalls [("role", .str "assistant"),
      ("content", if text = [] then .null else .str text)] calls) = [] := by
    unfold blocksOf
    rw [hcontent]
    by_cases ht : text = [] <;> simp [ht]
  unfold InOpenai blockType
  simp only [List.mem_singleton, exists_eq_left]
  by_cases htype : (Dict.get d "type").eqStr "text" = true
  · simp only [htype, if_true, Bool.true_or, iff_true]
    have hmem : d.get "text" (.str "") ∈
        (ds.filter fun b => (b.get "type").eqStr "text").map fun b => b.get "text" (.str "") :=
      List.mem_map.mpr ⟨d, List.mem_filter.mpr ⟨hd, htype⟩, rfl⟩
    obtain ⟨t, ht, hinfix⟩ := infix_of_join htext _ hmem
    refine .inl ⟨text, t, ht, ?_, hinfix⟩
    rw [hcontent]
    by_cases hnil : text = []
    · exact .inr ⟨if_pos hnil, hnil⟩
    · exact .inl (if_neg hnil)
  by_cases hpicture : (Dict.get d "type").eqStr "image" = true
  · have huse : (Dict.get d "type").eqStr "tool_use" = false := eqStr_unique hpicture (by simp)
    simp only [htype, hpicture, huse, if_true, if_false, Bool.false_eq_true, Bool.or_self,
      iff_false]
    exact fun h => not_showsUrl hblocks h.2
  by_cases huse : (Dict.get d "type").eqStr "tool_use" = true
  · simp only [htype, hpicture, huse, if_true, if_false, Bool.false_eq_true, Bool.or_true, iff_true]
    have hmem : toolUseToCall d ∈ calls := by
      rw [← hcalls]
      exact List.mem_map.mpr ⟨d, List.mem_filter.mpr ⟨hd, huse⟩, rfl⟩
    let fn : Dict := [("name", d.get "name" (.str "")),
      ("arguments", .str ((d.get "input" (.obj [])).dumps false))]
    let call : Dict := [("id", d.get "id" (.str "")), ("type", .str "function"),
      ("function", .obj fn)]
    refine ⟨calls, call, fn, get_toolCalls_withToolCalls _ (List.ne_nil_of_mem hmem), hmem, ?_⟩
    simp [call, fn]
  simp only [htype, hpicture, huse, if_false, Bool.false_eq_true, Bool.or_self, iff_false]
  split
  · rintro ⟨hrole, -⟩
    rw [get_withToolCalls _ _ (by simp)] at hrole
    simp at hrole
  · exact not_hasBlock hblocks

/-- What the block of a user message becomes, whether or not its type is refused. -/
def pieceOf (py : Runtime) (d : Dict) : UserPiece :=
  if (d.get "type").eqStr "tool_result" then
    .toolMessage [("role", .str "tool"), ("tool_call_id", d.get "tool_use_id" (.str "")),
      ("content", resultText (d.get "content"))]
  else if (d.get "type").eqStr "text" then
    .part [("type", .str "text"), ("text", d.get "text" (.str ""))]
  else if (d.get "type").eqStr "image" then
    .part [("type", .str "image_url"),
      ("image_url", .obj [("url", pictureUrl py (dictOf (d.get "source")))])]
  else if (d.get "type").eqStr "image_url" then .part d
  else .nothing

/-- A block that can be read is an object. -/
lemma eq_pieceOf {b : Json} {piece : UserPiece} (h : userBlockToOpenai py b = .ok piece) :
    ∃ d, b = .obj d ∧ piece = pieceOf py d := by
  cases b with
  | obj d =>
    refine ⟨d, rfl, ?_⟩
    unfold userBlockToOpenai at h
    simp only [asDict, ok_bind] at h
    obtain ⟨-, -, h⟩ := bind_eq_ok.mp h
    unfold pieceOf
    by_cases hresult : (Dict.get d "type").eqStr "tool_result" = true
    · rw [if_pos hresult] at h ⊢
      exact (Except.ok.inj h).symm
    rw [if_neg hresult] at h ⊢
    by_cases htext : (Dict.get d "type").eqStr "text" = true
    · rw [if_pos htext] at h ⊢
      exact (Except.ok.inj h).symm
    rw [if_neg htext] at h ⊢
    by_cases himage : (Dict.get d "type").eqStr "image" = true
    · rw [if_pos himage] at h ⊢
      obtain ⟨part, hpart, h⟩ := bind_eq_ok.mp h
      obtain rfl := Except.ok.inj h
      have hsource := (returns_anthropicImageToOpenai d).mp ⟨part, hpart⟩
      rw [anthropicImageToOpenai, asDict_orElse hsource] at hpart
      obtain rfl := Except.ok.inj hpart
      rfl
    rw [if_neg himage] at h ⊢
    by_cases hurl : (Dict.get d "type").eqStr "image_url" = true
    · rw [if_pos hurl] at h ⊢
      exact (Except.ok.inj h).symm
    rw [if_neg hurl] at h ⊢
    exact (Except.ok.inj h).symm
  | _ => cases h

/-- All blocks of a user message that is translated are objects. -/
lemma eq_pieces {content : List Json} {pieces : List UserPiece}
    (h : content.mapM (userBlockToOpenai py) = .ok pieces) :
    ∃ ds : List Dict, content = ds.map .obj ∧ pieces = ds.map (pieceOf py) := by
  have hrel := List.mapM_eq_ok h
  clear h
  induction hrel with
  | nil => exact ⟨[], rfl, rfl⟩
  | cons hb _ ih =>
    obtain ⟨d, rfl, rfl⟩ := eq_pieceOf hb
    obtain ⟨ds, rfl, rfl⟩ := ih
    exact ⟨d :: ds, rfl, rfl⟩

/-- Every part is in the user message: a text in its string or as a part of it, any other as a
part. -/
lemma userMessage_of_part {parts users : List Dict} (h : userMessageOf parts = .ok users) {p : Dict}
    (hp : p ∈ parts) :
    ∃ m ∈ users, ((p.get "type").eqStr "text" = true → SaysText m (p.get "text")) ∧
      ((p.get "type").eqStr "text" = false → .obj p ∈ blocksOf m) := by
  unfold userMessageOf at h
  rw [if_neg (List.ne_nil_of_mem hp)] at h
  by_cases hall : (parts.all fun p => (p.get "type").eqStr "text") = true
  · rw [if_pos hall] at h
    obtain ⟨text, htext, h⟩ := bind_eq_ok.mp h
    obtain rfl := Except.ok.inj h
    have htype := List.all_eq_true.mp hall p hp
    obtain ⟨t, ht, hinfix⟩ := infix_of_join htext _ (List.mem_map.mpr ⟨p, hp, rfl⟩)
    refine ⟨_, List.mem_singleton_self _, fun _ => .inl ⟨text, t, ht, .inl ?_, hinfix⟩,
      fun hne => ?_⟩
    · simp
    · rw [htype] at hne
      cases hne
  · rw [if_neg hall] at h
    obtain rfl := Except.ok.inj h
    have hmem : Json.obj p ∈ blocksOf
        [("role", .str "user"), ("content", .arr (parts.map .obj))] := by
      simpa [blocksOf] using hp
    exact ⟨_, List.mem_singleton_self _, fun htype => .inr ⟨p, hmem, htype, rfl⟩, fun _ => hmem⟩

/-- The user message has nothing else in it. -/
lemma of_mem_userMessage {parts users : List Dict} (h : userMessageOf parts = .ok users) {m : Dict}
    (hm : m ∈ users) : m.get "tool_calls" = .null ∧ ∀ b ∈ blocksOf m, ∃ p ∈ parts, b = .obj p := by
  unfold userMessageOf at h
  by_cases hnil : parts = []
  · rw [if_pos hnil] at h
    obtain rfl := Except.ok.inj h
    cases hm
  rw [if_neg hnil] at h
  by_cases hall : (parts.all fun p => (p.get "type").eqStr "text") = true
  · rw [if_pos hall] at h
    obtain ⟨text, -, h⟩ := bind_eq_ok.mp h
    obtain rfl := Except.ok.inj h
    obtain rfl := List.mem_singleton.mp hm
    exact ⟨by simp, fun b hb => by simp [blocksOf] at hb⟩
  · rw [if_neg hall] at h
    obtain rfl := Except.ok.inj h
    obtain rfl := List.mem_singleton.mp hm
    refine ⟨by simp, fun b hb => ?_⟩
    have hb : b ∈ parts.map .obj := by simpa [blocksOf] using hb
    obtain ⟨p, hp, rfl⟩ := List.mem_map.mp hb
    exact ⟨p, hp, rfl⟩

/-- The messages of tool results have no calls and no blocks. -/
lemma of_mem_toolMessages {ds : List Dict} {m : Dict}
    (hm : m ∈ (ds.map (pieceOf py)).filterMap UserPiece.toolMessage?) :
    m.get "tool_calls" = .null ∧ blocksOf m = [] := by
  obtain ⟨piece, hpiece, hm⟩ := List.mem_filterMap.mp hm
  obtain ⟨d, -, rfl⟩ := List.mem_map.mp hpiece
  have hm : m = ([("role", .str "tool"), ("tool_call_id", d.get "tool_use_id" (.str "")),
      ("content", resultText (d.get "content"))] : Dict) := by
    unfold pieceOf at hm
    split at hm
    · exact (Option.some.inj hm).symm
    · split at hm
      · cases hm
      · split at hm
        · cases hm
        · split at hm <;> cases hm
  subst hm
  refine ⟨by simp, ?_⟩
  obtain ⟨s, hs⟩ : ∃ s, resultText (d.get "content") = .str s := by
    unfold resultText
    split
    · next hstr => cases hc : d.get "content" <;> simp_all [Json.isStr]
    · exact ⟨_, rfl⟩
  simp [blocksOf, hs]

/-- A part of a user message is a text or an image URL. -/
lemma type_of_part {ds : List Dict} {p : Dict}
    (hp : p ∈ (ds.map (pieceOf py)).filterMap UserPiece.part?) :
    (p.get "type").eqStr "text" = true ∨ (p.get "type").eqStr "image_url" = true := by
  obtain ⟨piece, hpiece, hp⟩ := List.mem_filterMap.mp hp
  obtain ⟨d, -, rfl⟩ := List.mem_map.mp hpiece
  unfold pieceOf at hp
  split at hp
  · cases hp
  split at hp
  · obtain rfl := Option.some.inj hp
    exact .inl (by simp)
  split at hp
  · obtain rfl := Option.some.inj hp
    exact .inr (by simp)
  split at hp
  · next htype =>
    obtain rfl := Option.some.inj hp
    exact .inr htype
  · cases hp

/-- What a user message becomes has no calls, and no blocks but the parts. -/
lemma of_mem_userOutput {ds users : List Dict}
    (husers : userMessageOf ((ds.map (pieceOf py)).filterMap UserPiece.part?) = .ok users)
    {m : Dict} (hm : m ∈ (ds.map (pieceOf py)).filterMap UserPiece.toolMessage? ++ users) :
    m.get "tool_calls" = .null ∧ ∀ b ∈ blocksOf m,
      ∃ p ∈ (ds.map (pieceOf py)).filterMap UserPiece.part?, b = .obj p := by
  rcases List.mem_append.mp hm with hm | hm
  · obtain ⟨hcalls, hblocks⟩ := of_mem_toolMessages hm
    exact ⟨hcalls, fun b hb => by rw [hblocks] at hb; cases hb⟩
  · exact of_mem_userMessage husers hm

/-- A block of a user message is kept if the translator reads it. -/
lemma inOpenai_user_iff {content : List Json} {pieces : List UserPiece} {users : List Dict}
    (hpieces : content.mapM (userBlockToOpenai py) = .ok pieces)
    (husers : userMessageOf (pieces.filterMap UserPiece.part?) = .ok users) {b : Json}
    (hb : b ∈ content) :
    InOpenai py (pieces.filterMap UserPiece.toolMessage? ++ users) b ↔
      ((blockType b).eqStr "text" || ((blockType b).eqStr "image" && hasUrlSource b) ||
        (blockType b).eqStr "image_url" || (blockType b).eqStr "tool_result") = true := by
  obtain ⟨ds, rfl, rfl⟩ := eq_pieces hpieces
  obtain ⟨d, hd, rfl⟩ := List.mem_map.mp hb
  have hpart : ∀ p, pieceOf py d = .part p →
      p ∈ (ds.map (pieceOf py)).filterMap UserPiece.part? := fun p hp =>
    List.mem_filterMap.mpr ⟨_, List.mem_map.mpr ⟨d, hd, rfl⟩, by rw [hp]; rfl⟩
  unfold InOpenai blockType hasUrlSource
  dsimp only
  by_cases htext : (Dict.get d "type").eqStr "text" = true
  · have hp := hpart [("type", .str "text"), ("text", d.get "text" (.str ""))] (by
      rw [pieceOf, eqStr_unique htext (by simp), if_neg Bool.false_ne_true, if_pos htext])
    obtain ⟨m, hm, hsays, -⟩ := userMessage_of_part husers hp
    simp only [htext, if_true, Bool.true_or, iff_true]
    exact ⟨m, List.mem_append_right _ hm, by simpa using hsays⟩
  by_cases himage : (Dict.get d "type").eqStr "image" = true
  · let iu : Dict := [("url", pictureUrl py (dictOf (d.get "source")))]
    have hp := hpart [("type", .str "image_url"), ("image_url", .obj iu)] (by
      rw [pieceOf, eqStr_unique himage (by simp), if_neg Bool.false_ne_true, if_neg htext,
        if_pos himage])
    obtain ⟨m, hm, -, hmem⟩ := userMessage_of_part husers hp
    have hurl : (Dict.get d "type").eqStr "image_url" = false := eqStr_unique himage (by simp)
    have hresult : (Dict.get d "type").eqStr "tool_result" = false := eqStr_unique himage (by simp)
    simp only [htext, himage, hurl, hresult, Bool.false_eq_true, if_true, if_false, Bool.true_and,
      Bool.false_or, Bool.or_false]
    constructor
    · rintro ⟨-, -, hsource, -⟩
      exact hsource
    · intro hsource
      exact ⟨m, List.mem_append_right _ hm, hsource, _, iu, hmem (by simp), by simp, by simp,
        by simp [iu]⟩
  by_cases hurl : (Dict.get d "type").eqStr "image_url" = true
  · have huse : (Dict.get d "type").eqStr "tool_use" = false := eqStr_unique hurl (by simp)
    have hresult : (Dict.get d "type").eqStr "tool_result" = false := eqStr_unique hurl (by simp)
    have hp := hpart d (by
      rw [pieceOf, hresult, if_neg Bool.false_ne_true, if_neg htext, if_neg himage, if_pos hurl])
    obtain ⟨m, hm, -, hmem⟩ := userMessage_of_part husers hp
    simp only [htext, himage, hurl, huse, hresult, Bool.false_eq_true, if_false, Bool.or_true,
      Bool.true_or, iff_true]
    exact ⟨m, List.mem_append_right _ hm, _, hmem (Bool.eq_false_of_not_eq_true htext), .refl _⟩
  by_cases hresult : (Dict.get d "type").eqStr "tool_result" = true
  · have huse : (Dict.get d "type").eqStr "tool_use" = false := eqStr_unique hresult (by simp)
    simp only [htext, himage, hurl, huse, hresult, Bool.false_eq_true, if_true, if_false,
      Bool.or_true, iff_true]
    refine ⟨[("role", .str "tool"), ("tool_call_id", d.get "tool_use_id" (.str "")),
      ("content", resultText (d.get "content"))], List.mem_append_left _ ?_,
      by simp [ReportsResult]⟩
    refine List.mem_filterMap.mpr ⟨_, List.mem_map.mpr ⟨d, hd, rfl⟩, ?_⟩
    rw [pieceOf, if_pos hresult]
    rfl
  simp only [htext, himage, hurl, hresult, if_false, Bool.false_eq_true, Bool.false_and,
    Bool.or_self, iff_false]
  rintro ⟨m, hm, hkept⟩
  obtain ⟨hcalls, hblocks⟩ := of_mem_userOutput husers hm
  split at hkept
  · obtain ⟨calls, call, fn, hget, -⟩ := hkept
    rw [hcalls] at hget
    cases hget
  · -- the parts are texts and image URLs, and the block is neither
    obtain ⟨b', hb', hsame⟩ := hkept
    obtain ⟨p, hp, rfl⟩ := hblocks b' hb'
    rcases type_of_part hp with htype | htype
    · exact htext ((hsame.eqStr_get "type" "text").trans htype)
    · exact hurl ((hsame.eqStr_get "type" "image_url").trans htype)

/-- A validated message of blocks keeps all of them if it can be translated and all are read. -/
lemma keeps_anthropicMessageToOpenai {m : Dict} (hm : BlockMessage m)
    (hvalid : ∀ content, m.get "content" = .arr content →
      ∀ b ∈ content, validateBlock py b = .ok ()) :
    (∃ out, anthropicMessageToOpenai py m = .ok out ∧ ∀ b ∈ blocksOf m, InOpenai py out b) ↔
      OpenAIShaped.message m = true ∧ ∀ b ∈ blocksOf m, isReadBlock m b = true := by
  rw [← returns_anthropicMessageToOpenai hvalid]
  have hread : ∀ out, anthropicMessageToOpenai py m = .ok out → ∀ b ∈ blocksOf m,
      (InOpenai py out b ↔ isReadBlock m b = true) := by
    intro out hout b hb
    obtain ⟨content, hcontent⟩ := hm.content
    have hb : b ∈ content := by simpa [blocksOf, hcontent] using hb
    simp only [anthropicMessageToOpenai, hcontent] at hout
    unfold isReadBlock
    by_cases hrole : (m.get "role").eqStr "assistant" = true
    · simp only [hrole, if_true] at hout ⊢
      obtain ⟨msg, hmsg, hout⟩ := bind_eq_ok.mp hout
      obtain rfl := Except.ok.inj hout
      exact inOpenai_assistant_iff hmsg hb
    · simp only [hrole, Bool.false_eq_true, if_false] at hout ⊢
      obtain ⟨pieces, hpieces, hout⟩ := bind_eq_ok.mp hout
      obtain ⟨users, husers, hout⟩ := bind_eq_ok.mp hout
      obtain rfl := Except.ok.inj hout
      exact inOpenai_user_iff hpieces husers hb
  constructor
  · rintro ⟨out, hout, hkept⟩
    exact ⟨⟨out, hout⟩, fun b hb => (hread out hout b hb).mp (hkept b hb)⟩
  · rintro ⟨⟨out, hout⟩, hall⟩
    exact ⟨out, hout, fun b hb => (hread out hout b hb).mpr (hall b hb)⟩

end OpenAI

end AgentCtl
