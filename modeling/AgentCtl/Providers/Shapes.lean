import AgentCtl.Library.ExceptList
import AgentCtl.Providers.AnthropicProvider

set_option relaxedAutoImplicit false
set_option autoImplicit false

/-!
# When a translation raises

`validate_local_content` looks for audio blocks, image URLs and tool choice strings. The
translators read much more of a request, and every access that finds a value of another shape
raises. This module says which requests each translator takes, and what it raises on the others:
built-in exceptions, none of the gateway's own.

## Main definitions

* `AgentCtl.OpenAIShaped`, `AgentCtl.AnthropicShaped` — the requests the two adapters translate.
* `AgentCtl.Exc.IsForeign` — exceptions that are none of the gateway's own and carry no status.

## Main results

* `AgentCtl.chatKwargs_returns_iff`, `AgentCtl.messageKwargs_returns_iff` — which valid requests the
  adapters translate.
* `AgentCtl.raises_chatKwargs`, `AgentCtl.raises_messageKwargs` — what they raise on the others.
-/

namespace AgentCtl

/-! ## Foreign exceptions -/

/-- The exception is an `Exception` outside the gateway's tree, and carries no HTTP status. -/
structure Exc.IsForeign (e : Exc) : Prop where
  not_gateway : e.isGateway = false
  no_status : e.statusCode = none
  isException : e.isException = true

/-- `typed_error` takes a foreign exception for a network error. -/
lemma typedError_of_isForeign {e : Exc} (h : e.IsForeign) : typedError e = .retriable e.msg := by
  simp [typedError, h.not_gateway, h.no_status]

/-- A foreign exception is no refusal by the provider. -/
lemma Exc.IsForeign.isTerminal {e : Exc} (h : e.IsForeign) : e.isTerminal = false := by
  obtain ⟨cls, msg, status⟩ := e
  have := h.not_gateway
  cases cls <;> simp_all [Exc.isTerminal, Exc.isGateway]

open Except

/-! ## Accesses -/

/-- Is the value an object? -/
def isObj : Json → Bool
  | .obj _ => true
  | _ => false

/-- Can `(v or {}).get` be called? -/
def objOrFalsy (v : Json) : Bool := isObj v || !v.truthy

/-- Only an object has a `get`. -/
lemma returns_asDict (v : Json) : (asDict v).Returns ↔ isObj v = true := by
  cases v <;> simp [asDict, isObj]

/-- A missing `get` is an `AttributeError`. -/
lemma raises_asDict (v : Json) : (asDict v).Raises Exc.IsForeign := by
  cases v <;> simp [asDict, Json.noAttribute] <;> exact ⟨rfl, rfl, rfl⟩

/-- `v or {}` has a `get` if `v` is an object or falsy. -/
lemma returns_asDict_orElse (v : Json) :
    (asDict (v.orElse (.obj []))).Returns ↔ objOrFalsy v = true := by
  rw [returns_asDict]
  unfold Json.orElse objOrFalsy
  by_cases h : v.truthy = true
  · simp [h]
  · simp [h, isObj]

/-- `d[k]` needs the key. -/
lemma returns_item (d : Dict) (k : Str) : ((Json.obj d).item k).Returns ↔ d.has k = true := by
  unfold Json.item OrderedDict.has
  cases h : OrderedDict.get? d k <;> simp [h]

/-- `v[k]` raises a `KeyError` or a `TypeError`. -/
lemma raises_item (v : Json) (k : Str) : (v.item k).Raises Exc.IsForeign := by
  unfold Json.item
  split
  · split
    · exact raises_ok _
    · exact (raises_error _).mpr ⟨rfl, rfl, rfl⟩
  all_goals exact (raises_error _).mpr ⟨rfl, rfl, rfl⟩

/-- Iterating over a number is a `TypeError`. -/
lemma raises_elements (v : Json) : v.elements.Raises Exc.IsForeign := by
  unfold Json.elements
  split
  all_goals first | exact raises_ok _ | exact (raises_error _).mpr ⟨rfl, rfl, rfl⟩

/-- Only strings can be joined. -/
lemma returns_join (vs : List Json) : (Json.join vs).Returns ↔ ∀ v ∈ vs, v.isStr = true := by
  suffices h : ∀ i, (Json.joinFrom i vs).Returns ↔ ∀ v ∈ vs, v.isStr = true from h 0
  induction vs with
  | nil => simp [Json.joinFrom]
  | cons v vs ih =>
    intro i
    cases v with
    | str s =>
      rw [Json.joinFrom, returns_bind, List.forall_mem_cons, ← ih (i + 1)]
      simp [Returns, Json.isStr]
    | _ => simp [Json.joinFrom, Json.isStr]

/-- Joining anything else is a `TypeError`. -/
lemma raises_join (vs : List Json) : (Json.join vs).Raises Exc.IsForeign := by
  suffices h : ∀ i, (Json.joinFrom i vs).Raises Exc.IsForeign from h 0
  induction vs with
  | nil => exact fun i => raises_ok _
  | cons v vs ih =>
    intro i
    cases v with
    | str s => exact raises_bind (ih (i + 1)) fun t _ => raises_pure _
    | _ => exact (raises_error _).mpr ⟨rfl, rfl, rfl⟩

/-- Only a string equals a string. -/
lemma eqStr_iff (v : Json) (s : Str) : v.eqStr s = true ↔ v = .str s := by
  cases v <;> simp [Json.eqStr]

/-- A type is one string only. -/
lemma eqStr_unique {v : Json} {s t : Str} (h : v.eqStr s = true) (hne : s ≠ t) :
    v.eqStr t = false := by
  rw [(eqStr_iff v s).mp h]
  simp [hne]

/-! ## Valid content -/

variable {py : Runtime}

/-- What validation ensures about a block. -/
lemma of_validateBlock {d : Dict} (h : validateBlock py (.obj d) = .ok ()) :
    rejectUnsupported py (d.get "type") = .ok () ∧
      ((d.get "type").eqStr "image_url" = true → (checkImageUrl (imageUrlOf d)).Returns) := by
  unfold validateBlock at h
  cases hr : rejectUnsupported py (d.get "type") with
  | error e => simp [hr] at h
  | ok u =>
    refine ⟨rfl, fun ht => ?_⟩
    cases hu : checkImageUrl (imageUrlOf d) with
    | ok url => exact returns_ok _
    | error e => simp [hr, ht, hu] at h

/-- What validation ensures about a request: its blocks are valid, and its tool choice, if it is a
string, is a known one. -/
lemma of_validateLocalContent {messages : List Dict} {toolChoice : Option ToolChoice}
    (h : validateLocalContent py messages toolChoice = .ok ()) :
    (∀ m ∈ messages, ∀ content, m.get "content" = .arr content →
        ∀ b ∈ content, validateBlock py b = .ok ()) ∧
      ∀ s, toolChoice = some (.str s) →
        s = ("auto" : Str) ∨ s = ("required" : Str) ∨ s = ("none" : Str) := by
  have hm : ∀ m ∈ messages, (validateMessage py m).Returns := by
    rw [← List.returns_forM]
    cases hf : messages.forM (validateMessage py) with
    | ok u => exact returns_ok u
    | error e => simp [validateLocalContent, hf] at h
  have hall := (List.returns_forM _ _).mpr hm
  obtain ⟨u, hu⟩ := hall
  refine ⟨fun m hmem content hc b hb => ?_, fun s hs => ?_⟩
  · have hcontent := hm m hmem
    rw [validateMessage, hc] at hcontent
    obtain ⟨u, hb⟩ := (List.returns_forM _ _).mp hcontent b hb
    exact hb
  · by_contra hne
    push Not at hne
    simp [validateLocalContent, hu, hs, hne] at h

/-! ## Requests for an OpenAI backend -/

/-- Is the text of a text block a string? -/
def textIsStr : Json → Bool
  | .obj d => !(Dict.get d "type").eqStr "text" || (Dict.get d "text" (.str "")).isStr
  | _ => false

/-- Can the block of a user message be read? The source of an image must be an object. -/
def userBlockShaped : Json → Bool
  | .obj d => !(Dict.get d "type").eqStr "image" || objOrFalsy (Dict.get d "source")
  | _ => false

/-- Does the block become an image part? -/
def isPicture : Json → Bool
  | .obj d => (Dict.get d "type").eqStr "image" || (Dict.get d "type").eqStr "image_url"
  | _ => false

/-- The messages that `anthropic_messages_to_openai` translates: their content is no block list, or
its blocks can be read and the texts that are joined are strings. -/
def OpenAIShaped.message (m : Dict) : Bool :=
  match m.get "content" with
  | .arr content =>
    if (m.get "role").eqStr "assistant" then content.all textIsStr
    else content.all userBlockShaped && (content.any isPicture || content.all textIsStr)
  | _ => true

/-- The tools that `anthropic_tools_to_openai` translates: in OpenAI form, or with a name. -/
def OpenAIShaped.tool (t : Json) : Bool :=
  isFunctionTool t ||
    match t with
    | .obj d => OrderedDict.has d "name"
    | _ => false

/-- The tool choices that `anthropic_tool_choice_to_openai` translates: a chosen tool has a name. -/
def OpenAIShaped.toolChoice : Option ToolChoice → Bool
  | some (.obj d) => !(d.get "type").eqStr "tool" || d.has "name"
  | _ => true

/-- The valid requests that the OpenAI adapter translates. -/
def OpenAIShaped (request : NormalizedRequest) : Bool :=
  request.messages.all OpenAIShaped.message && (request.tools.getD []).all OpenAIShaped.tool &&
    OpenAIShaped.toolChoice request.toolChoice

section OpenAI

/-- A list of objects. -/
lemma exists_objs {content : List Json} (h : ∀ b ∈ content, isObj b = true) :
    ∃ ds : List Dict, content = ds.map .obj := by
  induction content with
  | nil => exact ⟨[], rfl⟩
  | cons b content ih =>
    obtain ⟨ds, rfl⟩ := ih fun c hc => h c (List.mem_cons_of_mem _ hc)
    cases b with
    | obj d => exact ⟨d :: ds, rfl⟩
    | _ => simp [isObj] at h

/-- An assistant message needs objects as blocks, and strings as texts. -/
lemma returns_assistantToOpenai (content : List Json) :
    (assistantToOpenai content).Returns ↔ content.all textIsStr = true := by
  by_cases hobj : ∀ b ∈ content, isObj b = true
  · obtain ⟨ds, rfl⟩ := exists_objs hobj
    have hmap : (ds.map Json.obj).mapM asDict = .ok ds := by
      rw [List.mapM_map]
      exact (List.mapM_ok (g := id) fun d _ => rfl).trans (by rw [List.map_id])
    have hjoin : (assistantToOpenai (ds.map .obj)).Returns ↔
        (Json.join ((ds.filter fun b => (b.get "type").eqStr "text").map
          fun b => b.get "text" (.str ""))).Returns := by
      rw [assistantToOpenai, hmap]
      exact returns_bind_pure _ _
    rw [hjoin, returns_join]
    simp only [List.forall_mem_map, List.mem_filter, List.all_eq_true, textIsStr, and_imp,
      Bool.or_eq_true, Bool.not_eq_true', or_iff_not_imp_left, Bool.not_eq_false]
  · refine iff_of_false (fun h => hobj fun b hb => ?_) fun h => hobj fun b hb => ?_
    · obtain ⟨ds, hds, -⟩ := (returns_bind _ _).mp h
      have hmap : (content.mapM asDict).Returns := ⟨ds, hds⟩
      rw [List.returns_mapM] at hmap
      exact (returns_asDict b).mp (hmap b hb)
    · have hb' := List.all_eq_true.mp h b hb
      cases b <;> simp_all [textIsStr, isObj]

/-- Its failures are built-in exceptions. -/
lemma raises_assistantToOpenai (content : List Json) :
    (assistantToOpenai content).Raises Exc.IsForeign := by
  refine raises_bind (List.raises_mapM fun b _ => raises_asDict b) fun ds _ => ?_
  exact raises_bind (raises_join _) fun text _ => raises_pure _

/-- An image needs a source that is an object or falsy. -/
lemma returns_anthropicImageToOpenai (d : Dict) :
    (anthropicImageToOpenai py d).Returns ↔ objOrFalsy (d.get "source") = true := by
  rw [← returns_asDict_orElse]
  exact returns_bind_pure _ _

/-- Which blocks of a user message can be read. -/
lemma returns_userBlockToOpenai {b : Json} (hb : validateBlock py b = .ok ()) :
    (userBlockToOpenai py b).Returns ↔ userBlockShaped b = true := by
  cases b with
  | obj d =>
    have hok := (of_validateBlock hb).1
    have himage : (Dict.get d "type").eqStr "image" = true →
        (Dict.get d "type").eqStr "tool_result" = false ∧
          (Dict.get d "type").eqStr "text" = false :=
      fun h => ⟨eqStr_unique h (by simp), eqStr_unique h (by simp)⟩
    unfold userBlockToOpenai userBlockShaped
    by_cases hi : (Dict.get d "type").eqStr "image" = true
    · obtain ⟨hr, ht⟩ := himage hi
      simp only [asDict, ok_bind, hok, hi, hr, ht, if_true, Bool.false_eq_true, if_false,
        Bool.not_true, Bool.false_or]
      rw [returns_bind_pure, returns_anthropicImageToOpenai]
    · simp only [asDict, ok_bind, hok, hi, Bool.false_eq_true, if_false, Bool.not_false,
        Bool.true_or, iff_true]
      split
      · exact returns_pure _
      · split
        · exact returns_pure _
        · split <;> exact returns_pure _
  | _ => simp [userBlockToOpenai, asDict, userBlockShaped]

/-- A validated block of a user message fails with a built-in exception. -/
lemma raises_userBlockToOpenai {b : Json} (hb : validateBlock py b = .ok ()) :
    (userBlockToOpenai py b).Raises Exc.IsForeign := by
  cases b with
  | obj d =>
    unfold userBlockToOpenai
    simp only [asDict, ok_bind, (of_validateBlock hb).1]
    split
    · exact raises_pure _
    · split
      · exact raises_pure _
      · split
        · refine raises_bind (raises_bind (raises_asDict _) fun _ _ => raises_pure _) fun p _ => ?_
          exact raises_pure _
        · split <;> exact raises_pure _
  | _ => exact raises_bind (raises_asDict _) fun d hd => by simp [asDict] at hd

/-- The part that a readable block of a user message becomes: a picture is no text, and a text
block keeps its text. -/
lemma part_of_userBlock {b : Json} {piece : UserPiece} (h : userBlockToOpenai py b = .ok piece) :
    match piece.part? with
    | some p => (p.get "type").eqStr "text" = !isPicture b ∧
        (isPicture b = false → (p.get "text").isStr = textIsStr b)
    | none => isPicture b = false ∧ textIsStr b = true := by
  cases b with
  | obj d =>
    unfold userBlockToOpenai at h
    simp only [asDict, ok_bind] at h
    cases hr : rejectUnsupported py (Dict.get d "type") with
    | error e => simp [hr] at h
    | ok u =>
      simp only [hr, ok_bind] at h
      unfold isPicture textIsStr
      split at h
      · next ht =>
        obtain rfl := Except.ok.inj h
        simp [UserPiece.part?, eqStr_unique ht]
      · split at h
        · next ht =>
          obtain rfl := Except.ok.inj h
          simp [UserPiece.part?, eqStr_unique ht, ht]
        · next ht =>
          split at h
          · next hi =>
            obtain ⟨p, hp, hpiece⟩ :
                ∃ p, anthropicImageToOpenai py d = .ok p ∧ piece = .part p := by
              cases hp : anthropicImageToOpenai py d with
              | ok p => exact ⟨p, rfl, by simpa [hp, eq_comm] using h⟩
              | error e => simp [hp] at h
            subst hpiece
            have htype : p.get "type" = .str "image_url" := by
              unfold anthropicImageToOpenai at hp
              cases hs : asDict ((Dict.get d "source").orElse (.obj [])) with
              | ok source =>
                rw [hs] at hp
                obtain rfl := Except.ok.inj hp
                simp
              | error e => simp [hs] at hp
            simp [UserPiece.part?, htype, hi]
          · next hi =>
            split at h
            · next hu =>
              obtain rfl := Except.ok.inj h
              simp [UserPiece.part?, hu, ht]
            · next hu =>
              obtain rfl := Except.ok.inj h
              simp [UserPiece.part?, hi, hu, ht]
  | _ => simp [userBlockToOpenai, asDict] at h

/-- Joining the texts of a user message fails with a `TypeError`. -/
lemma raises_userMessageOf (parts : List Dict) : (userMessageOf parts).Raises Exc.IsForeign := by
  unfold userMessageOf
  split
  · exact raises_ok _
  · split
    · exact raises_bind (raises_join _) fun text _ => raises_pure _
    · exact raises_ok _

/-- The parts of a user message can be put together when there is a picture among them, or all
texts are strings. -/
lemma returns_userMessageOf {content : List Json} {pieces : List UserPiece}
    (h : List.Forall₂ (fun b piece => userBlockToOpenai py b = .ok piece) content pieces) :
    (userMessageOf (pieces.filterMap UserPiece.part?)).Returns ↔
      (content.any isPicture || content.all textIsStr) = true := by
  let parts := pieces.filterMap UserPiece.part?
  have hspec : (parts.all fun p => (p.get "type").eqStr "text") = !content.any isPicture ∧
      (content.any isPicture = false →
        ((∀ p ∈ parts, (p.get "text").isStr = true) ↔ content.all textIsStr = true)) := by
    induction h with
    | nil => simp [parts]
    | cons hp hrest ih =>
      rename_i b piece content pieces
      have hpart := part_of_userBlock hp
      obtain ⟨ihpicture, ihtext⟩ := ih
      cases hpiece : piece.part? with
      | none =>
        rw [hpiece] at hpart
        obtain ⟨hpicture, htext⟩ := hpart
        simpa [parts, hpiece, hpicture, htext] using And.intro ihpicture ihtext
      | some p =>
        rw [hpiece] at hpart
        obtain ⟨hpicture, htext⟩ := hpart
        refine ⟨by simp [parts, hpiece, hpicture, ihpicture], fun hnone => ?_⟩
        rw [List.any_cons, Bool.or_eq_false_iff] at hnone
        have hrest' := ihtext hnone.2
        simp only [parts, List.filterMap_cons, hpiece, List.forall_mem_cons, htext hnone.1,
          List.all_cons, Bool.and_eq_true]
        exact and_congr_right fun _ => hrest'
  obtain ⟨hpicture, htext⟩ := hspec
  change (userMessageOf parts).Returns ↔ _
  unfold userMessageOf
  by_cases hnil : parts = []
  · have hnone : content.any isPicture = false := by simpa [hnil] using hpicture
    have hall : content.all textIsStr = true := (htext hnone).mp (by simp [hnil])
    simp [hnil, hall]
  · by_cases hany : content.any isPicture = true
    · simp [hnil, hpicture, hany]
    · rw [Bool.not_eq_true] at hany
      simp only [hnil, if_false, hpicture, hany, Bool.not_false, if_true, Bool.false_or]
      rw [returns_bind_pure, returns_join, ← htext hany]
      simp

/-- Which messages can be translated. -/
lemma returns_anthropicMessageToOpenai {m : Dict}
    (hm : ∀ content, m.get "content" = .arr content → ∀ b ∈ content, validateBlock py b = .ok ()) :
    (anthropicMessageToOpenai py m).Returns ↔ OpenAIShaped.message m = true := by
  unfold anthropicMessageToOpenai OpenAIShaped.message
  cases hc : m.get "content" with
  | arr content =>
    dsimp only
    by_cases hrole : (m.get "role").eqStr "assistant" = true
    · simp only [hrole, if_true]
      rw [returns_bind_pure, returns_assistantToOpenai]
    · simp only [hrole, Bool.false_eq_true, if_false, Bool.and_eq_true]
      have hblocks : (content.mapM (userBlockToOpenai py)).Returns ↔
          content.all userBlockShaped = true := by
        rw [List.returns_mapM, List.all_eq_true]
        exact forall₂_congr fun b hb => returns_userBlockToOpenai (hm content hc b hb)
      rw [returns_bind, ← hblocks]
      constructor
      · rintro ⟨pieces, hp, hr⟩
        have hf := List.mapM_eq_ok hp
        exact ⟨⟨pieces, hp⟩, (returns_userMessageOf hf).mp ((returns_bind_pure _ _).mp hr)⟩
      · rintro ⟨⟨pieces, hp⟩, hr⟩
        have hf := List.mapM_eq_ok hp
        exact ⟨pieces, hp, (returns_bind_pure _ _).mpr ((returns_userMessageOf hf).mpr hr)⟩
  | _ => simp

/-- A validated message fails with a built-in exception. -/
lemma raises_anthropicMessageToOpenai {m : Dict}
    (hm : ∀ content, m.get "content" = .arr content → ∀ b ∈ content, validateBlock py b = .ok ()) :
    (anthropicMessageToOpenai py m).Raises Exc.IsForeign := by
  unfold anthropicMessageToOpenai
  split
  · next content hc =>
    split
    · exact raises_bind (raises_assistantToOpenai _) fun _ _ => raises_pure _
    · refine raises_bind (List.raises_mapM fun b hb => ?_) fun pieces _ => ?_
      · exact raises_userBlockToOpenai (hm content hc b hb)
      · exact raises_bind (raises_userMessageOf _) fun _ _ => raises_pure _
  · exact raises_ok _

/-- A tool needs a name, unless it is in OpenAI form. -/
lemma returns_anthropicToolToOpenai (t : Json) :
    (anthropicToolToOpenai t).Returns ↔ OpenAIShaped.tool t = true := by
  unfold anthropicToolToOpenai OpenAIShaped.tool
  by_cases hf : isFunctionTool t = true
  · simp [hf]
  · simp only [hf, Bool.false_eq_true, if_false, Bool.false_or]
    cases t with
    | obj d =>
      rw [← returns_item, returns_bind]
      simp [asDict, Returns]
    | _ => simp [Json.item]

/-- Its failures are built-in exceptions. -/
lemma raises_anthropicToolToOpenai (t : Json) :
    (anthropicToolToOpenai t).Raises Exc.IsForeign := by
  unfold anthropicToolToOpenai
  split
  · exact raises_ok _
  · refine raises_bind (raises_item _ _) fun name _ => ?_
    exact raises_bind (raises_asDict _) fun d _ => raises_pure _

/-- A chosen tool needs a name. -/
lemma returns_chatToolChoice (request : NormalizedRequest) :
    (chatToolChoice request).Returns ↔ OpenAIShaped.toolChoice request.toolChoice = true := by
  unfold chatToolChoice OpenAIShaped.toolChoice
  cases request.toolChoice with
  | none => simp
  | some tc =>
    cases tc with
    | str s => simp [anthropicToolChoiceToOpenai]
    | obj d =>
      rw [returns_map, anthropicToolChoiceToOpenai]
      by_cases ht : (d.get "type").eqStr "tool" = true
      · simp only [ht, if_true, Bool.not_true, Bool.false_or]
        rw [returns_bind_pure, returns_item]
      · simp only [ht, Bool.false_eq_true, if_false]
        split <;> simp

/-- Its absence is a `KeyError`. -/
lemma raises_chatToolChoice (request : NormalizedRequest) :
    (chatToolChoice request).Raises Exc.IsForeign := by
  unfold chatToolChoice
  cases request.toolChoice with
  | none => exact raises_ok _
  | some tc =>
    refine raises_map ?_ _
    cases tc with
    | str s => exact raises_ok _
    | obj d =>
      rw [anthropicToolChoiceToOpenai]
      split
      · exact raises_bind (raises_item _ _) fun _ _ => raises_pure _
      · split <;> exact raises_ok _

/-- All tools of a request are translated. -/
lemma returns_chatTools (request : NormalizedRequest) :
    (chatTools request).Returns ↔ (request.tools.getD []).all OpenAIShaped.tool = true := by
  have hall : ∀ ts, (anthropicToolsToOpenai ts).Returns ↔ ts.all OpenAIShaped.tool = true := by
    intro ts
    rw [anthropicToolsToOpenai, List.returns_mapM, List.all_eq_true]
    exact forall₂_congr fun t _ => returns_anthropicToolToOpenai t
  unfold chatTools
  split
  · next t ts ht => rw [returns_map, hall, ht, Option.getD_some]
  · next hne =>
    cases ht : request.tools with
    | none => simp
    | some ts =>
      cases ts with
      | nil => simp
      | cons t ts => exact absurd ht (hne t ts)

/-- A tool fails with a built-in exception. -/
lemma raises_chatTools (request : NormalizedRequest) :
    (chatTools request).Raises Exc.IsForeign := by
  unfold chatTools
  split
  · exact raises_map (List.raises_mapM fun t _ => raises_anthropicToolToOpenai t) _
  · exact raises_ok _

variable {request : NormalizedRequest} (target : Target) (timeout : ℚ)
  (hvalid : validateLocalContent py request.messages request.toolChoice = .ok ())

include hvalid

/-- Of the valid requests, the OpenAI adapter translates those of the right shape. -/
lemma chatKwargs_returns_iff :
    (chatKwargs py target request timeout).Returns ↔ OpenAIShaped request = true := by
  have hmessages : (chatMessages py request).Returns ↔
      request.messages.all OpenAIShaped.message = true := by
    rw [chatMessages, returns_bind_pure, anthropicMessagesToOpenai, returns_bind_pure,
      List.returns_mapM, List.all_eq_true]
    exact forall₂_congr fun m hm =>
      returns_anthropicMessageToOpenai ((of_validateLocalContent hvalid).1 m hm)
  rw [OpenAIShaped, Bool.and_eq_true, Bool.and_eq_true, ← hmessages, ← returns_chatTools,
    ← returns_chatToolChoice, chatKwargs, returns_bind, and_assoc]
  constructor
  · rintro ⟨messages, hms, h⟩
    obtain ⟨tools, hts, h⟩ := (returns_bind _ _).mp h
    exact ⟨⟨messages, hms⟩, ⟨tools, hts⟩, (returns_bind_pure _ _).mp h⟩
  · rintro ⟨⟨messages, hms⟩, ⟨tools, hts⟩, hc⟩
    exact ⟨messages, hms, (returns_bind _ _).mpr ⟨tools, hts, (returns_bind_pure _ _).mpr hc⟩⟩

/-- What the OpenAI adapter raises on a valid request is no refusal of the gateway. -/
lemma raises_chatKwargs : (chatKwargs py target request timeout).Raises Exc.IsForeign := by
  refine raises_bind (raises_bind (raises_bind (List.raises_mapM fun m hm => ?_) ?_) ?_) ?_
  · exact raises_anthropicMessageToOpenai ((of_validateLocalContent hvalid).1 m hm)
  · exact fun _ _ => raises_pure _
  · exact fun _ _ => raises_pure _
  · refine fun _ _ => raises_bind (raises_chatTools request) fun _ _ => ?_
    exact raises_bind (raises_chatToolChoice request) fun _ _ => raises_pure _

end OpenAI

/-! ## Requests for an Anthropic backend -/

/-- Can the arguments of a tool call be read? Text that is no JSON counts as none. -/
def argumentsShaped (py : Runtime) : Json → Bool
  | .str s =>
    s.isEmpty ||
      match py.loads s with
      | .ok _ => true
      | .error e => e.cls = .jsonDecodeError || e.cls = .typeError
  | _ => true

/-- The dict of `v or {}`, where there is one. -/
def dictOf : Json → Dict
  | .obj d => d
  | _ => []

/-- The tool calls that `openai_messages_to_anthropic` translates. -/
def AnthropicShaped.call (py : Runtime) : Json → Bool
  | .obj d => objOrFalsy (Dict.get d "function") &&
      argumentsShaped py ((dictOf (Dict.get d "function")).get "arguments" (.str ""))
  | _ => false

/-- The messages that `openai_messages_to_anthropic` translates: the tool calls of an assistant, if
there are any, are a list of readable calls. -/
def AnthropicShaped.message (py : Runtime) (m : Dict) : Bool :=
  !((m.get "role").eqStr "assistant" && (m.get "tool_calls").truthy) ||
    match m.get "tool_calls" with
    | .arr calls => calls.all (AnthropicShaped.call py)
    | _ => false

/-- The tools that `openai_tools_to_anthropic` translates. -/
def AnthropicShaped.tool (t : Json) : Bool :=
  !isFunctionTool t ||
    match t with
    | .obj d => objOrFalsy (Dict.get d "function")
    | _ => false

/-- The tool choices that `openai_tool_choice_to_anthropic` translates. -/
def AnthropicShaped.toolChoice : Option ToolChoice → Bool
  | some (.obj d) => !(d.get "type").eqStr "function" || objOrFalsy (d.get "function")
  | _ => true

/-- The valid requests that the Anthropic adapter translates. -/
def AnthropicShaped (py : Runtime) (request : NormalizedRequest) : Bool :=
  request.messages.all (AnthropicShaped.message py) &&
    (request.tools.getD []).all AnthropicShaped.tool &&
      AnthropicShaped.toolChoice request.toolChoice

section Anthropic

/-- The object that `v or {}` is. -/
lemma asDict_orElse {v : Json} (h : objOrFalsy v = true) :
    asDict (v.orElse (.obj [])) = .ok (dictOf v) := by
  unfold Json.orElse
  by_cases ht : v.truthy = true
  · cases v <;> simp_all [objOrFalsy, isObj, asDict, dictOf]
  · rw [if_neg ht]
    cases v <;> simp_all [Json.truthy, asDict, dictOf]

/-- Arguments are read, or taken for none. -/
lemma returns_parseArguments (v : Json) :
    (parseArguments py v).Returns ↔ argumentsShaped py v = true := by
  unfold parseArguments argumentsShaped
  cases v with
  | str s =>
    by_cases hs : s.isEmpty = true
    · simp [Json.truthy, hs]
    · simp only [Json.truthy, hs, Bool.not_false, Bool.not_true, Bool.false_eq_true, if_false,
        Bool.false_or]
      cases py.loads s with
      | ok v => simp
      | error e =>
        by_cases he : e.cls = .jsonDecodeError ∨ e.cls = .typeError
        · simp [he]
        · simp [he]
  | _ => split <;> simp

/-- What `json.loads` raises beyond that goes through. -/
lemma raises_parseArguments (hloads : ∀ s, (py.loads s).Raises Exc.IsForeign) (v : Json) :
    (parseArguments py v).Raises Exc.IsForeign := by
  unfold parseArguments
  split
  · exact raises_ok _
  · cases v with
    | str s =>
      cases h : py.loads s with
      | ok v => simp [h]
      | error e =>
        simp only [h]
        split
        · exact raises_ok _
        · exact (raises_error e).mpr (hloads s e h)
    | _ => exact raises_ok _

/-- A tool call needs an object, whose function is an object or falsy. -/
lemma returns_callToToolUse (tc : Json) :
    (callToToolUse py tc).Returns ↔ AnthropicShaped.call py tc = true := by
  cases tc with
  | obj d =>
    simp only [callToToolUse, asDict, ok_bind, AnthropicShaped.call]
    by_cases hf : objOrFalsy (Dict.get d "function") = true
    · have hd := asDict_orElse hf
      unfold asDict at hd
      rw [hd, ok_bind, returns_bind_pure, returns_parseArguments, hf, Bool.true_and]
    · have hr := mt (returns_asDict_orElse (Dict.get d "function")).mp hf
      unfold asDict at hr
      refine iff_of_false (fun h => hr ?_) (by simp [hf])
      obtain ⟨fn, hfn, -⟩ := (returns_bind _ _).mp h
      exact ⟨fn, hfn⟩
  | _ => simp [callToToolUse, asDict, AnthropicShaped.call]

/-- Its failures are built-in exceptions. -/
lemma raises_callToToolUse (hloads : ∀ s, (py.loads s).Raises Exc.IsForeign) (tc : Json) :
    (callToToolUse py tc).Raises Exc.IsForeign := by
  refine raises_bind (raises_asDict _) fun d _ => raises_bind (raises_asDict _) fun fn _ => ?_
  exact raises_bind (raises_parseArguments hloads _) fun args _ => raises_pure _

/-- The tool calls of an assistant are readable when they are a list of readable calls. -/
lemma returns_toolCallsMessage {m : Dict} (h : (m.get "tool_calls").truthy = true) :
    (toolCallsMessage py m).Returns ↔
      (match m.get "tool_calls" with
        | .arr calls => calls.all (AnthropicShaped.call py)
        | _ => false) = true := by
  -- neither a character nor a key is a readable call
  have hstr : ∀ vs : List Str, vs ≠ [] →
      ¬ ((vs.map Json.str).mapM (callToToolUse py)).Returns := by
    intro vs hne hr
    obtain ⟨s, vs, rfl⟩ := List.exists_cons_of_ne_nil hne
    have hs := (List.returns_mapM _ _).mp hr (.str s) (by simp)
    simp [returns_callToToolUse, AnthropicShaped.call] at hs
  have hcalls : (toolCallsMessage py m).Returns ↔
      ((m.get "tool_calls").elements >>= fun calls => calls.mapM (callToToolUse py)).Returns := by
    unfold toolCallsMessage
    constructor
    · intro hr
      obtain ⟨calls, hc, hr⟩ := (returns_bind _ _).mp hr
      exact (returns_bind _ _).mpr ⟨calls, hc, (returns_bind_pure _ _).mp hr⟩
    · intro hr
      obtain ⟨calls, hc, hr⟩ := (returns_bind _ _).mp hr
      exact (returns_bind _ _).mpr ⟨calls, hc, (returns_bind_pure _ _).mpr hr⟩
  rw [hcalls]
  cases htc : m.get "tool_calls" with
  | arr calls =>
    simp only [Json.elements, ok_bind]
    rw [List.returns_mapM, List.all_eq_true]
    exact forall₂_congr fun tc _ => returns_callToToolUse tc
  | str s =>
    have hne : s ≠ [] := by simpa [htc, Json.truthy] using h
    have hmap : (s.map fun c => Json.str [c]) = (s.map fun c => [c]).map Json.str := by simp
    simp only [Json.elements, ok_bind, Bool.false_eq_true, iff_false, hmap]
    exact hstr _ (by simpa using hne)
  | obj kvs =>
    have hne : kvs ≠ [] := by simpa [htc, Json.truthy] using h
    have hmap : (kvs.map fun p => Json.str p.1) = (kvs.map Prod.fst).map Json.str := by simp
    simp only [Json.elements, ok_bind, Bool.false_eq_true, iff_false, hmap]
    exact hstr _ (by simpa using hne)
  | _ => simp [Json.elements]

/-- A message with tool calls fails with a built-in exception. -/
lemma raises_toolCallsMessage (hloads : ∀ s, (py.loads s).Raises Exc.IsForeign) (m : Dict) :
    (toolCallsMessage py m).Raises Exc.IsForeign := by
  refine raises_bind (raises_elements _) fun calls _ => ?_
  exact raises_bind (List.raises_mapM fun tc _ => raises_callToToolUse hloads tc) fun _ _ =>
    raises_pure _

/-- Valid content is always translated, and nothing else of the message changes. -/
lemma translateContent_ok {m : Dict}
    (hm : ∀ content, m.get "content" = .arr content → ∀ b ∈ content, validateBlock py b = .ok ()) :
    ∃ m', translateContent py m = .ok m' ∧ m'.get "tool_calls" = m.get "tool_calls" := by
  unfold translateContent
  split
  · next content hc =>
    have hblocks : (content.mapM (openaiBlockToAnthropic py)).Returns := by
      refine (List.returns_mapM _ _).mpr fun b hb => ?_
      have hvalid := hm content hc b hb
      cases b with
      | obj d =>
        obtain ⟨hok, hurl⟩ := of_validateBlock hvalid
        simp only [openaiBlockToAnthropic, hok, ok_bind]
        split
        · next ht =>
          obtain ⟨url, hu⟩ := hurl ht
          rw [returns_bind_pure, openaiImageUrlToAnthropic, hu, ok_bind]
          split <;> exact returns_pure _
        · exact returns_pure _
      | _ => simp [openaiBlockToAnthropic]
    obtain ⟨blocks, hb⟩ := hblocks
    refine ⟨m.insert "content" (.arr blocks), by simp [hb], ?_⟩
    simp [Dict.get, OrderedDict.getD]
  · exact ⟨m, rfl, rfl⟩

/-- The Anthropic messages of a message that is no tool result, after pending results. -/
def messageToAnthropic (py : Runtime) (pending : List Json) (m : Dict) :
    Except Exc (List Dict) := do
  let m' ← translateContent py m
  if (m.get "role").eqStr "user" && !pending.isEmpty then
    return [[("role", .str "user"), ("content", .arr (pending ++ userBlocks (m'.get "content")))]]
  else if (m.get "role").eqStr "assistant" && (m.get "tool_calls").truthy then
    return flushToolResults pending ++ [← toolCallsMessage py m']
  else return flushToolResults pending ++ [m']

/-- Translated content changes no other entry of a message. -/
lemma get_translateContent {m m' : Dict} (h : translateContent py m = .ok m') {k : Str}
    (hk : k ≠ "content") : m'.get k = m.get k := by
  unfold translateContent at h
  split at h
  · obtain ⟨blocks, -, h⟩ := bind_eq_ok.mp h
    obtain rfl := Except.ok.inj h
    rw [Dict.get_insert, if_neg hk.symm]
  · obtain rfl := Except.ok.inj h
    rfl

/-- A tool result is kept for the next message. -/
lemma openaiMessagesFrom_tool {m : Dict} (h : (m.get "role").eqStr "tool" = true)
    (pending : List Json) (ms : List Dict) :
    openaiMessagesFrom py pending (m :: ms) =
      openaiMessagesFrom py (pending ++ [toolResultBlock m]) ms := by
  rw [openaiMessagesFrom, if_pos h]

/-- Any other message is translated on its own, and leaves no results. -/
lemma openaiMessagesFrom_cons {m : Dict} (h : (m.get "role").eqStr "tool" = false)
    (pending : List Json) (ms : List Dict) :
    openaiMessagesFrom py pending (m :: ms) = (do
      let out ← messageToAnthropic py pending m
      return out ++ (← openaiMessagesFrom py [] ms)) := by
  rw [openaiMessagesFrom, h, if_neg Bool.false_ne_true]
  generalize openaiMessagesFrom py [] ms = rest
  unfold messageToAnthropic
  cases hcontent : translateContent py m with
  | error e => rfl
  | ok m' =>
    have hcalls : m'.get "tool_calls" = m.get "tool_calls" :=
      get_translateContent hcontent (by simp)
    simp only [ok_bind, hcalls]
    split
    · cases rest <;> rfl
    · split
      · cases toolCallsMessage py m' with
        | error e => rfl
        | ok msg => cases rest <;> simp
      · cases rest <;> simp

/-- A message can be translated if any tool calls of it can be. -/
lemma returns_messageToAnthropic {m : Dict}
    (hm : ∀ content, m.get "content" = .arr content → ∀ b ∈ content, validateBlock py b = .ok ())
    (pending : List Json) :
    (messageToAnthropic py pending m).Returns ↔ AnthropicShaped.message py m = true := by
  obtain ⟨m', hm', hcalls⟩ := translateContent_ok hm
  unfold messageToAnthropic AnthropicShaped.message
  rw [hm', ok_bind]
  by_cases huser : ((m.get "role").eqStr "user" && !pending.isEmpty) = true
  · have hrole : (m.get "role").eqStr "user" = true := ((Bool.and_eq_true _ _).mp huser).1
    rw [if_pos huser, eqStr_unique hrole (by simp)]
    exact iff_of_true (returns_pure _) rfl
  · rw [if_neg huser]
    by_cases hassistant : ((m.get "role").eqStr "assistant" && (m.get "tool_calls").truthy) = true
    · have htruthy : (m'.get "tool_calls").truthy = true := by
        rw [hcalls]
        exact ((Bool.and_eq_true _ _).mp hassistant).2
      rw [if_pos hassistant, returns_bind_pure, returns_toolCallsMessage htruthy, hcalls,
        hassistant, Bool.not_true, Bool.false_or]
    · rw [if_neg hassistant, Bool.eq_false_of_not_eq_true hassistant]
      exact iff_of_true (returns_pure _) rfl

/-- A validated message fails with a built-in exception. -/
lemma raises_messageToAnthropic (hloads : ∀ s, (py.loads s).Raises Exc.IsForeign) {m : Dict}
    (hm : ∀ content, m.get "content" = .arr content → ∀ b ∈ content, validateBlock py b = .ok ())
    (pending : List Json) : (messageToAnthropic py pending m).Raises Exc.IsForeign := by
  obtain ⟨m', hm', -⟩ := translateContent_ok hm
  unfold messageToAnthropic
  rw [hm', ok_bind]
  split
  · exact raises_pure _
  · split
    · exact raises_bind (raises_toolCallsMessage hloads _) fun msg _ => raises_pure _
    · exact raises_pure _

/-- Which conversations can be translated, whatever tool results are pending. -/
lemma returns_openaiMessagesFrom {messages : List Dict}
    (hm : ∀ m ∈ messages, ∀ content, m.get "content" = .arr content →
      ∀ b ∈ content, validateBlock py b = .ok ()) (pending : List Json) :
    (openaiMessagesFrom py pending messages).Returns ↔
      messages.all (AnthropicShaped.message py) = true := by
  induction messages generalizing pending with
  | nil => simp [openaiMessagesFrom]
  | cons m ms ih =>
    obtain ⟨hm, hms⟩ := List.forall_mem_cons.mp hm
    rw [List.all_cons, Bool.and_eq_true]
    by_cases htool : (m.get "role").eqStr "tool" = true
    · have hshape : AnthropicShaped.message py m = true := by
        simp [AnthropicShaped.message, eqStr_unique htool (t := "assistant")]
      rw [openaiMessagesFrom_tool htool, ih hms]
      exact (and_iff_right hshape).symm
    · rw [openaiMessagesFrom_cons (Bool.eq_false_of_not_eq_true htool), returns_bind,
        ← returns_messageToAnthropic hm pending, ← ih hms []]
      constructor
      · rintro ⟨out, hout, hr⟩
        exact ⟨⟨out, hout⟩, (returns_bind_pure _ _).mp hr⟩
      · rintro ⟨⟨out, hout⟩, hr⟩
        exact ⟨out, hout, (returns_bind_pure _ _).mpr hr⟩

/-- Validated messages fail with a built-in exception. -/
lemma raises_openaiMessagesFrom (hloads : ∀ s, (py.loads s).Raises Exc.IsForeign)
    {messages : List Dict}
    (hm : ∀ m ∈ messages, ∀ content, m.get "content" = .arr content →
      ∀ b ∈ content, validateBlock py b = .ok ()) (pending : List Json) :
    (openaiMessagesFrom py pending messages).Raises Exc.IsForeign := by
  induction messages generalizing pending with
  | nil => exact raises_ok _
  | cons m ms ih =>
    obtain ⟨hm, hms⟩ := List.forall_mem_cons.mp hm
    by_cases htool : (m.get "role").eqStr "tool" = true
    · rw [openaiMessagesFrom_tool htool]
      exact ih hms _
    · rw [openaiMessagesFrom_cons (Bool.eq_false_of_not_eq_true htool)]
      refine raises_bind (raises_messageToAnthropic hloads hm pending) fun out _ => ?_
      exact raises_bind (ih hms []) fun _ _ => raises_pure _

/-- A function tool needs a function that is an object or falsy. -/
lemma returns_openaiToolToAnthropic (t : Json) :
    (openaiToolToAnthropic t).Returns ↔ AnthropicShaped.tool t = true := by
  unfold openaiToolToAnthropic AnthropicShaped.tool
  by_cases hf : isFunctionTool t = true
  · simp only [hf, if_true, Bool.not_true, Bool.false_or]
    cases t with
    | obj d =>
      have hasObj : asDict (.obj d) = .ok d := rfl
      rw [hasObj, ok_bind, returns_bind, ← returns_asDict_orElse]
      simp [Returns]
    | _ => simp [isFunctionTool] at hf
  · simp [hf]

/-- Its failures are `AttributeError`s. -/
lemma raises_openaiToolToAnthropic (t : Json) :
    (openaiToolToAnthropic t).Raises Exc.IsForeign := by
  unfold openaiToolToAnthropic
  split
  · refine raises_bind (raises_asDict _) fun d _ => ?_
    exact raises_bind (raises_asDict _) fun fn _ => raises_pure _
  · exact raises_ok _

/-- All tools of a request are translated. -/
lemma returns_messageTools (request : NormalizedRequest) :
    (messageTools request).Returns ↔ (request.tools.getD []).all AnthropicShaped.tool = true := by
  have hall : ∀ ts, (openaiToolsToAnthropic ts).Returns ↔ ts.all AnthropicShaped.tool = true := by
    intro ts
    rw [openaiToolsToAnthropic, List.returns_mapM, List.all_eq_true]
    exact forall₂_congr fun t _ => returns_openaiToolToAnthropic t
  unfold messageTools
  split
  · next t ts ht => rw [returns_map, hall, ht, Option.getD_some]
  · next hne =>
    cases ht : request.tools with
    | none => simp
    | some ts =>
      cases ts with
      | nil => simp
      | cons t ts => exact absurd ht (hne t ts)

/-- A tool fails with a built-in exception. -/
lemma raises_messageTools (request : NormalizedRequest) :
    (messageTools request).Raises Exc.IsForeign := by
  unfold messageTools
  split
  · exact raises_map (List.raises_mapM fun t _ => raises_openaiToolToAnthropic t) _
  · exact raises_ok _

section Valid

variable {request : NormalizedRequest} (target : Target) (timeout : ℚ)
  (hvalid : validateLocalContent py request.messages request.toolChoice = .ok ())

include hvalid

/-- A valid tool choice that is a string is always translated. -/
lemma returns_messageToolChoice :
    (messageToolChoice py request).Returns ↔
      AnthropicShaped.toolChoice request.toolChoice = true := by
  unfold messageToolChoice AnthropicShaped.toolChoice
  cases htc : request.toolChoice with
  | none => simp
  | some tc =>
    cases tc with
    | str s =>
      rcases (of_validateLocalContent hvalid).2 s htc with rfl | rfl | rfl <;>
        simp [openaiToolChoiceToAnthropic]
    | obj d =>
      rw [returns_map, openaiToolChoiceToAnthropic]
      by_cases ht : (d.get "type").eqStr "function" = true
      · simp only [ht, if_true, Bool.not_true, Bool.false_or]
        rw [returns_bind_pure, returns_asDict_orElse]
      · simp [ht]

/-- A validated tool choice fails with a built-in exception. -/
lemma raises_messageToolChoice : (messageToolChoice py request).Raises Exc.IsForeign := by
  unfold messageToolChoice
  cases htc : request.toolChoice with
  | none => exact raises_ok _
  | some tc =>
    refine raises_map ?_ _
    cases tc with
    | str s =>
      rcases (of_validateLocalContent hvalid).2 s htc with rfl | rfl | rfl <;>
        simp [openaiToolChoiceToAnthropic]
    | obj d =>
      rw [openaiToolChoiceToAnthropic]
      split
      · exact raises_bind (raises_asDict _) fun fn _ => raises_pure _
      · exact raises_ok _

/-- Of the valid requests, the Anthropic adapter translates those of the right shape. -/
lemma messageKwargs_returns_iff :
    (messageKwargs py target request timeout).Returns ↔ AnthropicShaped py request = true := by
  rw [AnthropicShaped, Bool.and_eq_true, Bool.and_eq_true,
    ← returns_openaiMessagesFrom (of_validateLocalContent hvalid).1 [], ← returns_messageTools,
    ← returns_messageToolChoice hvalid, messageKwargs, returns_bind, and_assoc]
  constructor
  · rintro ⟨messages, hms, h⟩
    obtain ⟨tools, hts, h⟩ := (returns_bind _ _).mp h
    exact ⟨⟨messages, hms⟩, ⟨tools, hts⟩, (returns_bind_pure _ _).mp h⟩
  · rintro ⟨⟨messages, hms⟩, ⟨tools, hts⟩, hc⟩
    exact ⟨messages, hms, (returns_bind _ _).mpr ⟨tools, hts, (returns_bind_pure _ _).mpr hc⟩⟩

/-- What the Anthropic adapter raises on a valid request is no refusal of the gateway. -/
lemma raises_messageKwargs (hloads : ∀ s, (py.loads s).Raises Exc.IsForeign) :
    (messageKwargs py target request timeout).Raises Exc.IsForeign := by
  refine raises_bind (raises_openaiMessagesFrom hloads (of_validateLocalContent hvalid).1 []) ?_
  refine fun _ _ => raises_bind (raises_messageTools request) fun _ _ => ?_
  exact raises_bind (raises_messageToolChoice hvalid) fun _ _ => raises_pure _

end Valid

end Anthropic

end AgentCtl
