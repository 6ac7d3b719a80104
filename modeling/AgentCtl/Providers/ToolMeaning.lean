import AgentCtl.Library.ExceptList
import AgentCtl.Providers.AnthropicProvider

set_option relaxedAutoImplicit false
set_option autoImplicit false

/-!
# What tools and tool choices mean

The two dialects write the same things differently: a tool has a name, a description and a schema,
and a tool choice leaves the choice to the model, demands some tool, forbids all tools or demands
one function. This module reads both dialects, and compares what the caller asked with what an
adapter sends.

The tools keep their meaning through both adapters. A tool choice keeps it through the Anthropic
adapter; the OpenAI adapter's translator reads choice objects in Anthropic form only, and its
last branch sends `auto` for every type it does not name.

## Main definitions

* `AgentCtl.ToolSpec`, `AgentCtl.Choice` — the meaning of a tool and of a tool choice.
* `AgentCtl.readTool`, `AgentCtl.readToolChoice` — what the caller asked, in either dialect.
* `AgentCtl.AdaptersKeepTools` — both adapters send what was asked.
* `AgentCtl.losesChoice` — the choices the OpenAI adapter does not read.

## Main results

* `AgentCtl.adaptersKeepTools_iff` — the adapters send what was asked, but for these choices.
-/

namespace AgentCtl

/-! ## Meanings -/

/-- What a tool is: its name, its description, and its schema if that is not empty. -/
structure ToolSpec where
  name : Str
  description : Str
  schema : Option Dict

/-- The tool `sent` is the tool `asked`. A tool without a schema may be given one. -/
structure ToolSpec.Kept (asked sent : ToolSpec) : Prop where
  name : sent.name = asked.name
  description : sent.description = asked.description
  schema : ∀ s, asked.schema = some s → sent.schema = some s

/-- What the model may do with the tools. -/
inductive Choice where
  | auto
  | required
  | none
  | function (name : Str)
  deriving DecidableEq

/-! ## Reading the dialects -/

/-- A name: a string. -/
def readName : Json → Option Str
  | .str s => some s
  | _ => none

/-- A description: a string, empty where there is none. -/
def readDescription : Json → Option Str
  | .null => some []
  | .str s => some s
  | _ => none

/-- A schema: an object, which counts only if it says something. -/
def readSchema : Json → Option (Option Dict)
  | .null => some none
  | .obj [] => some none
  | .obj d => some (some d)
  | _ => none

/-- The entries of a tool, with the schema under the dialect's own key. -/
def readSpec (schemaKey : Str) (d : Dict) : Option ToolSpec := do
  let name ← readName (d.get "name")
  let description ← readDescription (d.get "description")
  let schema ← readSchema (d.get schemaKey)
  return ⟨name, description, schema⟩

/-- A tool in OpenAI function form. -/
def readOpenaiTool : Json → Option ToolSpec
  | .obj d =>
    match (Dict.get d "type"), (Dict.get d "function") with
    | .str t, .obj fn => if t = ("function" : Str) then readSpec "parameters" fn else none
    | _, _ => none
  | _ => none

/-- A tool in Anthropic form; its type, where it has one, is `custom`. -/
def readAnthropicTool : Json → Option ToolSpec
  | .obj d =>
    match (Dict.get d "type") with
    | .null => readSpec "input_schema" d
    | .str t => if t = ("custom" : Str) then readSpec "input_schema" d else none
    | _ => none
  | _ => none

/-- A tool in either form. -/
def readTool (t : Json) : Option ToolSpec := (readOpenaiTool t).or (readAnthropicTool t)

/-- A tool choice in OpenAI form. -/
def readOpenaiChoice : Json → Option Choice
  | .str s =>
    if s = ("auto" : Str) then some .auto
    else if s = ("required" : Str) then some .required
    else if s = ("none" : Str) then some .none
    else none
  | .obj d =>
    match (Dict.get d "type"), (Dict.get d "function") with
    | .str t, .obj fn =>
      if t = ("function" : Str) then (readName (Dict.get fn "name")).map .function else none
    | _, _ => none
  | _ => none

/-- A tool choice in Anthropic form. -/
def readAnthropicChoice : Json → Option Choice
  | .obj d =>
    match (Dict.get d "type") with
    | .str t =>
      if t = ("auto" : Str) then some .auto
      else if t = ("any" : Str) then some .required
      else if t = ("none" : Str) then some .none
      else if t = ("tool" : Str) then (readName (Dict.get d "name")).map .function
      else none
    | _ => none
  | _ => none

/-- A tool choice in either form. -/
def readToolChoice (tc : ToolChoice) : Option Choice :=
  (readOpenaiChoice tc.toJson).or (readAnthropicChoice tc.toJson)

/-! ## What is sent -/

/-- The tools sent are the tools asked for, in their order. -/
def ToolsKept (read : Json → Option ToolSpec) (asked : List Json) (sent : Option (List Json)) :
    Prop :=
  List.Forall₂ (fun t u => ∃ a b, readTool t = some a ∧ read u = some b ∧ a.Kept b) asked
    (sent.getD [])

/-- The choice sent is the choice asked for, and none is sent where none is asked for. -/
def ChoiceKept (read : Json → Option Choice) (asked : Option ToolChoice) (sent : Option Json) :
    Prop :=
  sent.bind read = asked.bind readToolChoice ∧ sent.isSome = asked.isSome

/-- `OpenAIProvider` sends the tools and the choice asked for, and neither of them keeps it from
sending. -/
def OpenAIKeepsTools (tools : List Json) (tc : Option ToolChoice) : Prop :=
  ∀ py target request timeout, request.tools = some tools → request.toolChoice = tc →
    ((chatKwargs py target request timeout).Returns ↔ (chatMessages py request).Returns) ∧
      ∀ kwargs, chatKwargs py target request timeout = .ok kwargs →
        ToolsKept readOpenaiTool tools kwargs.tools ∧
          ChoiceKept readOpenaiChoice tc kwargs.toolChoice

/-- `AnthropicProvider` sends the tools and the choice asked for, and neither of them keeps it from
sending. -/
def AnthropicKeepsTools (tools : List Json) (tc : Option ToolChoice) : Prop :=
  ∀ py target request timeout, request.tools = some tools → request.toolChoice = tc →
    ((messageKwargs py target request timeout).Returns ↔
        (openaiMessagesToAnthropic py request.messages).Returns) ∧
      ∀ kwargs, messageKwargs py target request timeout = .ok kwargs →
        ToolsKept readAnthropicTool tools kwargs.tools ∧
          ChoiceKept readAnthropicChoice tc kwargs.toolChoice

/-- Both adapters send the tools and the choice asked for. -/
def AdaptersKeepTools (tools : List Json) (tc : Option ToolChoice) : Prop :=
  OpenAIKeepsTools tools tc ∧ AnthropicKeepsTools tools tc

/-- The choices that the OpenAI adapter's translator takes for `auto`: a function in OpenAI form,
and `none` in Anthropic form. -/
def losesChoice : Option ToolChoice → Bool
  | some (.obj d) => (Dict.get d "type").eqStr "function" || (Dict.get d "type").eqStr "none"
  | _ => false

/-- The tools and the choice are well formed, each in one of the two forms. -/
structure WellFormedTools (tools : List Json) (tc : Option ToolChoice) : Prop where
  tools : ∀ t ∈ tools, (readTool t).isSome
  choice : ∀ c ∈ tc, (readToolChoice c).isSome

/-! ## Tools -/

/-- A name that is read is a string. -/
lemma readName_eq_some {v : Json} {s : Str} : readName v = some s ↔ v = .str s := by
  cases v <;> simp [readName]

/-- What the entries of a tool say one by one. -/
lemma readSpec_eq_some {k : Str} {d : Dict} {a : ToolSpec} :
    readSpec k d = some a ↔ d.get "name" = .str a.name ∧
      readDescription (d.get "description") = some a.description ∧
      readSchema (d.get k) = some a.schema := by
  obtain ⟨name, description, schema⟩ := a
  simp only [readSpec, Option.bind_eq_bind, Option.bind_eq_some_iff, readName_eq_some,
    Option.pure_def, Option.some.injEq, ToolSpec.mk.injEq]
  constructor
  · rintro ⟨_, hn, _, hd, _, hs, rfl, rfl, rfl⟩
    exact ⟨hn, hd, hs⟩
  · rintro ⟨hn, hd, hs⟩
    exact ⟨name, hn, description, hd, schema, hs, rfl, rfl, rfl⟩

/-- The translators' default for a description says what a missing one says. -/
lemma readDescription_get (d : Dict) :
    readDescription (d.get "description" (.str "")) = readDescription (d.get "description") := by
  unfold Dict.get OrderedDict.getD
  cases OrderedDict.get? d "description" <;> rfl

/-- The translators' default for a schema replaces empty schemas only. -/
lemma readSchema_orElse {v : Json} {s : Option Dict} (h : readSchema v = some s) :
    ∃ s', readSchema (v.orElse emptySchema) = some s' ∧ ∀ x, s = some x → s' = some x := by
  match v, h with
  | .null, h =>
    obtain rfl : none = s := Option.some.inj h
    exact ⟨_, rfl, nofun⟩
  | .obj [], h =>
    obtain rfl : none = s := Option.some.inj h
    exact ⟨_, rfl, nofun⟩
  | .obj (p :: d), h => exact ⟨s, h, fun x hx => hx⟩

/-- A key with a value other than `null` is in the object. -/
lemma has_of_get {d : Dict} {k : Str} (h : d.get k ≠ .null) : d.has k = true := by
  unfold Dict.get OrderedDict.getD at h
  unfold OrderedDict.has
  cases hk : OrderedDict.get? d k with
  | none => simp [hk] at h
  | some v => rfl

/-- A value that is read can be subscripted. -/
lemma item_of_get {d : Dict} {k s : Str} (h : d.get k = .str s) :
    (Json.obj d).item k = .ok (.str s) := by
  unfold Dict.get OrderedDict.getD at h
  unfold Json.item
  cases hk : OrderedDict.get? d k with
  | none => simp [hk] at h
  | some v => simpa [hk] using h

/-- A value that is read does not depend on the default. -/
lemma get_default {d : Dict} {k s : Str} (h : d.get k = .str s) (default : Json) :
    d.get k default = .str s := by
  unfold Dict.get OrderedDict.getD at h ⊢
  cases hk : OrderedDict.get? d k with
  | none => simp [hk] at h
  | some v => simpa [hk] using h

/-- A tool in OpenAI form: what its entries are. -/
lemma readOpenaiTool_eq_some {t : Json} {a : ToolSpec} (h : readOpenaiTool t = some a) :
    ∃ d fn, t = .obj d ∧ Dict.get d "type" = .str "function" ∧ Dict.get d "function" = .obj fn ∧
      readSpec "parameters" fn = some a := by
  unfold readOpenaiTool at h
  split at h
  · rename_i d
    split at h
    · rename_i s fn htype hfn
      split_ifs at h with hs
      subst hs
      exact ⟨d, fn, rfl, htype, hfn, h⟩
    · cases h
  · cases h

/-- A tool in Anthropic form: what its entries are. -/
lemma readAnthropicTool_eq_some {t : Json} {a : ToolSpec} (h : readAnthropicTool t = some a) :
    ∃ d, t = .obj d ∧ (Dict.get d "type").eqStr "function" = false ∧
      readSpec "input_schema" d = some a := by
  unfold readAnthropicTool at h
  split at h
  · rename_i d
    split at h
    · rename_i htype
      exact ⟨d, rfl, by rw [htype]; rfl, h⟩
    · rename_i s htype
      split_ifs at h with hs
      subst hs
      exact ⟨d, rfl, by rw [htype]; rfl, h⟩
    · cases h
  · cases h

/-- The source's test finds the tools in OpenAI form. -/
lemma isFunctionTool_of_readOpenaiTool {t : Json} {a : ToolSpec} (h : readOpenaiTool t = some a) :
    isFunctionTool t = true := by
  obtain ⟨d, fn, rfl, htype, hfn, -⟩ := readOpenaiTool_eq_some h
  have hhas : OrderedDict.has d "function" = true := has_of_get (by simp [hfn])
  simp [isFunctionTool, htype, hhas]

/-- The source's test finds no tool in Anthropic form. -/
lemma isFunctionTool_of_readAnthropicTool {t : Json} {a : ToolSpec}
    (h : readAnthropicTool t = some a) : isFunctionTool t = false := by
  obtain ⟨d, rfl, htype, -⟩ := readAnthropicTool_eq_some h
  simp [isFunctionTool, htype]

/-- A tool in either form is in one of them. -/
lemma readTool_isSome {t : Json} (h : (readTool t).isSome) :
    ∃ a, readTool t = some a ∧ (readOpenaiTool t = some a ∨ readAnthropicTool t = some a) := by
  obtain ⟨a, ha⟩ := Option.isSome_iff_exists.mp h
  refine ⟨a, ha, ?_⟩
  unfold readTool at ha
  cases ho : readOpenaiTool t with
  | some b =>
    rw [ho, Option.some_or] at ha
    exact Or.inl ha
  | none =>
    rw [ho, Option.none_or] at ha
    exact Or.inr ha

/-- A tool keeps itself. -/
lemma ToolSpec.Kept.refl (a : ToolSpec) : a.Kept a := ⟨rfl, rfl, fun _ h => h⟩

/-- A well-formed tool keeps its meaning on its way to an OpenAI backend. -/
lemma anthropicToolToOpenai_kept {t : Json} (h : (readTool t).isSome) :
    ∃ u, anthropicToolToOpenai t = .ok u ∧
      ∃ a b, readTool t = some a ∧ readOpenaiTool u = some b ∧ a.Kept b := by
  obtain ⟨a, ha, ho | hn⟩ := readTool_isSome h
  · refine ⟨t, ?_, a, a, ha, ho, .refl a⟩
    rw [anthropicToolToOpenai, if_pos (isFunctionTool_of_readOpenaiTool ho)]
  · have hform := isFunctionTool_of_readAnthropicTool hn
    obtain ⟨d, rfl, -, hspec⟩ := readAnthropicTool_eq_some hn
    obtain ⟨hname, hdesc, hschema⟩ := readSpec_eq_some.mp hspec
    obtain ⟨schema, hsent, hkept⟩ := readSchema_orElse hschema
    have hitem : (Json.obj d).item "name" = .ok (.str a.name) := item_of_get hname
    have hsend : anthropicToolToOpenai (.obj d) =
        .ok (.obj [("type", .str "function"), ("function", .obj [("name", .str a.name),
          ("description", Dict.get d "description" (.str "")),
          ("parameters", (Dict.get d "input_schema").orElse emptySchema)])]) := by
      rw [anthropicToolToOpenai, if_neg (by simp [hform]), hitem]
      rfl
    refine ⟨_, hsend, a, ⟨a.name, a.description, schema⟩, ha, ?_, rfl, rfl, hkept⟩
    refine readSpec_eq_some.mpr ⟨rfl, ?_, hsent⟩
    exact (readDescription_get d).trans hdesc

/-- A well-formed tool keeps its meaning on its way to the Anthropic backend. -/
lemma openaiToolToAnthropic_kept {t : Json} (h : (readTool t).isSome) :
    ∃ u, openaiToolToAnthropic t = .ok u ∧
      ∃ a b, readTool t = some a ∧ readAnthropicTool u = some b ∧ a.Kept b := by
  obtain ⟨a, ha, ho | hn⟩ := readTool_isSome h
  · have hform := isFunctionTool_of_readOpenaiTool ho
    obtain ⟨d, fn, rfl, -, hfn, hspec⟩ := readOpenaiTool_eq_some ho
    obtain ⟨hname, hdesc, hschema⟩ := readSpec_eq_some.mp hspec
    obtain ⟨schema, hsent, hkept⟩ := readSchema_orElse hschema
    have hne : fn ≠ [] := by
      rintro rfl
      cases hname
    have hsend : openaiToolToAnthropic (.obj d) =
        .ok (.obj [("name", Dict.get fn "name" (.str "")),
          ("description", Dict.get fn "description" (.str "")),
          ("input_schema", (Dict.get fn "parameters").orElse emptySchema)]) := by
      have htruthy : (Json.obj fn).orElse (.obj []) = .obj fn := by
        cases fn with
        | nil => exact absurd rfl hne
        | cons p fn => rfl
      rw [openaiToolToAnthropic, if_pos hform]
      simp [asDict, hfn, htruthy]
    refine ⟨_, hsend, a, ⟨a.name, a.description, schema⟩, ha, ?_, rfl, rfl, hkept⟩
    refine readSpec_eq_some.mpr ⟨get_default hname _, ?_, hsent⟩
    exact (readDescription_get fn).trans hdesc
  · refine ⟨t, ?_, a, a, ha, hn, .refl a⟩
    rw [openaiToolToAnthropic, if_neg (by simp [isFunctionTool_of_readAnthropicTool hn])]

/-! ## Tool choices -/

/-- A choice object in either form: what its entries are. -/
lemma readToolChoice_obj {d : Dict} {c : Choice} (h : readToolChoice (.obj d) = some c) :
    (∃ fn name, d.get "type" = .str "function" ∧ d.get "function" = .obj fn ∧
        Dict.get fn "name" = .str name ∧ c = .function name) ∨
      (d.get "type" = .str "auto" ∧ c = .auto) ∨ (d.get "type" = .str "any" ∧ c = .required) ∨
      (d.get "type" = .str "none" ∧ c = .none) ∨
      ∃ name, d.get "type" = .str "tool" ∧ d.get "name" = .str name ∧ c = .function name := by
  unfold readToolChoice ToolChoice.toJson at h
  rcases Option.or_eq_some_iff.mp h with ho | ⟨-, ha⟩
  · refine Or.inl ?_
    unfold readOpenaiChoice at ho
    simp only at ho
    split at ho
    · rename_i t fn htype hfn
      split_ifs at ho with ht
      obtain ⟨name, hname, rfl⟩ := Option.map_eq_some_iff.mp ho
      subst ht
      exact ⟨fn, name, htype, hfn, readName_eq_some.mp hname, rfl⟩
    · cases ho
  · refine Or.inr ?_
    unfold readAnthropicChoice at ha
    simp only at ha
    split at ha
    · rename_i t htype
      split_ifs at ha with h₁ h₂ h₃ h₄
      · exact Or.inl ⟨h₁ ▸ htype, (Option.some.inj ha).symm⟩
      · exact Or.inr (Or.inl ⟨h₂ ▸ htype, (Option.some.inj ha).symm⟩)
      · exact Or.inr (Or.inr (Or.inl ⟨h₃ ▸ htype, (Option.some.inj ha).symm⟩))
      · obtain ⟨name, hname, rfl⟩ := Option.map_eq_some_iff.mp ha
        exact Or.inr (Or.inr (Or.inr ⟨name, h₄ ▸ htype, readName_eq_some.mp hname, rfl⟩))
    · cases ha

/-- A choice string has no Anthropic form. -/
lemma readToolChoice_str (s : Str) : readToolChoice (.str s) = readOpenaiChoice (.str s) := by
  simp [readToolChoice, ToolChoice.toJson, readAnthropicChoice]

/-- A well-formed choice reaches an OpenAI backend with its meaning, unless it is one of those
that the translator takes for `auto`. -/
lemma anthropicToolChoiceToOpenai_kept {tc : ToolChoice} (h : (readToolChoice tc).isSome) :
    ∃ v, anthropicToolChoiceToOpenai tc = .ok v ∧
      (readOpenaiChoice v = readToolChoice tc ↔ losesChoice (some tc) = false) := by
  obtain ⟨c, hc⟩ := Option.isSome_iff_exists.mp h
  cases tc with
  | str s => exact ⟨.str s, rfl, iff_of_true (readToolChoice_str s).symm rfl⟩
  | obj d =>
    rw [hc]
    obtain ⟨fn, name, htype, hfn, hname, rfl⟩ | ⟨htype, rfl⟩ | ⟨htype, rfl⟩ | ⟨htype, rfl⟩ |
      ⟨name, htype, hname, rfl⟩ := readToolChoice_obj hc
    · refine ⟨.str "auto", ?_, iff_of_false ?_ ?_⟩
      · simp +decide [anthropicToolChoiceToOpenai, htype]
      · rintro ⟨⟩
      · simp [losesChoice, htype]
    · refine ⟨.str "auto", ?_, iff_of_true rfl ?_⟩
      · simp +decide [anthropicToolChoiceToOpenai, htype]
      · simp +decide [losesChoice, htype]
    · refine ⟨.str "required", ?_, iff_of_true rfl ?_⟩
      · simp +decide [anthropicToolChoiceToOpenai, htype]
      · simp +decide [losesChoice, htype]
    · refine ⟨.str "auto", ?_, iff_of_false ?_ ?_⟩
      · simp +decide [anthropicToolChoiceToOpenai, htype]
      · rintro ⟨⟩
      · simp [losesChoice, htype]
    · refine ⟨.obj [("type", .str "function"), ("function", .obj [("name", .str name)])], ?_,
        iff_of_true rfl ?_⟩
      · simp [anthropicToolChoiceToOpenai, htype, item_of_get hname]
      · simp +decide [losesChoice, htype]

/-- A well-formed choice reaches the Anthropic backend with its meaning. -/
lemma openaiToolChoiceToAnthropic_kept (py : Runtime) {tc : ToolChoice}
    (h : (readToolChoice tc).isSome) :
    ∃ v, openaiToolChoiceToAnthropic py tc = .ok v ∧
      readAnthropicChoice v = readToolChoice tc := by
  obtain ⟨c, hc⟩ := Option.isSome_iff_exists.mp h
  cases tc with
  | str s =>
    rw [hc]
    rw [readToolChoice_str, readOpenaiChoice] at hc
    split_ifs at hc with h₁ h₂ h₃
    · exact ⟨.obj [("type", .str "auto")], by simp [openaiToolChoiceToAnthropic, h₁],
        by rw [← hc]; rfl⟩
    · exact ⟨.obj [("type", .str "any")], by simp +decide [openaiToolChoiceToAnthropic, h₂],
        by rw [← hc]; rfl⟩
    · exact ⟨.obj [("type", .str "none")], by simp +decide [openaiToolChoiceToAnthropic, h₃],
        by rw [← hc]; rfl⟩
  | obj d =>
    obtain ⟨fn, name, htype, hfn, hname, rfl⟩ | ⟨htype, rfl⟩ | ⟨htype, rfl⟩ | ⟨htype, rfl⟩ |
      ⟨name, htype, hname, rfl⟩ := readToolChoice_obj hc
    · refine ⟨.obj [("type", .str "tool"), ("name", .str name)], ?_, by rw [hc]; rfl⟩
      have htruthy : (Json.obj fn).orElse (.obj []) = .obj fn := by
        cases fn with
        | nil => cases hname
        | cons p fn => rfl
      simp [openaiToolChoiceToAnthropic, htype, hfn, htruthy, asDict, get_default hname]
    · refine ⟨.obj d, ?_, ?_⟩
      · simp +decide [openaiToolChoiceToAnthropic, htype]
      · simp [hc, readAnthropicChoice, htype]
    · refine ⟨.obj d, ?_, ?_⟩
      · simp +decide [openaiToolChoiceToAnthropic, htype]
      · simp +decide [hc, readAnthropicChoice, htype]
    · refine ⟨.obj d, ?_, ?_⟩
      · simp +decide [openaiToolChoiceToAnthropic, htype]
      · simp +decide [hc, readAnthropicChoice, htype]
    · refine ⟨.obj d, ?_, ?_⟩
      · simp +decide [openaiToolChoiceToAnthropic, htype]
      · simp +decide [hc, readAnthropicChoice, htype, hname, readName]

/-! ## The adapters -/

section Adapters

variable {py : Runtime} {target : Target} {request : NormalizedRequest} {timeout : ℚ}
  {tools : List Json} {tc : Option ToolChoice}

/-- The tools of a request that the OpenAI adapter sends. -/
lemma chatTools_kept (hr : request.tools = some tools) (h : ∀ t ∈ tools, (readTool t).isSome) :
    ∃ sent, chatTools request = .ok sent ∧ ToolsKept readOpenaiTool tools sent := by
  cases tools with
  | nil =>
    refine ⟨none, ?_, .nil⟩
    simp [chatTools, hr]
  | cons t ts =>
    obtain ⟨sent, hsent, hkept⟩ := List.mapM_related fun u hu => anthropicToolToOpenai_kept (h u hu)
    refine ⟨some sent, ?_, hkept⟩
    simp [chatTools, hr, anthropicToolsToOpenai, hsent]

/-- The tools of a request that the Anthropic adapter sends. -/
lemma messageTools_kept (hr : request.tools = some tools) (h : ∀ t ∈ tools, (readTool t).isSome) :
    ∃ sent, messageTools request = .ok sent ∧ ToolsKept readAnthropicTool tools sent := by
  cases tools with
  | nil =>
    refine ⟨none, ?_, .nil⟩
    simp [messageTools, hr]
  | cons t ts =>
    obtain ⟨sent, hsent, hkept⟩ := List.mapM_related fun u hu => openaiToolToAnthropic_kept (h u hu)
    refine ⟨some sent, ?_, hkept⟩
    simp [messageTools, hr, openaiToolsToAnthropic, hsent]

/-- The choice of a request that the OpenAI adapter sends. -/
lemma chatToolChoice_kept (hr : request.toolChoice = tc) (h : ∀ c ∈ tc, (readToolChoice c).isSome) :
    ∃ sent, chatToolChoice request = .ok sent ∧
      (ChoiceKept readOpenaiChoice tc sent ↔ losesChoice tc = false) := by
  cases tc with
  | none =>
    refine ⟨none, ?_, iff_of_true ⟨rfl, rfl⟩ rfl⟩
    simp [chatToolChoice, hr]
  | some c =>
    obtain ⟨v, hv, hkept⟩ := anthropicToolChoiceToOpenai_kept (h c rfl)
    refine ⟨some v, ?_, ?_⟩
    · simp [chatToolChoice, hr, hv]
    · simpa [ChoiceKept] using hkept

variable (py) in
/-- The choice of a request that the Anthropic adapter sends. -/
lemma messageToolChoice_kept (hr : request.toolChoice = tc)
    (h : ∀ c ∈ tc, (readToolChoice c).isSome) :
    ∃ sent, messageToolChoice py request = .ok sent ∧ ChoiceKept readAnthropicChoice tc sent := by
  cases tc with
  | none =>
    refine ⟨none, ?_, rfl, rfl⟩
    simp [messageToolChoice, hr]
  | some c =>
    obtain ⟨v, hv, hkept⟩ := openaiToolChoiceToAnthropic_kept py (h c rfl)
    refine ⟨some v, ?_, ?_⟩
    · simp [messageToolChoice, hr, hv]
    · simpa [ChoiceKept] using hkept

/-- The request of the OpenAI adapter, once its tools and its choice are translated. -/
lemma chatKwargs_eq {sentTools : Option (List Json)} {sentChoice : Option Json}
    (ht : chatTools request = .ok sentTools) (hc : chatToolChoice request = .ok sentChoice) :
    chatKwargs py target request timeout =
      (fun messages => ⟨target.model, messages, request.maxTokens, timeout, request.temperature,
        sentTools, sentChoice⟩) <$> chatMessages py request := by
  unfold chatKwargs
  rw [ht, hc]
  cases chatMessages py request <;> rfl

/-- The request of the Anthropic adapter, once its tools and its choice are translated. -/
lemma messageKwargs_eq {sentTools : Option (List Json)} {sentChoice : Option Json}
    (ht : messageTools request = .ok sentTools)
    (hc : messageToolChoice py request = .ok sentChoice) :
    messageKwargs py target request timeout =
      (fun messages => ⟨target.model, messages, request.maxTokens, timeout, request.temperature,
        sentTools, request.system, sentChoice⟩) <$>
          openaiMessagesToAnthropic py request.messages := by
  unfold messageKwargs
  rw [ht, hc]
  cases openaiMessagesToAnthropic py request.messages <;> rfl

/-- The Anthropic adapter keeps the meaning of well-formed tools and choices. -/
lemma anthropicKeepsTools (h : WellFormedTools tools tc) : AnthropicKeepsTools tools tc := by
  intro py target request timeout htools hchoice
  obtain ⟨sentTools, ht, htkept⟩ := messageTools_kept htools h.tools
  obtain ⟨sentChoice, hc, hckept⟩ := messageToolChoice_kept py hchoice h.choice
  rw [messageKwargs_eq ht hc]
  refine ⟨Except.returns_map _ _, fun kwargs hk => ?_⟩
  cases hm : openaiMessagesToAnthropic py request.messages with
  | error e => simp [hm] at hk
  | ok messages =>
    rw [hm] at hk
    obtain rfl := Except.ok.inj hk
    exact ⟨htkept, hckept⟩

/-- The OpenAI adapter keeps the meaning of well-formed tools, and that of every choice which it
does not take for `auto`. -/
lemma openAIKeepsTools (h : WellFormedTools tools tc) (hl : losesChoice tc = false) :
    OpenAIKeepsTools tools tc := by
  intro py target request timeout htools hchoice
  obtain ⟨sentTools, ht, htkept⟩ := chatTools_kept htools h.tools
  obtain ⟨sentChoice, hc, hckept⟩ := chatToolChoice_kept hchoice h.choice
  rw [chatKwargs_eq ht hc]
  refine ⟨Except.returns_map _ _, fun kwargs hk => ?_⟩
  cases hm : chatMessages py request with
  | error e => simp [hm] at hk
  | ok messages =>
    rw [hm] at hk
    obtain rfl := Except.ok.inj hk
    exact ⟨htkept, hckept.mpr hl⟩

/-- A choice that the OpenAI adapter takes for `auto` is sent with another meaning. -/
lemma not_openAIKeepsTools (h : WellFormedTools tools tc) (hl : losesChoice tc = true) :
    ¬ OpenAIKeepsTools tools tc := by
  intro hkeep
  -- a request without messages is always sent
  let bare : NormalizedRequest :=
    { model := [], messages := [], tools := some tools, toolChoice := tc }
  have hbare := hkeep Runtime.plain ⟨[], []⟩ bare 0 rfl rfl
  obtain ⟨sentTools, ht, -⟩ := chatTools_kept (rfl : bare.tools = some tools) h.tools
  obtain ⟨sentChoice, hc, hckept⟩ := chatToolChoice_kept (rfl : bare.toolChoice = tc) h.choice
  rw [chatKwargs_eq ht hc] at hbare
  have hsent := (hbare.2 _ rfl).2
  rw [hckept.mp hsent] at hl
  cases hl

/-- **Tools mean what the caller asked.** Of well-formed tools and a well-formed choice, in either
form, both adapters send the same tools in the same order and the same choice, if and only if the
choice is neither a function in OpenAI form nor `none` in Anthropic form. -/
theorem adaptersKeepTools_iff (h : WellFormedTools tools tc) :
    AdaptersKeepTools tools tc ↔ losesChoice tc = false := by
  constructor
  · rintro ⟨hopenai, -⟩
    by_contra hl
    exact not_openAIKeepsTools h (by simpa using hl) hopenai
  · intro hl
    exact ⟨openAIKeepsTools h hl, anthropicKeepsTools h⟩

end Adapters

/-- The tool `f` in OpenAI form. -/
def functionTool : Json :=
  .obj [("type", .str "function"), ("function", .obj [("name", .str "f")])]

/-- The choice of the function `f` in OpenAI form. -/
def forcedFunction : ToolChoice :=
  .obj [("type", .str "function"), ("function", .obj [("name", .str "f")])]

/-- The tool and the choice are well formed. -/
lemma wellFormed_forcedFunction : WellFormedTools [functionTool] (some forcedFunction) := by
  refine ⟨fun t ht => ?_, fun c hc => ?_⟩
  · obtain rfl := List.mem_singleton.mp ht
    rfl
  · obtain rfl := Option.some.inj hc
    rfl

/-- The theorem about a forced function. -/
theorem forcedFunction_iff :
    AdaptersKeepTools [functionTool] (some forcedFunction) ↔
      losesChoice (some forcedFunction) = false :=
  adaptersKeepTools_iff wellFormed_forcedFunction

/-- A forced function does not stay forced: the OpenAI adapter sends `auto`. -/
theorem forcedFunction_lost :
    ¬ ∀ (tools : List Json) (tc : Option ToolChoice), WellFormedTools tools tc →
      AdaptersKeepTools tools tc := fun h =>
  not_openAIKeepsTools wellFormed_forcedFunction rfl (h _ _ wellFormed_forcedFunction).1

end AgentCtl
