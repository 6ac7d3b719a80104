import AgentCtl.Server.App
import AgentCtl.Providers.Shapes

set_option relaxedAutoImplicit false
set_option autoImplicit false

/-!
# What leaves the HTTP boundary

A body is any JSON object, with the infinities and `NaN` that `json.loads` reads and integers of any
size. `to_normalized` is meant to refuse a bad one with a `ValueError`, which becomes a 400. Here
Python's `int` and `float` are modelled with the exceptions they raise; the numbers they give are
not. Some bodies make other exceptions escape, and they are described field by field, in the order
in which the fields are looked at.

## Main definitions

* `AgentCtl.Numerals`, `AgentCtl.Numerals.conversions` — `int(v)` and `float(v)` on JSON values.
* `AgentCtl.blockEscapes` — the content blocks that validation cannot look at.
* `AgentCtl.escapesBoundary` — the bodies that let another exception escape.

## Main results

* `AgentCtl.raises_validateBody` — what local validation raises.
* `AgentCtl.raises_toNormalized_iff` — the bodies on which `to_normalized` returns or raises a
  `ValueError`.
-/

namespace AgentCtl

/-! ## Python's conversions -/

/-- The numbers that `int` and `float` give. A text that is no literal has the message of the
`ValueError` it causes. -/
structure Numerals where
  /-- `int(x)` of a finite float -/
  truncate : PyFloat → ℤ
  /-- `int(s)` -/
  parseInt : Str → Except Str ℤ
  /-- `float(n)` of an integer in range -/
  ofInt : ℤ → PyFloat
  /-- `float(s)` -/
  parseFloat : Str → Except Str PyFloat
  /-- `0 <= x <= 2` -/
  inTemperatureRange : PyFloat → Bool

/-- Is the float one of the infinities? -/
def isInfinite (x : PyFloat) : Bool :=
  x.repr = ("Infinity" : Str) || x.repr = ("-Infinity" : Str)

/-- Is the float `NaN`? -/
def isNaN (x : PyFloat) : Bool := x.repr = ("NaN" : Str)

/-- `TypeError(msg)`. -/
def Exc.type (msg : Str) : Exc := ⟨.typeError, msg, none⟩

/-- A text read as a number, or the `ValueError` of one that is none. -/
def orValueError {α : Type} : Except Str α → Except Exc α
  | .ok a => .ok a
  | .error msg => .error (.value msg)

namespace Numerals

variable (num : Numerals)

/-- `int(v)` -/
def int : Json → Except Exc ℤ
  | .bool b => .ok (if b then 1 else 0)
  | .int n => .ok n
  | .float x =>
    if isInfinite x then .error (.overflow "cannot convert float infinity to integer")
    else if isNaN x then .error (.value "cannot convert float NaN to integer")
    else .ok (num.truncate x)
  | .str s => orValueError (num.parseInt s)
  | v => .error (.type ("int() argument must be a string, a bytes-like object or a real number, " ++
      ("not '" ++ (v.typeName ++ "'"))))

/-- `float(v)` -/
def float : Json → Except Exc PyFloat
  | .bool b => .ok (num.ofInt (if b then 1 else 0))
  | .int n =>
    if floatOverflows n then .error (.overflow "int too large to convert to float")
    else .ok (num.ofInt n)
  | .float x => .ok x
  | .str s => orValueError (num.parseFloat s)
  | v => .error (.type ("float() argument must be a string or a real number, not '" ++
      (v.typeName ++ "'")))

/-- The conversions with Python's exceptions. -/
def conversions : Conversions where
  int := num.int
  float := num.float
  inTemperatureRange := num.inTemperatureRange

/-- Numbers for concrete runs: no text is a number, and no float but zero is known. -/
def plain : Numerals where
  truncate _ := 0
  parseInt _ := .error "invalid literal for int()"
  ofInt _ := ⟨"0.0", by decide⟩
  parseFloat _ := .error "could not convert string to float"
  inTemperatureRange x := x.repr = ("0.0" : Str)

end Numerals

/-! ## What a body must look like

Each field has two tests: is it accepted, and does it make another exception than `ValueError`
escape? A field that fails both is refused, and what comes after it is not looked at. -/

/-- The object that a value is, if it is one. -/
def objectOf? : Json → Option Dict
  | .obj d => some d
  | _ => none

/-- Is `messages` falsy or a list of objects? -/
def messagesTyped (body : Dict) : Bool :=
  match (body.get "messages").orElse (.arr []) with
  | .arr ms => ms.all fun m => (objectOf? m).isSome
  | _ => false

/-- The messages of a body that are not system messages. -/
def chatMessagesOf (body : Dict) : List Dict :=
  match (body.get "messages").orElse (.arr []) with
  | .arr ms => (ms.filterMap objectOf?).filter fun m => !isSystem m
  | _ => []

/-- Is `max_tokens` an infinity? -/
def maxTokensInfinite (body : Dict) : Bool :=
  match body.get? "max_tokens" with
  | some (.float x) => isInfinite x
  | _ => false

/-- Is `max_tokens` absent with a positive default, or a positive number or text of one? -/
def maxTokensPositive (num : Numerals) (body : Dict) (defaultMaxTokens : ℤ) : Bool :=
  match body.get? "max_tokens" with
  | none => 0 < defaultMaxTokens
  | some (.int n) => 0 < n
  | some (.float x) => !isInfinite x && !isNaN x && 0 < num.truncate x
  | some (.str s) => match num.parseInt s with
    | .ok n => 0 < n
    | .error _ => false
  | _ => false

/-- Is `temperature` an integer too large for a float? -/
def temperatureHuge (body : Dict) : Bool :=
  match body.get "temperature" with
  | .int n => floatOverflows n
  | _ => false

/-- Is `temperature` absent, or a number or text of one in range? -/
def temperatureAccepted (num : Numerals) (body : Dict) : Bool :=
  match body.get "temperature" with
  | .null => true
  | .int n => !floatOverflows n && num.inTemperatureRange (num.ofInt n)
  | .float x => num.inTemperatureRange x
  | .str s => match num.parseFloat s with
    | .ok x => num.inTemperatureRange x
    | .error _ => false
  | _ => false

/-- Is `tools` absent or a list? -/
def toolsTyped (body : Dict) : Bool :=
  match body.get "tools" with
  | .null | .arr _ => true
  | _ => false

/-- Is `tool_choice` absent, an object or a string? -/
def toolChoiceTyped (body : Dict) : Bool :=
  match body.get "tool_choice" with
  | .null | .obj _ | .str _ => true
  | _ => false

/-- Has the value no hash? -/
def isUnhashable : Json → Bool
  | .arr _ | .obj _ => true
  | _ => false

/-- Is the URL of the block's image object truthy without being a string? -/
def imageUrlUntyped (block : Dict) : Bool :=
  match block.get "image_url" with
  | .obj iu => (Dict.get iu "url").truthy && !(Dict.get iu "url").isStr
  | _ => false

/-- Is the URL of the block a `data:` URI that is not base64? -/
def imageUrlUnencoded (block : Dict) : Bool :=
  match imageUrlOf block with
  | .str u =>
    u.startsWith "data:" && (!(u.partition 44).2.1 || !(u.partition 44).1.contains "base64")
  | _ => false

/-- The blocks that validation cannot look at: their type has no hash, or their image URL is no
string. -/
def blockEscapes : Json → Bool
  | .obj d => isUnhashable (Dict.get d "type") ||
      ((Dict.get d "type").eqStr "image_url" && imageUrlUntyped d)
  | _ => false

/-- The blocks that validation refuses. -/
def blockRefused : Json → Bool
  | .obj d => (Dict.get d "type").eqStr "input_audio" ||
      ((Dict.get d "type").eqStr "image_url" && imageUrlUnencoded d)
  | _ => false

/-- Is there a block that validation cannot look at, and none before it that is refused? -/
def blocksEscape : List Json → Bool
  | [] => false
  | b :: bs => blockEscapes b || (!blockRefused b && blocksEscape bs)

/-- The content blocks of messages, in order. -/
def contentBlocks (messages : List Dict) : List Json :=
  messages.flatMap fun m => match m.get "content" with
    | .arr blocks => blocks
    | _ => []

/-- The bodies that let another exception than `ValueError` escape: an infinite `max_tokens`, a huge
`temperature` or a content block that cannot be looked at, with nothing before it that is
refused. -/
def escapesBoundary (num : Numerals) (body : Dict) (defaultMaxTokens : ℤ) : Bool :=
  messagesTyped body &&
    (maxTokensInfinite body ||
      (maxTokensPositive num body defaultMaxTokens &&
        (temperatureHuge body ||
          (temperatureAccepted num body && toolsTyped body && toolChoiceTyped body &&
            blocksEscape (contentBlocks (chatMessagesOf body))))))

/-! ## The fields before the content -/

section Fields

variable {py : Runtime} {num : Numerals} {body : Dict} {defaultMaxTokens : ℤ}

/-- The exceptions that become a 400. -/
def IsValueError (e : Exc) : Prop := e.isValueError = true

/-- A `ValueError` is one. -/
@[simp] lemma isValueError_value (msg : Str) : IsValueError (.value msg) := rfl

/-- An `OverflowError` is none. -/
@[simp] lemma not_isValueError_overflow (msg : Str) : ¬ IsValueError (.overflow msg) := by
  rintro ⟨⟩

/-- The messages raise nothing else. -/
lemma raises_bodyMessages : (bodyMessages body).Raises IsValueError := by
  unfold bodyMessages
  split
  next ms _ =>
    refine List.raises_mapM fun m _ => ?_
    split
    · exact Except.raises_ok _
    · exact (Except.raises_error _).mpr (isValueError_value _)
  next => exact (Except.raises_error _).mpr (isValueError_value _)

/-- What the messages of a body are. -/
lemma bodyMessages_eq_ok {messages : List Dict} (h : bodyMessages body = .ok messages) :
    messagesTyped body = true ∧ messages.filter (fun m => !isSystem m) = chatMessagesOf body := by
  unfold bodyMessages at h
  unfold messagesTyped chatMessagesOf
  generalize (body.get "messages").orElse (.arr []) = v at h ⊢
  cases v with
  | arr ms =>
    suffices hall : (ms.all fun m => (objectOf? m).isSome) = true ∧
        messages = ms.filterMap objectOf? from ⟨hall.1, by rw [hall.2]⟩
    have hrel := List.mapM_eq_ok h
    clear h
    induction hrel with
    | nil => exact ⟨rfl, rfl⟩
    | @cons m d ms messages hmd _ ih =>
      cases m with
      | obj d' =>
        obtain rfl := Except.ok.inj hmd
        exact ⟨by simpa [objectOf?] using ih.1, by simp [objectOf?, ih.2]⟩
      | _ => cases hmd
  | _ => cases h

/-- A list of objects, or nothing, is accepted. -/
lemma returns_bodyMessages : (bodyMessages body).Returns ↔ messagesTyped body = true := by
  refine ⟨fun ⟨_, h⟩ => (bodyMessages_eq_ok h).1, fun h => ?_⟩
  unfold messagesTyped at h
  unfold bodyMessages
  generalize (body.get "messages").orElse (.arr []) = v at h ⊢
  cases v with
  | arr ms =>
    refine (List.returns_mapM _ _).mpr fun m hm => ?_
    have hobj := List.all_eq_true.mp h m hm
    cases m with
    | obj d => exact ⟨d, rfl⟩
    | _ => cases hobj
  | _ => cases h

/-- Around a conversion, what is no `TypeError` and no `ValueError` escapes. -/
lemma raises_orInvalid {α : Type} {x : Except Exc α} {msg : Str} :
    (orInvalid x msg).Raises IsValueError ↔
      x.Raises fun e => e.cls = .typeError ∨ IsValueError e := by
  cases x with
  | ok a => simp [orInvalid]
  | error e =>
    simp only [Except.raises_error, orInvalid]
    by_cases h : e.cls = .typeError ∨ e.isValueError = true
    · rw [if_pos (by simpa using h)]
      exact iff_of_true ((Except.raises_error _).mpr (isValueError_value _)) h
    · rw [if_neg (by simpa using h)]
      push Not at h
      simp [IsValueError, h]

/-- Around a conversion, what is returned is what the conversion returns. -/
lemma orInvalid_eq_ok {α : Type} {x : Except Exc α} {msg : Str} {a : α} :
    orInvalid x msg = .ok a ↔ x = .ok a := by
  cases x with
  | ok a => rfl
  | error e =>
    unfold orInvalid
    dsimp only
    split <;> simp

/-- A text that is no literal is a `ValueError`. -/
lemma raises_orValueError {α : Type} (x : Except Str α) :
    (orValueError x).Raises fun e => e.cls = .typeError ∨ IsValueError e := by
  cases x with
  | ok a => exact Except.raises_ok a
  | error msg => exact (Except.raises_error _).mpr (.inr (isValueError_value msg))

/-- `int(v)` raises another exception on the infinities only. -/
lemma Numerals.raises_int (v : Json) :
    ((num.int v).Raises fun e => e.cls = .typeError ∨ IsValueError e) ↔
      ∀ x, v = .float x → isInfinite x = false := by
  cases v with
  | float x =>
    unfold Numerals.int
    by_cases hinf : isInfinite x = true
    · simp [hinf, Exc.overflow, IsValueError, Exc.isValueError]
    · by_cases hnan : isNaN x = true
      · simp [hinf, hnan]
      · simp [hinf, hnan]
  | str s => exact iff_of_true (raises_orValueError _) (by simp)
  | _ => simp [Numerals.int, Exc.type]

/-- `float(v)` raises another exception on huge integers only. -/
lemma Numerals.raises_float (v : Json) :
    ((num.float v).Raises fun e => e.cls = .typeError ∨ IsValueError e) ↔
      ∀ n, v = .int n → floatOverflows n = false := by
  cases v with
  | int n =>
    unfold Numerals.float
    by_cases hn : floatOverflows n = true
    · simp [hn, Exc.overflow, IsValueError, Exc.isValueError]
    · simp [hn]
  | str s => exact iff_of_true (raises_orValueError _) (by simp)
  | _ => simp [Numerals.float, Exc.type]

/-- `max_tokens` lets another exception escape when it is an infinity. -/
lemma raises_bodyMaxTokens :
    (bodyMaxTokens num.conversions body defaultMaxTokens).Raises IsValueError ↔
      maxTokensInfinite body = false := by
  have hsign : ∀ n : ℤ, (if n ≤ 0 then
      .error (.value "field 'max_tokens' must be a positive integer")
      else return n : Except Exc ℤ).Raises IsValueError := by
    intro n
    split <;> simp
  have hint : ∀ v : Json,
      (orInvalid (num.int v) "field 'max_tokens' must be an integer" >>= fun n =>
      if n ≤ 0 then .error (.value "field 'max_tokens' must be a positive integer")
      else return n).Raises IsValueError ↔ ∀ x, v = .float x → isInfinite x = false := by
    intro v
    rw [Except.raises_bind_iff, and_iff_left fun n _ => hsign n, raises_orInvalid, num.raises_int]
  unfold bodyMaxTokens maxTokensInfinite
  cases body.get? "max_tokens" with
  | none => exact iff_of_true (hsign _) rfl
  | some v =>
    cases v with
    | bool b => exact iff_of_true ((Except.raises_error _).mpr (isValueError_value _)) rfl
    | null => exact (hint .null).trans (by simp)
    | int n => exact (hint (.int n)).trans (by simp)
    | float x => exact (hint (.float x)).trans (by simp)
    | str s => exact (hint (.str s)).trans (by simp)
    | arr vs => exact (hint (.arr vs)).trans (by simp)
    | obj d => exact (hint (.obj d)).trans (by simp)

/-- A positive number is accepted as `max_tokens`. -/
lemma returns_bodyMaxTokens :
    (bodyMaxTokens num.conversions body defaultMaxTokens).Returns ↔
      maxTokensPositive num body defaultMaxTokens = true := by
  have hsign : ∀ n : ℤ, (if n ≤ 0 then
      .error (.value "field 'max_tokens' must be a positive integer")
      else return n : Except Exc ℤ).Returns ↔ 0 < n := by
    intro n
    split <;> simp <;> omega
  have hint : ∀ v : Json,
      (orInvalid (num.int v) "field 'max_tokens' must be an integer" >>= fun n =>
      if n ≤ 0 then .error (.value "field 'max_tokens' must be a positive integer")
      else return n).Returns ↔ ∃ n, num.int v = .ok n ∧ 0 < n := by
    intro v
    rw [Except.returns_bind]
    exact exists_congr fun n => and_congr orInvalid_eq_ok (hsign n)
  unfold bodyMaxTokens maxTokensPositive
  cases body.get? "max_tokens" with
  | none => exact (hsign _).trans (by simp)
  | some v =>
    cases v with
    | bool b => exact iff_of_false (Except.not_returns_error _) (by simp)
    | null => exact (hint .null).trans (by simp [Numerals.int])
    | int n => exact (hint (.int n)).trans (by simp [Numerals.int])
    | float x =>
      refine (hint (.float x)).trans ?_
      by_cases hinf : isInfinite x = true
      · simp [Numerals.int, hinf]
      · by_cases hnan : isNaN x = true
        · simp [Numerals.int, hinf, hnan]
        · simp [Numerals.int, hinf, hnan]
    | str s =>
      refine (hint (.str s)).trans ?_
      cases h : num.parseInt s <;> simp [Numerals.int, orValueError, h]
    | arr vs => exact (hint (.arr vs)).trans (by simp [Numerals.int])
    | obj d => exact (hint (.obj d)).trans (by simp [Numerals.int])

/-- A `temperature` that is converted: what escapes, and what is accepted. -/
lemma outcome_temperature (v : Json) :
    ((orInvalid (num.float v) "field 'temperature' must be a number" >>= fun x =>
        if num.inTemperatureRange x then return some x
        else .error (.value "field 'temperature' must be between 0 and 2")).Raises IsValueError ↔
          ∀ n, v = .int n → floatOverflows n = false) ∧
      ((orInvalid (num.float v) "field 'temperature' must be a number" >>= fun x =>
        if num.inTemperatureRange x then return some x
        else .error (.value "field 'temperature' must be between 0 and 2")).Returns ↔
          ∃ x, num.float v = .ok x ∧ num.inTemperatureRange x = true) := by
  constructor
  · rw [Except.raises_bind_iff, raises_orInvalid, num.raises_float, and_iff_left]
    intro x _
    split <;> simp
  · rw [Except.returns_bind]
    refine exists_congr fun x => and_congr orInvalid_eq_ok ?_
    split <;> simp_all

/-- `temperature` lets another exception escape when it is a huge integer. -/
lemma raises_bodyTemperature :
    (bodyTemperature num.conversions body).Raises IsValueError ↔ temperatureHuge body = false := by
  unfold bodyTemperature temperatureHuge
  cases body.get "temperature" with
  | null => exact iff_of_true (Except.raises_ok _) rfl
  | bool b => exact iff_of_true ((Except.raises_error _).mpr (isValueError_value _)) rfl
  | int n => exact (outcome_temperature (.int n)).1.trans (by simp)
  | float x => exact (outcome_temperature (.float x)).1.trans (by simp)
  | str s => exact (outcome_temperature (.str s)).1.trans (by simp)
  | arr vs => exact (outcome_temperature (.arr vs)).1.trans (by simp)
  | obj d => exact (outcome_temperature (.obj d)).1.trans (by simp)

/-- A number in range is accepted as `temperature`. -/
lemma returns_bodyTemperature :
    (bodyTemperature num.conversions body).Returns ↔ temperatureAccepted num body = true := by
  unfold bodyTemperature temperatureAccepted
  cases body.get "temperature" with
  | null => exact iff_of_true (Except.returns_ok _) rfl
  | bool b => exact iff_of_false (Except.not_returns_error _) (by simp)
  | int n =>
    refine (outcome_temperature (.int n)).2.trans ?_
    by_cases h : floatOverflows n = true <;> simp [Numerals.float, h]
  | float x => exact (outcome_temperature (.float x)).2.trans (by simp [Numerals.float])
  | str s =>
    refine (outcome_temperature (.str s)).2.trans ?_
    cases h : num.parseFloat s <;> simp [Numerals.float, orValueError, h]
  | arr vs => exact (outcome_temperature (.arr vs)).2.trans (by simp [Numerals.float])
  | obj d => exact (outcome_temperature (.obj d)).2.trans (by simp [Numerals.float])

/-- `tools` raises nothing else, and is accepted when it is absent or a list. -/
lemma outcome_bodyTools :
    (bodyTools body).Raises IsValueError ∧ ((bodyTools body).Returns ↔ toolsTyped body = true) := by
  unfold bodyTools toolsTyped
  cases body.get "tools" <;> simp

/-- `tool_choice` raises nothing else here, and passes when it is absent, an object or a string. -/
lemma outcome_bodyToolChoice :
    (bodyToolChoice body).Raises IsValueError ∧
      ((bodyToolChoice body).Returns ↔ toolChoiceTyped body = true) := by
  unfold bodyToolChoice toolChoiceTyped
  cases body.get "tool_choice" <;> simp

/-- A model that is a string is accepted. -/
lemma bodyModel_of_str {model : Str} (h : body.get "model" = .str model) :
    bodyModel body = .ok model := by
  unfold Dict.get OrderedDict.getD at h
  unfold bodyModel Json.item
  dsimp only
  cases hm : body.get? "model" with
  | none =>
    rw [hm] at h
    cases h
  | some v =>
    rw [hm] at h
    obtain rfl : v = .str model := h
    rfl

end Fields

/-! ## The content -/

section Content

variable (py : Runtime)

/-- What becomes of an exception of validation is a `ValueError`. -/
def BecomesValueError (e : Exc) : Prop := IsValueError (if e.isTerminal then .value e.msg else e)

/-- A refusal becomes one. -/
@[simp] lemma becomesValueError_terminal (msg : Str) : BecomesValueError (.terminal msg) := rfl

/-- A missing attribute does not. -/
@[simp] lemma not_becomesValueError_noAttribute (v : Json) (name : Str) :
    ¬ BecomesValueError (v.noAttribute name) := by
  rintro ⟨⟩

/-- The type of a block is refused, or has no hash. -/
lemma outcome_rejectUnsupported (v : Json) :
    ((rejectUnsupported py v).Raises BecomesValueError ↔ isUnhashable v = false) ∧
      ((rejectUnsupported py v).Returns ↔
        isUnhashable v = false ∧ v.eqStr "input_audio" = false) := by
  unfold rejectUnsupported
  cases v with
  | str s =>
    by_cases h : s = ("input_audio" : Str)
    · subst h
      exact ⟨iff_of_true ((Except.raises_error _).mpr (becomesValueError_terminal _)) rfl,
        iff_of_false (Except.not_returns_error _) (by simp)⟩
    · simp [Json.hashable, isUnhashable, h]
  | arr vs => exact ⟨iff_of_false (by rintro h; cases h _ rfl) (by simp [isUnhashable]),
      iff_of_false (Except.not_returns_error _) (by simp [isUnhashable])⟩
  | obj d => exact ⟨iff_of_false (by rintro h; cases h _ rfl) (by simp [isUnhashable]),
      iff_of_false (Except.not_returns_error _) (by simp [isUnhashable])⟩
  | _ => simp [Json.hashable, isUnhashable, Json.eqStr]

/-- The URL of an image is a string, or an object's falsy entry stands for the empty one. -/
lemma imageUrlOf_isStr (d : Dict) : (imageUrlOf d).isStr = !imageUrlUntyped d := by
  unfold imageUrlOf imageUrlUntyped
  cases d.get "image_url" with
  | obj iu =>
    by_cases h : (Dict.get iu "url").truthy = true
    · simp [Json.orElse, h]
    · simp [Json.orElse, h, Json.isStr]
  | _ => rfl

/-- The image URL of a block is refused, or is no string. -/
lemma outcome_checkImageUrl (d : Dict) :
    ((checkImageUrl (imageUrlOf d)).Raises BecomesValueError ↔ imageUrlUntyped d = false) ∧
      ((checkImageUrl (imageUrlOf d)).Returns ↔
        imageUrlUntyped d = false ∧ imageUrlUnencoded d = false) := by
  have hstr := imageUrlOf_isStr d
  unfold checkImageUrl imageUrlUnencoded
  cases hu : imageUrlOf d with
  | str u =>
    rw [hu] at hstr
    have htyped : imageUrlUntyped d = false := by simpa [Json.isStr] using hstr
    simp only [htyped, true_and, iff_true]
    by_cases hdata : u.startsWith "data:" = true
    · by_cases henc : (!(u.partition 44).2.1 || !(u.partition 44).1.contains "base64") = true
      · simp [hdata, henc]
      · simp [hdata, henc]
    · simp [hdata]
  | _ =>
    rw [hu] at hstr
    have hvalue : imageUrlUntyped d = true := by simpa [Json.isStr] using hstr
    simp [hvalue]

/-- A block is accepted, refused, or cannot be looked at. -/
lemma outcome_validateBlock (b : Json) :
    ((validateBlock py b).Raises BecomesValueError ↔ blockEscapes b = false) ∧
      ((validateBlock py b).Returns ↔ blockEscapes b = false ∧ blockRefused b = false) := by
  cases b with
  | obj d =>
    have htype := outcome_rejectUnsupported py (Dict.get d "type")
    have himage := outcome_checkImageUrl d
    unfold validateBlock blockEscapes blockRefused
    by_cases hi : (Dict.get d "type").eqStr "image_url" = true
    · -- the type is a known string, so only the URL decides
      have ht : Dict.get d "type" = .str "image_url" := (eqStr_iff _ _).mp hi
      have hcheck : (checkImageUrl (imageUrlOf d) >>= fun _ => (pure () : Except Exc Unit)).Raises
          BecomesValueError ↔ (checkImageUrl (imageUrlOf d)).Raises BecomesValueError := by
        cases checkImageUrl (imageUrlOf d) <;> simp
      have haudio : ("image_url" : Str) ≠ "input_audio" := by decide
      simp only [ht, rejectUnsupported_str py haudio, Except.ok_bind, Json.eqStr_str, decide_true,
        if_true, Except.returns_bind_pure, isUnhashable, Bool.false_or, Bool.true_and, haudio,
        decide_false]
      exact ⟨hcheck.trans himage.1, himage.2⟩
    · simp only [hi, Bool.false_eq_true, if_false, Bool.false_and, Bool.or_false]
      have hdone : (rejectUnsupported py (Dict.get d "type") >>= fun _ =>
        (pure () : Except Exc Unit)) =
          rejectUnsupported py (Dict.get d "type") := by
        cases rejectUnsupported py (Dict.get d "type") <;> rfl
      rw [hdone]
      exact htype
  | _ => simp [validateBlock, blockEscapes, blockRefused]

/-- Validation lets another exception escape when a block that cannot be looked at comes before any
that is refused. -/
lemma raises_forM_validateBlock (blocks : List Json) :
    (blocks.forM (validateBlock py)).Raises BecomesValueError ↔ blocksEscape blocks = false := by
  induction blocks with
  | nil => exact iff_of_true (Except.raises_ok _) rfl
  | cons b bs ih =>
    obtain ⟨hraises, hreturns⟩ := outcome_validateBlock py b
    have hcons : (b :: bs).forM (validateBlock py) =
        (validateBlock py b >>= fun _ => bs.forM (validateBlock py)) := rfl
    rw [hcons, Except.raises_bind_iff, hraises, blocksEscape]
    constructor
    · rintro ⟨hb, hbs⟩
      by_cases href : blockRefused b = true
      · simp [hb, href]
      · obtain ⟨u, hu⟩ := hreturns.mpr ⟨hb, by simpa using href⟩
        simp [hb, ih.mp (hbs u hu)]
    · intro h
      simp only [Bool.or_eq_false_iff, Bool.and_eq_false_iff, Bool.not_eq_false'] at h
      refine ⟨h.1, fun u hu => ih.mpr ?_⟩
      have href := (hreturns.mp ⟨u, hu⟩).2
      simpa [href] using h.2

/-- The blocks of all messages are looked at in order. -/
lemma forM_validateMessage (messages : List Dict) :
    messages.forM (validateMessage py) = (contentBlocks messages).forM (validateBlock py) := by
  induction messages with
  | nil => rfl
  | cons m ms ih =>
    have hcons : (m :: ms).forM (validateMessage py) =
        (validateMessage py m >>= fun _ => ms.forM (validateMessage py)) := rfl
    have hblocks : contentBlocks (m :: ms) = (match m.get "content" with
      | .arr blocks => blocks
      | _ => []) ++ contentBlocks ms := List.flatMap_cons
    rw [hcons, ih, hblocks]
    unfold validateMessage
    cases m.get "content" with
    | arr blocks => exact List.forM_append.symm
    | _ => rfl

/-- What local validation raises at the boundary. -/
theorem raises_validateBody (messages : List Dict) (toolChoice : Option ToolChoice) :
    (validateBody py messages toolChoice).Raises IsValueError ↔
      blocksEscape (contentBlocks messages) = false := by
  have hbody : (validateBody py messages toolChoice).Raises IsValueError ↔
      (validateLocalContent py messages toolChoice).Raises BecomesValueError := by
    unfold validateBody
    cases validateLocalContent py messages toolChoice <;> simp [BecomesValueError]
  have hchoice : ∀ s : Str, (if s ≠ ("auto" : Str) ∧ s ≠ ("required" : Str) ∧ s ≠ ("none" : Str)
      then throw (.terminal ("unsupported tool_choice string: " ++ py.repr (.str s)))
      else pure () : Except Exc Unit).Raises BecomesValueError := by
    intro s
    split
    · exact (Except.raises_error _).mpr (becomesValueError_terminal _)
    · exact Except.raises_ok _
  rw [hbody, ← raises_forM_validateBlock py, ← forM_validateMessage]
  unfold validateLocalContent
  rw [Except.raises_bind_iff, and_iff_left]
  intro _ _
  rcases toolChoice with _ | d | s
  · exact Except.raises_ok _
  · exact Except.raises_ok _
  · exact hchoice s

end Content

/-! ## The whole body -/

/-- **What leaves the boundary.** On a body whose model is a string, `to_normalized` returns or
raises a `ValueError` exactly when the body is none of those that let another exception escape.

**Proof sketch.** Each field raises nothing else, or does so on one kind of value, and is accepted
on the values its test describes. The fields are looked at one after the other, so another exception
escapes from the first field that is not accepted. -/
theorem raises_toNormalized_iff (py : Runtime) (num : Numerals) (body : Dict) (defaultMaxTokens : ℤ)
    (model : Str) (hmodel : body.get "model" = .str model) :
    (∀ e, toNormalized py num.conversions body defaultMaxTokens = .error e →
      e.isValueError = true) ↔
      escapesBoundary num body defaultMaxTokens = false := by
  change (toNormalized py num.conversions body defaultMaxTokens).Raises IsValueError ↔ _
  calc (toNormalized py num.conversions body defaultMaxTokens).Raises IsValueError
    _ ↔ (bodyMessages body).Raises IsValueError ∧ ((bodyMessages body).Returns →
          (bodyMaxTokens num.conversions body defaultMaxTokens).Raises IsValueError ∧
          ((bodyMaxTokens num.conversions body defaultMaxTokens).Returns →
            (bodyTemperature num.conversions body).Raises IsValueError ∧
            ((bodyTemperature num.conversions body).Returns →
              (bodyTools body).Raises IsValueError ∧ ((bodyTools body).Returns →
                (bodyToolChoice body).Raises IsValueError ∧ ((bodyToolChoice body).Returns →
                  blocksEscape (contentBlocks (chatMessagesOf body)) = false))))) := by
        refine Except.raises_bind_iff_of_returns fun messages hmessages => ?_
        refine Except.raises_bind_iff_of_returns fun maxTokens _ => ?_
        refine Except.raises_bind_iff_of_returns fun temperature _ => ?_
        refine Except.raises_bind_iff_of_returns fun tools _ => ?_
        refine Except.raises_bind_iff_of_returns fun toolChoice _ => ?_
        rw [Except.raises_bind_iff, raises_validateBody, (bodyMessages_eq_ok hmessages).2,
          bodyModel_of_str hmodel]
        exact and_iff_left fun _ _ => Except.raises_ok _
    _ ↔ escapesBoundary num body defaultMaxTokens = false := by
        simp only [raises_bodyMessages, returns_bodyMessages, raises_bodyMaxTokens,
          returns_bodyMaxTokens, raises_bodyTemperature, returns_bodyTemperature, outcome_bodyTools,
          outcome_bodyToolChoice, true_and, escapesBoundary, Bool.and_eq_false_imp,
          Bool.or_eq_false_iff, Bool.and_eq_true]
        tauto

/-- A body with a user message of one content block. -/
def bodyOfBlock (block : Dict) : Dict :=
  [("model", .str "gpt"), ("max_tokens", .int 16),
    ("messages", .arr [.obj [("role", .str "user"), ("content", .arr [.obj block])]])]

/-- A body with an audio block is refused. -/
theorem toNormalized_audio :
    ∃ e, toNormalized .plain Numerals.plain.conversions (bodyOfBlock [("type", .str "input_audio")])
      1024 = .error e ∧ e.isValueError = true := by
  have h := raises_toNormalized_iff .plain .plain (bodyOfBlock [("type", .str "input_audio")]) 1024
    "gpt" rfl
  exact ⟨_, rfl, h.mpr (by decide) _ rfl⟩

/-- An infinite `max_tokens`, a huge `temperature`, a block whose type is a list, and an image URL
that is a number make other exceptions escape. -/
theorem toNormalized_escapes :
    (∃ e, toNormalized .plain Numerals.plain.conversions
        [("model", .str "gpt"), ("max_tokens", .float ⟨"Infinity", by decide⟩)] 1024 = .error e ∧
      e.isValueError = false) ∧
    (∃ e, toNormalized .plain Numerals.plain.conversions
        [("model", .str "gpt"), ("temperature", .int (2 ^ 1024))] 1024 = .error e ∧
      e.isValueError = false) ∧
    (∃ e, toNormalized .plain Numerals.plain.conversions (bodyOfBlock [("type", .arr [])])
        1024 = .error e ∧ e.isValueError = false) ∧
    ∃ e, toNormalized .plain Numerals.plain.conversions
        (bodyOfBlock [("type", .str "image_url"), ("image_url", .obj [("url", .int 5)])])
        1024 = .error e ∧ e.isValueError = false := by
  have hhuge : floatOverflows (2 ^ 1024) = true := by
    unfold floatOverflows
    decide +kernel
  have htemperature : bodyTemperature Numerals.plain.conversions
      [("model", .str "gpt"), ("temperature", .int (2 ^ 1024))] =
        .error (.overflow "int too large to convert to float") := by
    change (orInvalid (Numerals.plain.float (.int (2 ^ 1024))) _ >>= _) = _
    rw [Numerals.float, if_pos hhuge]
    rfl
  refine ⟨⟨_, rfl, rfl⟩, ⟨.overflow "int too large to convert to float", ?_, rfl⟩, ⟨_, rfl, rfl⟩,
    ⟨_, rfl, rfl⟩⟩
  unfold toNormalized
  rw [htemperature]
  rfl

end AgentCtl
