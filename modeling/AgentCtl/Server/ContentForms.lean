import AgentCtl.Library.Lockstep
import AgentCtl.Server.App

set_option relaxedAutoImplicit false
set_option autoImplicit false

/-!
# A text as a string and as a text part

OpenAI's API lets a message say its text as a string or as an array of text parts. A body with the
one form and the body with the other are refused alike, or become requests that differ in that
message only; and if it is a system message, in the system text only, as the array is taken for it
as JSON text.

## Main definitions

* `AgentCtl.withTextPart` — a message with its content as a text part.
* `AgentCtl.SameMessage` — messages that differ at most in the form of their text.

## Main results

* `AgentCtl.toNormalized_cases` — the requests of the two bodies.
* `AgentCtl.sent_iff` — what is left to show of an adapter.
-/

namespace AgentCtl

open Except

/-! ## The two forms -/

/-- A text part. -/
def textPart (s : Str) : Json := .obj [("type", .str "text"), ("text", .str s)]

/-- The message with a text part as its content. -/
def withTextPart (m : Dict) (s : Str) : Dict := OrderedDict.insert m "content" (.arr [textPart s])

/-- Content with a string as the text part that it stands for. -/
def asParts : Json → Json
  | .str s => .arr [textPart s]
  | v => v

/-- Messages that differ at most in the form of their text. -/
structure SameMessage (m m' : Dict) : Prop where
  content : asParts (m.get "content") = asParts (m'.get "content")
  rest : ∀ k : Str, k ≠ "content" → m.get? k = m'.get? k

/-! ## Small facts -/

/-- A text part changes no other entry of a message. -/
lemma get?_withTextPart (m : Dict) (s : Str) {k : Str} (hk : k ≠ "content") :
    (withTextPart m s).get? k = m.get? k := by
  unfold withTextPart
  rw [OrderedDict.get?_insert, if_neg hk.symm]

/-- A text part changes nothing that a translator reads of a message but its content. -/
lemma get_withTextPart (m : Dict) (s : Str) {k : Str} (hk : k ≠ "content") (default : Json) :
    (withTextPart m s).get k default = m.get k default := by
  unfold withTextPart
  rw [Dict.get_insert, if_neg hk.symm]

/-- Its content is the text part. -/
lemma get_content_withTextPart (m : Dict) (s : Str) (default : Json) :
    (withTextPart m s).get "content" default = .arr [textPart s] := by
  unfold withTextPart
  rw [Dict.get_insert, if_pos rfl]

/-- A message is like itself. -/
lemma SameMessage.refl (m : Dict) : SameMessage m m := ⟨rfl, fun _ _ => rfl⟩

/-- A character has at least one character as its text. -/
lemma one_le_length_escapeChar (b : Bool) (c : CodePoint) : 1 ≤ (Json.escapeChar b c).length := by
  have hite : ∀ {p : Prop} [Decidable p] {s t : Str}, 1 ≤ s.length → 1 ≤ t.length →
      1 ≤ (if p then s else t).length := by
    intro p _ s t hs ht
    by_cases hp : p
    · rwa [if_pos hp]
    · rwa [if_neg hp]
  have hhex : ∀ n, (Str.hex4 n).length = 4 := fun n => rfl
  unfold Json.escapeChar
  repeat' apply hite
  all_goals
    first
    | decide
    | exact Nat.le_refl 1
    | simp only [hhex, List.length_append]
      omega

/-- Escapes are not shorter than what they stand for. -/
lemma length_le_quote (b : Bool) (s : Str) : s.length + 2 ≤ (Json.quote b s).length := by
  have hchar := one_le_length_escapeChar b
  have hflat : s.length ≤ (s.flatMap (Json.escapeChar b)).length := by
    induction s with
    | nil => simp
    | cons c s ih =>
      have := hchar c
      rw [List.flatMap_cons, List.length_append, List.length_cons]
      omega
  unfold Json.quote
  rw [List.length_cons, List.length_append, List.length_singleton]
  omega

/-- The JSON text of a text part is longer than the text. -/
lemma length_lt_dumps_textPart (b : Bool) (s : Str) :
    s.length < ((Json.arr [textPart s]).dumps b).length := by
  have hquote := length_le_quote b s
  simp only [textPart, Json.dumps, Json.dumpsItems, Json.dumpsEntries, List.length_append]
  omega

/-! ## The request of a body -/

/-- The messages of a body that are no system messages. -/
def restOf (messages : List Dict) : List Dict := messages.filter fun m => !isSystem m

section Normalized

variable {py : Runtime} {conv : Conversions} {defaultMaxTokens : ℤ}

/-- Of the messages, a body's request reads their validity, their system text and the others. -/
lemma toNormalized_congr {body body' : Dict}
    (hbody : ∀ k : Str, k ≠ "messages" → body'.get? k = body.get? k)
    {messages messages' : List Dict}
    (hmessages : bodyMessages body = .ok messages) (hmessages' : bodyMessages body' = .ok messages')
    (hvalid : ∀ tc, validateLocalContent py (restOf messages') tc =
      validateLocalContent py (restOf messages) tc) :
    toNormalized py conv body' defaultMaxTokens = (fun request : NormalizedRequest =>
      { request with messages := restOf messages', system := systemOf messages' }) <$>
        toNormalized py conv body defaultMaxTokens := by
  have hget : ∀ k : Str, k ≠ "messages" → ∀ default, Dict.get body' k default =
      Dict.get body k default := by
    intro k hk default
    unfold Dict.get OrderedDict.getD
    rw [hbody k hk]
  have hmaxTokens : bodyMaxTokens conv body' = bodyMaxTokens conv body := by
    funext n
    unfold bodyMaxTokens
    rw [hbody _ (by simp)]
  have htemperature : bodyTemperature conv body' = bodyTemperature conv body := by
    unfold bodyTemperature
    rw [hget _ (by simp)]
  have htools : bodyTools body' = bodyTools body := by
    unfold bodyTools
    rw [hget _ (by simp)]
  have htoolChoice : bodyToolChoice body' = bodyToolChoice body := by
    unfold bodyToolChoice
    rw [hget _ (by simp)]
  have hmodel : bodyModel body' = bodyModel body := by
    unfold bodyModel Json.item
    dsimp only
    rw [hbody _ (by simp)]
  have hconsumer : consumerOf py body' = consumerOf py body := by
    unfold consumerOf
    rw [hget _ (by simp)]
  have hvalidate : ∀ tc, validateBody py (restOf messages') tc =
      validateBody py (restOf messages) tc := by
    intro tc
    unfold validateBody
    rw [hvalid]
  unfold restOf at hvalidate
  unfold toNormalized restOf
  simp only [hmessages, hmessages', ok_bind, hmaxTokens, htemperature, htools, htoolChoice, hmodel,
    hconsumer, hvalidate]
  cases bodyMaxTokens conv body defaultMaxTokens with
  | error e => rfl
  | ok maxTokens =>
  cases bodyTemperature conv body with
  | error e => rfl
  | ok temperature =>
  cases bodyTools body with
  | error e => rfl
  | ok tools =>
  cases bodyToolChoice body with
  | error e => rfl
  | ok toolChoice =>
  simp only [ok_bind]
  cases validateBody py (messages.filter fun m => !isSystem m) toolChoice with
  | error e => rfl
  | ok u => cases bodyModel body <;> rfl

/-- A message of a body must be an object. -/
def asMessage : Json → Except Exc Dict
  | .obj d => .ok d
  | _ => .error (.value "each message must be an object")

/-- The messages of a body that has a list of them. -/
lemma bodyMessages_arr {body : Dict} {ms : List Json} (h : body.get "messages" = .arr ms) :
    bodyMessages body = ms.mapM asMessage := by
  have hor : (Json.arr ms).orElse (.arr []) = .arr ms := by
    unfold Json.orElse
    cases ms with
    | nil => rfl
    | cons v vs => rfl
  unfold bodyMessages
  rw [h, hor]
  show ms.mapM _ = ms.mapM asMessage
  rfl

/-- The messages of a body around one that is known: all can be read, or another one cannot,
whatever the known one says. -/
lemma mapM_asMessage_split (pre post : List Json) :
    (∃ e, ∀ m, (pre ++ .obj m :: post).mapM asMessage = .error e) ∨
      ∃ before after, ∀ m, (pre ++ .obj m :: post).mapM asMessage = .ok (before ++ m :: after) := by
  have hsplit : ∀ m, (pre ++ .obj m :: post).mapM asMessage = (do
      let before ← pre.mapM asMessage
      let after ← post.mapM asMessage
      return before ++ m :: after) := by
    intro m
    rw [List.mapM_append, List.mapM_cons]
    cases pre.mapM asMessage with
    | error e => rfl
    | ok before => cases post.mapM asMessage <;> rfl
  cases hpre : pre.mapM asMessage with
  | error e => exact .inl ⟨e, fun m => by rw [hsplit, hpre, error_bind]⟩
  | ok before =>
    cases hpost : post.mapM asMessage with
    | error e => exact .inl ⟨e, fun m => by rw [hsplit, hpre, hpost, ok_bind, error_bind]⟩
    | ok after => exact .inr ⟨before, after, fun m => by rw [hsplit, hpre, hpost]; rfl⟩

/-- Messages with strings or text parts are valid. -/
lemma validateMessage_withTextPart (m : Dict) (s : Str) :
    validateMessage py (withTextPart m s) = .ok () := by
  have hpart : validateBlock py (textPart s) = .ok () := by
    unfold validateBlock textPart
    simp
  unfold validateMessage
  rw [get_content_withTextPart]
  simp only [List.forM_eq_forM, List.forM_cons, List.forM_nil, hpart]
  rfl

/-- A text part changes no role. -/
lemma isSystem_withTextPart (m : Dict) (s : Str) : isSystem (withTextPart m s) = isSystem m := by
  unfold isSystem
  rw [get_withTextPart m s (by simp)]

/-- So the form of a text does not matter to validation. -/
lemma validate_withTextPart {m : Dict} {s : Str} (hm : m.get "content" = .str s)
    (before after : List Dict) (tc : Option ToolChoice) :
    validateLocalContent py (restOf (before ++ withTextPart m s :: after)) tc =
      validateLocalContent py (restOf (before ++ m :: after)) tc := by
  have hsystem := isSystem_withTextPart m s
  have hvalid : validateMessage py m = .ok () := by
    unfold validateMessage
    rw [hm]
  unfold validateLocalContent restOf
  simp only [List.filter_append, List.filter_cons, hsystem]
  cases isSystem m with
  | true => rfl
  | false =>
    simp only [Bool.not_false, if_true, List.forM_eq_forM, List.forM_append, List.forM_cons,
      validateMessage_withTextPart, hvalid]

end Normalized

/-! ## System texts -/

/-- A message that is no system message does not add to the system text. -/
lemma systemOf_of_not_system {m : Dict} (h : isSystem m = false) (before after : List Dict) :
    systemOf (before ++ m :: after) = systemOf (before ++ after) := by
  unfold systemOf
  rw [List.filter_append, List.filter_append, List.filter_cons, h]
  rfl

/-- A system message is not among the others. -/
lemma restOf_of_system {m : Dict} (h : isSystem m = true) (before after : List Dict) :
    restOf (before ++ m :: after) = restOf (before ++ after) := by
  unfold restOf
  rw [List.filter_append, List.filter_append, List.filter_cons, h]
  rfl

/-- Any other message is. -/
lemma restOf_of_not_system {m : Dict} (h : isSystem m = false) (before after : List Dict) :
    restOf (before ++ m :: after) = restOf before ++ m :: restOf after := by
  unfold restOf
  rw [List.filter_append, List.filter_cons, h]
  rfl

/-- The longer the text of a system message, the longer the system text. -/
lemma systemOf_length_lt {m m' : Dict} (hm : isSystem m = true) (hm' : isSystem m' = true)
    (hlt : (systemText m).length < (systemText m').length) (before after : List Dict) :
    ∃ t t', systemOf (before ++ m :: after) = some t ∧ systemOf (before ++ m' :: after) = some t' ∧
      t.length < t'.length := by
  have hparts : ∀ {d : Dict}, isSystem d = true →
      ((before ++ d :: after).filter isSystem).map systemText =
        (before.filter isSystem).map systemText ++
          systemText d :: (after.filter isSystem).map systemText := by
    intro d hd
    rw [List.filter_append, List.filter_cons, if_pos hd, List.map_append, List.map_cons]
  unfold systemOf
  rw [hparts hm, hparts hm']
  cases (before.filter isSystem).map systemText with
  | nil =>
    refine ⟨_, _, rfl, rfl, ?_⟩
    rw [List.length_append, List.length_append]
    omega
  | cons part parts =>
    refine ⟨_, _, rfl, rfl, ?_⟩
    simp only [List.append_eq, List.flatMap_append, List.flatMap_cons, List.length_append]
    omega

/-- A text part is sent as its JSON text in a system message, which makes the system text longer. -/
lemma systemOf_withTextPart_ne {m : Dict} {s : Str} (hrole : isSystem m = true)
    (hm : m.get "content" = .str s) (before after : List Dict) :
    ∃ t t', systemOf (before ++ m :: after) = some t ∧
      systemOf (before ++ withTextPart m s :: after) = some t' ∧ t ≠ t' := by
  have hlt : (systemText m).length < (systemText (withTextPart m s)).length := by
    unfold systemText
    rw [hm, get_content_withTextPart]
    exact length_lt_dumps_textPart true s
  have hrole' : isSystem (withTextPart m s) = true := by rw [isSystem_withTextPart, hrole]
  obtain ⟨t, t', ht, ht', hlt⟩ := systemOf_length_lt hrole hrole' hlt before after
  refine ⟨t, t', ht, ht', ?_⟩
  rintro rfl
  exact lt_irrefl _ hlt

/-! ## The requests of the two bodies -/

/-- **One body and the other.** A body with a string in one of its messages and the body with the
text part in its place are refused alike, or become requests that differ in that message. -/
lemma toNormalized_cases (py : Runtime) (conv : Conversions) (defaultMaxTokens : ℤ) {body m : Dict}
    {pre post : List Json} {s : Str}
    (hbody : body.get "messages" = .arr (pre ++ .obj m :: post)) (hm : m.get "content" = .str s) :
    let body' := OrderedDict.insert body "messages" (.arr (pre ++ .obj (withTextPart m s) :: post))
    (∃ e, toNormalized py conv body defaultMaxTokens = .error e ∧
      toNormalized py conv body' defaultMaxTokens = .error e) ∨
    ∃ (request : NormalizedRequest) (before after : List Dict),
      request.messages = restOf (before ++ m :: after) ∧
      request.system = systemOf (before ++ m :: after) ∧
      toNormalized py conv body defaultMaxTokens = .ok request ∧
      toNormalized py conv body' defaultMaxTokens = .ok { request with
        messages := restOf (before ++ withTextPart m s :: after)
        system := systemOf (before ++ withTextPart m s :: after) } := by
  intro body'
  have hbody' : Dict.get body' "messages" = .arr (pre ++ .obj (withTextPart m s) :: post) := by
    rw [Dict.get_insert, if_pos rfl]
  have hmessages := bodyMessages_arr hbody
  have hmessages' := bodyMessages_arr hbody'
  rcases mapM_asMessage_split pre post with ⟨e, he⟩ | ⟨before, after, hsplit⟩
  · refine .inl ⟨e, ?_, ?_⟩
    · rw [toNormalized, hmessages, he, error_bind]
    · rw [toNormalized, hmessages', he, error_bind]
  · have hkeys : ∀ k : Str, k ≠ "messages" → OrderedDict.get? body' k = body.get? k := by
      intro k hk
      show OrderedDict.get? (OrderedDict.insert body "messages" _) k = body.get? k
      rw [OrderedDict.get?_insert, if_neg hk.symm]
    have hcongr : toNormalized py conv body' defaultMaxTokens = _ :=
      toNormalized_congr hkeys (hmessages.trans (hsplit m)) (hmessages'.trans (hsplit _))
        (validate_withTextPart hm before after)
    rw [hcongr]
    cases hrequest : toNormalized py conv body defaultMaxTokens with
    | error e => exact .inl ⟨e, rfl, rfl⟩
    | ok request =>
      have hself : toNormalized py conv body defaultMaxTokens = _ :=
        toNormalized_congr (fun _ _ => rfl) (hmessages.trans (hsplit m))
          (hmessages.trans (hsplit m)) fun _ => rfl
      rw [hrequest] at hself
      have heq := Except.ok.inj hself
      exact .inr ⟨request, before, after, congrArg NormalizedRequest.messages heq,
        congrArg NormalizedRequest.system heq, rfl, rfl⟩

/-- **From the body to the adapter.** What an adapter makes of the two bodies is related exactly
under the condition `c`, if that is so for requests that differ in their system texts, where the
message is a system message, and for requests that differ in the message, where it is none. -/
lemma sent_iff {κ : Type} {R : κ → κ → Prop} {c : Prop} (kwargs : NormalizedRequest → Except Exc κ)
    (py : Runtime) (conv : Conversions) (defaultMaxTokens : ℤ) {body m : Dict}
    {pre post : List Json} {s : Str}
    (hbody : body.get "messages" = .arr (pre ++ .obj m :: post)) (hm : m.get "content" = .str s)
    (hsystem : isSystem m = true → ∀ (request : NormalizedRequest) (t t' : Str), t ≠ t' →
      request.system = some t →
        OutcomeRel Eq (fun a b => R a b ↔ c) (kwargs request)
          (kwargs { request with system := some t' }))
    (hother : isSystem m = false → ∀ (request : NormalizedRequest) (before after : List Dict),
      request.messages = before ++ m :: after →
        OutcomeRel Eq (fun a b => R a b ↔ c) (kwargs request)
          (kwargs { request with messages := before ++ withTextPart m s :: after })) :
    let body' := OrderedDict.insert body "messages" (.arr (pre ++ .obj (withTextPart m s) :: post))
    OutcomeRel Eq R (toNormalized py conv body defaultMaxTokens >>= kwargs)
        (toNormalized py conv body' defaultMaxTokens >>= kwargs) ↔
      ((toNormalized py conv body defaultMaxTokens >>= kwargs).Returns → c) := by
  intro body'
  rcases toNormalized_cases py conv defaultMaxTokens hbody hm with
    ⟨e, he, he'⟩ | ⟨request, before, after, hmessages, htext, hrequest, hrequest'⟩
  · rw [he, he']
    exact iff_of_true (.error rfl) fun hreturns => absurd hreturns (not_returns_error e)
  rw [hrequest, hrequest', ok_bind, ok_bind]
  by_cases hsys : isSystem m = true
  · have hsys' : isSystem (withTextPart m s) = true := by rw [isSystem_withTextPart, hsys]
    have hrest : restOf (before ++ withTextPart m s :: after) = request.messages := by
      rw [hmessages, restOf_of_system hsys, restOf_of_system hsys']
    obtain ⟨t, t', ht, ht', hne⟩ := systemOf_withTextPart_ne hsys hm before after
    rw [hrest, ht']
    exact (hsystem hsys request t t' hne (htext.trans ht)).iff_of fun _ _ h => h
  · rw [Bool.not_eq_true] at hsys
    have hsys' : isSystem (withTextPart m s) = false := by rw [isSystem_withTextPart, hsys]
    have hsystem' : systemOf (before ++ withTextPart m s :: after) = request.system := by
      rw [htext, systemOf_of_not_system hsys, systemOf_of_not_system hsys']
    rw [restOf_of_not_system hsys] at hmessages
    rw [restOf_of_not_system hsys', hsystem']
    exact (hother hsys request _ _ hmessages).iff_of fun _ _ h => h

end AgentCtl
