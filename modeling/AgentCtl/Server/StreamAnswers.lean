import AgentCtl.Core.Scripted
import AgentCtl.Library.ExceptList
import AgentCtl.Server.Clients

set_option relaxedAutoImplicit false
set_option autoImplicit false

/-!
# The two forms of an answer

The one object and the server-sent events carry the same text, finish reason, token counts and tool
calls. The one object parses the arguments of every call and writes them anew; where they are no
JSON, it has `{}` in their place, while the events have the arguments as the backend sent them.

## Main definitions

* `AgentCtl.AnswersAgree` — the two answers are the same.
* `AgentCtl.JsonReader` — what is known about `json.loads`.

## Main results

* `AgentCtl.answers_agree_iff` — the answers agree when all arguments are JSON.
-/

namespace AgentCtl

/-! ## Agreement -/

/-- Arguments of a tool call that say the same: equal JSON values, or equal strings where they are
no JSON. -/
def ArgumentsAgree (py : Runtime) (s t : Str) : Prop :=
  match py.loads s with
  | .ok v => ∃ w, py.loads t = .ok w ∧ Json.Same v w
  | .error _ => t = s

/-- Tool calls that say the same. -/
structure CallsAgree (py : Runtime) (c d : StreamToolCall) : Prop where
  id : d.id = c.id
  name : d.name = c.name
  arguments : ArgumentsAgree py c.arguments d.arguments

/-- Messages that say the same. -/
structure MessagesAgree (py : Runtime) (m n : Message) : Prop where
  text : n.text = m.text
  finishReason : n.finishReason = m.finishReason
  inputTokens : n.inputTokens = m.inputTokens
  outputTokens : n.outputTokens = m.outputTokens
  toolCalls : List.Forall₂ (CallsAgree py) m.toolCalls n.toolCalls

/-- There is an answer in one object to what the provider returned, and its client reads what the
client of the events for the chunks delivered reads. -/
def AnswersAgree (py : Runtime) (returned : Except Exc NormalizedResponse)
    (delivered : List StreamChunk) (head : AnswerHead) : Prop :=
  ∃ resp body, returned = .ok resp ∧ toOpenaiResponse resp head = .ok body ∧
    MessagesAgree py (readFrames (sseFrames delivered head)) (readCompletion body)

/-- What is known about `json.loads`: it reads back the text of every value it has returned and
that of `{}`, and refuses the empty string. -/
structure JsonReader (py : Runtime) : Prop where
  loads_dumps : ∀ s v, py.loads s = .ok v → py.LoadsDumps v
  loads_object : py.LoadsDumps (.obj [])
  loads_empty : ¬ (py.loads []).Returns

/-- Are the arguments of the tool call JSON? -/
def SdkToolCall.ArgumentsAreJson (py : Runtime) (tc : SdkToolCall) : Prop :=
  (py.loads tc.call.arguments).Returns

/-! ## The answer in one object -/

/-- The client reads a tool call of the answer. -/
lemma readCall_toolUse (id name : Str) (input : Json) :
    readCall (toolUseToCall [("type", .str "tool_use"), ("id", .str id), ("name", .str name),
      ("input", input)]) = ⟨id, name, input.dumps false⟩ := by
  simp +decide [readCall, readFragment, toolUseToCall, Json.field, Json.string?]

/-- What a client reads from an answer in one object. -/
lemma readCompletion_eq {resp : NormalizedResponse} {head : AnswerHead} {calls : List Json}
    (h : rawToolUsesToOpenai resp = .ok calls) :
    ∃ body, toOpenaiResponse resp head = .ok body ∧ readCompletion body =
      { text := resp.text, toolCalls := calls.map readCall,
        finishReason := finishReasonOr resp.finishReason, inputTokens := resp.inputTokens,
        outputTokens := resp.outputTokens } := by
  refine ⟨_, by rw [toOpenaiResponse, h]; rfl, ?_⟩
  have hmessage : (Json.field (.obj (answerMessage resp.text calls)) "content").string?.getD [] =
        resp.text ∧
      (Json.field (.obj (answerMessage resp.text calls)) "tool_calls").list = calls := by
    cases calls with
    | nil => simp +decide [answerMessage, withToolCalls, Json.field, Json.string?, Json.list]
    | cons c calls =>
      by_cases ht : resp.text = [] <;>
        simp +decide [answerMessage, withToolCalls, Json.field, Json.string?, Json.list,
          OrderedDict.insert, ht]
  have hchoices : ∀ choices usage : Json, Dict.get [("id", .str head.id),
      ("object", .str "chat.completion"), ("created", head.created), ("model", .str head.model),
      ("choices", choices), ("usage", usage)] "choices" = choices := by
    intro choices usage
    simp +decide
  have husage : ∀ choices usage : Json, Dict.get [("id", .str head.id),
      ("object", .str "chat.completion"), ("created", head.created), ("model", .str head.model),
      ("choices", choices), ("usage", usage)] "usage" = usage := by
    intro choices usage
    simp +decide
  have hfield : ∀ message finish : Json,
      Json.field (.obj [("index", .int 0), ("message", message), ("finish_reason", finish)])
          "message" = message ∧
        Json.field (.obj [("index", .int 0), ("message", message), ("finish_reason", finish)])
          "finish_reason" = finish := by
    intro message finish
    simp +decide
  unfold readCompletion
  simp only [hchoices, husage, Json.list_arr, List.head?_cons, Option.getD_some,
    (hfield _ _).1, (hfield _ _).2, readUsage_usageOf, Option.map_some, Json.string?_str,
    hmessage.1,
    hmessage.2]

section Completion

variable {py : Runtime} {choice : SdkChoice} {more : List SdkChoice} {usage : Option SdkUsage}

/-- The blocks of `raw` that are tool calls are those of the message. -/
lemma rawToolUse_blocks (text : Str) (calls : List Json) :
    (textBlocks text ++ calls).filterMap rawToolUse? = calls.filterMap rawToolUse? := by
  unfold textBlocks
  split
  · rfl
  · rw [List.filterMap_append]
    have hnone : rawToolUse? (.obj [("type", .str "text"), ("text", .str text)]) = none := by
      simp +decide [rawToolUse?]
    rw [List.filterMap_cons_none hnone]
    rfl

/-- The `tool_use` block of a call, once its arguments are read. -/
def toolUseOf (tc : SdkToolCall) (args : Json) : Json :=
  .obj [("type", .str "tool_use"), ("id", .str tc.call.id), ("name", .str tc.call.name),
    ("input", args)]

/-- A call of the response is translated when its arguments are read. -/
lemma sdkToolUse_eq (tc : SdkToolCall) :
    sdkToolUse py tc = toolUseOf tc <$> parseArguments py (.str tc.call.arguments) := by
  unfold sdkToolUse SdkToolCall.call
  dsimp only
  cases parseArguments py (.str (tc.function.getD ([], [])).2) <;> rfl

/-- What the client reads of a translated call. -/
def answeredCall (tc : SdkToolCall) (args : Json) : StreamToolCall :=
  ⟨tc.call.id, tc.call.name, args.dumps false⟩

/-- The blocks of calls whose arguments are read, and what the client makes of them. -/
lemma toolUses_of_arguments {tcs : List SdkToolCall} {vs : List Json}
    (h : List.Forall₂ (fun tc v => parseArguments py (.str tc.call.arguments) = .ok v) tcs vs) :
    tcs.mapM (sdkToolUse py) = .ok (List.zipWith toolUseOf tcs vs) ∧
      ((List.zipWith toolUseOf tcs vs).filterMap rawToolUse?).map readCall =
        List.zipWith answeredCall tcs vs := by
  induction h with
  | nil => exact ⟨rfl, rfl⟩
  | @cons tc v tcs vs hv _ ih =>
    constructor
    · rw [List.mapM_cons, sdkToolUse_eq, hv, ih.1]
      rfl
    · have hblock : rawToolUse? (toolUseOf tc v) = some (toolUseToCall
          [("type", .str "tool_use"), ("id", .str tc.call.id), ("name", .str tc.call.name),
            ("input", v)]) := by
        simp [rawToolUse?, toolUseOf]
      rw [List.zipWith_cons_cons, List.filterMap_cons_some hblock, List.map_cons, ih.2,
        readCall_toolUse]
      rfl

/-- The content of `raw` is never empty, and has the calls of the message. -/
lemma content_of_calls {calls : List Json} (h : choice.toolCalls.mapM (sdkToolUse py) = .ok calls) :
    ∃ content, openaiMessageToAnthropicContent py choice = .ok content ∧ content ≠ [] ∧
      content.filterMap rawToolUse? = calls.filterMap rawToolUse? := by
  have hblocks := rawToolUse_blocks (choice.content.getD []) calls
  set blocks := textBlocks (choice.content.getD []) ++ calls with hdef
  by_cases hnil : blocks = []
  · refine ⟨[.obj [("type", .str "text"), ("text", .str "")]], ?_, List.cons_ne_nil _ _, ?_⟩
    · rw [openaiMessageToAnthropicContent, h]
      simp only [Except.ok_bind, ← hdef, hnil, if_true]
      rfl
    · rw [← hblocks, hnil]
      simp +decide [rawToolUse?]
  · refine ⟨blocks, ?_, hnil, hblocks⟩
    rw [openaiMessageToAnthropicContent, h]
    simp only [Except.ok_bind, ← hdef, if_neg hnil]
    rfl

/-- The response of the adapter, once all calls are translated, and its tool calls. -/
lemma openaiResponse_of_calls {calls : List Json}
    (h : choice.toolCalls.mapM (sdkToolUse py) = .ok calls) :
    ∃ resp, openaiResponse py ⟨choice :: more, usage⟩ = .ok resp ∧
      resp.text = choice.content.getD [] ∧ resp.finishReason = choice.finishReason ∧
      resp.inputTokens = (usage.map SdkUsage.promptTokens).getD 0 ∧
      resp.outputTokens = (usage.map SdkUsage.completionTokens).getD 0 ∧
      rawToolUsesToOpenai resp = .ok (calls.filterMap rawToolUse?) := by
  obtain ⟨content, hcontent, hne, hcalls⟩ := content_of_calls h
  let raw : Dict := [("content", .arr content),
    ("stop_reason", optionStr (finishToStopReason choice.finishReason)),
    ("usage", .obj [("input_tokens", .int ((usage.map SdkUsage.promptTokens).getD 0)),
      ("output_tokens", .int ((usage.map SdkUsage.completionTokens).getD 0))])]
  refine ⟨{ text := choice.content.getD [], finishReason := choice.finishReason,
            toolCalls := choice.toolCalls.length,
            inputTokens := (usage.map SdkUsage.promptTokens).getD 0,
            outputTokens := (usage.map SdkUsage.completionTokens).getD 0, raw := some raw },
    ?_, rfl, rfl, rfl, rfl, ?_⟩
  · simp only [openaiResponse, openaiResponseToAnthropicRaw, hcontent]
    rfl
  · have htruthy : (Json.arr content).orElse (.arr []) = .arr content := by
      cases content with
      | nil => exact absurd rfl hne
      | cons b bs => rfl
    simp only [rawToolUsesToOpenai, Option.getD_some, raw, Dict.get_cons, if_true, htruthy]
    rw [← hcalls]
    rfl

variable (more usage) in
/-- The message that the client of the one object reads, once all arguments are read. -/
lemma readCompletion_openai {args : List Json} (head : AnswerHead)
    (hargs : List.Forall₂ (fun tc v => parseArguments py (.str tc.call.arguments) = .ok v)
      choice.toolCalls args) :
    ∃ resp body, openaiResponse py ⟨choice :: more, usage⟩ = .ok resp ∧
      toOpenaiResponse resp head = .ok body ∧ readCompletion body =
        { choice.message usage with
          toolCalls := List.zipWith answeredCall choice.toolCalls args,
          finishReason := finishReasonOr choice.finishReason } := by
  obtain ⟨hmap, hread⟩ := toolUses_of_arguments hargs
  obtain ⟨resp, hresp, htext, hfinish, hinput, houtput, hcalls⟩ :=
    openaiResponse_of_calls hmap
  obtain ⟨body, hbody, hcompletion⟩ := readCompletion_eq hcalls
  refine ⟨resp, body, hresp, hbody, ?_⟩
  rw [hcompletion, hread, htext, hfinish, hinput, houtput]
  rfl

end Completion

/-! ## Agreement of the two forms -/

section Agreement

variable {py : Runtime} (hpy : JsonReader py)

include hpy in
/-- The arguments of one call, read and written anew, say the same if and only if they are JSON. -/
lemma argumentsAgree_iff {s : Str} {v : Json} (h : parseArguments py (.str s) = .ok v) :
    ArgumentsAgree py s (v.dumps false) ↔ (py.loads s).Returns := by
  unfold parseArguments at h
  unfold ArgumentsAgree
  cases hl : py.loads s with
  | ok v' =>
    have hne : s ≠ [] := by
      rintro rfl
      exact hpy.loads_empty ⟨v', hl⟩
    have htruthy : (Json.str s).truthy = true := by simpa [Json.truthy] using hne
    simp only [htruthy, hl, Bool.not_true, Bool.false_eq_true, if_false] at h
    obtain rfl := Except.ok.inj h
    exact iff_of_true ⟨v', hpy.loads_dumps s v' hl, Json.Same.refl v'⟩ (Except.returns_ok v')
  | error e =>
    refine iff_of_false ?_ (Except.not_returns_error e)
    have hv : v = .obj [] := by
      by_cases htruthy : (Json.str s).truthy = true
      · simp only [htruthy, hl, Bool.not_true, Bool.false_eq_true, if_false] at h
        split at h
        · exact (Except.ok.inj h).symm
        · cases h
      · simp only [htruthy, Bool.not_false, if_true] at h
        exact (Except.ok.inj h).symm
    intro hs
    have hobject : py.loads s = .ok (.obj []) := by
      rw [← hs, hv]
      exact hpy.loads_object
    rw [hl] at hobject
    cases hobject

/-- Arguments that are JSON are read. -/
lemma returns_parseArguments_of_loads {s : Str} (h : (py.loads s).Returns) :
    (parseArguments py (.str s)).Returns := by
  obtain ⟨v, hv⟩ := h
  unfold parseArguments
  split
  · exact Except.returns_ok _
  · simp [hv]

include hpy in
/-- The calls of a message, read and written anew, say the same if and only if the arguments of all
of them are JSON. -/
lemma callsAgree_iff {tcs : List SdkToolCall} {vs : List Json}
    (h : List.Forall₂ (fun tc v => parseArguments py (.str tc.call.arguments) = .ok v) tcs vs) :
    List.Forall₂ (CallsAgree py) (tcs.map SdkToolCall.call) (List.zipWith answeredCall tcs vs) ↔
      ∀ tc ∈ tcs, tc.ArgumentsAreJson py := by
  induction h with
  | nil => simp
  | @cons tc v tcs vs hv _ ih =>
    rw [List.map_cons, List.zipWith_cons_cons, List.forall₂_cons, ih, List.forall_mem_cons]
    refine and_congr ?_ Iff.rfl
    constructor
    · exact fun hc => (argumentsAgree_iff hpy hv).mp hc.arguments
    · exact fun hj => ⟨rfl, rfl, (argumentsAgree_iff hpy hv).mpr hj⟩

/-- The arguments of calls, if all of them are read. -/
lemma exists_arguments {tcs : List SdkToolCall}
    (h : ∀ tc ∈ tcs, (parseArguments py (.str tc.call.arguments)).Returns) :
    ∃ vs, List.Forall₂ (fun tc v => parseArguments py (.str tc.call.arguments) = .ok v) tcs vs := by
  induction tcs with
  | nil => exact ⟨[], .nil⟩
  | cons tc tcs ih =>
    obtain ⟨v, hv⟩ := h tc List.mem_cons_self
    obtain ⟨vs, hvs⟩ := ih fun t ht => h t (List.mem_cons_of_mem _ ht)
    exact ⟨v :: vs, .cons hv hvs⟩

/-- A response that is returned has had its calls translated. -/
lemma arguments_of_openaiResponse {choice : SdkChoice} {more : List SdkChoice}
    {usage : Option SdkUsage} {resp : NormalizedResponse}
    (h : openaiResponse py ⟨choice :: more, usage⟩ = .ok resp) :
    ∃ vs, List.Forall₂ (fun tc v => parseArguments py (.str tc.call.arguments) = .ok v)
      choice.toolCalls vs := by
  cases hcalls : choice.toolCalls.mapM (sdkToolUse py) with
  | error e =>
    simp [openaiResponse, openaiResponseToAnthropicRaw, openaiMessageToAnthropicContent,
      hcalls] at h
  | ok calls =>
    refine exists_arguments fun tc htc => ?_
    have hreturns := (List.returns_mapM _ _).mp ⟨calls, hcalls⟩ tc htc
    rwa [sdkToolUse_eq, Except.returns_map] at hreturns

variable {σ : Type} {client : OpenAIClient σ} {choice : SdkChoice} {more : List SdkChoice}
  {usage : Option SdkUsage} {cs : List SdkChunk} {target : Target} {request : NormalizedRequest}

/-- What the runner delivers of a stream of the adapter that ends by itself. -/
lemma delivered_of_nativeTarget
    (hstream : ∀ kwargs s, (client.createStream kwargs s).1 = .ok ⟨cs, none⟩)
    (hsend : ∀ timeout, (chatKwargs py target request timeout).Returns)
    {fn : Target → NormalizedRequest → ℚ → σ → Except Exc StreamScript × σ}
    (hfn : (openAIProvider py client).stream = some fn) (G : Gateway σ) {started : ℚ}
    {deadline : Option ℚ} {idx : ℕ} {w w' : World σ} {es : List (Event σ)}
    (hw : w.patience = none)
    (hrun : (G.nativeTarget fn target request started deadline idx).run w = (.ok true, w', es))
    (hlate : es.any Event.isLate = false) : deliveredOf es = drained (adapterChunks cs) := by
  have hopen : ∀ timeout s, (fn target request timeout s).1 =
      .ok ⟨(adapterChunks cs).map some, none⟩ := by
    intro timeout s
    obtain ⟨kwargs, hk⟩ := hsend timeout
    obtain rfl := Option.some.inj hfn
    have hs := hstream kwargs s
    rw [← openaiStreamScript_eq]
    rcases hc : client.createStream kwargs s with ⟨r, s'⟩
    rw [hc] at hs
    obtain rfl : r = .ok ⟨cs, none⟩ := hs
    simp [hk, hc]
  have hsat := G.nativeTarget_drained request started target deadline hopen idx hw
  unfold Prog.Sat Prog.out Prog.final Prog.trace at hsat
  rw [hrun] at hsat
  rcases hsat with hfalse | hunless
  · cases hfalse
  · exact (hunless hlate).2.2

/-- What the adapter returns of a response. -/
lemma invoke_eq_openaiResponse
    (hcreate : ∀ kwargs s, (client.create kwargs s).1 = .ok ⟨choice :: more, usage⟩)
    (hsend : ∀ timeout, (chatKwargs py target request timeout).Returns) (timeout : ℚ) (s : σ) :
    ((openAIProvider py client).invoke target request timeout s).1 =
      openaiResponse py ⟨choice :: more, usage⟩ := by
  obtain ⟨kwargs, hk⟩ := hsend timeout
  have hs := hcreate kwargs s
  rcases hc : client.create kwargs s with ⟨r, s'⟩
  rw [hc] at hs
  obtain rfl : r = .ok ⟨choice :: more, usage⟩ := hs
  simp [openAIProvider, hk, hc]

include hpy in
/-- The two forms of a message, without the runs that bring it. -/
lemma adapterAnswers_agree_iff (hfrag : Fragments (choice.message usage) cs) (head : AnswerHead) :
    AnswersAgree py (openaiResponse py ⟨choice :: more, usage⟩) (drained (adapterChunks cs)) head ↔
      ∀ tc ∈ choice.toolCalls, tc.ArgumentsAreJson py := by
  have hframes := readFrames_fragments hfrag head
  have hfinish : finishReasonOr choice.finishReason =
      finishReasonOr (some (choice.message usage).finishReason) := finishReasonOr_congr rfl
  constructor
  · rintro ⟨resp, body, hresp, hbody, hagree⟩
    obtain ⟨vs, hvs⟩ := arguments_of_openaiResponse hresp
    obtain ⟨resp', body', hresp', hbody', hcompletion⟩ :=
      readCompletion_openai more usage head hvs
    obtain rfl := Except.ok.inj (hresp.symm.trans hresp')
    obtain rfl := Except.ok.inj (hbody.symm.trans hbody')
    have hcalls := hagree.toolCalls
    rw [hframes, hcompletion] at hcalls
    exact (callsAgree_iff hpy hvs).mp hcalls
  · intro hjson
    obtain ⟨vs, hvs⟩ := exists_arguments fun tc htc =>
      returns_parseArguments_of_loads (hjson tc htc)
    obtain ⟨resp, body, hresp, hbody, hcompletion⟩ :=
      readCompletion_openai more usage head hvs
    refine ⟨resp, body, hresp, hbody, ?_⟩
    rw [hframes, hcompletion]
    exact ⟨rfl, hfinish, rfl, rfl, (callsAgree_iff hpy hvs).mpr hjson⟩

include hpy in
/-- **Streaming and non-streaming answers.** Let an OpenAI backend give a message, as a whole and
cut into deltas in any way. The client of the events of a stream that is drained and not cut by
the deadline reads what the client of the one object reads, if and only if the arguments of every
tool call are JSON. -/
theorem answers_agree_iff
    (hcreate : ∀ kwargs s, (client.create kwargs s).1 = .ok ⟨choice :: more, usage⟩)
    (hstream : ∀ kwargs s, (client.createStream kwargs s).1 = .ok ⟨cs, none⟩)
    (hfrag : Fragments (choice.message usage) cs)
    (hsend : ∀ timeout, (chatKwargs py target request timeout).Returns)
    {fn : Target → NormalizedRequest → ℚ → σ → Except Exc StreamScript × σ}
    (hfn : (openAIProvider py client).stream = some fn) (G : Gateway σ) {started : ℚ}
    {deadline : Option ℚ} {idx : ℕ} {w w' : World σ} {es : List (Event σ)}
    (hw : w.patience = none)
    (hrun : (G.nativeTarget fn target request started deadline idx).run w = (.ok true, w', es))
    (hlate : es.any Event.isLate = false) (timeout : ℚ) (s : σ) (head : AnswerHead) :
    AnswersAgree py ((openAIProvider py client).invoke target request timeout s).1
        (deliveredOf es) head ↔
      ∀ tc ∈ choice.toolCalls, tc.ArgumentsAreJson py := by
  have hdelivered := delivered_of_nativeTarget hstream hsend hfn G hw hrun hlate
  have hinvoke := invoke_eq_openaiResponse hcreate hsend timeout s
  rw [hdelivered, hinvoke]
  exact adapterAnswers_agree_iff hpy hfrag head

end Agreement

/-! ## A call in two fragments -/

/-- A run time that reads the JSON text `{}` and no other. -/
def readsObject : Runtime :=
  { Runtime.plain with
    loads := fun s =>
      if s = (Json.obj []).dumps false then .ok (.obj []) else Runtime.plain.loads s }

/-- It reads back the text of the empty object. -/
lemma readsObject_loads : readsObject.LoadsDumps (.obj []) := by
  simp [Runtime.LoadsDumps, readsObject]

/-- It reads back what it reads. -/
lemma jsonReader_readsObject : JsonReader readsObject where
  loads_dumps s v h := by
    have hv : v = .obj [] := by
      unfold readsObject at h
      dsimp only at h
      split at h
      · exact (Except.ok.inj h).symm
      · cases h
    rw [hv]
    exact readsObject_loads
  loads_object := readsObject_loads
  loads_empty := by
    rintro ⟨v, hv⟩
    cases hv

/-- A message with one tool call. -/
def oneCall (arguments : Str) : SdkChoice :=
  ⟨none, [⟨"call_1", some ("get_weather", arguments)⟩], some "tool_calls"⟩

/-- The message with the arguments of its call cut in two. -/
def cutInTwo (a b : Str) : List SdkChunk :=
  [callsDelta [⟨some 0, some "call_1", some "get_weather", some a⟩],
    ⟨some ⟨none, [⟨some 0, none, none, some b⟩], some "tool_calls"⟩, none⟩]

/-- The two deltas are the message, cut into fragments. -/
lemma fragments_cutInTwo (a b : Str) :
    Fragments ((oneCall (a ++ b)).message none) (cutInTwo a b) where
  text := rfl
  finish := rfl
  call i call hcall := by
    obtain ⟨rfl, rfl⟩ : i = 0 ∧ call = ⟨"call_1", "get_weather", a ++ b⟩ := by
      cases i with
      | zero => exact ⟨rfl, (Option.some.inj hcall).symm⟩
      | succ i => cases hcall
    have hat : fragmentsAt (cutInTwo a b) ((0 : ℕ) : ℤ) = fragmentsOf (cutInTwo a b) := by
      simp [fragmentsAt, fragmentsOf, cutInTwo, callsDelta, SdkChunk.fragments,
        SdkToolFragment.position]
    rw [hat]
    refine ⟨?_, ⟨?_, ?_⟩, ⟨?_, ?_⟩, ?_⟩ <;>
      simp [fragmentsOf, cutInTwo, callsDelta, SdkChunk.fragments]
  position f hf := by
    have hf : f.position = 0 := by
      simp only [fragmentsOf, cutInTwo, callsDelta, SdkChunk.fragments, List.flatMap_cons,
        Option.map_some, Option.getD_some, List.flatMap_nil, List.append_nil, List.cons_append,
        List.nil_append, List.mem_cons, List.not_mem_nil, or_false] at hf
      rcases hf with rfl | rfl <;> rfl
    exact ⟨0, Nat.zero_lt_one, hf⟩
  inputTokens := ⟨rfl, fun _ r hr => by cases hr⟩
  outputTokens := ⟨rfl, fun _ r hr => by cases hr⟩

/-- A client whose backend gives this message. -/
def oneCallClient (a b : Str) : OpenAIClient Scripted where
  create _ s := (.ok ⟨[oneCall (a ++ b)], none⟩, s)
  createStream _ s := (.ok ⟨cutInTwo a b, none⟩, s)
  createEmbeddings _ _ _ s := (.error (.terminal "no embeddings"), s)

/-- The stream of the adapter around this client. -/
def oneCallStream (a b : Str) :
    Target → NormalizedRequest → ℚ → Scripted → Except Exc StreamScript × Scripted :=
  ((openAIProvider readsObject (oneCallClient a b)).stream).getD
    fun _ _ _ s => (.ok ⟨[], none⟩, s)

/-- The run of the stream through the runner. -/
def oneCallRun (a b : Str) : Except Exc Bool × World Scripted × List (Event Scripted) :=
  (scriptedGateway.nativeTarget (oneCallStream a b) ⟨"p", "a"⟩ plainRequest 0 none 0).run
    { outer := {} }

/-- The answers to the message agree if its arguments are JSON. -/
def OneCallAgrees (a b : Str) : Prop :=
  AnswersAgree readsObject
    ((openAIProvider readsObject (oneCallClient a b)).invoke ⟨"p", "a"⟩ plainRequest 60 {}).1
    (deliveredOf (oneCallRun a b).2.2) ⟨"chatcmpl-1", .int 0, "m"⟩

section OneCall

variable (a b : Str)

/-- What the client gives as a whole. -/
lemma oneCall_create (kwargs : ChatKwargs) (s : Scripted) :
    ((oneCallClient a b).create kwargs s).1 = .ok ⟨[oneCall (a ++ b)], none⟩ := rfl

/-- What the client gives as a stream. -/
lemma oneCall_createStream (kwargs : ChatKwargs) (s : Scripted) :
    ((oneCallClient a b).createStream kwargs s).1 = .ok ⟨cutInTwo a b, none⟩ := rfl

/-- The request is sent. -/
lemma oneCall_sent (timeout : ℚ) :
    (chatKwargs readsObject ⟨"p", "a"⟩ plainRequest timeout).Returns := ⟨_, rfl⟩

/-- The adapter streams. -/
lemma oneCall_stream :
    (openAIProvider readsObject (oneCallClient a b)).stream = some (oneCallStream a b) := rfl

/-- A run is known by its outcome. -/
lemma oneCallRun_eq (h : (oneCallRun a b).1.toOption = some true) :
    (scriptedGateway.nativeTarget (oneCallStream a b) ⟨"p", "a"⟩ plainRequest 0 none 0).run
      { outer := {} } = (.ok true, (oneCallRun a b).2.1, (oneCallRun a b).2.2) := by
  refine Prod.ext ?_ rfl
  change (oneCallRun a b).1 = .ok true
  cases hr : (oneCallRun a b).1 with
  | ok r =>
    rw [hr] at h
    exact congrArg Except.ok (Option.some.inj h)
  | error e =>
    rw [hr] at h
    cases h

end OneCall

/-- The theorem about the arguments `{}`. -/
theorem answers_agree_iff_emptyObject :
    OneCallAgrees "\x7b" "\x7d" ↔
      ∀ tc ∈ (oneCall (Str.ofString "\x7b" ++ Str.ofString "\x7d")).toolCalls,
        tc.ArgumentsAreJson readsObject :=
  answers_agree_iff jsonReader_readsObject (oneCall_create "\x7b" "\x7d")
    (oneCall_createStream "\x7b" "\x7d") (fragments_cutInTwo "\x7b" "\x7d") oneCall_sent
    (oneCall_stream "\x7b" "\x7d") scriptedGateway rfl
    (oneCallRun_eq "\x7b" "\x7d" (by decide +kernel)) (by decide +kernel) 60 {}
    ⟨"chatcmpl-1", .int 0, "m"⟩

/-- Arguments that were cut off: the events have them as the backend sent them, the one object has
`{}` in their place. -/
theorem truncatedCall_disagrees :
    Fragments ((oneCall (Str.ofString "\x7b" ++ Str.ofString "\"Par")).message none)
        (cutInTwo "\x7b" "\"Par") ∧
      (oneCallRun "\x7b" "\"Par").1.toOption = some true ∧
      ¬ OneCallAgrees "\x7b" "\"Par" := by
  have hended : (oneCallRun "\x7b" "\"Par").1.toOption = some true := by decide +kernel
  refine ⟨fragments_cutInTwo _ _, hended, ?_⟩
  unfold OneCallAgrees
  rw [delivered_of_nativeTarget (oneCall_createStream "\x7b" "\"Par") oneCall_sent
      (oneCall_stream "\x7b" "\"Par") scriptedGateway rfl (oneCallRun_eq _ _ hended)
      (by decide +kernel),
    invoke_eq_openaiResponse (oneCall_create "\x7b" "\"Par") oneCall_sent,
    adapterAnswers_agree_iff jsonReader_readsObject (fragments_cutInTwo "\x7b" "\"Par")]
  intro h
  obtain ⟨v, hv⟩ := h _ List.mem_cons_self
  cases hv

end AgentCtl
