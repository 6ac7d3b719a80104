import AgentCtl.Core.DrainedStreams
import AgentCtl.Providers.Fragments
import AgentCtl.Server.App

set_option relaxedAutoImplicit false
set_option autoImplicit false

/-!
# Clients of the HTTP server

A client gets the message of an OpenAI backend as one JSON object, or as server-sent events that it
puts together as the OpenAI adapter itself does. However the backend cuts the message into deltas,
the client of the events reads it back.

## Main definitions

* `AgentCtl.readCompletion`, `AgentCtl.readFrames` — the two answers as their clients read them.
* `AgentCtl.adapterChunks` — the chunks of the OpenAI adapter.

## Main results

* `AgentCtl.readFrames_fragments` — what the client of the events reads.
-/

namespace Json

/-- The member of an object, `null` where there is none. -/
def field (v : Json) (k : Str) : Json :=
  match v with
  | .obj d => Dict.get d k
  | _ => .null

/-- The items of an array, none of any other value. -/
def list : Json → List Json
  | .arr xs => xs
  | _ => []

/-- A string. -/
def string? : Json → Option Str
  | .str s => some s
  | _ => none

/-- A number. -/
def integer? : Json → Option ℤ
  | .int n => some n
  | _ => none

@[simp] lemma field_obj (d : Dict) (k : Str) : (obj d).field k = Dict.get d k := rfl

@[simp] lemma list_arr (xs : List Json) : (arr xs).list = xs := rfl

@[simp] lemma list_null : null.list = [] := rfl

@[simp] lemma string?_str (s : Str) : (str s).string? = some s := rfl

@[simp] lemma string?_null : null.string? = none := rfl

@[simp] lemma integer?_int (n : ℤ) : (int n).integer? = some n := rfl

end Json

namespace AgentCtl

/-! ## Clients -/

/-- A tool call, or a fragment of one, as a client reads it. -/
def readFragment (v : Json) : SdkToolFragment where
  index := (v.field "index").integer?
  id := (v.field "id").string?
  name := ((v.field "function").field "name").string?
  arguments := ((v.field "function").field "arguments").string?

/-- Token counts as a client reads them. -/
def readUsage (v : Json) : Option SdkUsage :=
  match v with
  | .obj _ => some ⟨(v.field "prompt_tokens").integer?.getD 0,
      (v.field "completion_tokens").integer?.getD 0⟩
  | _ => none

/-- A payload of an event as a client reads it. -/
def readChunk (payload : Dict) : SdkChunk where
  choice := (payload.get "choices").list.head?.map fun c =>
    { content := ((c.field "delta").field "content").string?,
      toolCalls := ((c.field "delta").field "tool_calls").list.map readFragment,
      finishReason := (c.field "finish_reason").string? }
  usage := readUsage (payload.get "usage")

/-- The payload of an event. -/
def SseFrame.payload? : SseFrame → Option Dict
  | .data payload => some payload
  | .doneMark => none

/-- The message that a client puts together from events. -/
def readFrames (frames : List SseFrame) : Message :=
  reassemble ((frames.filterMap SseFrame.payload?).map readChunk)

/-- The tool call of an answer as a client reads it. -/
def readCall (v : Json) : StreamToolCall :=
  let f := readFragment v
  ⟨f.id.getD [], f.name.getD [], f.arguments.getD []⟩

/-- The message that a client reads from an answer in one object. -/
def readCompletion (body : Dict) : Message :=
  let choice := ((body.get "choices").list.head?).getD .null
  let message := choice.field "message"
  let usage := readUsage (body.get "usage")
  { text := (message.field "content").string?.getD [],
    toolCalls := (message.field "tool_calls").list.map readCall,
    finishReason := (choice.field "finish_reason").string?.getD [],
    inputTokens := (usage.map SdkUsage.promptTokens).getD 0,
    outputTokens := (usage.map SdkUsage.completionTokens).getD 0 }

/-! ## The events of a message -/

/-- An empty finish reason counts as none. -/
lemma finishReasonOr_congr {a b : Option Str} (h : a.getD [] = b.getD []) :
    finishReasonOr a = finishReasonOr b := by
  have hsome : ∀ c : Option Str, finishReasonOr c = finishReasonOr (some (c.getD [])) := by
    intro c
    cases c <;> rfl
  rw [hsome a, hsome b, h]

/-- The token counts among the chunks that the loop yields are reports of the backend. -/
lemma counts_yielded {cs : List SdkChunk} {c : StreamChunk} (h : c ∈ cs.flatMap yielded) :
    (c.inputTokens = 0 ∨ c.inputTokens ∈ (usagesOf cs).map SdkUsage.promptTokens) ∧
      (c.outputTokens = 0 ∨ c.outputTokens ∈ (usagesOf cs).map SdkUsage.completionTokens) := by
  obtain ⟨k, hmem, hk⟩ := List.mem_flatMap.mp h
  unfold yielded at hk
  rcases List.mem_append.mp hk with hk | hk
  · split at hk
    · cases hk
    · obtain rfl := List.mem_singleton.mp hk
      exact ⟨Or.inl rfl, Or.inl rfl⟩
  · split at hk
    · cases hk
    · next u hu =>
      obtain rfl := List.mem_singleton.mp hk
      have husage : u ∈ usagesOf cs := List.mem_filterMap.mpr ⟨k, hmem, hu⟩
      exact ⟨Or.inr (List.mem_map_of_mem husage), Or.inr (List.mem_map_of_mem husage)⟩

/-- Chunks that count nothing leave the counts of the runner as they are. -/
lemma foldl_take_tokens (cs : List StreamChunk) (v : StreamVars) :
    ((∀ c ∈ cs, c.inputTokens = 0) →
        (cs.foldl StreamVars.take v).inputTokens = v.inputTokens) ∧
      ((∀ c ∈ cs, c.outputTokens = 0) →
        (cs.foldl StreamVars.take v).outputTokens = v.outputTokens) := by
  have htake : ∀ (v : StreamVars) (c : StreamChunk),
      (v.take c).inputTokens = (v.meter c).inputTokens ∧
        (v.take c).outputTokens = (v.meter c).outputTokens := by
    intro v c
    unfold StreamVars.take
    dsimp only
    split
    · exact ⟨rfl, rfl⟩
    · split <;> exact ⟨rfl, rfl⟩
  induction cs generalizing v with
  | nil => exact ⟨fun _ => rfl, fun _ => rfl⟩
  | cons c cs ih =>
    rw [List.foldl_cons]
    constructor
    · intro h
      rw [(ih _).1 fun c hc => h c (List.mem_cons_of_mem _ hc), (htake v c).1]
      simp [StreamVars.meter, h c List.mem_cons_self]
    · intro h
      rw [(ih _).2 fun c hc => h c (List.mem_cons_of_mem _ hc), (htake v c).2]
      simp [StreamVars.meter, h c List.mem_cons_self]

/-- The chunks of the OpenAI adapter for a stream of the SDK that ends by itself. -/
def adapterChunks (cs : List SdkChunk) : List StreamChunk :=
  cs.flatMap yielded ++ [(openaiStreamLoop {} cs).1.doneChunk]

/-- The adapter's iterator runs over these chunks. -/
lemma openaiStreamScript_eq (cs : List SdkChunk) :
    openaiStreamScript ⟨cs, none⟩ = ⟨(adapterChunks cs).map some, none⟩ := by
  simp [openaiStreamScript, adapterChunks, loop_yielded]

section Frames

variable {m : Message} {cs : List SdkChunk}

/-- The last chunk that the runner delivers of a fragmented message. -/
def lastChunk (m : Message) (finishReason : Option Str) : StreamChunk :=
  { done := true, finishReason := finishReason, inputTokens := m.inputTokens,
    outputTokens := m.outputTokens,
    toolCalls := if m.toolCalls = [] then none else some m.toolCalls }

/-- What the runner delivers of a fragmented message: its text in some pieces, and a last chunk with
all the rest. -/
lemma Fragments.drained (h : Fragments m cs) :
    ∃ texts finishReason, drained (adapterChunks cs) = texts ++ [lastChunk m finishReason] ∧
      (∀ c ∈ texts, c.isText = true) ∧ texts.flatMap StreamChunk.text = m.text ∧
      finishReason.getD [] = m.finishReason := by
  obtain ⟨hin, hout⟩ := loop_tokens cs {}
  have hfr := loop_finishReason cs {}
  set last := (openaiStreamLoop {} cs).1.doneChunk with hlast
  let texts := (cs.flatMap yielded).filter StreamChunk.isText
  refine ⟨texts, last.finishReason, ?_, ?_, ?_, ?_⟩
  · let v := (cs.flatMap yielded).foldl StreamVars.take {}
    have hdrained : AgentCtl.drained (adapterChunks cs) = texts ++
        [(v.take last).doneChunk (v.take last).finishReason (v.take last).toolCalls] := by
      unfold AgentCtl.drained adapterChunks
      rw [List.foldl_append, List.filter_append, ← hlast]
      have hnone : [last].filter StreamChunk.isText = [] := by
        simp [StreamChunk.isText, hlast, StreamState.doneChunk]
      rw [hnone, List.append_nil]
      rfl
    have hinput : (v.meter last).inputTokens = m.inputTokens := by
      have hl : last.inputTokens = m.inputTokens := hin.trans h.inputTokens.last
      by_cases hzero : m.inputTokens = 0
      · have hv : v.inputTokens = 0 := (foldl_take_tokens _ _).1 fun c hc => by
          rcases (counts_yielded hc).1 with h0 | hmem
          · exact h0
          · exact h.inputTokens.zero hzero _ hmem
        simp [StreamVars.meter, hl, hzero, hv]
      · simp [StreamVars.meter, hl, hzero]
    have houtput : (v.meter last).outputTokens = m.outputTokens := by
      have hl : last.outputTokens = m.outputTokens := hout.trans h.outputTokens.last
      by_cases hzero : m.outputTokens = 0
      · have hv : v.outputTokens = 0 := (foldl_take_tokens _ _).2 fun c hc => by
          rcases (counts_yielded hc).2 with h0 | hmem
          · exact h0
          · exact h.outputTokens.zero hzero _ hmem
        simp [StreamVars.meter, hl, hzero, hv]
      · simp [StreamVars.meter, hl, hzero]
    rw [hdrained]
    have htake : v.take last =
        { v.meter last with finishReason := last.finishReason, toolCalls := last.toolCalls } := by
      simp [StreamVars.take, hlast, StreamState.doneChunk]
    rw [htake]
    unfold StreamVars.doneChunk lastChunk
    rw [hinput, houtput]
    have hcalls : last.toolCalls = if m.toolCalls = [] then none else some m.toolCalls :=
      h.toolCalls
    rw [hcalls]
  · exact fun c hc => (List.mem_filter.mp hc).2
  · have htext : texts.flatMap StreamChunk.text =
        (cs.flatMap yielded).flatMap StreamChunk.text := by
      have hfilter : ∀ ks : List StreamChunk, (∀ c ∈ ks, c.done = false) →
          (ks.filter StreamChunk.isText).flatMap StreamChunk.text =
            ks.flatMap StreamChunk.text := by
        intro ks hks
        induction ks with
        | nil => rfl
        | cons c ks ih =>
          have hrest := ih fun d hd => hks d (List.mem_cons_of_mem _ hd)
          by_cases hc : c.text = []
          · simp [StreamChunk.isText, hc, hrest]
          · simp [StreamChunk.isText, hc, hks c List.mem_cons_self, hrest]
      exact hfilter _ fun c hc => done_yielded hc
    rw [htext, text_yielded, h.text]
  · have hlastfr : last.finishReason = (finishesOf cs).getLast? := by
      rw [hlast]
      exact hfr.trans Option.or_none
    rw [hlastfr, h.finish]

/-- A delta with text. -/
def textDelta (text : Str) : SdkChunk := ⟨some ⟨some text, [], none⟩, none⟩

/-- A delta with fragments of tool calls. -/
def callsDelta (fs : List SdkToolFragment) : SdkChunk := ⟨some ⟨none, fs, none⟩, none⟩

/-- A delta with a finish reason. -/
def finishDelta (finishReason : Str) : SdkChunk := ⟨some ⟨none, [], some finishReason⟩, none⟩

/-- A chunk with token counts. -/
def usageDelta (inputTokens outputTokens : ℤ) : SdkChunk :=
  ⟨none, some ⟨inputTokens, outputTokens⟩⟩

/-- A whole tool call as one fragment. -/
def wholeCall (i : ℕ) (c : StreamToolCall) : SdkToolFragment :=
  ⟨some i, some c.id, some c.name, some c.arguments⟩

/-- The chunks that a client reads from the events of a message. -/
def clientChunks (texts : List Str) (m : Message) (finishReason : Str) : List SdkChunk :=
  callsDelta [] :: texts.map textDelta ++
    ((if m.toolCalls = [] then [] else [callsDelta (m.toolCalls.mapIdx wholeCall)]) ++
      finishDelta finishReason ::
        if m.inputTokens ≠ 0 ∨ m.outputTokens ≠ 0 then [usageDelta m.inputTokens m.outputTokens]
        else [])

/-- The client reads the tool calls of a frame. -/
lemma readFragment_deltaCall (i : ℕ) (c : StreamToolCall) :
    readFragment (deltaCall i c) = wholeCall i c := by
  simp +decide [readFragment, deltaCall, wholeCall, Json.field, Json.integer?, Json.string?]

/-- The client reads all tool calls of a frame. -/
lemma readFragments_deltaCalls (calls : List StreamToolCall) :
    (calls.mapIdx deltaCall).map readFragment = calls.mapIdx wholeCall := by
  refine List.ext_getElem ?_ fun i hi hi' => ?_
  · simp
  · simp [readFragment_deltaCall]

/-- The client reads a frame of the tool calls. -/
lemma readChunk_calls (head : AnswerHead) (calls : List Json) :
    readChunk (chunkPayload head [.obj [("index", .int 0),
      ("delta", .obj [("tool_calls", .arr calls)]), ("finish_reason", .null)]]) =
        callsDelta (calls.map readFragment) := by
  simp +decide [readChunk, chunkPayload, callsDelta, Json.field, Json.list, Json.string?, readUsage]

/-- The client reads a frame of text. -/
lemma readChunk_text (head : AnswerHead) (text : Str) :
    readChunk (chunkPayload head [.obj [("index", .int 0),
      ("delta", .obj [("content", .str text)]), ("finish_reason", .null)]]) = textDelta text := by
  simp +decide [readChunk, chunkPayload, textDelta, Json.field, Json.list, Json.string?, readUsage]

/-- The client reads the frame of the role. -/
lemma readChunk_role (head : AnswerHead) :
    readChunk (chunkPayload head [.obj [("index", .int 0),
      ("delta", .obj [("role", .str "assistant")]), ("finish_reason", .null)]]) =
        callsDelta [] := by
  simp +decide [readChunk, chunkPayload, callsDelta, Json.field, Json.list, Json.string?, readUsage]

/-- The client reads the frame of the finish reason. -/
lemma readChunk_finish (head : AnswerHead) (finishReason : Str) :
    readChunk (chunkPayload head [.obj [("index", .int 0), ("delta", .obj []),
      ("finish_reason", .str finishReason)]]) = finishDelta finishReason := by
  simp +decide [readChunk, chunkPayload, finishDelta, Json.field, Json.list, Json.string?,
    readUsage]

/-- The client reads token counts. -/
lemma readUsage_usageOf (inputTokens outputTokens : ℤ) :
    readUsage (usageOf inputTokens outputTokens) = some ⟨inputTokens, outputTokens⟩ := by
  simp +decide [readUsage, usageOf, Json.field, Json.integer?]

/-- The client reads the frame of the token counts. -/
lemma readChunk_usage (head : AnswerHead) (inputTokens outputTokens : ℤ) :
    readChunk (OrderedDict.insert (chunkPayload head []) "usage"
      (usageOf inputTokens outputTokens)) = usageDelta inputTokens outputTokens := by
  simp +decide [readChunk, chunkPayload, usageDelta, OrderedDict.insert, Json.list,
    readUsage_usageOf]

/-- The client reads the frames of text chunks. -/
lemma readChunks_texts (texts : List StreamChunk) (htexts : ∀ c ∈ texts, c.isText = true)
    (head : AnswerHead) :
    ((texts.flatMap (chunkFrames head)).filterMap SseFrame.payload?).map readChunk =
      (texts.map StreamChunk.text).map textDelta := by
  induction texts with
  | nil => rfl
  | cons c texts ih =>
    have hc := htexts c List.mem_cons_self
    simp only [StreamChunk.isText, Bool.and_eq_true, Bool.not_eq_true',
      decide_eq_true_eq] at hc
    have hframe : chunkFrames head c = [deltaFrame head [("content", .str c.text)]] := by
      simp [chunkFrames, hc.1, hc.2]
    rw [List.flatMap_cons, hframe, List.filterMap_append, List.map_append,
      ih fun d hd => htexts d (List.mem_cons_of_mem _ hd)]
    exact congrArg₂ _ (readChunk_text head c.text) rfl

/-- What a last chunk says beside its finish reason. -/
def doneMessage (last : StreamChunk) : Message where
  text := []
  toolCalls := last.toolCalls.getD []
  finishReason := []
  inputTokens := last.inputTokens
  outputTokens := last.outputTokens

/-- What a client reads from the events of text chunks and a last chunk. -/
lemma readChunks_eq (texts : List StreamChunk) (htexts : ∀ c ∈ texts, c.isText = true)
    (last : StreamChunk) (hlast : last.done = true) (head : AnswerHead) :
    ((sseFrames (texts ++ [last]) head).filterMap SseFrame.payload?).map readChunk =
      clientChunks (texts.map StreamChunk.text) (doneMessage last)
        (finishReasonOr last.finishReason) := by
  have hdone : (texts ++ [last]).filter StreamChunk.done = [last] := by
    rw [List.filter_append]
    have hnone : texts.filter StreamChunk.done = [] := by
      refine List.filter_eq_nil_iff.mpr fun c hc => ?_
      have hc := htexts c hc
      simp only [StreamChunk.isText, Bool.and_eq_true, Bool.not_eq_true'] at hc
      simp [hc.1]
    rw [hnone]
    simp [hlast]
  have hclosing : closing (texts ++ [last]) =
      (finishReasonOr last.finishReason, last.inputTokens, last.outputTokens) := by
    rw [closing, hdone]
    rfl
  have hcalls : ((chunkFrames head last).filterMap SseFrame.payload?).map readChunk =
      if last.toolCalls.getD [] = [] then []
      else [callsDelta ((last.toolCalls.getD []).mapIdx wholeCall)] := by
    unfold chunkFrames
    rw [if_pos hlast]
    cases hcs : last.toolCalls with
    | none => rfl
    | some calls =>
      cases calls with
      | nil => rfl
      | cons c calls =>
        refine congrArg₂ _ ((readChunk_calls head _).trans (congrArg callsDelta ?_)) rfl
        exact readFragments_deltaCalls (c :: calls)
  have husage : ((usageFrame head last.inputTokens last.outputTokens).filterMap
      SseFrame.payload?).map readChunk =
        if last.inputTokens ≠ 0 ∨ last.outputTokens ≠ 0 then
          [usageDelta last.inputTokens last.outputTokens]
        else [] := by
    unfold usageFrame
    split
    · exact congrArg₂ _ (readChunk_usage head _ _) rfl
    · rfl
  unfold sseFrames clientChunks doneMessage
  rw [hclosing]
  simp only [List.flatMap_append, List.flatMap_cons, List.flatMap_nil, List.append_nil,
    List.filterMap_cons, List.filterMap_append, List.map_append, deltaFrame, SseFrame.payload?,
    List.map_cons, List.cons_append, List.filterMap_nil, readChunks_texts texts htexts, hcalls,
    husage, readChunk_role, readChunk_finish, List.append_assoc]

/-- The message that a client reads from the events of delivered chunks. -/
lemma readFrames_eq (texts : List StreamChunk) (htexts : ∀ c ∈ texts, c.isText = true)
    (m : Message) (finishReason : Option Str) (head : AnswerHead) :
    readFrames (sseFrames (texts ++ [lastChunk m finishReason]) head) =
      reassemble (clientChunks (texts.map StreamChunk.text) m (finishReasonOr finishReason)) := by
  have hcalls : (doneMessage (lastChunk m finishReason)).toolCalls = m.toolCalls := by
    unfold doneMessage lastChunk
    dsimp only
    split
    · next hnil => exact hnil.symm
    · rfl
  unfold readFrames
  rw [readChunks_eq texts htexts _ rfl]
  unfold clientChunks
  rw [hcalls]
  rfl

/-- The fragment at its position among whole calls. -/
lemma filter_wholeCalls (calls : List StreamToolCall) (k j : ℕ) (c : StreamToolCall)
    (h : calls[j]? = some c) :
    (calls.mapIdx fun i d => wholeCall (k + i) d).filter (fun f => f.position = ((k + j : ℕ) : ℤ)) =
      [wholeCall (k + j) c] := by
  have hposition : ∀ i d, (wholeCall i d).position = (i : ℤ) := fun i d => rfl
  induction calls generalizing k j with
  | nil => cases h
  | cons d calls ih =>
    have hshift : (d :: calls).mapIdx (fun i d => wholeCall (k + i) d) =
        wholeCall k d :: calls.mapIdx fun i d => wholeCall (k + 1 + i) d := by
      rw [List.mapIdx_cons]
      refine congrArg₂ _ rfl (congrArg₂ _ (funext fun i => funext fun d => ?_) rfl)
      rw [Nat.add_right_comm, Nat.add_assoc]
    rw [hshift]
    cases j with
    | zero =>
      obtain rfl : d = c := Option.some.inj h
      have hrest : (calls.mapIdx fun i d => wholeCall (k + 1 + i) d).filter
          (fun f => f.position = ((k + 0 : ℕ) : ℤ)) = [] := by
        refine List.filter_eq_nil_iff.mpr fun f hf => ?_
        obtain ⟨i, hi, rfl⟩ := List.mem_mapIdx.mp hf
        rw [hposition, decide_eq_true_eq]
        omega
      rw [List.filter_cons_of_pos (by simp [hposition]), hrest]
      rfl
    | succ j =>
      have hne : ¬ (decide ((wholeCall k d).position = ((k + (j + 1) : ℕ) : ℤ)) = true) := by
        rw [hposition, decide_eq_true_eq]
        omega
      rw [List.filter_cons, if_neg hne]
      have hrest := ih (k + 1) j h
      rwa [Nat.add_assoc, Nat.add_comm 1 j] at hrest

/-- What a client reads from the events of a message is the message in fragments. -/
lemma fragments_clientChunks (texts : List Str) (m : Message) (htext : texts.flatten = m.text)
    {finishReason : Str} (hfinish : finishReason ≠ []) :
    Fragments { m with finishReason := finishReason } (clientChunks texts m finishReason) := by
  have hfrags : fragmentsOf (clientChunks texts m finishReason) =
      m.toolCalls.mapIdx wholeCall := by
    have hnone : (texts.map textDelta).flatMap SdkChunk.fragments = [] := by
      rw [List.flatMap_eq_nil_iff]
      intro c hc
      obtain ⟨t, -, rfl⟩ := List.mem_map.mp hc
      rfl
    unfold fragmentsOf clientChunks
    rw [List.cons_append, List.flatMap_cons, List.flatMap_append, hnone, List.flatMap_append,
      List.flatMap_cons]
    have htail : (if m.inputTokens ≠ 0 ∨ m.outputTokens ≠ 0 then
        [usageDelta m.inputTokens m.outputTokens] else []).flatMap SdkChunk.fragments = [] := by
      split <;> rfl
    rw [htail]
    cases m.toolCalls with
    | nil => rfl
    | cons c calls => simp [callsDelta, finishDelta, SdkChunk.fragments]
  have husages : usagesOf (clientChunks texts m finishReason) =
      if m.inputTokens ≠ 0 ∨ m.outputTokens ≠ 0 then [⟨m.inputTokens, m.outputTokens⟩] else [] := by
    have hnone : (texts.map textDelta).filterMap SdkChunk.usage = [] := by
      rw [List.filterMap_eq_nil_iff]
      intro c hc
      obtain ⟨t, -, rfl⟩ := List.mem_map.mp hc
      rfl
    unfold usagesOf clientChunks
    rw [List.cons_append, List.filterMap_cons_none rfl, List.filterMap_append, hnone,
      List.filterMap_append, List.filterMap_cons_none rfl]
    have hcalls : (if m.toolCalls = [] then [] else
        [callsDelta (m.toolCalls.mapIdx wholeCall)]).filterMap SdkChunk.usage = [] := by
      split <;> rfl
    rw [hcalls]
    split <;> rfl
  refine ⟨?_, ?_, ?_, ?_, ?_, ?_⟩
  · have hcontent : (texts.map textDelta).flatMap SdkChunk.content = m.text := by
      rw [List.flatMap_map, ← htext]
      exact List.flatMap_id'
    unfold clientChunks
    rw [List.cons_append, List.flatMap_cons, List.flatMap_append, hcontent, List.flatMap_append,
      List.flatMap_cons]
    split <;> split <;> simp [callsDelta, finishDelta, usageDelta, SdkChunk.content]
  · have hnone : (texts.map textDelta).map SdkChunk.finish = texts.map fun _ => [] := by
      rw [List.map_map]
      rfl
    unfold finishesOf clientChunks
    rw [List.cons_append, List.map_cons, List.map_append, hnone, List.map_append, List.map_cons]
    split <;> split <;>
      simp [callsDelta, finishDelta, usageDelta, SdkChunk.finish, hfinish]
  · intro i call hcall
    rw [fragmentsAt, hfrags]
    have hone := filter_wholeCalls m.toolCalls 0 i call hcall
    simp only [Nat.zero_add] at hone
    rw [hone]
    refine ⟨List.cons_ne_nil _ _, ⟨?_, ?_⟩, ⟨?_, ?_⟩, ?_⟩ <;> simp [wholeCall]
  · intro f hf
    rw [hfrags] at hf
    obtain ⟨i, hi, rfl⟩ := List.mem_mapIdx.mp hf
    exact ⟨i, hi, rfl⟩
  · rw [husages]
    split
    · exact ⟨rfl, fun h0 r hr => (List.mem_singleton.mp hr).trans h0⟩
    · next h =>
      have h0 : m.inputTokens = 0 := by
        by_contra hne
        exact h (Or.inl hne)
      exact ⟨h0.symm, fun _ r hr => by cases hr⟩
  · rw [husages]
    split
    · exact ⟨rfl, fun h0 r hr => (List.mem_singleton.mp hr).trans h0⟩
    · next h =>
      have h0 : m.outputTokens = 0 := by
        by_contra hne
        exact h (Or.inr hne)
      exact ⟨h0.symm, fun _ r hr => by cases hr⟩

/-- A finish reason that is sent is not empty. -/
lemma finishReasonOr_ne_nil (finishReason : Option Str) : finishReasonOr finishReason ≠ [] := by
  unfold finishReasonOr
  split
  · simp
  · simp
  · assumption

/-- **The events of a message.** The client of the events reads the text, the tool calls and the
token counts of the backend's message, however it was cut into deltas. -/
lemma readFrames_fragments (h : Fragments m cs) (head : AnswerHead) :
    readFrames (sseFrames (drained (adapterChunks cs)) head) =
      { m with finishReason := finishReasonOr (some m.finishReason) } := by
  obtain ⟨texts, finishReason, hdrained, htexts, htext, hfinish⟩ := h.drained
  have hfr : finishReasonOr finishReason = finishReasonOr (some m.finishReason) :=
    finishReasonOr_congr hfinish
  rw [hdrained, readFrames_eq texts htexts, hfr]
  refine reassemble_fragments (fragments_clientChunks _ m ?_ (finishReasonOr_ne_nil _))
  rw [← htext]
  exact List.flatMap_def.symm

end Frames

end AgentCtl
