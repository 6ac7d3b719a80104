import AgentCtl.Providers.Fragments
import AgentCtl.Providers.AnthropicProvider

set_option relaxedAutoImplicit false
set_option autoImplicit false

/-!
# Both streams are put together again

An answer is a text and tool calls with distinct indices. A backend cuts the text and the arguments
of each call into pieces and mixes them. OpenAI's deltas carry the id and the name of a call in one
of its fragments; Anthropic's events begin a call with its id and name, and its arguments follow.
Either adapter yields the text and, in the last chunk, the calls in the order of their indices,
whatever the mixture. The last chunk has the last token counts reported, except that an Anthropic
backend's output count of zero counts as none.

## Main definitions

* `AgentCtl.OpenaiCut`, `AgentCtl.AnthropicCut` — a text and calls, cut and mixed.
* `AgentCtl.Reassembled` — a stream that delivers a text, calls and token counts.

## Main results

* `AgentCtl.openaiStreamScript_reassembled`, `AgentCtl.anthropicStreamScript_reassembled` — each
  adapter.
* `AgentCtl.streams_reassembled` — both adapters, and when the last count is the last one reported.
-/

namespace AgentCtl

/-! ## What a stream delivers -/

/-- A stream delivers a text, calls and token counts: chunks with the text, then one last chunk with
the counts and the calls in the order of their indices, or `null` for no calls. -/
structure Delivers (text : Str) (calls : OrderedDict ℤ StreamToolCall) (usage : ℤ × ℤ)
    (yielded : List StreamChunk) (last : StreamChunk) (ordered : List (ℤ × StreamToolCall)) :
    Prop where
  unfinished : ∀ c ∈ yielded, c.done = false
  text : yielded.flatMap StreamChunk.text = text
  done : last.done = true
  noText : last.text = []
  perm : ordered.Perm calls
  sorted : ordered.Pairwise fun p q => p.1 < q.1
  toolCalls : last.toolCalls = if calls = [] then none else some (ordered.map Prod.snd)
  usage : (last.inputTokens, last.outputTokens) = usage

/-- The stream ends normally after it has delivered a text, calls and token counts. -/
def Reassembled (text : Str) (calls : OrderedDict ℤ StreamToolCall) (usage : ℤ × ℤ)
    (script : StreamScript) : Prop :=
  ∃ yielded last ordered, script = ⟨(yielded ++ [last]).map some, none⟩ ∧
    Delivers text calls usage yielded last ordered

/-- The last report, and zero where there is none. -/
def lastReport (reports : List ℤ) : ℤ := reports.getLast?.getD 0

/-- The calls of the last chunk are those collected, in the order of their indices. -/
lemma StreamState.toolCalls_ordered {st : StreamState} {calls : OrderedDict ℤ StreamToolCall}
    (hst : st.toolFrags.keys.Nodup) (hcalls : calls.keys.Nodup)
    (h : ∀ i, st.toolFrags.get? i = calls.get? i) :
    ∃ ordered : List (ℤ × StreamToolCall), ordered.Perm calls ∧
      (ordered.Pairwise fun p q => p.1 < q.1) ∧
      st.toolCalls = if calls = [] then none else some (ordered.map Prod.snd) := by
  obtain ⟨hperm, hsorted⟩ := sorted_calls hst
  have hsame := hperm.trans (OrderedDict.perm_of_get? hst hcalls h)
  refine ⟨_, hsame, hsorted, ?_⟩
  unfold StreamState.toolCalls
  have hnil : (List.map Prod.snd
      (st.toolFrags.foldl (fun acc p => insertCall p.1 p.2 acc) []) = []) ↔ calls = [] := by
    rw [List.map_eq_nil_iff]
    exact ⟨fun h => (h ▸ hsame).nil_eq.symm, fun h => (h ▸ hsame).eq_nil⟩
  by_cases hc : calls = []
  · rw [if_pos hc]
    exact if_pos (hnil.mpr hc)
  · rw [if_neg hc]
    exact if_neg fun h => hc (hnil.mp h)

/-! ## OpenAI -/

/-- The chunks are the text and the calls, cut and mixed: the pieces of the text in order, and for
each call its fragments with the id and the name whole and the pieces of the arguments in order. -/
structure OpenaiCut (text : Str) (calls : OrderedDict ℤ StreamToolCall) (chunks : List SdkChunk) :
    Prop where
  text : chunks.flatMap SdkChunk.content = text
  call : ∀ i call, calls.get? i = some call → CallFragments call (fragmentsAt chunks i)
  index : ∀ f ∈ fragmentsOf chunks, calls.has f.position = true

/-- The last token counts that an OpenAI backend reports. -/
def openaiUsage (chunks : List SdkChunk) : ℤ × ℤ :=
  (lastReport ((usagesOf chunks).map SdkUsage.promptTokens),
    lastReport ((usagesOf chunks).map SdkUsage.completionTokens))

/-- The calls collected from chunks that are cut from them. -/
lemma OpenaiCut.get?_calls {text : Str} {calls : OrderedDict ℤ StreamToolCall}
    {chunks : List SdkChunk} (h : OpenaiCut text calls chunks) (i : ℤ) :
    ((fragmentsOf chunks).foldl addTo []).get? i = calls.get? i := by
  rw [get?_foldl_addTo]
  change (if fragmentsAt chunks i = [] then none
    else some ((fragmentsAt chunks i).foldl StreamToolCall.add ⟨[], [], []⟩)) = calls.get? i
  cases hi : calls.get? i with
  | some call =>
    have hcall := h.call i call hi
    rw [if_neg hcall.nonempty, hcall.foldl]
  | none =>
    refine if_pos (List.filter_eq_nil_iff.mpr fun f hf hpos => ?_)
    have hhas := h.index f hf
    rw [of_decide_eq_true hpos, OrderedDict.has, hi] at hhas
    cases hhas

/-- **OpenAI's stream** is put together again, with the last token counts reported. -/
theorem openaiStreamScript_reassembled {text : Str} {calls : OrderedDict ℤ StreamToolCall}
    {chunks : List SdkChunk} (hcalls : calls.keys.Nodup) (h : OpenaiCut text calls chunks) :
    Reassembled text calls (openaiUsage chunks) (openaiStreamScript ⟨chunks, none⟩) := by
  have hfrags := loop_toolFrags chunks {}
  obtain ⟨hin, hout⟩ := loop_tokens chunks {}
  have hyielded := loop_yielded chunks {}
  have hnodup : (openaiStreamLoop {} chunks).1.toolFrags.keys.Nodup := by
    rw [hfrags]
    exact nodup_foldl_addTo _ List.nodup_nil
  obtain ⟨ordered, hperm, hsorted, htool⟩ := StreamState.toolCalls_ordered hnodup hcalls fun i => by
    rw [hfrags]
    exact h.get?_calls i
  refine ⟨(openaiStreamLoop {} chunks).2, (openaiStreamLoop {} chunks).1.doneChunk, ordered, ?_, ?_⟩
  · simp [openaiStreamScript]
  · exact {
      unfinished := fun c hc => done_yielded (hyielded ▸ hc)
      text := by rw [hyielded, text_yielded, h.text]
      done := rfl
      noText := rfl
      perm := hperm
      sorted := hsorted
      toolCalls := htool
      usage := Prod.ext hin hout }

/-! ## Anthropic -/

namespace SdkEvent

/-- The text of an event. -/
def text : SdkEvent → Str
  | .textDelta text => text.getD []
  | _ => []

/-- The index of the tool call that an event belongs to. -/
def callIndex : SdkEvent → Option ℤ
  | .toolUseStart index _ _ => some (index.getD 0)
  | .inputJsonDelta index _ => some (index.getD 0)
  | _ => none

/-- Does the event begin a tool call? -/
def isToolUseStart : SdkEvent → Bool
  | .toolUseStart _ _ _ => true
  | _ => false

/-- The piece of arguments in an event. -/
def partialJson : SdkEvent → Str
  | .inputJsonDelta _ piece => piece.getD []
  | _ => []

/-- The input count that an event reports. -/
def inputReport : SdkEvent → Option ℤ
  | .messageStart tokens => some (tokens.getD 0)
  | _ => none

/-- The output count that an event reports. -/
def outputReport : SdkEvent → Option ℤ
  | .messageDelta _ (some tokens) => some (tokens.getD 0)
  | _ => none

end SdkEvent

/-- A tool call in events: its start with the id and the name, then the pieces of its arguments. -/
def CallEvents (call : StreamToolCall) (es : List SdkEvent) : Prop :=
  ∃ index id name pieces, es = .toolUseStart index id name :: pieces ∧
    id.getD [] = call.id ∧ name.getD [] = call.name ∧
    (∀ e ∈ pieces, e.isToolUseStart = false) ∧ pieces.flatMap SdkEvent.partialJson = call.arguments

/-- The events of a stream that belong to one tool call. -/
def callEventsAt (events : List SdkEvent) (i : ℤ) : List SdkEvent :=
  OrderedDict.eventsAt SdkEvent.callIndex events i

/-- The events are the text and the calls, cut and mixed: the pieces of the text in order, and for
each call its start and then the pieces of its arguments in order. No other call is begun. -/
structure AnthropicCut (text : Str) (calls : OrderedDict ℤ StreamToolCall)
    (events : List SdkEvent) : Prop where
  text : events.flatMap SdkEvent.text = text
  call : ∀ i call, calls.get? i = some call → CallEvents call (callEventsAt events i)
  index : ∀ e ∈ events, e.isToolUseStart = true → ∀ i, e.callIndex = some i → calls.has i = true

/-- The last token counts that an Anthropic backend reports: the input count at the start of the
message, the output count with its changes. -/
def anthropicUsage (events : List SdkEvent) : ℤ × ℤ :=
  (lastReport (events.filterMap SdkEvent.inputReport),
    lastReport (events.filterMap SdkEvent.outputReport))

/-- The token counts that the adapter keeps: an output count of zero counts as none. -/
def anthropicKeptUsage (events : List SdkEvent) : ℤ × ℤ :=
  (lastReport (events.filterMap SdkEvent.inputReport),
    lastNonzero (events.filterMap SdkEvent.outputReport))

section Anthropic

/-- The collected tool calls after one more event. -/
def collect (frags : OrderedDict ℤ StreamToolCall) : SdkEvent → OrderedDict ℤ StreamToolCall
  | .toolUseStart index id name => frags.insert (index.getD 0) ⟨id.getD [], name.getD [], []⟩
  | .inputJsonDelta index piece =>
    match frags.get? (index.getD 0) with
    | none => frags
    | some frag =>
      frags.insert (index.getD 0) { frag with arguments := frag.arguments ++ piece.getD [] }
  | _ => frags

/-- A tool call after one more event of its index. -/
def startOrAppend (call : Option StreamToolCall) : SdkEvent → Option StreamToolCall
  | .toolUseStart _ id name => some ⟨id.getD [], name.getD [], []⟩
  | .inputJsonDelta _ piece =>
    call.map fun c => { c with arguments := c.arguments ++ piece.getD [] }
  | _ => call

/-- What one event does: to the collected calls, to the token counts, and what it yields. -/
lemma anthropicStreamStep_spec (st : StreamState) (e : SdkEvent) :
    (anthropicStreamStep st e).1.toolFrags = collect st.toolFrags e ∧
      (anthropicStreamStep st e).1.inputTokens = e.inputReport.getD st.inputTokens ∧
      (anthropicStreamStep st e).1.outputTokens =
        (e.outputReport.filter (· ≠ 0)).getD st.outputTokens ∧
      (anthropicStreamStep st e).2.flatMap StreamChunk.text = e.text ∧
      ∀ c ∈ (anthropicStreamStep st e).2, c.done = false := by
  cases e with
  | messageStart tokens =>
    refine ⟨rfl, rfl, rfl, ?_, ?_⟩ <;> by_cases h : tokens.getD 0 = 0 <;>
      simp [anthropicStreamStep, SdkEvent.text, h]
  | toolUseStart index id name => exact ⟨rfl, rfl, rfl, rfl, by simp [anthropicStreamStep]⟩
  | textDelta text =>
    refine ⟨rfl, rfl, rfl, ?_, ?_⟩ <;> by_cases h : text.getD [] = [] <;>
      simp [anthropicStreamStep, SdkEvent.text, h]
  | inputJsonDelta index piece =>
    simp only [anthropicStreamStep, collect]
    cases st.toolFrags.get? (index.getD 0) <;> exact ⟨rfl, rfl, rfl, rfl, by simp⟩
  | messageDelta stopReason usage =>
    unfold collect anthropicStreamStep
    by_cases hstop : stopReason.getD [] = []
    · cases usage with
      | none => simp [hstop, SdkEvent.inputReport, SdkEvent.outputReport, SdkEvent.text]
      | some tokens =>
        by_cases htokens : tokens.getD 0 = 0 <;>
          simp [hstop, htokens, SdkEvent.inputReport, SdkEvent.outputReport, SdkEvent.text,
            Option.filter]
    · cases usage with
      | none => simp [hstop, SdkEvent.inputReport, SdkEvent.outputReport, SdkEvent.text]
      | some tokens =>
        by_cases htokens : tokens.getD 0 = 0 <;>
          simp [hstop, htokens, SdkEvent.inputReport, SdkEvent.outputReport, SdkEvent.text,
            Option.filter]
  | other => exact ⟨rfl, rfl, rfl, rfl, by simp [anthropicStreamStep]⟩

/-- An event changes the call of its index. -/
lemma accumulates_collect :
    OrderedDict.Accumulates collect SdkEvent.callIndex startOrAppend := by
  intro frags e i
  cases e with
  | toolUseStart index id name => simp [collect, SdkEvent.callIndex, startOrAppend]
  | inputJsonDelta index piece =>
    simp only [collect, SdkEvent.callIndex, Option.some.injEq, startOrAppend]
    by_cases h : index.getD 0 = i
    · subst h
      cases hget : frags.get? (index.getD 0) <;> simp [hget]
    · cases frags.get? (index.getD 0) <;> simp [h]
  | _ => simp [collect, SdkEvent.callIndex]

/-- No index is collected twice. -/
lemma nodup_foldl_collect (events : List SdkEvent) {frags : OrderedDict ℤ StreamToolCall}
    (h : frags.keys.Nodup) : (events.foldl collect frags).keys.Nodup := by
  induction events generalizing frags with
  | nil => exact h
  | cons e es ih =>
    refine ih ?_
    unfold collect
    split
    · exact OrderedDict.nodup_keys_insert h _ _
    · split
      · exact h
      · exact OrderedDict.nodup_keys_insert h _ _
    · exact h

/-- The pieces of the arguments are appended. -/
lemma foldl_startOrAppend {pieces : List SdkEvent} (h : ∀ e ∈ pieces, e.isToolUseStart = false)
    (call : Option StreamToolCall) :
    pieces.foldl startOrAppend call = call.map fun c =>
      { c with arguments := c.arguments ++ pieces.flatMap SdkEvent.partialJson } := by
  induction pieces generalizing call with
  | nil => cases call <;> simp
  | cons e es ih =>
    obtain ⟨he, hes⟩ := List.forall_mem_cons.mp h
    rw [List.foldl_cons, ih hes]
    cases e with
    | toolUseStart index id name => cases he
    | _ => cases call <;> simp [startOrAppend, SdkEvent.partialJson]

/-- A call is what its events add up to. -/
lemma CallEvents.foldl {call : StreamToolCall} {es : List SdkEvent} (h : CallEvents call es)
    (before : Option StreamToolCall) : es.foldl startOrAppend before = some call := by
  obtain ⟨index, id, name, pieces, rfl, hid, hname, hpieces, harguments⟩ := h
  rw [List.foldl_cons, foldl_startOrAppend hpieces]
  simp [startOrAppend, hid, hname, harguments]

/-- The loop of the adapter: the calls it collects, the counts it keeps, and what it yields. -/
lemma anthropicStreamLoop_spec (events : List SdkEvent) (st : StreamState) :
    (anthropicStreamLoop st events).1.toolFrags = events.foldl collect st.toolFrags ∧
      (anthropicStreamLoop st events).1.inputTokens =
        (events.filterMap SdkEvent.inputReport).getLast?.getD st.inputTokens ∧
      (anthropicStreamLoop st events).1.outputTokens =
        ((events.filterMap SdkEvent.outputReport).filter (· ≠ 0)).getLast?.getD st.outputTokens ∧
      (anthropicStreamLoop st events).2.flatMap StreamChunk.text = events.flatMap SdkEvent.text ∧
      ∀ c ∈ (anthropicStreamLoop st events).2, c.done = false := by
  induction events generalizing st with
  | nil => exact ⟨rfl, rfl, rfl, rfl, by simp [anthropicStreamLoop]⟩
  | cons e es ih =>
    obtain ⟨hfrags, hin, hout, htext, hdone⟩ := anthropicStreamStep_spec st e
    obtain ⟨ihfrags, ihin, ihout, ihtext, ihdone⟩ := ih (anthropicStreamStep st e).1
    rw [anthropicStreamLoop]
    refine ⟨?_, ?_, ?_, ?_, ?_⟩
    · rw [ihfrags, hfrags, List.foldl_cons]
    · rw [ihin, hin]
      cases hr : e.inputReport with
      | none => simp [hr]
      | some n => simp [hr, List.getLast?_cons]
    · rw [ihout, hout]
      cases hr : e.outputReport with
      | none => simp [hr]
      | some n => by_cases hn : n = 0 <;> simp [hr, hn, List.getLast?_cons, Option.filter]
    · rw [List.flatMap_append, ihtext, htext, List.flatMap_cons]
    · intro c hc
      rcases List.mem_append.mp hc with hc | hc
      · exact hdone c hc
      · exact ihdone c hc

/-- The calls collected from events that are cut from them. -/
lemma AnthropicCut.get?_calls {text : Str} {calls : OrderedDict ℤ StreamToolCall}
    {events : List SdkEvent} (h : AnthropicCut text calls events) (i : ℤ) :
    (events.foldl collect []).get? i = calls.get? i := by
  rw [accumulates_collect.get?_foldl]
  cases hi : calls.get? i with
  | some call => exact (h.call i call hi).foldl _
  | none =>
    -- pieces of a call that was never begun are dropped
    refine (foldl_startOrAppend (fun e he => ?_) _).trans rfl
    obtain ⟨hmem, hindex⟩ := List.mem_filter.mp he
    by_contra hstart
    have hhas := h.index e hmem (by simpa using hstart) i (of_decide_eq_true hindex)
    rw [OrderedDict.has, hi] at hhas
    cases hhas

/-- **Anthropic's stream** is put together again, with the last token counts reported, where an
output count of zero counts as none. -/
theorem anthropicStreamScript_reassembled {text : Str} {calls : OrderedDict ℤ StreamToolCall}
    {events : List SdkEvent} (hcalls : calls.keys.Nodup) (h : AnthropicCut text calls events) :
    Reassembled text calls (anthropicKeptUsage events) (anthropicStreamScript ⟨events, none⟩) := by
  obtain ⟨hfrags, hin, hout, htext, hdone⟩ := anthropicStreamLoop_spec events {}
  have hnodup : (anthropicStreamLoop {} events).1.toolFrags.keys.Nodup := by
    rw [hfrags]
    exact nodup_foldl_collect events List.nodup_nil
  obtain ⟨ordered, hperm, hsorted, htool⟩ := StreamState.toolCalls_ordered hnodup hcalls fun i => by
    rw [hfrags]
    exact h.get?_calls i
  refine ⟨(anthropicStreamLoop {} events).2, (anthropicStreamLoop {} events).1.doneChunk, ordered,
    ?_, ?_⟩
  · simp [anthropicStreamScript]
  · exact {
      unfinished := hdone
      text := htext.trans h.text
      done := rfl
      noText := rfl
      perm := hperm
      sorted := hsorted
      toolCalls := htool
      usage := Prod.ext hin hout }

end Anthropic

/-! ## Both adapters -/

/-- Counts that are not negative and never decrease: cumulative ones. -/
def Cumulative (reports : List ℤ) : Prop := reports.Pairwise (· ≤ ·) ∧ ∀ n ∈ reports, 0 ≤ n

/-- Of cumulative counts, the last one that is not zero is the last one. -/
lemma Cumulative.lastNonzero_eq {reports : List ℤ} (h : Cumulative reports) :
    lastNonzero reports = lastReport reports := by
  obtain ⟨hle, hnonneg⟩ := h
  cases reports using List.reverseRecOn with
  | nil => rfl
  | append_singleton ns n =>
    rw [lastNonzero_concat, lastReport, List.getLast?_append]
    by_cases hn : n = 0
    · -- what is never more than zero has been zero all along
      have hzero : lastNonzero ns = 0 := by
        refine (lastNonzero_eq_zero_iff ns).mpr fun m hm => ?_
        have hmn : m ≤ n := (List.pairwise_append.mp hle).2.2 m hm n (List.mem_singleton_self n)
        have hm0 := hnonneg m (List.mem_append_left _ hm)
        omega
      simp [hn, hzero]
    · simp [hn]

/-- **Reassembly does not depend on fragmentation.** However a text and calls with distinct indices
are cut and mixed, both adapters deliver them. The token counts are the last ones reported; of an
Anthropic backend's output counts it is the last one that is not zero, which is the last one if the
counts are cumulative. -/
theorem streams_reassembled (text : Str) (calls : OrderedDict ℤ StreamToolCall)
    (hcalls : calls.keys.Nodup) :
    (∀ chunks, OpenaiCut text calls chunks →
      Reassembled text calls (openaiUsage chunks) (openaiStreamScript ⟨chunks, none⟩)) ∧
    ∀ events, AnthropicCut text calls events →
      Reassembled text calls (anthropicKeptUsage events) (anthropicStreamScript ⟨events, none⟩) ∧
      (Cumulative (events.filterMap SdkEvent.outputReport) →
        anthropicKeptUsage events = anthropicUsage events) := by
  refine ⟨fun chunks h => openaiStreamScript_reassembled hcalls h, fun events h => ?_⟩
  refine ⟨anthropicStreamScript_reassembled hcalls h, fun hcumulative => ?_⟩
  exact Prod.ext rfl hcumulative.lastNonzero_eq

/-- A reading and a writing call, the later index first. -/
def twoCalls : OrderedDict ℤ StreamToolCall :=
  [(3, ⟨"b", "write", "[2]"⟩), (1, ⟨"a", "read", "[1]"⟩)]

/-- A text and the two calls, cut and mixed by an OpenAI backend. -/
def mixedChunks : List SdkChunk :=
  [⟨some ⟨some "he", [⟨some 3, some "b", none, some "[2"⟩], none⟩, none⟩,
    ⟨some ⟨none, [⟨some 1, some "a", some "read", some "[1"⟩], none⟩, none⟩,
    ⟨some ⟨some "llo", [⟨some 3, none, some "write", some "]"⟩, ⟨some 1, none, none, some "]"⟩],
      some "tool_calls"⟩, none⟩,
    ⟨none, some ⟨12, 7⟩⟩]

/-- The same, mixed by an Anthropic backend. -/
def mixedEvents : List SdkEvent :=
  [.messageStart (some 12), .textDelta (some "he"),
    .toolUseStart (some 3) (some "b") (some "write"),
    .toolUseStart (some 1) (some "a") (some "read"), .inputJsonDelta (some 1) (some "[1"),
    .inputJsonDelta (some 3) (some "[2]"), .textDelta (some "llo"),
    .inputJsonDelta (some 1) (some "]"), .messageDelta (some "tool_use") (some (some 7))]

/-- The calls of the example. -/
lemma get?_twoCalls {i : ℤ} {call : StreamToolCall} (h : twoCalls.get? i = some call) :
    i = 3 ∧ call = ⟨"b", "write", "[2]"⟩ ∨ i = 1 ∧ call = ⟨"a", "read", "[1]"⟩ := by
  rcases List.mem_cons.mp (OrderedDict.mem_of_get? h) with h | h
  · exact .inl (Prod.ext_iff.mp h)
  · exact .inr (Prod.ext_iff.mp (List.mem_singleton.mp h))

/-- The chunks of the example are cut from it. -/
lemma openaiCut_mixedChunks : OpenaiCut "hello" twoCalls mixedChunks where
  text := by decide
  call i call h := by
    rcases get?_twoCalls h with ⟨rfl, rfl⟩ | ⟨rfl, rfl⟩ <;>
      exact ⟨by decide, ⟨by decide, by decide⟩, ⟨by decide, by decide⟩, by decide⟩
  index := by decide

/-- The events of the example are cut from it. -/
lemma anthropicCut_mixedEvents : AnthropicCut "hello" twoCalls mixedEvents where
  text := by decide
  call i call h := by
    rcases get?_twoCalls h with ⟨rfl, rfl⟩ | ⟨rfl, rfl⟩ <;>
      exact ⟨_, _, _, _, rfl, rfl, rfl, by decide, rfl⟩
  index := by
    have hcalls : ∀ e ∈ mixedEvents, e.isToolUseStart = true →
        (e.callIndex.map fun i => twoCalls.has i) = some true := by decide
    intro e he hstart i hi
    simpa [hi] using hcalls e he hstart

/-- Both streams of the example deliver it. -/
theorem streams_reassembled_twoCalls :
    Reassembled "hello" twoCalls (12, 7) (openaiStreamScript ⟨mixedChunks, none⟩) ∧
      Reassembled "hello" twoCalls (12, 7) (anthropicStreamScript ⟨mixedEvents, none⟩) := by
  obtain ⟨hopenai, hanthropic⟩ := streams_reassembled "hello" twoCalls (by decide)
  exact ⟨hopenai mixedChunks openaiCut_mixedChunks,
    (hanthropic mixedEvents anthropicCut_mixedEvents).1⟩

/-- An output count of five, then one of zero. -/
def countThenZero : List SdkEvent :=
  [.messageDelta none (some (some 5)), .messageDelta none (some (some 0))]

/-- A last report of zero is not the one that the last chunk has. -/
theorem countThenZero_kept :
    AnthropicCut "" [] countThenZero ∧
      ¬ Reassembled "" [] (anthropicUsage countThenZero)
        (anthropicStreamScript ⟨countThenZero, none⟩) := by
  refine ⟨⟨rfl, by simp, by simp [countThenZero, SdkEvent.isToolUseStart]⟩, ?_⟩
  rintro ⟨yielded, last, ordered, hscript, hdelivers⟩
  have hlast : (anthropicStreamScript ⟨countThenZero, none⟩).items.getLast? =
      some (some { done := true, outputTokens := 5 }) := rfl
  rw [hscript] at hlast
  obtain rfl : last = { done := true, outputTokens := 5 } := by simpa using hlast
  cases hdelivers.usage

end AgentCtl
