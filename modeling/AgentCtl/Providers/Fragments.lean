import AgentCtl.Library.Accumulators
import AgentCtl.Providers.OpenAIProvider

set_option relaxedAutoImplicit false
set_option autoImplicit false

/-!
# Messages in fragments

An OpenAI backend sends a message as a whole, or as a stream of deltas: its text cut anywhere, and
every tool call as fragments that carry its position, so that those of several calls may be mixed.
The stream loop of the OpenAI adapter puts the message together again, whatever the cut.

## Main definitions

* `AgentCtl.Message` — a message of a backend.
* `AgentCtl.Fragments` — the chunks of a stream that are a message cut into deltas.
* `AgentCtl.reassemble` — the message that the stream loop makes of chunks.

## Main results

* `AgentCtl.reassemble_fragments` — a message is reassembled from any of its fragmentations.
-/

namespace AgentCtl

/-! ## Messages and their fragments -/

/-- A message of a backend. An empty finish reason stands for none. -/
structure Message where
  text : Str
  toolCalls : List StreamToolCall
  finishReason : Str
  inputTokens : ℤ
  outputTokens : ℤ

/-- A tool call of a response: a missing function has no name and no arguments. -/
def SdkToolCall.call (tc : SdkToolCall) : StreamToolCall :=
  ⟨tc.id, (tc.function.getD ([], [])).1, (tc.function.getD ([], [])).2⟩

/-- The message of a response. -/
def SdkChoice.message (choice : SdkChoice) (usage : Option SdkUsage) : Message where
  text := choice.content.getD []
  toolCalls := choice.toolCalls.map SdkToolCall.call
  finishReason := choice.finishReason.getD []
  inputTokens := (usage.map SdkUsage.promptTokens).getD 0
  outputTokens := (usage.map SdkUsage.completionTokens).getD 0

namespace SdkChunk

/-- The text of a chunk. -/
def content (c : SdkChunk) : Str := (c.choice.bind SdkDelta.content).getD []

/-- The finish reason of a chunk, empty for none. -/
def finish (c : SdkChunk) : Str := (c.choice.bind SdkDelta.finishReason).getD []

/-- The fragments of tool calls in a chunk. -/
def fragments (c : SdkChunk) : List SdkToolFragment := (c.choice.map SdkDelta.toolCalls).getD []

end SdkChunk

/-- The position of the tool call that a fragment belongs to. -/
def SdkToolFragment.position (f : SdkToolFragment) : ℤ := f.index.getD 0

/-- The fragments of a stream. -/
def fragmentsOf (chunks : List SdkChunk) : List SdkToolFragment :=
  chunks.flatMap SdkChunk.fragments

/-- The fragments of a stream that belong to one tool call. -/
def fragmentsAt (chunks : List SdkChunk) (i : ℤ) : List SdkToolFragment :=
  (fragmentsOf chunks).filter fun f => f.position = i

/-- The finish reasons of a stream. -/
def finishesOf (chunks : List SdkChunk) : List Str := (chunks.map SdkChunk.finish).filter (· ≠ [])

/-- The token counts of a stream. -/
def usagesOf (chunks : List SdkChunk) : List SdkUsage := chunks.filterMap SdkChunk.usage

/-- A string that comes as a whole: every fragment that has it has all of it. -/
structure Whole (s : Str) (pieces : List Str) : Prop where
  same : ∀ p ∈ pieces, p ≠ [] → p = s
  present : s ≠ [] → s ∈ pieces

/-- A tool call in fragments: its id and its name come as a whole, its arguments cut anywhere. -/
structure CallFragments (call : StreamToolCall) (fs : List SdkToolFragment) : Prop where
  nonempty : fs ≠ []
  id : Whole call.id (fs.map fun f => f.id.getD [])
  name : Whole call.name (fs.map fun f => f.name.getD [])
  arguments : fs.flatMap (fun f => f.arguments.getD []) = call.arguments

/-- A token count of a stream: the last report is the final count, and what is not counted in the
end has not been counted before. -/
structure FinalCount (n : ℤ) (reports : List ℤ) : Prop where
  last : reports.getLast?.getD 0 = n
  zero : n = 0 → ∀ r ∈ reports, r = 0

/-- The chunks are the message, cut into deltas. -/
structure Fragments (m : Message) (chunks : List SdkChunk) : Prop where
  text : chunks.flatMap SdkChunk.content = m.text
  finish : (finishesOf chunks).getLast?.getD [] = m.finishReason
  call : ∀ (i : ℕ) call, m.toolCalls[i]? = some call → CallFragments call (fragmentsAt chunks i)
  position : ∀ f ∈ fragmentsOf chunks, ∃ i < m.toolCalls.length, f.position = i
  inputTokens : FinalCount m.inputTokens ((usagesOf chunks).map SdkUsage.promptTokens)
  outputTokens : FinalCount m.outputTokens ((usagesOf chunks).map SdkUsage.completionTokens)

/-- The message that the stream loop makes of chunks. -/
def reassemble (chunks : List SdkChunk) : Message :=
  let r := openaiStreamLoop {} chunks
  { text := r.2.flatMap StreamChunk.text, toolCalls := r.1.toolCalls.getD [],
    finishReason := r.1.finishReason.getD [], inputTokens := r.1.inputTokens,
    outputTokens := r.1.outputTokens }

/-! ## One tool call -/

/-- A tool call after one more fragment. -/
def StreamToolCall.add (call : StreamToolCall) (f : SdkToolFragment) : StreamToolCall where
  id := if f.id.getD [] = [] then call.id else f.id.getD []
  name := if f.name.getD [] = [] then call.name else f.name.getD []
  arguments := call.arguments ++ f.arguments.getD []

/-- A string that comes as a whole, when later pieces replace earlier ones. -/
lemma Whole.foldl {s : Str} {pieces : List Str} (h : Whole s pieces) :
    pieces.foldl (fun old new => if new = [] then old else new) [] = s := by
  have hkeep : ∀ (ps : List Str) (old : Str), (∀ p ∈ ps, p ≠ [] → p = s) →
      (old = s ∨ s ∈ ps ∨ s = []) → (old = [] ∨ old = s) →
      ps.foldl (fun old new => if new = [] then old else new) old = s := by
    intro ps
    induction ps with
    | nil =>
      rintro old - (rfl | hmem | rfl) hold
      · rfl
      · cases hmem
      · simpa using hold
    | cons p ps ih =>
      intro old hsame hpresent hold
      have hrest : ∀ q ∈ ps, q ≠ [] → q = s := fun q hq => hsame q (List.mem_cons_of_mem _ hq)
      rw [List.foldl_cons]
      by_cases hp : p = []
      · rw [if_pos hp]
        refine ih old hrest ?_ hold
        rcases hpresent with h | h | h
        · exact Or.inl h
        · rcases List.mem_cons.mp h with rfl | h
          · exact Or.inr (Or.inr hp)
          · exact Or.inr (Or.inl h)
        · exact Or.inr (Or.inr h)
      · rw [if_neg hp]
        have hps : p = s := hsame p List.mem_cons_self hp
        exact ih p hrest (Or.inl hps) (Or.inr hps)
  by_cases hs : s = []
  · exact hkeep pieces [] h.same (Or.inr (Or.inr hs)) (Or.inl rfl)
  · exact hkeep pieces [] h.same (Or.inr (Or.inl (h.present hs))) (Or.inl rfl)

/-- The parts of a tool call are put together independently of one another. -/
lemma foldl_add (fs : List SdkToolFragment) (call : StreamToolCall) :
    fs.foldl StreamToolCall.add call =
      ⟨(fs.map fun f => f.id.getD []).foldl (fun old new => if new = [] then old else new) call.id,
        (fs.map fun f => f.name.getD []).foldl (fun old new => if new = [] then old else new)
          call.name,
        call.arguments ++ fs.flatMap fun f => f.arguments.getD []⟩ := by
  induction fs generalizing call with
  | nil => simp
  | cons f fs ih =>
    rw [List.foldl_cons, ih]
    simp [StreamToolCall.add]

/-- A tool call is what its fragments add up to. -/
lemma CallFragments.foldl {call : StreamToolCall} {fs : List SdkToolFragment}
    (h : CallFragments call fs) : fs.foldl StreamToolCall.add ⟨[], [], []⟩ = call := by
  rw [foldl_add, h.id.foldl, h.name.foldl, h.arguments]
  rfl

/-! ## All tool calls -/

/-- The collected tool calls after one more fragment. -/
def addTo (frags : OrderedDict ℤ StreamToolCall) (f : SdkToolFragment) :
    OrderedDict ℤ StreamToolCall :=
  frags.insert f.position ((frags.getD f.position ⟨[], [], []⟩).add f)

/-- A fragment changes the collected tool calls only. -/
lemma addFragment_eq (st : StreamState) (f : SdkToolFragment) :
    st.addFragment f = { st with toolFrags := addTo st.toolFrags f } := rfl

/-- Fragments change the collected tool calls only. -/
lemma foldl_addFragment (fs : List SdkToolFragment) (st : StreamState) :
    fs.foldl StreamState.addFragment st =
      { st with toolFrags := fs.foldl addTo st.toolFrags } := by
  induction fs generalizing st with
  | nil => rfl
  | cons f fs ih => rw [List.foldl_cons, ih, addFragment_eq, List.foldl_cons]

/-- A fragment is added to the call of its position. -/
lemma accumulates_addTo : OrderedDict.Accumulates addTo (fun f => some f.position)
    fun call f => some ((call.getD ⟨[], [], []⟩).add f) := by
  intro frags f i
  by_cases h : f.position = i
  · subst h
    simp [addTo, OrderedDict.getD]
  · simp [addTo, h]

/-- The tool call at a position is what the fragments of that position add up to. -/
lemma get?_foldl_addTo (fs : List SdkToolFragment) (frags : OrderedDict ℤ StreamToolCall) (i : ℤ) :
    (fs.foldl addTo frags).get? i =
      if fs.filter (fun f => f.position = i) = [] then frags.get? i
      else some ((fs.filter fun f => f.position = i).foldl StreamToolCall.add
        (frags.getD i ⟨[], [], []⟩)) := by
  have hsum : ∀ (gs : List SdkToolFragment) (call : Option StreamToolCall),
      gs.foldl (fun call f => some ((call.getD ⟨[], [], []⟩).add f)) call =
        if gs = [] then call else some (gs.foldl StreamToolCall.add (call.getD ⟨[], [], []⟩)) := by
    intro gs
    induction gs with
    | nil => exact fun _ => rfl
    | cons g gs ih =>
      intro call
      rw [List.foldl_cons, ih, if_neg (List.cons_ne_nil g gs)]
      by_cases hgs : gs = []
      · simp [hgs]
      · simp [hgs]
  rw [accumulates_addTo.get?_foldl, hsum]
  simp only [OrderedDict.eventsAt, Option.some.injEq]
  rfl

/-- No position is collected twice. -/
lemma nodup_foldl_addTo (fs : List SdkToolFragment) {frags : OrderedDict ℤ StreamToolCall}
    (h : frags.keys.Nodup) : (fs.foldl addTo frags).keys.Nodup := by
  induction fs generalizing frags with
  | nil => exact h
  | cons f fs ih => exact ih (OrderedDict.nodup_keys_insert h _ _)

/-- Inserting a call adds it. -/
lemma insertCall_perm (i : ℤ) (c : StreamToolCall) (ps : List (ℤ × StreamToolCall)) :
    (insertCall i c ps).Perm ((i, c) :: ps) := by
  induction ps with
  | nil => exact .refl _
  | cons p ps ih =>
    unfold insertCall
    split
    · exact .refl _
    · exact (List.Perm.cons p ih).trans (List.Perm.swap _ _ _)

/-- Inserting a call keeps the order of the positions. -/
lemma insertCall_sorted {i : ℤ} {c : StreamToolCall} {ps : List (ℤ × StreamToolCall)}
    (hi : i ∉ ps.map Prod.fst) (h : ps.Pairwise fun p q => p.1 < q.1) :
    (insertCall i c ps).Pairwise fun p q => p.1 < q.1 := by
  induction ps with
  | nil => exact List.pairwise_singleton _ _
  | cons p ps ih =>
    obtain ⟨hp, hps⟩ := List.pairwise_cons.mp h
    simp only [List.map_cons, List.mem_cons, not_or] at hi
    unfold insertCall
    split
    · next hlt =>
      refine List.pairwise_cons.mpr ⟨fun q hq => ?_, h⟩
      rcases List.mem_cons.mp hq with rfl | hq
      · exact hlt
      · exact hlt.trans (hp q hq)
    · next hlt =>
      refine List.pairwise_cons.mpr ⟨fun q hq => ?_, ih hi.2 hps⟩
      rcases List.mem_cons.mp ((insertCall_perm i c ps).subset hq) with rfl | hq
      · exact lt_of_le_of_ne (not_lt.mp hlt) (Ne.symm hi.1)
      · exact hp q hq

/-- The collected calls, sorted by position. -/
lemma sorted_calls {frags : OrderedDict ℤ StreamToolCall} (h : frags.keys.Nodup) :
    (frags.foldl (fun acc p => insertCall p.1 p.2 acc) []).Perm frags ∧
      (frags.foldl (fun acc p => insertCall p.1 p.2 acc) []).Pairwise fun p q => p.1 < q.1 := by
  have hfold : ∀ (ps acc : List (ℤ × StreamToolCall)), ((ps ++ acc).map Prod.fst).Nodup →
      (acc.Pairwise fun p q => p.1 < q.1) →
      (ps.foldl (fun acc p => insertCall p.1 p.2 acc) acc).Perm (ps ++ acc) ∧
        (ps.foldl (fun acc p => insertCall p.1 p.2 acc) acc).Pairwise fun p q => p.1 < q.1 := by
    intro ps
    induction ps with
    | nil => exact fun acc _ hacc => ⟨.refl _, hacc⟩
    | cons p ps ih =>
      intro acc hnodup hacc
      have hperm : (ps ++ insertCall p.1 p.2 acc).Perm (p :: (ps ++ acc)) :=
        ((insertCall_perm p.1 p.2 acc).append_left ps).trans List.perm_middle
      have hp : p.1 ∉ acc.map Prod.fst := by
        have hnot : p.1 ∉ (ps ++ acc).map Prod.fst := (List.nodup_cons.mp hnodup).1
        rw [List.map_append, List.mem_append, not_or] at hnot
        exact hnot.2
      obtain ⟨h₁, h₂⟩ := ih (insertCall p.1 p.2 acc)
        ((hperm.map Prod.fst).nodup_iff.mpr hnodup) (insertCall_sorted hp hacc)
      exact ⟨h₁.trans hperm, h₂⟩
  have hnil : ((frags ++ []).map Prod.fst).Nodup := by
    rw [List.append_nil]
    exact h
  simpa using hfold frags [] hnil List.Pairwise.nil

/-! ## The stream loop -/

/-- The chunks that the loop yields for one chunk of the SDK: its text, then its token counts. -/
def yielded (c : SdkChunk) : List StreamChunk :=
  (if c.content = [] then [] else [{ text := c.content }]) ++
    match c.usage with
    | none => []
    | some u => [{ inputTokens := u.promptTokens, outputTokens := u.completionTokens }]

/-- One round of the loop, part by part. -/
lemma openaiStreamStep_eq (st : StreamState) (c : SdkChunk) :
    openaiStreamStep st c =
      ({ finishReason := if c.finish = [] then st.finishReason else some c.finish,
         inputTokens := (c.usage.map SdkUsage.promptTokens).getD st.inputTokens,
         outputTokens := (c.usage.map SdkUsage.completionTokens).getD st.outputTokens,
         toolFrags := c.fragments.foldl addTo st.toolFrags }, yielded c) := by
  obtain ⟨choice, usage⟩ := c
  cases choice with
  | none => cases usage <;> rfl
  | some d =>
    obtain ⟨content, toolCalls, finishReason⟩ := d
    have hfr : (if finishReason.getD [] = [] then st.finishReason else finishReason) =
        if finishReason.getD [] = [] then st.finishReason else some (finishReason.getD []) := by
      cases finishReason <;> simp
    unfold openaiStreamStep
    simp only [foldl_addFragment, hfr]
    by_cases hf : finishReason.getD [] = [] <;> by_cases hc : content.getD [] = [] <;>
      cases usage <;>
        simp [yielded, SdkChunk.content, SdkChunk.finish, SdkChunk.fragments, hf, hc]

/-- The finish reason of the loop is the last one that is not empty. -/
lemma loop_finishReason (cs : List SdkChunk) (st : StreamState) :
    (openaiStreamLoop st cs).1.finishReason = (finishesOf cs).getLast?.or st.finishReason := by
  induction cs generalizing st with
  | nil => rfl
  | cons c cs ih =>
    rw [openaiStreamLoop]
    simp only [ih, openaiStreamStep_eq]
    by_cases h : c.finish = []
    · simp [finishesOf, h]
    · rw [if_neg h]
      have hcons : finishesOf (c :: cs) = c.finish :: finishesOf cs := by simp [finishesOf, h]
      rw [hcons, List.getLast?_cons]
      cases (finishesOf cs).getLast? <;> rfl

/-- The token counts of the loop are the last ones reported. -/
lemma loop_tokens (cs : List SdkChunk) (st : StreamState) :
    (openaiStreamLoop st cs).1.inputTokens =
        ((usagesOf cs).map SdkUsage.promptTokens).getLast?.getD st.inputTokens ∧
      (openaiStreamLoop st cs).1.outputTokens =
        ((usagesOf cs).map SdkUsage.completionTokens).getLast?.getD st.outputTokens := by
  induction cs generalizing st with
  | nil => exact ⟨rfl, rfl⟩
  | cons c cs ih =>
    rw [openaiStreamLoop]
    simp only [ih, openaiStreamStep_eq]
    cases hu : c.usage with
    | none => simp [usagesOf, hu]
    | some u =>
      have hcons : usagesOf (c :: cs) = u :: usagesOf cs := by simp [usagesOf, hu]
      rw [hcons]
      simp only [List.map_cons, List.getLast?_cons, Option.getD_some, Option.map_some]
      exact ⟨trivial, trivial⟩

/-- The tool calls that the loop collects. -/
lemma loop_toolFrags (cs : List SdkChunk) (st : StreamState) :
    (openaiStreamLoop st cs).1.toolFrags = (fragmentsOf cs).foldl addTo st.toolFrags := by
  induction cs generalizing st with
  | nil => rfl
  | cons c cs ih =>
    rw [openaiStreamLoop]
    simp only [ih, openaiStreamStep_eq]
    rw [fragmentsOf, fragmentsOf, List.flatMap_cons, List.foldl_append]

/-- The chunks that the loop yields. -/
lemma loop_yielded (cs : List SdkChunk) (st : StreamState) :
    (openaiStreamLoop st cs).2 = cs.flatMap yielded := by
  induction cs generalizing st with
  | nil => rfl
  | cons c cs ih =>
    rw [openaiStreamLoop]
    simp only [ih, openaiStreamStep_eq]
    rw [List.flatMap_cons]

/-- The text that the loop yields. -/
lemma text_yielded (cs : List SdkChunk) :
    (cs.flatMap yielded).flatMap StreamChunk.text = cs.flatMap SdkChunk.content := by
  rw [List.flatMap_assoc]
  refine List.flatMap_congr fun c _ => ?_
  unfold yielded
  cases c.usage <;> by_cases h : c.content = [] <;> simp [h]

/-- The chunks that the loop yields for a chunk of the SDK are not the last one. -/
lemma done_yielded {cs : List SdkChunk} {c : StreamChunk} (h : c ∈ cs.flatMap yielded) :
    c.done = false := by
  obtain ⟨k, -, hk⟩ := List.mem_flatMap.mp h
  unfold yielded at hk
  rcases List.mem_append.mp hk with hk | hk
  · split at hk
    · cases hk
    · obtain rfl := List.mem_singleton.mp hk
      rfl
  · split at hk
    · cases hk
    · obtain rfl := List.mem_singleton.mp hk
      rfl

/-! ## Reassembly -/

section Reassembly

variable {m : Message} {chunks : List SdkChunk}

/-- The collected calls of a fragmented message, by position. -/
lemma Fragments.get?_calls (h : Fragments m chunks) (i : ℤ) :
    ((fragmentsOf chunks).foldl addTo []).get? i =
      if 0 ≤ i then m.toolCalls[i.toNat]? else none := by
  have hget := get?_foldl_addTo (fragmentsOf chunks) [] i
  rw [hget]
  by_cases hin : ∃ k : ℕ, k < m.toolCalls.length ∧ i = k
  · obtain ⟨k, hk, rfl⟩ := hin
    have hcall : m.toolCalls[k]? = some m.toolCalls[k] := List.getElem?_eq_getElem hk
    have hfrags := h.call k _ hcall
    have hsum : ((fragmentsOf chunks).filter fun f => f.position = (k : ℤ)).foldl
        StreamToolCall.add ⟨[], [], []⟩ = m.toolCalls[k] := hfrags.foldl
    rw [if_neg (c := List.filter _ _ = []) hfrags.nonempty, if_pos (Int.natCast_nonneg k),
      Int.toNat_natCast, hcall]
    exact congrArg some hsum
  · have hnil : (fragmentsOf chunks).filter (fun f => f.position = i) = [] := by
      refine List.filter_eq_nil_iff.mpr fun f hf => ?_
      obtain ⟨k, hk, hpos⟩ := h.position f hf
      have hne : f.position ≠ i := fun he => hin ⟨k, hk, by rw [← he, hpos]⟩
      simpa using hne
    rw [if_pos hnil]
    by_cases hi : 0 ≤ i
    · rw [if_pos hi, List.getElem?_eq_none]
      · rfl
      · by_contra hlt
        exact hin ⟨i.toNat, by omega, by omega⟩
    · rw [if_neg hi]
      rfl

/-- The calls of a message with their positions. -/
def positioned (calls : List StreamToolCall) : List (ℤ × StreamToolCall) :=
  calls.mapIdx fun i c => ((i : ℤ), c)

/-- A call stands at its position. -/
lemma mem_positioned {calls : List StreamToolCall} {i : ℤ} {c : StreamToolCall} :
    (i, c) ∈ positioned calls ↔ 0 ≤ i ∧ calls[i.toNat]? = some c := by
  unfold positioned
  rw [List.mem_mapIdx]
  constructor
  · rintro ⟨k, hk, he⟩
    obtain ⟨rfl, rfl⟩ := Prod.ext_iff.mp he
    exact ⟨Int.natCast_nonneg k, by simp⟩
  · rintro ⟨hi, hc⟩
    obtain ⟨hlt, hget⟩ := List.getElem?_eq_some_iff.mp hc
    exact ⟨i.toNat, hlt, by rw [hget, Int.toNat_of_nonneg hi]⟩

/-- The positions of the calls increase. -/
lemma positioned_sorted (calls : List StreamToolCall) :
    (positioned calls).Pairwise fun p q => p.1 < q.1 := by
  unfold positioned
  rw [List.pairwise_iff_getElem]
  intro i j hi hj hij
  simpa using hij

/-- No call stands at two positions. -/
lemma nodup_keys_positioned (calls : List StreamToolCall) :
    (OrderedDict.keys (positioned calls)).Nodup := by
  unfold OrderedDict.keys
  rw [List.Nodup, List.pairwise_map]
  exact (positioned_sorted calls).imp fun hlt => ne_of_lt hlt

/-- The loop collects the calls of a fragmented message in their order. -/
lemma Fragments.sorted_calls (h : Fragments m chunks) :
    ((fragmentsOf chunks).foldl addTo []).foldl (fun acc p => insertCall p.1 p.2 acc) [] =
      positioned m.toolCalls := by
  have hnodup : ((fragmentsOf chunks).foldl addTo []).keys.Nodup :=
    nodup_foldl_addTo _ List.nodup_nil
  obtain ⟨hperm, hsorted⟩ := AgentCtl.sorted_calls hnodup
  have hsame : ((fragmentsOf chunks).foldl addTo []).Perm (positioned m.toolCalls) := by
    refine OrderedDict.perm_of_get? hnodup (nodup_keys_positioned _) fun i => ?_
    refine Option.ext fun c => ?_
    have hmem : OrderedDict.get? (positioned m.toolCalls) i = some c ↔
        (i, c) ∈ positioned m.toolCalls :=
      ⟨OrderedDict.mem_of_get?, OrderedDict.get?_of_mem (nodup_keys_positioned _)⟩
    rw [h.get?_calls, hmem, mem_positioned]
    by_cases hi : 0 ≤ i <;> simp [hi]
  exact List.Perm.eq_of_pairwise (fun p q _ _ hlt hgt => absurd (hlt.trans hgt) (lt_irrefl _))
    hsorted (positioned_sorted _) (hperm.trans hsame)

/-- The calls without their positions. -/
lemma map_positioned (calls : List StreamToolCall) : (positioned calls).map Prod.snd = calls := by
  refine List.ext_getElem ?_ fun i hi hi' => ?_
  · simp [positioned]
  · simp [positioned]

/-- The tool calls of the last chunk of a fragmented message. -/
lemma Fragments.toolCalls (h : Fragments m chunks) :
    (openaiStreamLoop {} chunks).1.toolCalls =
      if m.toolCalls = [] then none else some m.toolCalls := by
  unfold StreamState.toolCalls
  rw [loop_toolFrags, h.sorted_calls, map_positioned]

/-- **Reassembly.** However a message is cut into deltas, the stream loop puts it together
again. -/
theorem reassemble_fragments (h : Fragments m chunks) : reassemble chunks = m := by
  obtain ⟨hin, hout⟩ := loop_tokens chunks {}
  have hfinish := loop_finishReason chunks {}
  have hcalls := h.toolCalls
  obtain ⟨text, toolCalls, finishReason, inputTokens, outputTokens⟩ := m
  unfold reassemble
  simp only [hin, hout, hfinish, hcalls, loop_yielded, text_yielded]
  congr 1
  · exact h.text
  · by_cases hnil : toolCalls = [] <;> simp [hnil]
  · rw [Option.or_none]
    exact h.finish
  · exact h.inputTokens.last
  · exact h.outputTokens.last

end Reassembly

end AgentCtl
