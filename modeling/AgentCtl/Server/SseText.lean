import AgentCtl.Python.JsonChars
import AgentCtl.Server.Clients

set_option relaxedAutoImplicit false
set_option autoImplicit false

/-!
# The text of server-sent events

`_sse_frames` writes each frame as `data: …` and a blank line. JSON text has no line breaks, so a
client that splits the text at blank lines finds the frames again, whatever is in the texts, the
model's name and the arguments of tool calls; and a stream that breaks off has lost nothing of what
was sent, and does not look as if it had ended.

## Main definitions

* `AgentCtl.sseText` — the text of frames.
* `AgentCtl.splitBlank` — `text.split("\n\n")`.
* `AgentCtl.decodeEvents` — the frames of a text.
* `AgentCtl.sseGenerated` — `_sse_frames` over chunks that end, or that an exception cuts off.

## Main results

* `AgentCtl.decodeEvents_sseText` — the frames are read back.
* `AgentCtl.sse_lossless` — what a client reads of a whole stream and of one that breaks off.
-/

namespace AgentCtl

/-! ## Text -/

/-- The text of frames. -/
def sseText (frames : List SseFrame) : Str := frames.flatMap SseFrame.text

/-- `text.split("\n\n")` -/
def splitBlank : Str → List Str
  | [] => [[]]
  | 10 :: 10 :: s => [] :: splitBlank s
  | c :: s =>
    match splitBlank s with
    | [] => [[c]]
    | block :: blocks => (c :: block) :: blocks

variable (py : Runtime)

/-- A block of the text: `[DONE]`, or a JSON object. -/
def decodeBlock (block : Str) : Except Exc SseFrame :=
  if Str.startsWith block "data: " then
    if block.drop 6 = ("[DONE]" : Str) then .ok .doneMark
    else
      match py.loads (block.drop 6) with
      | .ok (.obj payload) => .ok (.data payload)
      | .ok _ => .error (.value "payload is not an object")
      | .error e => .error e
  else .error (.value "block is not data")

/-- The frames of a text: its blocks, the empty ones skipped. -/
def decodeEvents (text : Str) : Except Exc (List SseFrame) :=
  ((splitBlank text).filter (· ≠ [])).mapM (decodeBlock py)

/-- The payloads of the frames can be read back. -/
def Loadable (frames : List SseFrame) : Prop :=
  ∀ payload, .data payload ∈ frames → py.LoadsDumps (.obj payload)

/-- The block of a frame. -/
def SseFrame.block : SseFrame → Str
  | .data payload => "data: " ++ (Json.obj payload).dumps false
  | .doneMark => "data: [DONE]"

/-- The text of a frame is its block and a blank line. -/
lemma SseFrame.text_eq (f : SseFrame) : f.text = f.block ++ [10, 10] := by
  cases f with
  | data payload =>
    show Str.ofString "data: " ++ ((Json.obj payload).dumps false ++ [10, 10]) = _
    rw [← List.append_assoc]
    rfl
  | doneMark => rfl

/-- **No line breaks.** A block has none, whatever its payload is. -/
lemma SseFrame.not_mem_block (f : SseFrame) : (10 : CodePoint) ∉ f.block := by
  intro h
  cases f with
  | data payload =>
    rcases List.mem_append.mp h with h | h
    · exact absurd h (by decide)
    · have hprintable := (Json.writtenFrom_dumps (.obj payload) 10 h).1
      exact absurd hprintable (by decide)
  | doneMark => exact absurd h (by decide)

/-- A block begins like data. -/
lemma SseFrame.block_ne_nil (f : SseFrame) : f.block ≠ [] := by
  cases f with
  | data payload => exact List.append_ne_nil_of_left_ne_nil (by decide) _
  | doneMark => decide

/-- Splitting finds a block without line breaks. -/
lemma splitBlank_append {block : Str} (h : (10 : CodePoint) ∉ block) (s : Str) :
    splitBlank (block ++ 10 :: 10 :: s) = block :: splitBlank s := by
  induction block with
  | nil => rfl
  | cons c block ih =>
    obtain ⟨hc, hblock⟩ := not_or.mp (mt List.mem_cons.mpr h)
    rw [List.cons_append, splitBlank, ih hblock]
    rintro s' rfl -
    exact hc rfl

/-- Splitting the text of frames gives their blocks, and nothing after the last blank line. -/
lemma splitBlank_sseText (frames : List SseFrame) :
    splitBlank (sseText frames) = frames.map SseFrame.block ++ [[]] := by
  induction frames with
  | nil => rfl
  | cons f frames ih =>
    have htext : sseText (f :: frames) = f.block ++ 10 :: 10 :: sseText frames := by
      rw [sseText, List.flatMap_cons, f.text_eq, List.append_assoc]
      rfl
    rw [htext, splitBlank_append f.not_mem_block, ih]
    rfl

/-- A block is read as its frame. -/
lemma decodeBlock_block {f : SseFrame}
    (h : ∀ payload, f = .data payload → py.LoadsDumps (.obj payload)) :
    decodeBlock py f.block = .ok f := by
  cases f with
  | doneMark => rfl
  | data payload =>
    have hstart : Str.startsWith (SseFrame.data payload).block "data: " = true :=
      Str.startsWith_iff.mpr ⟨_, rfl⟩
    have hdrop : (SseFrame.data payload).block.drop 6 = (Json.obj payload).dumps false := rfl
    -- an object does not begin like the mark of the end
    have hobject : (Json.obj payload).dumps false ≠ ("[DONE]" : Str) := by
      intro heq
      have hhead := congrArg List.head? heq
      have hbrace : (123 : CodePoint) = 91 := by
        cases payload with
        | nil => exact Option.some.inj hhead
        | cons p payload => exact Option.some.inj hhead
      exact absurd hbrace (by decide)
    have hloads := h payload rfl
    unfold Runtime.LoadsDumps at hloads
    unfold decodeBlock
    rw [if_pos hstart, hdrop, if_neg hobject, hloads]

/-- **The frames are read back.** -/
lemma decodeEvents_sseText {frames : List SseFrame} (h : Loadable py frames) :
    decodeEvents py (sseText frames) = .ok frames := by
  have hblocks : (frames.map SseFrame.block ++ [[]]).filter (· ≠ []) =
      frames.map SseFrame.block := by
    rw [List.filter_append, List.filter_eq_self.mpr]
    · simp
    · intro block hblock
      obtain ⟨f, -, rfl⟩ := List.mem_map.mp hblock
      simpa using f.block_ne_nil
  unfold decodeEvents
  rw [splitBlank_sseText, hblocks]
  clear hblocks
  induction frames with
  | nil => rfl
  | cons f frames ih =>
    have hframe : decodeBlock py f.block = .ok f :=
      decodeBlock_block py fun payload hf => h payload (hf ▸ List.mem_cons_self)
    have hrest := ih fun payload hp => h payload (List.mem_cons_of_mem _ hp)
    rw [List.map_cons, List.mapM_cons, hframe, hrest]
    rfl

/-! ## Whole streams and broken ones -/

/-- `_sse_frames` over a generator that gives these chunks and then ends, or raises: the frames it
sends, and what it raises itself. -/
def sseGenerated (chunks : List StreamChunk) (raised : Option Exc) (head : AnswerHead) :
    List SseFrame × Option Exc :=
  match raised with
  | none => (sseFrames chunks head, none)
  | some e =>
    (deltaFrame head [("role", .str "assistant")] :: chunks.flatMap (chunkFrames head), some e)

/-- What a client reads of the payloads of frames. -/
def readChunks (frames : List SseFrame) : List SdkChunk :=
  (frames.filterMap SseFrame.payload?).map readChunk

variable {py} {texts : List StreamChunk} {last : StreamChunk} {head : AnswerHead}

/-- The mark of the end comes last. -/
lemma getLast?_sseFrames (chunks : List StreamChunk) (head : AnswerHead) :
    (sseFrames chunks head).getLast? = some .doneMark := by
  unfold sseFrames
  dsimp only
  rw [List.getLast?_append, List.getLast?_cons, List.getLast?_append]
  rfl

/-- What is sent before an exception is sent of the whole stream as well. -/
lemma generated_prefix {pre : List StreamChunk} (hpre : pre <+: texts) (e : Exc)
    (last : StreamChunk) (head : AnswerHead) :
    (sseGenerated pre (some e) head).1 <+: sseFrames (texts ++ [last]) head := by
  obtain ⟨rest, rfl⟩ := hpre
  have hsplit : (pre ++ rest ++ [last]).flatMap (chunkFrames head) =
      pre.flatMap (chunkFrames head) ++ (rest ++ [last]).flatMap (chunkFrames head) := by
    rw [List.append_assoc, List.flatMap_append]
  unfold sseGenerated sseFrames
  dsimp only
  rw [hsplit]
  refine List.IsPrefix.trans ?_ (List.prefix_append _ _)
  exact List.prefix_append (_ :: pre.flatMap (chunkFrames head)) _

/-- What is sent of text chunks before an exception. -/
lemma readChunks_generated (htexts : ∀ c ∈ texts, c.isText = true) (e : Exc) (head : AnswerHead) :
    readChunks (sseGenerated texts (some e) head).1 =
      callsDelta [] :: (texts.map StreamChunk.text).map textDelta := by
  rw [← readChunks_texts texts htexts head, ← readChunk_role head]
  rfl

/-- The frames of text chunks are no marks of the end. -/
lemma doneMark_not_mem_generated (chunks : List StreamChunk) (e : Exc) (head : AnswerHead) :
    SseFrame.doneMark ∉ (sseGenerated chunks (some e) head).1 := by
  intro h
  rcases List.mem_cons.mp h with h | h
  · cases h
  · obtain ⟨c, -, hc⟩ := List.mem_flatMap.mp h
    unfold chunkFrames at hc
    split at hc
    · split at hc
      · cases List.mem_singleton.mp hc
      · cases hc
    · split at hc
      · cases List.mem_singleton.mp hc
      · cases hc

/-- **The encoding is lossless.** For text chunks and a last chunk: the text of the events is read
back as frames, the last of them `[DONE]`; their payloads give the texts in order, the tool calls in
order with their positions, the finish reason in the words of the API, and the token counts unless
they are zero. If the generator raises before the last chunk, what was sent is read back as a part
of those frames from the start, without a finish reason and without `[DONE]`. -/
theorem sse_lossless (htexts : ∀ c ∈ texts, c.isText = true) (hlast : last.done = true)
    (hloads : Loadable py (sseFrames (texts ++ [last]) head)) :
    ∃ frames, decodeEvents py (sseText (sseGenerated (texts ++ [last]) none head).1) = .ok frames ∧
      readChunks frames = callsDelta [] :: (texts.map StreamChunk.text).map textDelta ++
        ((if last.toolCalls.getD [] = [] then []
          else [callsDelta ((last.toolCalls.getD []).mapIdx wholeCall)]) ++
        finishDelta (finishReasonOr last.finishReason) ::
          if last.inputTokens ≠ 0 ∨ last.outputTokens ≠ 0 then
            [usageDelta last.inputTokens last.outputTokens]
          else []) ∧
      frames.getLast? = some .doneMark ∧
      ∀ pre e, pre <+: texts → ∃ sent,
        sseGenerated pre (some e) head = (sent, some e) ∧
        decodeEvents py (sseText sent) = .ok sent ∧ sent <+: frames ∧ .doneMark ∉ sent ∧
        ∀ c ∈ readChunks sent, ∀ d ∈ c.choice, d.finishReason = none := by
  refine ⟨_, decodeEvents_sseText py hloads, ?_, getLast?_sseFrames _ _, ?_⟩
  · exact readChunks_eq texts htexts last hlast head
  · intro pre e hpre
    have hgen := generated_prefix hpre e last head
    refine ⟨_, rfl, decodeEvents_sseText py ?_, hgen, doneMark_not_mem_generated pre e head, ?_⟩
    · exact fun payload hp => hloads payload (hgen.subset hp)
    · intro c hc d hd
      change c ∈ readChunks (sseGenerated pre (some e) head).1 at hc
      rw [readChunks_generated (fun c hc => htexts c (hpre.subset hc))] at hc
      rcases List.mem_cons.mp hc with rfl | hc
      · cases hd
        rfl
      · obtain ⟨text, -, rfl⟩ := List.mem_map.mp hc
        cases hd
        rfl

/-- A run time that can read the payloads of these frames. -/
def readsFrames (frames : List SseFrame) : Runtime :=
  { Runtime.plain with
    loads := fun s =>
      match (frames.filterMap SseFrame.payload?).find? fun d => (Json.obj d).dumps false = s with
      | some d => .ok (.obj d)
      | none => Runtime.plain.loads s }

/-- It reads each of them, as the text determines the payload. -/
lemma loadable_readsFrames (frames : List SseFrame) : Loadable (readsFrames frames) frames := by
  intro payload hp
  have hmem : payload ∈ frames.filterMap SseFrame.payload? :=
    List.mem_filterMap.mpr ⟨_, hp, rfl⟩
  unfold Runtime.LoadsDumps readsFrames
  dsimp only
  cases hfind : (frames.filterMap SseFrame.payload?).find? fun d =>
      (Json.obj d).dumps false = (Json.obj payload).dumps false with
  | none => exact absurd (List.find?_eq_none.mp hfind payload hmem) (by simp)
  | some d =>
    have htext := List.find?_some hfind
    rw [decide_eq_true_eq] at htext
    obtain rfl : d = payload := Json.obj.inj (Json.dumps_injective htext)
    rfl

/-- A text with a blank line in it, and quotation marks. -/
def blankLineChunk : StreamChunk := { text := "first\n\n\"second\"" }

/-- A last chunk with a tool call and token counts. -/
def toolChunk : StreamChunk :=
  { done := true, finishReason := some "tool_use", inputTokens := 5, outputTokens := 2,
    toolCalls := some [⟨"t1", "look", "\x7b\x7d"⟩] }

/-- What the two have in common. -/
def sampleHead : AnswerHead := ⟨"chatcmpl-0", .int 0, "openai/m"⟩

/-- What a client reads of them. -/
theorem sse_lossless_toolChunk : ∃ py frames,
    decodeEvents py (sseText (sseFrames [blankLineChunk, toolChunk] sampleHead)) = .ok frames ∧
      readChunks frames = [callsDelta [], textDelta blankLineChunk.text,
        callsDelta [wholeCall 0 ⟨"t1", "look", "\x7b\x7d"⟩], finishDelta "tool_calls",
        usageDelta 5 2] ∧
      frames.getLast? = some .doneMark := by
  obtain ⟨frames, hframes, hread, hend, -⟩ := @sse_lossless _ [blankLineChunk] toolChunk sampleHead
    (by decide) rfl (loadable_readsFrames _)
  exact ⟨_, frames, hframes, hread, hend⟩

end AgentCtl
