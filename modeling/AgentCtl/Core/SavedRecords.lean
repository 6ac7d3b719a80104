import AgentCtl.Core.ErrorText
import AgentCtl.Core.Scripted

set_option relaxedAutoImplicit false
set_option autoImplicit false

/-!
# Saved records of two runs

Two runs that differ in the texts of providers' exceptions, within one redacted image, save equal
records exactly if the texts raised before each save are equal: what a record takes from an
exception is redacted, except for the errors of its attempts, which quote it word for word.

## Main definitions

* `AgentCtl.keyGateway` — a gateway whose only provider refuses with a given text.

## Main results

* `AgentCtl.saves_eq_iff` — equal records of programs in lockstep.
* `AgentCtl.saved_records_eq_iff` — when two such runs of a call save equal records.
-/

namespace AgentCtl

variable {σ : Type} {py : Runtime}

/-! ## Equality of like records -/

namespace Attempt.Like

variable {a a' : Attempt}

/-- Like attempts quote a text on both sides, or on neither. -/
lemma length_quote (h : Attempt.Like py a a') :
    a.quote?.toList.length = a'.quote?.toList.length := by
  have houtcome : a'.outcome = a.outcome := by rw [h.same]
  have herror := congrArg Option.isSome h.error
  rw [Option.isSome_map, Option.isSome_map] at herror
  rw [Attempt.quote?, Attempt.quote?, houtcome]
  cases a.outcome.quotesProvider with
  | true => cases ha : a.error <;> cases ha' : a'.error <;> simp_all
  | false => rfl

/-- Like attempts are equal if they quote equal texts. -/
lemma eq_of_quote (h : Attempt.Like py a a') (hq : a.quote? = a'.quote?) : a = a' := by
  have houtcome : a'.outcome = a.outcome := by rw [h.same]
  have herror : a.error = a'.error := by
    rw [Attempt.quote?, Attempt.quote?, houtcome] at hq
    cases hown : a.outcome.quotesProvider with
    | true => simpa [hown] using hq
    | false => exact h.own hown
  rw [h.same, ← herror]

end Attempt.Like

/-- Lists of like attempts are equal exactly if they quote equal texts. -/
lemma AttemptsLike.eq_iff {as as' : List Attempt} (h : AttemptsLike py as as') :
    as = as' ↔ quotesOf as = quotesOf as' := by
  refine ⟨congrArg _, fun hq => ?_⟩
  induction h with
  | nil => rfl
  | @cons a a' as as' ha _ ih =>
    unfold quotesOf at hq
    rw [filterMap_cons_toList, filterMap_cons_toList] at hq
    obtain ⟨hhead, htail⟩ := List.append_inj hq ha.length_quote
    have hquote : a.quote? = a'.quote? := by simpa using congrArg List.head? hhead
    rw [ha.eq_of_quote hquote, ih htail]

namespace CallRecord.Like

/-- A record is like itself. -/
lemma refl (r : CallRecord) : CallRecord.Like py r r :=
  ⟨r.attempts, List.forall₂_same.mpr fun a _ => Attempt.Like.refl a, rfl⟩

/-- Like records are equal exactly if their attempts quote equal texts. -/
lemma eq_iff {r r' : CallRecord} (h : CallRecord.Like py r r') :
    r = r' ↔ quotesOf r.attempts = quotesOf r'.attempts := by
  obtain ⟨as', has, rfl⟩ := h
  rw [← has.eq_iff]
  refine ⟨congrArg CallRecord.attempts, fun h => ?_⟩
  rw [← h]

end CallRecord.Like

/-- Lists of like records are equal exactly if their attempts quote equal texts. -/
lemma records_eq_iff {rs rs' : List CallRecord} (h : List.Forall₂ (CallRecord.Like py) rs rs') :
    rs = rs' ↔
      rs.map (fun r => quotesOf r.attempts) = rs'.map (fun r => quotesOf r.attempts) := by
  induction h with
  | nil => simp
  | cons hr _ ih =>
    rw [List.map_cons, List.map_cons, List.cons.injEq, List.cons.injEq, hr.eq_iff, ih]

/-- Like traces save like records. -/
lemma savesOf_like {es es' : List (Event σ)} (h : List.Forall₂ (Event.Like py) es es') :
    List.Forall₂ (CallRecord.Like py) (savesOf es) (savesOf es') := by
  refine List.rel_filterMap (fun e e' he => ?_) h
  cases he with
  | same =>
    cases e.save? with
    | none => exact .none
    | some r => exact .some (.refl r)
  | save hr => exact .some hr
  | _ => exact .none

/-! ## Two runs -/

/-- A world is like itself. -/
lemma World.Like.refl (w : World σ) : World.Like py w w :=
  ⟨w.attempts, List.forall₂_same.mpr fun a _ => Attempt.Like.refl a, rfl⟩

/-- **Programs in lockstep** whose saves quote the texts raised before save equal records exactly if
these texts are equal. -/
lemma saves_eq_iff {α : Type} {m m' : Call σ α} (h : Alike py Eq m m') (w : World σ)
    (hq : Quoted [] (m.trace w)) (hq' : Quoted [] (m'.trace w)) :
    savesOf (m.trace w) = savesOf (m'.trace w) ↔
      textsBeforeSaves [] (m.trace w) = textsBeforeSaves [] (m'.trace w) := by
  obtain ⟨-, -, htrace⟩ := h w w (.refl w)
  rw [records_eq_iff (savesOf_like htrace), hq, hq']

/-- **Saved records of two runs.** Of two runs from one world that differ only in the texts of the
exceptions providers raise, each pair of texts with one redacted image, the saved records are equal
exactly if the texts raised before each save are equal. -/
theorem saved_records_eq_iff (G : Gateway σ) (ps : OrderedDict Str (Provider σ))
    (hps : ProvidersLike G.py G.providers ps) (w : World σ) :
    (∀ request, savesOf ((G.invoke request).trace w) =
        savesOf (((G.withProviders ps).invoke request).trace w) ↔
      textsBeforeSaves [] ((G.invoke request).trace w) =
        textsBeforeSaves [] (((G.withProviders ps).invoke request).trace w)) ∧
    (∀ request, savesOf ((G.invokeStream request).trace w) =
        savesOf (((G.withProviders ps).invokeStream request).trace w) ↔
      textsBeforeSaves [] ((G.invokeStream request).trace w) =
        textsBeforeSaves [] (((G.withProviders ps).invokeStream request).trace w)) ∧
    ∀ model inputs metadata, savesOf ((G.embed model inputs metadata).trace w) =
        savesOf (((G.withProviders ps).embed model inputs metadata).trace w) ↔
      textsBeforeSaves [] ((G.embed model inputs metadata).trace w) =
        textsBeforeSaves [] (((G.withProviders ps).embed model inputs metadata).trace w) := by
  refine ⟨fun request => ?_, fun request => ?_, fun model inputs metadata => ?_⟩
  · exact saves_eq_iff (G.alike_invoke hps request) w (G.invoke_quoted request w)
      ((G.withProviders ps).invoke_quoted request w)
  · exact saves_eq_iff (G.alike_invokeStream hps request) w (G.invokeStream_quoted request w)
      ((G.withProviders ps).invokeStream_quoted request w)
  · exact saves_eq_iff (G.alike_embed hps model inputs metadata) w
      (G.embed_quoted model inputs metadata w)
      ((G.withProviders ps).embed_quoted model inputs metadata w)

/-! ## A key in a refusal -/

/-- A provider that refuses every call with the text `text`. -/
def refusingProvider (text : Str) : Provider Unit where
  invoke _ _ _ s := (.error (.terminal text), s)
  embed := some fun _ _ _ s => (.error (.terminal text), s)

/-- A gateway with a standing clock, whose only provider refuses with the text `text`. -/
def keyGateway (text : Str) : Gateway Unit where
  py := Runtime.plain
  outside := { monotonic := fun s => (0, s), sleep := fun _ s => s, uniform := fun a _ s => (a, s) }
  router := ⟨[("m", [⟨"p", "a"⟩])], []⟩
  providers := [("p", refusingProvider text)]
  costMeter := ⟨[], false⟩

/-- Two refusals with one redacted image. -/
lemma refusingProvider_like {text text' : Str} (h : redact py text = redact py text') :
    Provider.Like py (refusingProvider text) (refusingProvider text') where
  invoke _ _ _ _ := ⟨rfl, .error (.of_msg h _)⟩
  stream := .none
  embed := .some fun _ _ _ _ => ⟨rfl, .error (.of_msg h _)⟩

/-- The providers of two such gateways. -/
lemma keyGateway_like {text text' : Str}
    (h : redact Runtime.plain text = redact Runtime.plain text') :
    ProvidersLike Runtime.plain (keyGateway text).providers (keyGateway text').providers := by
  intro name
  change Option.Rel _ (if ("p" : Str) = name then some (refusingProvider text) else none)
    (if ("p" : Str) = name then some (refusingProvider text') else none)
  split
  · exact .some (refusingProvider_like h)
  · exact .none

/-- The keys of two API accounts have one redacted image. -/
lemma redact_twoKeys : redact Runtime.plain "sk-aaaaaaaa" = redact Runtime.plain "sk-bbbbbbbb" := by
  decide +kernel

/-- The two runs of the equivalence, where a provider's refusal names an API key. -/
theorem saved_records_eq_iff_twoKeys :
    savesOf (((keyGateway "sk-aaaaaaaa").invoke plainRequest).trace ⟨(), {}, {}, [], none⟩) =
        savesOf (((keyGateway "sk-bbbbbbbb").invoke plainRequest).trace ⟨(), {}, {}, [], none⟩) ↔
      textsBeforeSaves []
          (((keyGateway "sk-aaaaaaaa").invoke plainRequest).trace ⟨(), {}, {}, [], none⟩) =
        textsBeforeSaves []
          (((keyGateway "sk-bbbbbbbb").invoke plainRequest).trace ⟨(), {}, {}, [], none⟩) :=
  (saved_records_eq_iff (keyGateway "sk-aaaaaaaa") (keyGateway "sk-bbbbbbbb").providers
    (keyGateway_like redact_twoKeys) ⟨(), {}, {}, [], none⟩).1 plainRequest

/-- **The key is saved.** The two refusals have one redacted image, but the saved records differ: in
each of them the attempt keeps the key. -/
theorem key_reaches_saved_record :
    ProvidersLike Runtime.plain (keyGateway "sk-aaaaaaaa").providers
        (keyGateway "sk-bbbbbbbb").providers ∧
      savesOf (((keyGateway "sk-aaaaaaaa").invoke plainRequest).trace ⟨(), {}, {}, [], none⟩) ≠
        savesOf (((keyGateway "sk-bbbbbbbb").invoke plainRequest).trace
          ⟨(), {}, {}, [], none⟩) := by
  refine ⟨keyGateway_like redact_twoKeys, fun h => ?_⟩
  have herrors := congrArg (List.map fun r : CallRecord => r.attempts.map Attempt.error) h
  exact absurd herrors (by decide +kernel)

end AgentCtl
