import AgentCtl.Library.Substitution

set_option relaxedAutoImplicit false
set_option autoImplicit false

/-!
# What survives a substitution

A word survives substitutions one after the other if no pass cuts a symbol of it. It stays in the
text then, at its place, while the texts on both sides of it may change. That a word is somewhere in
the result says less: the same word can stand elsewhere in the text.

## Main definitions

* `Regex.Survives` — a word between two texts survives the passes.
* `Regex.Spares` — an expression spells nothing in a text.

## Main results

* `Regex.Survives.infix` — a word that survives is in the result.
* `Regex.survives_of_not_occurs` — a word survives in a text where no expression occurs.
* `Regex.not_survives` — a word in which an expression occurs does not survive, whatever the texts
  on both sides of it are, as long as they look like the ends of a text.
* `Regex.Mask.not_infix_foldl` — a text in which an expression occurs is not in its own result.
-/

namespace Regex

variable {α : Type}

/-- No pass cuts a symbol of the word between the texts. -/
def Survives (mask : List α) : List (Regex α) → List α → List α → List α → Prop
  | [], _, _, _ => True
  | r :: rs, A, w, B => ∃ ps₁ ps₂, Scanned r none (ps₁ ++ (allKept w ++ ps₂)) ∧ source ps₁ = A ∧
      source ps₂ = B ∧ Survives mask rs (target mask ps₁) w (target mask ps₂)

/-- The pieces of a text are unique. -/
lemma Scanned.unique {r : Regex α} {a : Option α} {ps qs : List (Piece α)} (hps : Scanned r a ps)
    (hqs : Scanned r a qs) (h : source ps = source qs) : ps = qs := by
  induction hps generalizing qs with
  | nil a =>
    cases hqs with
    | nil => rfl
    | kept hmatch hqs => cases h
    | @cut _ w qs hmatch hqs =>
      obtain ⟨hne, -⟩ := (Scanned.cut hmatch hqs).of_cut
      exact absurd (List.append_eq_nil_iff.mp h.symm).1 hne
  | @kept a c ps hmatch hps ih =>
    cases hqs with
    | nil => cases h
    | kept hmatch' hqs =>
      rw [source_kept, source_kept] at h
      obtain ⟨rfl, htail⟩ := List.cons_eq_cons.mp h
      rw [ih hqs htail]
    | cut hmatch' hqs =>
      rw [source_kept, source_cut] at h
      rw [h, hmatch'] at hmatch
      cases hmatch
  | @cut a w ps hmatch hps ih =>
    cases hqs with
    | nil =>
      obtain ⟨hne, -⟩ := (Scanned.cut hmatch hps).of_cut
      exact absurd (List.append_eq_nil_iff.mp h).1 hne
    | kept hmatch' hqs =>
      rw [source_kept, source_cut] at h
      rw [← h, hmatch] at hmatch'
      cases hmatch'
    | @cut _ v qs hmatch' hqs =>
      rw [source_cut, source_cut] at h
      rw [h, hmatch'] at hmatch
      obtain ⟨-, htail⟩ := Prod.ext_iff.mp (Option.some_inj.mp hmatch)
      have htail : source qs = source ps := htail
      rw [htail] at h
      obtain rfl := List.append_cancel_right h
      rw [ih hqs htail.symm]

/-- A substitution is what its pieces make. -/
lemma Scanned.sub_eq {r : Regex α} {ps : List (Piece α)} (h : Scanned r none ps) (mask : List α) :
    sub r mask (source ps) = target mask ps := by
  obtain ⟨qs, hsource, hqs, ht⟩ := exists_scanned r mask (source ps)
  rw [ht, hqs.unique h hsource]

/-- **A word that survives** is in the result, at its place. -/
theorem Survives.infix {mask : List α} {rs : List (Regex α)} {A w B : List α}
    (h : Survives mask rs A w B) :
    ∃ A' B', rs.foldl (fun out r => sub r mask out) (A ++ (w ++ B)) = A' ++ (w ++ B') := by
  induction rs generalizing A B with
  | nil => exact ⟨A, B, rfl⟩
  | cons r rs ih =>
    obtain ⟨ps₁, ps₂, hps, rfl, rfl, hrest⟩ := h
    obtain ⟨A', B', heq⟩ := ih hrest
    have hsub := hps.sub_eq mask
    simp only [source_append, source_allKept, target_append, target_allKept] at hsub
    exact ⟨A', B', by rw [List.foldl_cons, hsub, heq]⟩

/-- A text in which an expression does not occur is kept. -/
lemma scanned_of_not_occurs {r : Regex α} {t : List α} (h : ¬ Occurs r t) :
    Scanned r none (allKept t) := by
  obtain ⟨ps, rfl, hps, -⟩ := exists_scanned r [] t
  rcases exists_first_cut ps with ⟨u, rfl⟩ | ⟨u, w, qs, rfl⟩
  · rwa [source_allKept]
  · obtain ⟨-, hspells, -⟩ := hps.behind.of_cut
    rw [source_allKept] at hspells
    exact absurd ⟨u, w, source qs, by simp, hspells⟩ h

/-- A word survives where no expression occurs. -/
theorem survives_of_not_occurs {mask : List α} {rs : List (Regex α)} {A w B : List α}
    (h : ∀ r ∈ rs, ¬ Occurs r (A ++ (w ++ B))) : Survives mask rs A w B := by
  induction rs with
  | nil => trivial
  | cons r rs ih =>
    obtain ⟨hr, hrs⟩ := List.forall_mem_cons.mp h
    have hps := scanned_of_not_occurs hr
    rw [allKept_append, allKept_append] at hps
    exact ⟨allKept A, allKept B, hps, source_allKept A, source_allKept B, by
      rw [target_allKept, target_allKept]
      exact ih hrs⟩

/-- The expression spells no word that lies in the text `A`, followed by `B`. -/
def Spares (r : Regex α) (A B : List α) : Prop :=
  ∀ x m y, A = x ++ (m ++ y) → ¬ Spells r (after none x) m (y ++ B)

/-- It spells none if it needs a symbol that is not in the text. -/
lemma spares_of_needs {r : Regex α} {A B : List α} (h : Needs (fun c => c ∉ A) r) :
    Spares r A B := by
  rintro x m y rfl hm
  obtain ⟨c, hc, hnot⟩ := hm.needs h
  exact hnot (by simp [hc])

/-- It spells none if its words are longer than the text. -/
lemma spares_of_length {r : Regex α} {A B : List α}
    (h : ∀ a w rest, Spells r a w rest → A.length < w.length) : Spares r A B := by
  rintro x m y rfl hm
  have hlt := h _ _ _ hm
  simp only [List.length_append] at hlt
  omega

/-- If the last word of a text survives a pass that spells nothing in what comes before it, then
that pass keeps the whole text. -/
lemma Survives.of_spares {mask : List α} {r : Regex α} {rs : List (Regex α)} {A w : List α}
    (hspares : Spares r A w) (h : Survives mask (r :: rs) A w []) :
    Scanned r none (allKept (A ++ w)) ∧ Survives mask rs A w [] := by
  obtain ⟨ps₁, ps₂, hps, rfl, hnil, hrest⟩ := h
  have hscan : Scanned r (after none (source ps₁ ++ w)) ps₂ := by
    have hbehind := (List.append_assoc ps₁ (allKept w) ps₂ ▸ hps).behind
    rwa [source_append, source_allKept] at hbehind
  obtain rfl : ps₂ = [] := hscan.unique (.nil _) hnil
  rcases exists_first_cut ps₁ with ⟨u, rfl⟩ | ⟨u, m, qs, rfl⟩
  · rw [source_allKept, allKept_append]
    rw [List.append_nil] at hps
    rw [target_allKept] at hrest
    exact ⟨hps, hrest⟩
  · -- the first word that is cut lies in the text before
    rw [List.append_assoc] at hps
    obtain ⟨-, hspells, -⟩ := hps.behind.of_cut
    rw [source_allKept] at hspells
    refine absurd ?_ (hspares u m (source qs) (by simp))
    simpa using hspells

/-! ## Words in which an expression occurs -/

section Ends

variable {E : Option α → Option α → Prop} {M : Mask α}

/-- The expression spells a word between texts that look like the ends of a text, if it spells it
alone. -/
lemma spells_between {r : Regex α} (hr : Respects E r) (hrefl : ∀ a, E a a) {A B u w z : List α}
    (hA : E none (after none A)) (hB : E none B.head?) (h : Spells r (after none u) w z) :
    Spells r (after none (A ++ u)) w (z ++ B) := by
  apply h.congr hr hrefl
  · rw [after_append]
    exact after_related hrefl hA u
  · cases z with
    | nil => exact hB
    | cons c z => exact hrefl _

/-- The end of a text stays one: the mask does not look different. -/
lemma after_target_related (hM : E none (some M.closing)) {ps : List (Piece α)}
    (h : E none (after none (source ps))) : E none (after none (target M.text ps)) := by
  rcases after_target M ps with heq | ⟨qs, m, rfl, heq⟩
  · rwa [heq]
  · rwa [heq]

lemma head?_target_related (hM : E none (some M.opening)) {ps : List (Piece α)}
    (h : E none (source ps).head?) : E none (target M.text ps).head? := by
  cases ps with
  | nil => exact h
  | cons p ps =>
    cases p with
    | kept c => exact h
    | cut m => exact hM

/-- **A word in which an expression occurs does not survive** between texts that look like the ends
of a text. The induction is on the passes: before the expression has its turn, the word has been
kept. -/
theorem not_survives {rs : List (Regex α)} (hrefl : ∀ a, E a a)
    (hresp : ∀ r ∈ rs, Respects E r) (hcons : ∀ r ∈ rs, Consumes r)
    (hclosing : E none (some M.closing)) (hopening : E none (some M.opening)) {A w B : List α}
    (hA : E none (after none A)) (hB : E none B.head?) (h : ∃ r ∈ rs, Occurs r w) :
    ¬ Survives M.text rs A w B := by
  induction rs generalizing A B with
  | nil =>
    obtain ⟨r, hr, -⟩ := h
    cases hr
  | cons r rs ih =>
    obtain ⟨hresp₁, hresp⟩ := List.forall_mem_cons.mp hresp
    obtain ⟨hcons₁, hcons⟩ := List.forall_mem_cons.mp hcons
    rintro ⟨ps₁, ps₂, hps, rfl, rfl, hrest⟩
    obtain ⟨s, hs, hoccurs⟩ := h
    rcases List.mem_cons.mp hs with rfl | hs
    · obtain ⟨u, v, z, rfl, hv⟩ := hoccurs
      have hspells := spells_between hresp₁ hrefl hA hB hv
      refine hps.not_keptAt hcons₁ ?_
      have hsplit : ps₁ ++ (allKept (u ++ (v ++ z)) ++ ps₂) =
          (ps₁ ++ allKept u) ++ (allKept v ++ (allKept z ++ ps₂)) := by simp
      rw [hsplit]
      refine keptAt_of_spells (w := v) (z := z ++ source ps₂) (hcons₁ _ _ _ hv) (by simp) ?_
      simpa using hspells
    · exact ih hresp hcons (after_target_related hclosing hA) (head?_target_related hopening hB)
        ⟨s, hs, hoccurs⟩ hrest

end Ends

/-! ## Counting -/

section Count

variable [DecidableEq α]

/-- How many symbols of the text no mask has. -/
def Mask.countOthers (M : Mask α) (t : List α) : ℕ := t.countP fun c => !M.text.elem c

/-- A foreign word has a symbol that no mask has. -/
lemma Mask.Foreign.countOthers_pos {M : Mask α} {f : List α} (h : M.Foreign f) :
    0 < M.countOthers f := by
  obtain ⟨c, hc, hbody⟩ := h.other
  refine List.countP_pos_iff.mpr ⟨c, hc, ?_⟩
  have hnot : c ∉ M.text := by
    simp only [Mask.text, List.mem_cons, List.mem_append, List.not_mem_nil, or_false, not_or]
    exact ⟨fun heq => h.opening (heq ▸ hc), hbody, fun heq => h.closing (heq ▸ hc)⟩
  simp [hnot]

/-- A mask has none. -/
lemma Mask.countOthers_text (M : Mask α) : M.countOthers M.text = 0 := by
  refine List.countP_eq_zero.mpr fun c hc => ?_
  simp [hc]

/-- A pass takes such symbols away with every word that it cuts. -/
lemma Mask.countOthers_target {M : Mask α} {r : Regex α} (hr : M.BeginsForeign r) {a : Option α}
    {ps : List (Piece α)} (h : Scanned r a ps) :
    M.countOthers (target M.text ps) ≤ M.countOthers (source ps) ∧
      (M.countOthers (target M.text ps) < M.countOthers (source ps) ∨
        ps = allKept (source ps)) := by
  have happend : ∀ s t, M.countOthers (s ++ t) = M.countOthers s + M.countOthers t :=
    fun s t => List.countP_append
  induction h with
  | nil => exact ⟨Nat.le_refl _, .inr rfl⟩
  | @kept a c ps _ _ ih =>
    have hone : M.countOthers (target M.text (.kept c :: ps)) =
        M.countOthers [c] + M.countOthers (target M.text ps) := happend [c] _
    have hone' : M.countOthers (source (.kept c :: ps)) =
        M.countOthers [c] + M.countOthers (source ps) := happend [c] _
    obtain ⟨hle, hlt | hall⟩ := ih
    · exact ⟨by omega, .inl (by omega)⟩
    · refine ⟨by omega, .inr ?_⟩
      rw [source_kept, allKept_cons, ← hall]
  | @cut a w ps hmatch hps ih =>
    obtain ⟨f, hf, hprefix⟩ := hr _ _ _ (Scanned.cut hmatch hps).of_cut.2.1
    obtain ⟨v, rfl⟩ := hprefix
    have hpos := hf.countOthers_pos
    have hsource : M.countOthers (source (.cut (f ++ v) :: ps)) =
        M.countOthers f + M.countOthers v + M.countOthers (source ps) := by
      rw [source_cut, happend, happend]
    have htarget : M.countOthers (target M.text (.cut (f ++ v) :: ps)) =
        M.countOthers (target M.text ps) := by
      rw [target_cut, happend, M.countOthers_text, Nat.zero_add]
    have hle := ih.1
    exact ⟨by omega, .inl (by omega)⟩

/-- Passes one after the other take such symbols away if an expression occurs in the text. -/
lemma Mask.countOthers_foldl {M : Mask α} {rs : List (Regex α)}
    (hrs : ∀ r ∈ rs, M.BeginsForeign r) (t : List α) :
    M.countOthers (rs.foldl (fun out r => sub r M.text out) t) ≤ M.countOthers t ∧
      ((∃ r ∈ rs, Occurs r t) →
        M.countOthers (rs.foldl (fun out r => sub r M.text out) t) < M.countOthers t) := by
  induction rs generalizing t with
  | nil => exact ⟨Nat.le_refl _, by simp⟩
  | cons r rs ih =>
    obtain ⟨hr, hrs⟩ := List.forall_mem_cons.mp hrs
    obtain ⟨ps, rfl, hps, ht⟩ := exists_scanned r M.text t
    rw [List.foldl_cons, ht]
    obtain ⟨hle, hlt⟩ := ih hrs (target M.text ps)
    obtain ⟨hpass, hless | hall⟩ := Mask.countOthers_target hr hps
    · exact ⟨by omega, fun _ => by omega⟩
    · refine ⟨by omega, ?_⟩
      rintro ⟨s, hs, hoccurs⟩
      rcases List.mem_cons.mp hs with rfl | hs
      · rw [hall] at hps
        exact absurd hoccurs (hps.not_occurs hr.consumes)
      · have hsame : target M.text ps = source ps := by
          rw [hall, target_allKept, source_allKept]
        rw [hsame] at hlt ⊢
        exact hlt ⟨s, hs, hoccurs⟩

/-- **A text in which an expression occurs** is nowhere in its own result. -/
theorem Mask.not_infix_foldl {M : Mask α} {rs : List (Regex α)}
    (hrs : ∀ r ∈ rs, M.BeginsForeign r) {t : List α} (h : ∃ r ∈ rs, Occurs r t) :
    ¬ t <:+: rs.foldl (fun out r => sub r M.text out) t := by
  intro hinfix
  have hlt := (Mask.countOthers_foldl hrs t).2 h
  have hle : M.countOthers t ≤ M.countOthers (rs.foldl (fun out r => sub r M.text out) t) :=
    hinfix.sublist.countP_le
  omega

end Count

end Regex
