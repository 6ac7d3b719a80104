import AgentCtl.Library.Spelling

set_option relaxedAutoImplicit false
set_option autoImplicit false

/-!
# Substitution of a mask in brackets

A substitution cuts a text into pieces, those that it keeps and those that it replaces by the mask.
Where the mask stands in brackets, a word without the brackets that is not all made of the mask's
own symbols was there before the substitution, at the same place among the pieces.

## Main definitions

* `Regex.Piece`, `Regex.source`, `Regex.target` — a text in pieces, before and after.
* `Regex.Scanned` — the pieces are those that an expression cuts, from left to right.
* `Regex.Mask`, `Regex.Mask.Foreign` — a mask in brackets, and the words it cannot be a part of.
* `Regex.Mask.BeginsForeign` — the words that an expression spells begin with foreign ones.
* `Regex.Mask.NoneNew` — a pass of one expression leaves no new words of another one.
* `Regex.Overwritten` — the first difference of two texts is an opening bracket in the second.

## Main results

* `Regex.exists_scanned` — every substitution has its pieces.
* `Regex.Mask.target_eq_append` — a foreign word of the result has been kept.
* `Regex.Mask.last_kept_or_mask` — a word up to a foreign symbol has been kept, or has a mask in it.
* `Regex.Mask.noneNew_of_foreign` — no pass leaves new words of an expression without tests that
  spells foreign words only.
* `Regex.foldl_sub_eq_self_iff` — substitutions one after the other leave a text alone if, and
  only if, no expression occurs in it.
-/

namespace Regex

variable {α : Type}

/-! ## Pieces -/

/-- A piece of a text under substitution. -/
inductive Piece (α : Type) where
  /-- A symbol that stays. -/
  | kept (c : α)
  /-- A word that the mask replaces. -/
  | cut (w : List α)

/-- The piece before the substitution. -/
def Piece.source : Piece α → List α
  | kept c => [c]
  | cut w => w

/-- The piece after the substitution. -/
def Piece.target (mask : List α) : Piece α → List α
  | kept c => [c]
  | cut _ => mask

/-- The text before the substitution. -/
def source (ps : List (Piece α)) : List α := ps.flatMap Piece.source

/-- The text after the substitution. -/
def target (mask : List α) (ps : List (Piece α)) : List α := ps.flatMap (Piece.target mask)

/-- A word of which nothing is cut. -/
def allKept (w : List α) : List (Piece α) := w.map Piece.kept

section Texts

variable (mask : List α) (c : α) (w : List α) (ps qs : List (Piece α))

@[simp] lemma source_nil : source ([] : List (Piece α)) = [] := rfl

@[simp] lemma source_kept : source (.kept c :: ps) = c :: source ps := rfl

@[simp] lemma source_cut : source (.cut w :: ps) = w ++ source ps := rfl

@[simp] lemma source_append : source (ps ++ qs) = source ps ++ source qs := List.flatMap_append

@[simp] lemma target_nil : target mask ([] : List (Piece α)) = [] := rfl

@[simp] lemma target_kept : target mask (.kept c :: ps) = c :: target mask ps := rfl

@[simp] lemma target_cut : target mask (.cut w :: ps) = mask ++ target mask ps := rfl

@[simp] lemma target_append : target mask (ps ++ qs) = target mask ps ++ target mask qs :=
  List.flatMap_append

@[simp] lemma allKept_nil : allKept ([] : List α) = [] := rfl

@[simp] lemma allKept_cons : allKept (c :: w) = .kept c :: allKept w := rfl

@[simp] lemma allKept_append (v : List α) : allKept (w ++ v) = allKept w ++ allKept v :=
  List.map_append

@[simp] lemma source_allKept : source (allKept w) = w := by
  induction w with
  | nil => rfl
  | cons c w ih => rw [allKept_cons, source_kept, ih]

@[simp] lemma target_allKept : target mask (allKept w) = w := by
  induction w with
  | nil => rfl
  | cons c w ih => rw [allKept_cons, target_kept, ih]

end Texts

/-! ## The pieces of a substitution -/

/-- The pieces that the expression makes of the text behind a symbol: it cuts the matches, from left
to right, and keeps what no match begins with. -/
inductive Scanned (r : Regex α) : Option α → List (Piece α) → Prop
  | nil (a : Option α) : Scanned r a []
  | kept {a : Option α} {c : α} {ps : List (Piece α)} (h : matchAt r (a, c :: source ps) = none)
      (hps : Scanned r (some c) ps) : Scanned r a (.kept c :: ps)
  | cut {a : Option α} {w : List α} {ps : List (Piece α)}
      (h : matchAt r (a, w ++ source ps) = some (after a w, source ps))
      (hps : Scanned r (after a w) ps) : Scanned r a (.cut w :: ps)

/-- A substitution with enough fuel has its pieces. The induction is on the fuel. -/
lemma exists_scanned_subFuel (r : Regex α) (mask : List α) (fuel : ℕ) (a : Option α) (t : List α)
    (hfuel : t.length < fuel) :
    ∃ ps, source ps = t ∧ Scanned r a ps ∧ subFuel r mask fuel (a, t) = target mask ps := by
  induction fuel generalizing a t with
  | zero => omega
  | succ fuel ih =>
    cases hmatch : matchAt r (a, t) with
    | some y =>
      have hstep : subFuel r mask (fuel + 1) (a, t) = mask ++ subFuel r mask fuel y := by
        simp only [subFuel, hmatch]
      obtain ⟨-, w, hne, ht, ha, -⟩ := matchAt_eq_some hmatch
      have hpos := List.length_pos_iff.mpr hne
      have hlen : y.2.length < fuel := by
        rw [ht, List.length_append] at hfuel
        omega
      obtain ⟨ps, hsource, hps, htarget⟩ := ih y.1 y.2 hlen
      refine ⟨.cut w :: ps, by rw [source_cut, hsource, ht], .cut ?_ ?_, ?_⟩
      · rw [hsource, ← ht, ← ha, hmatch]
      · rwa [← ha]
      · rw [hstep, target_cut, ← htarget]
    | none =>
      cases t with
      | nil => exact ⟨[], rfl, .nil a, by simp only [subFuel, hmatch, target_nil]⟩
      | cons c t =>
        have hstep : subFuel r mask (fuel + 1) (a, c :: t) =
            c :: subFuel r mask fuel (some c, t) := by
          simp only [subFuel, hmatch]
        have hlen : t.length < fuel := by simpa using hfuel
        obtain ⟨ps, hsource, hps, htarget⟩ := ih (some c) t hlen
        refine ⟨.kept c :: ps, by rw [source_kept, hsource],
          .kept (by rw [hsource, hmatch]) hps, ?_⟩
        rw [hstep, target_kept, ← htarget]

/-- **The pieces.** Every substitution has its pieces. -/
theorem exists_scanned (r : Regex α) (mask t : List α) :
    ∃ ps, source ps = t ∧ Scanned r none ps ∧ sub r mask t = target mask ps :=
  exists_scanned_subFuel r mask (t.length + 1) none t (Nat.lt_succ_self _)

/-- Behind any of the pieces the scan goes on. -/
lemma Scanned.behind {r : Regex α} {a : Option α} (ps : List (Piece α)) {qs : List (Piece α)}
    (h : Scanned r a (ps ++ qs)) : Scanned r (after a (source ps)) qs := by
  induction ps generalizing a with
  | nil => exact h
  | cons p ps ih =>
    cases h with
    | kept h hps =>
      rw [source_kept, after_cons]
      exact ih hps
    | cut h hps =>
      rw [source_cut, after_append]
      exact ih hps

/-- A word cut is one that the expression spells, and its end is the first one listed. -/
lemma Scanned.of_cut {r : Regex α} {a : Option α} {w : List α} {ps : List (Piece α)}
    (h : Scanned r a (.cut w :: ps)) :
    w ≠ [] ∧ Spells r a w (source ps) ∧
      (ends r (a, w ++ source ps)).head? = some (after a w, source ps) := by
  cases h with
  | cut hmatch hps =>
    obtain ⟨hhead, v, hne, hv, -, hspells⟩ := matchAt_eq_some hmatch
    obtain rfl : w = v := List.append_cancel_right hv
    exact ⟨hne, hspells, hhead⟩

/-- The expression spells nothing where a symbol is kept. -/
lemma Scanned.not_spells {r : Regex α} (hr : Consumes r) {a : Option α} {c : α}
    {ps : List (Piece α)} (h : Scanned r a (.kept c :: ps)) {w rest : List α}
    (hw : source (.kept c :: ps) = w ++ rest) : ¬ Spells r a w rest := by
  cases h with
  | kept hmatch hps =>
    rw [source_kept] at hw
    exact (matchAt_eq_none_iff hr a _).mp hmatch w rest hw

/-! ## Masks in brackets -/

/-- A mask in brackets. -/
structure Mask (α : Type) where
  /-- The opening bracket. -/
  opening : α
  /-- What stands in the brackets. -/
  body : List α
  /-- The closing bracket. -/
  closing : α

namespace Mask

variable (M : Mask α)

/-- The mask as a text. -/
def text : List α := M.opening :: (M.body ++ [M.closing])

/-- No part of the mask is a part of the word, nor the other way round. -/
structure Foreign (w : List α) : Prop where
  /-- There is no opening bracket in the word. -/
  opening : M.opening ∉ w
  /-- There is no closing bracket in the word. -/
  closing : M.closing ∉ w
  /-- Some symbol of the word is none of the mask's. -/
  other : ∃ c ∈ w, c ∉ M.body

variable {M}

lemma Foreign.ne_nil {w : List α} (h : M.Foreign w) : w ≠ [] := by
  obtain ⟨c, hc, -⟩ := h.other
  exact List.ne_nil_of_mem hc

/-- A foreign word stays foreign behind a word without brackets. -/
lemma Foreign.append {w : List α} (h : M.Foreign w) {v : List α} (ho : M.opening ∉ v)
    (hc : M.closing ∉ v) : M.Foreign (v ++ w) where
  opening := by simp [ho, h.opening]
  closing := by simp [hc, h.closing]
  other := h.other.imp fun _ hd => ⟨List.mem_append_right v hd.1, hd.2⟩

/-- A foreign word is not in the part of a mask behind the opening bracket. -/
lemma Foreign.not_in_suffix {w z u v : List α} (h : M.Foreign w)
    (hz : z <:+ M.body ++ [M.closing]) (hw : z = u ++ (w ++ v)) : False := by
  obtain ⟨c, hc, hbody⟩ := h.other
  have hmem : c ∈ M.body ++ [M.closing] := by
    apply hz.subset
    simp [hw, hc]
  rcases List.mem_append.mp hmem with hmem | hmem
  · exact hbody hmem
  · obtain rfl := List.mem_singleton.mp hmem
    exact h.closing hc

/-- A part of the mask that is not empty and goes to its end is not the beginning of a word without
the closing bracket. -/
lemma not_prefix_of_suffix {w z v : List α} (h : M.closing ∉ w) (hne : z ≠ [])
    (hz : z <:+ M.text) (hw : w = z ++ v) : False := by
  obtain ⟨y, hy⟩ := hz
  have hlast : M.closing ∈ z := by
    have hl : (y ++ z).getLast? = some M.closing := by
      rw [hy]
      simp [text, List.getLast?_cons]
    rw [List.getLast?_append_of_ne_nil _ hne] at hl
    exact List.mem_of_getLast? hl
  exact h (hw ▸ List.mem_append_left v hlast)

/-- A word without the opening bracket at the beginning of the result has been kept. -/
lemma target_eq_append_of_front {w : List α} (hw : M.opening ∉ w) {ps : List (Piece α)}
    {B : List α} (h : target M.text ps = w ++ B) :
    ∃ qs, ps = allKept w ++ qs ∧ target M.text qs = B := by
  induction w generalizing ps with
  | nil => exact ⟨ps, rfl, h⟩
  | cons c w ih =>
    obtain ⟨hc, hmem⟩ := List.ne_and_not_mem_of_not_mem_cons hw
    cases ps with
    | nil => cases h
    | cons p ps =>
      cases p with
      | kept d =>
        rw [target_kept, List.cons_append] at h
        obtain ⟨rfl, htail⟩ := List.cons_eq_cons.mp h
        obtain ⟨qs, rfl, hqs⟩ := ih hmem htail
        exact ⟨qs, rfl, hqs⟩
      | cut m => exact absurd (List.cons_eq_cons.mp h).1 hc

/-- **A foreign word of the result has been kept**, and the pieces before it and behind it make the
text before it and behind it. The induction is on the pieces. -/
theorem target_eq_append {w : List α} (hw : M.Foreign w) {ps : List (Piece α)} {A B : List α}
    (h : target M.text ps = A ++ (w ++ B)) :
    ∃ ps₁ ps₂, ps = ps₁ ++ (allKept w ++ ps₂) ∧ target M.text ps₁ = A ∧ target M.text ps₂ = B := by
  induction ps generalizing A with
  | nil =>
    obtain ⟨-, h⟩ := List.nil_eq_append_iff.mp h
    exact absurd (List.append_eq_nil_iff.mp h).1 hw.ne_nil
  | cons p ps ih =>
    cases p with
    | kept c =>
      cases A with
      | nil =>
        obtain ⟨qs, hps, hqs⟩ := target_eq_append_of_front hw.opening h
        exact ⟨[], qs, hps, rfl, hqs⟩
      | cons a A =>
        rw [target_kept, List.cons_append] at h
        obtain ⟨rfl, htail⟩ := List.cons_eq_cons.mp h
        obtain ⟨ps₁, ps₂, rfl, rfl, hB⟩ := ih htail
        exact ⟨.kept c :: ps₁, ps₂, rfl, rfl, hB⟩
    | cut m =>
      rw [target_cut] at h
      rcases List.append_eq_append_iff.mp h with ⟨A', rfl, hA⟩ | ⟨z, hmask, hz⟩
      · obtain ⟨ps₁, ps₂, rfl, rfl, hB⟩ := ih hA
        exact ⟨.cut m :: ps₁, ps₂, rfl, rfl, hB⟩
      · by_cases hne : z = []
        · subst hne
          rw [List.append_nil] at hmask
          obtain ⟨ps₁, ps₂, rfl, h₁, hB⟩ := ih (A := []) hz.symm
          exact ⟨.cut m :: ps₁, ps₂, rfl, by rw [target_cut, h₁, hmask, List.append_nil], hB⟩
        · -- the word begins in the mask: it ends there, or the closing bracket is in it
          exfalso
          cases A with
          | nil =>
            obtain ⟨c, v, rfl⟩ := List.exists_cons_of_ne_nil hw.ne_nil
            obtain rfl : M.text = z := hmask
            obtain ⟨rfl, -⟩ := List.cons_eq_cons.mp hz
            exact hw.opening List.mem_cons_self
          | cons a A =>
            have hsuffix : z <:+ M.body ++ [M.closing] := ⟨A, (List.cons_eq_cons.mp hmask).2.symm⟩
            rcases List.append_eq_append_iff.mp hz with ⟨v, hv, -⟩ | ⟨v, hv, -⟩
            · exact hw.not_in_suffix hsuffix (u := []) hv
            · exact not_prefix_of_suffix hw.closing hne
                (hsuffix.trans (List.suffix_cons _ _)) hv

/-- **A word up to a symbol that is not in the mask** has been kept, or has a mask in it. -/
theorem last_kept_or_mask {w : List α} {d : α} (hd : d ∉ M.text) {ps : List (Piece α)}
    {B : List α} (h : target M.text ps = w ++ d :: B) :
    (∃ qs, ps = allKept (w ++ [d]) ++ qs ∧ target M.text qs = B) ∨ M.text <:+: w := by
  induction ps generalizing w with
  | nil => simp at h
  | cons p ps ih =>
    cases p with
    | kept c =>
      cases w with
      | nil =>
        rw [target_kept, List.nil_append] at h
        obtain ⟨rfl, htail⟩ := List.cons_eq_cons.mp h
        exact .inl ⟨ps, rfl, htail⟩
      | cons e w =>
        rw [target_kept, List.cons_append] at h
        obtain ⟨rfl, htail⟩ := List.cons_eq_cons.mp h
        rcases ih htail with ⟨qs, rfl, hqs⟩ | hin
        · exact .inl ⟨qs, rfl, hqs⟩
        · exact .inr (hin.trans (List.suffix_cons _ _).isInfix)
    | cut m =>
      rw [target_cut] at h
      rcases List.append_eq_append_iff.mp h with ⟨v, rfl, -⟩ | ⟨z, hmask, hz⟩
      · exact .inr (List.prefix_append _ _).isInfix
      · cases z with
        | nil =>
          rw [List.append_nil] at hmask
          exact .inr (hmask ▸ List.infix_refl _)
        | cons b z =>
          obtain ⟨rfl, -⟩ := List.cons_eq_cons.mp hz
          exact absurd (hmask ▸ List.mem_append_right w List.mem_cons_self) hd

/-- **A mask in the text is not cut** where the words cut begin with foreign ones: what is left of
it from a piece on has been kept. -/
theorem kept_of_source {z : List α} (hz : z <:+ M.text) {ps : List (Piece α)}
    (hps : ∀ m, .cut m ∈ ps → ∃ f, M.Foreign f ∧ f <+: m) {B : List α} (h : source ps = z ++ B) :
    ∃ qs, ps = allKept z ++ qs ∧ source qs = B := by
  induction z generalizing ps with
  | nil => exact ⟨ps, rfl, h⟩
  | cons c z ih =>
    cases ps with
    | nil => cases h
    | cons p ps =>
      cases p with
      | kept d =>
        rw [source_kept, List.cons_append] at h
        obtain ⟨rfl, htail⟩ := List.cons_eq_cons.mp h
        obtain ⟨qs, rfl, hqs⟩ := ih ((List.suffix_cons _ _).trans hz)
          (fun m hm => hps m (List.mem_cons_of_mem _ hm)) htail
        exact ⟨qs, rfl, hqs⟩
      | cut m =>
        exfalso
        obtain ⟨f, hf, m', rfl⟩ := hps m List.mem_cons_self
        rw [source_cut, List.append_assoc] at h
        rcases List.append_eq_append_iff.mp h with ⟨v, hv, -⟩ | ⟨v, hv, -⟩
        · obtain ⟨e, f, rfl⟩ := List.exists_cons_of_ne_nil hf.ne_nil
          obtain ⟨rfl, -⟩ := List.cons_eq_cons.mp hv
          rcases List.suffix_cons_iff.mp hz with heq | hz
          · obtain ⟨rfl, -⟩ := List.cons_eq_cons.mp heq
            exact hf.opening List.mem_cons_self
          · exact hf.not_in_suffix hz (u := []) hv
        · exact not_prefix_of_suffix hf.closing (List.cons_ne_nil c z) hz hv

end Mask

/-- Every word that the expression spells begins with a foreign one. -/
def Mask.BeginsForeign (M : Mask α) (r : Regex α) : Prop :=
  ∀ a w rest, Spells r a w rest → ∃ f, M.Foreign f ∧ f <+: w

/-- A word that begins with a foreign one is not empty. -/
lemma Mask.BeginsForeign.consumes {M : Mask α} {r : Regex α} (h : M.BeginsForeign r) :
    Consumes r := by
  rintro a w rest hw rfl
  obtain ⟨f, hf, hprefix⟩ := h a [] rest hw
  exact hf.ne_nil (List.prefix_nil.mp hprefix)

/-! ## What a pass leaves -/

/-- The expression spells a word at a symbol that has been kept. -/
def KeptAt (r : Regex α) (ps : List (Piece α)) : Prop :=
  ∃ ps₁ c ps₂ w rest, ps = ps₁ ++ .kept c :: ps₂ ∧ source (.kept c :: ps₂) = w ++ rest ∧
    Spells r (after none (source ps₁)) w rest

/-- It occurs in the text before the substitution then. -/
lemma KeptAt.occurs {r : Regex α} {ps : List (Piece α)} (h : KeptAt r ps) :
    Occurs r (source ps) := by
  obtain ⟨ps₁, c, ps₂, w, rest, rfl, hsource, hw⟩ := h
  exact ⟨source ps₁, w, rest, by rw [source_append, hsource], hw⟩

/-- An expression keeps no symbol at which it spells a word. -/
lemma Scanned.not_keptAt {r : Regex α} (hr : Consumes r) {ps : List (Piece α)}
    (h : Scanned r none ps) : ¬ KeptAt r ps := by
  rintro ⟨ps₁, c, ps₂, w, rest, rfl, hsource, hw⟩
  exact h.behind.not_spells hr hsource hw

/-- A word that begins with symbols that have been kept. -/
lemma keptAt_of_spells {r : Regex α} {ps₁ ps₂ : List (Piece α)} {f w z : List α}
    (hf : f ≠ []) (hsource : f ++ source ps₂ = w ++ z)
    (hw : Spells r (after none (source ps₁)) w z) :
    KeptAt r (ps₁ ++ (allKept f ++ ps₂)) := by
  obtain ⟨c, f, rfl⟩ := List.exists_cons_of_ne_nil hf
  refine ⟨ps₁, c, allKept f ++ ps₂, w, z, rfl, ?_, hw⟩
  rw [← hsource, source_kept, source_append, source_allKept]
  rfl

/-- The words cut are words that the expression spells. -/
lemma Scanned.spells_of_mem {r : Regex α} {a : Option α} {ps : List (Piece α)}
    (h : Scanned r a ps) {m : List α} (hm : .cut m ∈ ps) : ∃ b rest, Spells r b m rest := by
  obtain ⟨ps₁, ps₂, rfl⟩ := List.append_of_mem hm
  exact ⟨_, _, h.behind.of_cut.2.1⟩

/-- The symbol before a position, before and after the substitution: the same, unless a word has
been cut there. -/
lemma after_target (M : Mask α) (ps : List (Piece α)) :
    after none (target M.text ps) = after none (source ps) ∨
      ∃ qs m, ps = qs ++ [.cut m] ∧ after none (target M.text ps) = some M.closing := by
  rcases List.eq_nil_or_concat' ps with rfl | ⟨qs, p, rfl⟩
  · exact .inl rfl
  · cases p with
    | kept c =>
      left
      rw [target_append, source_append, after_append, after_append]
      rfl
    | cut m =>
      refine .inr ⟨qs, m, rfl, ?_⟩
      have hmask : M.text = (M.opening :: M.body) ++ [M.closing] := rfl
      rw [target_append, after_append, target_cut, target_nil, List.append_nil, hmask,
        after_append]
      rfl

/-- A pass of `r` leaves no new words of `s`: what `s` spells after it, `s` spells before it, at a
symbol that `r` keeps. -/
def Mask.NoneNew (M : Mask α) (r s : Regex α) : Prop :=
  ∀ ps, Scanned r none ps → Occurs s (target M.text ps) → KeptAt s ps

/-- A pass leaves no words of its own expression. -/
lemma Mask.NoneNew.not_occurs_self {M : Mask α} {r : Regex α} (h : M.NoneNew r r)
    (hr : Consumes r) (t : List α) : ¬ Occurs r (sub r M.text t) := by
  obtain ⟨ps, rfl, hps, ht⟩ := exists_scanned r M.text t
  rw [ht]
  exact fun hoccurs => hps.not_keptAt hr (h ps hps hoccurs)

/-- A pass leaves none of another one. -/
lemma Mask.NoneNew.not_occurs {M : Mask α} {r s : Regex α} (h : M.NoneNew r s) {t : List α}
    (ht : ¬ Occurs s t) : ¬ Occurs s (sub r M.text t) := by
  obtain ⟨ps, rfl, hps, heq⟩ := exists_scanned r M.text t
  rw [heq]
  exact fun hoccurs => ht (h ps hps hoccurs).occurs

/-- **No new words.** A pass leaves no new words of an expression without tests that spells foreign
words only. -/
theorem Mask.noneNew_of_foreign {M : Mask α} {s : Regex α}
    (hs : Respects (fun _ _ => True) s) (hforeign : ∀ a w rest, Spells s a w rest → M.Foreign w)
    (r : Regex α) : M.NoneNew r s := by
  rintro ps - ⟨u, w, rest, ht, hw⟩
  obtain ⟨ps₁, ps₂, rfl, -, -⟩ := Mask.target_eq_append (hforeign _ _ _ hw) ht
  exact keptAt_of_spells (hforeign _ _ _ hw).ne_nil rfl (hw.anywhere hs)

/-- What every pass keeps, passes one after the other keep. -/
lemma foldl_sub_keeps {Q : List α → Prop} {mask : List α} {rs : List (Regex α)}
    (h : ∀ r ∈ rs, ∀ t, Q t → Q (sub r mask t)) {t : List α} (ht : Q t) :
    Q (rs.foldl (fun out r => sub r mask out) t) := by
  induction rs generalizing t with
  | nil => exact ht
  | cons r rs ih =>
    obtain ⟨hr, hrs⟩ := List.forall_mem_cons.mp h
    exact ih hrs (hr t ht)

/-! ## Texts left alone -/

/-- At the first difference of the texts there is an opening bracket in the second, and none in the
first. -/
def Overwritten (o : α) (t t' : List α) : Prop :=
  ∃ u c v v', t = u ++ c :: v ∧ t' = u ++ o :: v' ∧ c ≠ o

/-- What has been overwritten is not what it was. -/
lemma Overwritten.ne {o : α} {t t' : List α} (h : Overwritten o t t') : t' ≠ t := by
  rintro rfl
  obtain ⟨u, c, v, v', ht, ht', hc⟩ := h
  obtain ⟨rfl, -⟩ := List.cons_eq_cons.mp (List.append_cancel_left (ht.symm.trans ht'))
  exact hc rfl

/-- Of two first differences the earlier one stays. -/
lemma Overwritten.trans {o : α} {t t' t'' : List α} (h : Overwritten o t t')
    (h' : Overwritten o t' t'') : Overwritten o t t'' := by
  obtain ⟨u, c, v, v', rfl, rfl, hc⟩ := h
  obtain ⟨x, d, y, y', hxy, rfl, hd⟩ := h'
  rcases List.append_eq_append_iff.mp hxy with ⟨z, rfl, hz⟩ | ⟨z, rfl, hz⟩
  · cases z with
    | nil =>
      obtain ⟨rfl, -⟩ := List.cons_eq_cons.mp hz
      exact absurd rfl hd
    | cons e z =>
      obtain ⟨rfl, -⟩ := List.cons_eq_cons.mp hz
      exact ⟨u, c, v, z ++ o :: y', rfl, by simp, hc⟩
  · cases z with
    | nil =>
      obtain ⟨rfl, -⟩ := List.cons_eq_cons.mp hz
      exact absurd rfl hd
    | cons e z =>
      obtain ⟨rfl, -⟩ := List.cons_eq_cons.mp hz
      exact ⟨x, d, z ++ c :: v, y', by simp, rfl, hd⟩

/-- A word that begins with a foreign one does not begin with the bracket. -/
lemma Mask.BeginsForeign.ne_opening {M : Mask α} {r : Regex α} (h : M.BeginsForeign r)
    {a : Option α} {c : α} {w rest : List α} (hw : Spells r a (c :: w) rest) : c ≠ M.opening := by
  rintro rfl
  obtain ⟨f, hf, hprefix⟩ := h _ _ _ hw
  obtain ⟨d, f, rfl⟩ := List.exists_cons_of_ne_nil hf.ne_nil
  obtain ⟨rfl, -⟩ := List.cons_prefix_cons.mp hprefix
  exact hf.opening List.mem_cons_self

/-- Nothing is cut, or there is a first word that is cut. -/
lemma exists_first_cut (ps : List (Piece α)) :
    (∃ u, ps = allKept u) ∨ ∃ u w qs, ps = allKept u ++ .cut w :: qs := by
  induction ps with
  | nil => exact .inl ⟨[], rfl⟩
  | cons p ps ih =>
    cases p with
    | cut w => exact .inr ⟨[], w, ps, rfl⟩
    | kept c =>
      rcases ih with ⟨u, rfl⟩ | ⟨u, w, qs, rfl⟩
      · exact .inl ⟨c :: u, rfl⟩
      · exact .inr ⟨c :: u, w, qs, rfl⟩

/-- The first word that is cut is an occurrence, and it is where the texts differ first. -/
lemma Scanned.first_cut {M : Mask α} {r : Regex α} (hr : M.BeginsForeign r) {u w : List α}
    {qs : List (Piece α)} (h : Scanned r none (allKept u ++ .cut w :: qs)) :
    Occurs r (source (allKept u ++ .cut w :: qs)) ∧
      Overwritten M.opening (source (allKept u ++ .cut w :: qs))
        (target M.text (allKept u ++ .cut w :: qs)) := by
  obtain ⟨hne, hspells, -⟩ := h.behind.of_cut
  rw [source_allKept] at hspells
  refine ⟨⟨u, w, source qs, by simp, hspells⟩, ?_⟩
  obtain ⟨c, w, rfl⟩ := List.exists_cons_of_ne_nil hne
  refine ⟨u, c, w ++ source qs, M.body ++ [M.closing] ++ target M.text qs, by simp, ?_, ?_⟩
  · simp [Mask.text]
  · exact hr.ne_opening hspells

/-- The expression does not occur where nothing is cut. -/
lemma Scanned.not_occurs {r : Regex α} (hc : Consumes r) {t : List α}
    (h : Scanned r none (allKept t)) : ¬ Occurs r t := by
  rintro ⟨u, w, rest, rfl, hw⟩
  rw [allKept_append] at h
  have hbehind := h.behind
  rw [source_allKept] at hbehind
  obtain ⟨c, w, rfl⟩ := List.exists_cons_of_ne_nil (hc _ _ _ hw)
  refine hbehind.not_spells hc ?_ hw
  change source (allKept (c :: w ++ rest)) = c :: w ++ rest
  exact source_allKept _

/-- A substitution leaves a text alone if the expression does not occur in it, and otherwise it
overwrites the text. -/
lemma sub_eq_self_or_overwritten {M : Mask α} {r : Regex α} (hr : M.BeginsForeign r)
    (t : List α) :
    (¬ Occurs r t ∧ sub r M.text t = t) ∨
      (Occurs r t ∧ Overwritten M.opening t (sub r M.text t)) := by
  obtain ⟨ps, rfl, hps, ht⟩ := exists_scanned r M.text t
  rw [ht]
  rcases exists_first_cut ps with ⟨u, rfl⟩ | ⟨u, w, qs, rfl⟩
  · left
    rw [target_allKept, source_allKept]
    exact ⟨hps.not_occurs hr.consumes, rfl⟩
  · exact .inr (hps.first_cut hr)

/-- **Texts left alone.** Substitutions one after the other leave a text alone if no expression
occurs in it, and otherwise they overwrite it: what one has overwritten the others do not restore.
-/
theorem foldl_sub_eq_self_or_overwritten {M : Mask α} {rs : List (Regex α)}
    (hrs : ∀ r ∈ rs, M.BeginsForeign r) (t : List α) :
    ((∀ r ∈ rs, ¬ Occurs r t) ∧ rs.foldl (fun out r => sub r M.text out) t = t) ∨
      ((∃ r ∈ rs, Occurs r t) ∧
        Overwritten M.opening t (rs.foldl (fun out r => sub r M.text out) t)) := by
  induction rs generalizing t with
  | nil => exact .inl ⟨by simp, rfl⟩
  | cons r rs ih =>
    obtain ⟨hr, hrs⟩ := List.forall_mem_cons.mp hrs
    rw [List.foldl_cons]
    rcases sub_eq_self_or_overwritten hr t with ⟨hnot, heq⟩ | ⟨hoccurs, hover⟩
    · rw [heq]
      refine (ih hrs t).imp ?_ ?_
      · rintro ⟨hall, hfold⟩
        exact ⟨List.forall_mem_cons.mpr ⟨hnot, hall⟩, hfold⟩
      · rintro ⟨⟨s, hs, hoccurs⟩, hover⟩
        exact ⟨⟨s, List.mem_cons_of_mem r hs, hoccurs⟩, hover⟩
    · refine .inr ⟨⟨r, List.mem_cons_self, hoccurs⟩, ?_⟩
      rcases ih hrs (sub r M.text t) with ⟨-, hfold⟩ | ⟨-, hover'⟩
      · rwa [hfold]
      · exact hover.trans hover'

/-- Substitutions leave a text alone if, and only if, none of their expressions occurs in it. -/
theorem foldl_sub_eq_self_iff {M : Mask α} {rs : List (Regex α)}
    (hrs : ∀ r ∈ rs, M.BeginsForeign r) (t : List α) :
    rs.foldl (fun out r => sub r M.text out) t = t ↔ ∀ r ∈ rs, ¬ Occurs r t := by
  rcases foldl_sub_eq_self_or_overwritten hrs t with ⟨hall, heq⟩ | ⟨⟨r, hr, hoccurs⟩, hover⟩
  · exact iff_of_true heq hall
  · exact iff_of_false hover.ne fun h => h r hr hoccurs

end Regex
