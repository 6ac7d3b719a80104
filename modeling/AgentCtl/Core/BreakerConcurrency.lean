import AgentCtl.Core.BreakerHistory
import AgentCtl.Library.PartialRun

set_option relaxedAutoImplicit false
set_option autoImplicit false

/-!
# Concurrent calls and the breaker

A call asks the breaker and, once admitted, reports how it went; any number of calls may be between
the two. A report says whether the provider answered, but not which call it comes from: the breaker
takes every report that reaches it while it is open for that of the probe.

## Main definitions

* `AgentCtl.Traffic`, `Traffic.step` — a breaker, the calls in flight to one provider, and the
  interleaving of their questions and reports.
* `AgentCtl.Guarded` — what an open breaker promises, as a law of the notes taken of a run.
* `AgentCtl.Traffic.FromProbe` — a report that an open breaker acts on comes from the probe.

## Main results

* `AgentCtl.guarded_of_fromProbe` — in every run of such reports an open breaker keeps its promise.
* `AgentCtl.lateSuccess_admits` — a late report of a call admitted before breaks it.
-/

namespace AgentCtl

/-! ## Calls to one provider -/

/-- What a call does: it asks the breaker, or it reports. -/
inductive CallMove where
  | ask (time : ℚ)
  | report (call : ℕ) (ok : Bool) (time : ℚ)

/-- What is noted of it: whether an admitted call is a probe, and for a report the row of the
provider before and after. -/
inductive CallNote where
  | admitted (call : ℕ) (probe : Bool) (time : ℚ)
  | refused (call : ℕ) (time : ℚ)
  | reported (call : ℕ) (ok : Bool) (time : ℚ) (before after : Slot)

namespace CallNote

/-- The time at which a failure opens the breaker. -/
def opensAt : CallNote → Option ℚ
  | reported _ false t _ after => if after.openedAt.isSome then some t else none
  | _ => none

/-- The time at which a call is admitted. -/
def admittedAt : CallNote → Option ℚ
  | admitted _ _ t => some t
  | _ => none

/-- Is it the report of the call? -/
def IsReportOf (x : ℕ) : CallNote → Prop
  | reported y _ _ _ _ => y = x
  | _ => False

end CallNote

/-- The breaker and the calls of one provider: the last reading of the clock, how many calls have
asked, which are in flight, and which was granted the last probe. -/
structure Traffic where
  breaker : CircuitBreaker
  clock : ℚ
  asked : ℕ := 0
  inFlight : List ℕ := []
  holder : Option ℕ := none
  notes : List CallNote := []

namespace Traffic

variable (p : Str) (s : Traffic)

/-- The row of the provider. -/
def slot : Slot := s.breaker.slot p

/-- One move, at a time not before the last one. Only calls in flight report, and once each. -/
def step : CallMove → Option Traffic
  | .ask t =>
    if t < s.clock then none
    else
      let granted := (s.breaker.allow p t).1
      let probe := s.breaker.isOpen p
      some { breaker := (s.breaker.allow p t).2, clock := t, asked := s.asked + 1,
             inFlight := if granted then s.asked :: s.inFlight else s.inFlight,
             holder := if granted && probe then some s.asked else s.holder,
             notes := s.notes ++
               [if granted then .admitted s.asked probe t else .refused s.asked t] }
  | .report x ok t =>
    if t < s.clock || !s.inFlight.contains x then none
    else
      let breaker := if ok then s.breaker.recordSuccess p else s.breaker.recordFailure p t
      some { s with breaker := breaker, clock := t, inFlight := s.inFlight.erase x,
                    notes := s.notes ++ [.reported x ok t (s.slot p) (breaker.slot p)] }

/-- The state after an interleaving of moves. -/
def run (ms : List CallMove) : Option Traffic := PartialRun.run (step p) s ms

/-- A report that the open breaker acts on, a success or any report while a probe is in flight, is
the report of the probe in flight. -/
def FromProbe : CallMove → Prop
  | .ask _ => True
  | .report x ok _ => (s.slot p).openedAt.isSome = true →
      (ok = true ∨ (s.slot p).probeAt.isSome = true) →
        (s.slot p).probeAt.isSome = true ∧ s.holder = some x

/-- The condition can be tested. -/
instance decidableFromProbe (m : CallMove) : Decidable (s.FromProbe p m) :=
  match m with
  | .ask _ => inferInstanceAs (Decidable True)
  | .report _ _ _ => inferInstanceAs (Decidable (_ → _ → _))

end Traffic

/-! ## The promise of an open breaker -/

/-- Once the breaker has opened, no call is admitted before the cooldown is over. -/
def CooldownKept (c : ℚ) (notes : List CallNote) : Prop :=
  notes.Between fun a _ b => ∀ T ∈ a.opensAt, ∀ t ∈ b.admittedAt, T + c ≤ t

/-- While a probe has neither reported nor expired, no other call is admitted. -/
def OneProbe (c : ℚ) (notes : List CallNote) : Prop :=
  notes.Between fun a mid b => ∀ x g, a = .admitted x true g →
    (∀ n ∈ mid, ¬ n.IsReportOf x) → ∀ t ∈ b.admittedAt, g + c ≤ t

/-- The report of a call admitted before the breaker opened neither closes it nor frees the probe's
place. -/
def LateReportsIgnored (notes : List CallNote) : Prop :=
  notes.Between fun a mid b => ∀ x probe g ok t before after, a = .admitted x probe g →
    b = .reported x ok t before after → (∃ n ∈ mid, n.opensAt.isSome = true) →
      before.openedAt.isSome = true → after.openedAt.isSome = true ∧ after.probeAt = before.probeAt

/-- What an open breaker promises. -/
structure Guarded (c : ℚ) (notes : List CallNote) : Prop where
  cooldown : CooldownKept c notes
  oneProbe : OneProbe c notes
  lateReports : LateReportsIgnored notes

namespace Guarded

variable {c : ℚ} {notes : List CallNote} (h : Guarded c notes)

include h

/-- A refusal breaks no promise. -/
lemma refused (x : ℕ) (t : ℚ) : Guarded c (notes ++ [.refused x t]) := by
  refine ⟨List.between_concat.mpr ⟨h.cooldown, ?_⟩, List.between_concat.mpr ⟨h.oneProbe, ?_⟩,
    List.between_concat.mpr ⟨h.lateReports, ?_⟩⟩
  · intro pre a mid _ T _ t' ht'
    cases ht'
  · intro pre a mid _ x g _ _ t' ht'
    cases ht'
  · intro pre a mid _ x probe g ok t' before after _ hb
    cases hb

/-- An admission after the cooldown of every opening and the expiry of every probe. -/
lemma admitted (x : ℕ) (probe : Bool) {t : ℚ} (hopenings : ∀ n ∈ notes, ∀ T ∈ n.opensAt, T + c ≤ t)
    (hprobes : notes.Past fun a post => ∀ y g, a = .admitted y true g →
      (∀ n ∈ post, ¬ n.IsReportOf y) → g + c ≤ t) :
    Guarded c (notes ++ [.admitted x probe t]) := by
  refine ⟨List.between_concat.mpr ⟨h.cooldown, ?_⟩, List.between_concat.mpr ⟨h.oneProbe, ?_⟩,
    List.between_concat.mpr ⟨h.lateReports, ?_⟩⟩
  · intro pre a mid hnotes T hT t' ht'
    obtain rfl := Option.some.inj ht'
    exact hopenings a (by simp [hnotes]) T hT
  · intro pre a mid hnotes y g ha hnone t' ht'
    obtain rfl := Option.some.inj ht'
    exact hprobes pre a mid hnotes y g ha hnone
  · intro pre a mid _ x probe g ok t' before after _ hb
    cases hb

/-- A report that is not late, or is ignored. -/
lemma reported (x : ℕ) (ok : Bool) (t : ℚ) {before after : Slot}
    (hlate : notes.Past fun a post => ∀ probe g, a = .admitted x probe g →
      (∃ n ∈ post, n.opensAt.isSome = true) → before.openedAt.isSome = true →
        after.openedAt.isSome = true ∧ after.probeAt = before.probeAt) :
    Guarded c (notes ++ [.reported x ok t before after]) := by
  refine ⟨List.between_concat.mpr ⟨h.cooldown, ?_⟩, List.between_concat.mpr ⟨h.oneProbe, ?_⟩,
    List.between_concat.mpr ⟨h.lateReports, ?_⟩⟩
  · intro pre a mid _ T _ t' ht'
    cases ht'
  · intro pre a mid _ x g _ _ t' ht'
    cases ht'
  · intro pre a mid hnotes y probe g ok' t' before' after' ha hb hopened hopen
    cases hb
    exact hlate pre a mid hnotes probe g ha hopened hopen

end Guarded

/-! ## Runs of orderly reports -/

namespace Traffic

variable {p : Str} {k : ℤ} {c : ℚ} {s s' : Traffic}

/-- A probe that was granted and has not reported is in flight, or it has expired. -/
def ProbesKnown (p : Str) (c : ℚ) (s : Traffic) : Prop :=
  s.notes.Past fun a post => ∀ x g, a = .admitted x true g → (∀ n ∈ post, ¬ n.IsReportOf x) →
    ((s.slot p).probeAt = some g ∧ s.holder = some x) ∨ g + c ≤ s.clock

/-- The breaker has not opened since the probe in flight was granted. -/
def HolderCurrent (p : Str) (s : Traffic) : Prop :=
  s.notes.Past fun a post => ∀ x probe g, a = .admitted x probe g →
    (s.slot p).probeAt.isSome = true → s.holder = some x → ∀ n ∈ post, n.opensAt = none

/-- The breaker opened at `T` and is open since then or longer, or the cooldown is over. -/
def OpeningsKnown (p : Str) (c : ℚ) (s : Traffic) : Prop :=
  ∀ n ∈ s.notes, ∀ T ∈ n.opensAt, T ≤ s.clock ∧
    match (s.slot p).openedAt with
    | some T' => T ≤ T'
    | none => T + c ≤ s.clock

/-- The states of runs in which every report that an open breaker acts on comes from the probe. -/
structure Orderly (p : Str) (k : ℤ) (c : ℚ) (s : Traffic) : Prop where
  enabled : s.breaker.Enabled k c
  counted : (s.slot p).openedAt.isSome = true → k ≤ (s.slot p).fails
  probeAt : ∀ g ∈ (s.slot p).probeAt, ∃ T, (s.slot p).openedAt = some T ∧ T + c ≤ g ∧ g ≤ s.clock
  asked : ∀ n ∈ s.notes, ∀ x probe g, n = .admitted x probe g → x < s.asked
  openings : s.OpeningsKnown p c
  probes : s.ProbesKnown p c
  holder : s.HolderCurrent p
  guarded : Guarded c s.notes

/-- A question: the call is admitted if the row admits it, and is a probe if the breaker is open. -/
lemma step_ask (henabled : s.breaker.Enabled k c) {t : ℚ} (h : s.step p (.ask t) = some s') :
    s.clock ≤ t ∧ s'.breaker.Enabled k c ∧ s'.slot p = (s.slot p).next k c t .allow ∧
      s'.clock = t ∧ s'.asked = s.asked + 1 ∧
      (if (s.slot p).admits c t then
        s'.notes = s.notes ++ [.admitted s.asked (s.slot p).openedAt.isSome t] ∧
          s'.holder = if (s.slot p).openedAt.isSome then some s.asked else s.holder
      else s'.notes = s.notes ++ [.refused s.asked t] ∧ s'.holder = s.holder) := by
  unfold step at h
  by_cases ht : t < s.clock
  · simp [ht] at h
  have hopen : s.breaker.isOpen p = (s.slot p).openedAt.isSome := by
    rw [CircuitBreaker.isOpen, henabled.enabled]
    rfl
  have hallow : (s.breaker.allow p t).1 = (s.slot p).admits c t := henabled.allow_eq p t
  simp only [ht, if_false, hopen, hallow] at h
  obtain rfl := Option.some.inj h
  refine ⟨not_lt.mp ht, henabled.perform ⟨.allow, p, t⟩, ?_, rfl, rfl, ?_⟩
  · have hslot := henabled.slot_allow p p t
    rw [if_pos rfl] at hslot
    exact hslot
  · cases (s.slot p).admits c t <;> simp

/-- A report: a success closes the breaker, a failure is counted. -/
lemma step_report (henabled : s.breaker.Enabled k c) {x : ℕ} {ok : Bool} {t : ℚ}
    (h : s.step p (.report x ok t) = some s') :
    s.clock ≤ t ∧ s'.breaker.Enabled k c ∧
      s'.slot p = (s.slot p).next k c t (if ok then .success else .failure) ∧
      s'.clock = t ∧ s'.asked = s.asked ∧ s'.holder = s.holder ∧
      s'.notes = s.notes ++ [.reported x ok t (s.slot p) (s'.slot p)] := by
  unfold step at h
  by_cases ht : t < s.clock
  · simp [ht] at h
  by_cases hx : s.inFlight.contains x = true
  swap
  · simp [ht] at h
    exact absurd h.1 (by simpa using hx)
  simp only [ht, hx, decide_false, Bool.not_true, Bool.or_self, Bool.false_eq_true, if_false] at h
  obtain rfl := Option.some.inj h
  cases ok with
  | true =>
    refine ⟨not_lt.mp ht, henabled.perform ⟨.success, p, t⟩, ?_, rfl, rfl, rfl, rfl⟩
    have hslot := henabled.slot_recordSuccess p p t
    rw [if_pos rfl] at hslot
    exact hslot
  | false =>
    refine ⟨not_lt.mp ht, henabled.perform ⟨.failure, p, t⟩, ?_, rfl, rfl, rfl, rfl⟩
    have hslot := henabled.slot_recordFailure p p t
    rw [if_pos rfl] at hslot
    exact hslot

namespace Orderly

variable (h : s.Orderly p k c) {t : ℚ}

include h

/-- A closed breaker has no probe in flight. -/
lemma probeAt_eq_none (hclosed : (s.slot p).openedAt = none) : (s.slot p).probeAt = none := by
  cases hprobe : (s.slot p).probeAt with
  | none => rfl
  | some g =>
    obtain ⟨T, hT, -⟩ := h.probeAt g hprobe
    rw [hclosed] at hT
    cases hT

/-- When a call is admitted, the cooldown of every opening is over. -/
lemma openings_le (ht : s.clock ≤ t) (hadmits : (s.slot p).admits c t = true) :
    ∀ n ∈ s.notes, ∀ T ∈ n.opensAt, T + c ≤ t := by
  intro n hn T hT
  obtain ⟨-, hopen⟩ := h.openings n hn T hT
  unfold Slot.admits at hadmits
  cases hslot : (s.slot p).openedAt with
  | none =>
    rw [hslot] at hopen
    exact hopen.trans ht
  | some T' =>
    rw [hslot] at hopen hadmits
    have hcool : c ≤ t - T' := of_decide_eq_true (Bool.and_eq_true_iff.mp hadmits).1
    have hle : T ≤ T' := hopen
    linarith

/-- When a call is admitted, every probe that has not reported has expired. -/
lemma probes_le (ht : s.clock ≤ t) (hadmits : (s.slot p).admits c t = true) :
    s.notes.Past fun a post => ∀ x g, a = .admitted x true g → (∀ n ∈ post, ¬ n.IsReportOf x) →
      g + c ≤ t := by
  intro pre a post hnotes x g ha hnone
  rcases h.probes pre a post hnotes x g ha hnone with ⟨hprobe, -⟩ | hexpired
  · obtain ⟨T, hT, -⟩ := h.probeAt g hprobe
    unfold Slot.admits at hadmits
    rw [hT, hprobe] at hadmits
    have hcool : c ≤ t - g := of_decide_eq_true (Bool.and_eq_true_iff.mp hadmits).2
    linarith
  · exact hexpired.trans ht

/-- A refused call keeps the order. -/
lemma refused (ht : s.clock ≤ t) (henabled : s'.breaker.Enabled k c)
    (hslot : s'.slot p = s.slot p) (hclock : s'.clock = t) (hasked : s'.asked = s.asked + 1)
    (hholder : s'.holder = s.holder) (hnotes : s'.notes = s.notes ++ [.refused s.asked t]) :
    s'.Orderly p k c := by
  refine ⟨henabled, ?_, ?_, ?_, ?_, ?_, ?_, ?_⟩
  · rw [hslot]
    exact h.counted
  · intro g hg
    rw [hslot] at hg ⊢
    obtain ⟨T, hT, hTg, hg⟩ := h.probeAt g hg
    exact ⟨T, hT, hTg, hg.trans (ht.trans_eq hclock.symm)⟩
  · intro n hn x probe g hnx
    rw [hnotes] at hn
    rw [hasked]
    rcases List.mem_append.mp hn with hn | hn
    · exact (h.asked n hn x probe g hnx).trans (Nat.lt_succ_self _)
    · obtain rfl := List.mem_singleton.mp hn
      cases hnx
  · intro n hn T hT
    rw [hnotes] at hn
    rw [hslot, hclock]
    rcases List.mem_append.mp hn with hn | hn
    · obtain ⟨hle, hopen⟩ := h.openings n hn T hT
      refine ⟨hle.trans ht, ?_⟩
      cases hopened : (s.slot p).openedAt with
      | none =>
        rw [hopened] at hopen
        exact hopen.trans ht
      | some T' =>
        rw [hopened] at hopen
        exact hopen
    · obtain rfl := List.mem_singleton.mp hn
      cases hT
  · unfold ProbesKnown
    rw [hnotes, hslot, hclock, hholder, List.past_concat]
    constructor
    · intro pre a post hpast x g ha hnone
      rcases h.probes pre a post hpast x g ha fun n hn => hnone n (List.mem_append_left _ hn)
        with hprobe | hexpired
      · exact .inl hprobe
      · exact .inr (hexpired.trans ht)
    · intro x g ha
      cases ha
  · unfold HolderCurrent
    rw [hnotes, hslot, hholder, List.past_concat]
    constructor
    · intro pre a post hpast x probe g ha hprobe hx n hn
      rcases List.mem_append.mp hn with hn | hn
      · exact h.holder pre a post hpast x probe g ha hprobe hx n hn
      · obtain rfl := List.mem_singleton.mp hn
        rfl
    · intro x probe g ha
      cases ha
  · rw [hnotes]
    exact h.guarded.refused s.asked t

/-- An admitted call keeps the order: it is a probe if the breaker is open. -/
lemma admitted (ht : s.clock ≤ t) (henabled : s'.breaker.Enabled k c)
    (hadmits : (s.slot p).admits c t = true)
    (hslot : s'.slot p = if (s.slot p).openedAt.isSome then
      { s.slot p with probeAt := some t } else s.slot p) (hclock : s'.clock = t)
    (hasked : s'.asked = s.asked + 1)
    (hnotes : s'.notes = s.notes ++ [.admitted s.asked (s.slot p).openedAt.isSome t])
    (hholder : s'.holder = if (s.slot p).openedAt.isSome then some s.asked else s.holder) :
    s'.Orderly p k c := by
  have hopened : (s'.slot p).openedAt = (s.slot p).openedAt := by
    rw [hslot]
    split <;> rfl
  have hfails : (s'.slot p).fails = (s.slot p).fails := by
    rw [hslot]
    split <;> rfl
  have hover := h.openings_le ht hadmits
  have hexpired := h.probes_le ht hadmits
  refine ⟨henabled, ?_, ?_, ?_, ?_, ?_, ?_, ?_⟩
  · rw [hopened, hfails]
    exact h.counted
  · intro g hg
    rw [hopened, hclock]
    cases hisOpen : (s.slot p).openedAt with
    | none =>
      rw [hslot, hisOpen] at hg
      simp [h.probeAt_eq_none hisOpen] at hg
    | some T =>
      rw [hslot, hisOpen] at hg
      obtain rfl : t = g := by simpa using hg
      unfold Slot.admits at hadmits
      rw [hisOpen] at hadmits
      have hcool : c ≤ t - T := of_decide_eq_true (Bool.and_eq_true_iff.mp hadmits).1
      exact ⟨T, rfl, by linarith, le_rfl⟩
  · intro n hn x probe g hnx
    rw [hnotes] at hn
    rw [hasked]
    rcases List.mem_append.mp hn with hn | hn
    · exact (h.asked n hn x probe g hnx).trans (Nat.lt_succ_self _)
    · obtain rfl := List.mem_singleton.mp hn
      cases hnx
      exact Nat.lt_succ_self _
  · intro n hn T hT
    rw [hnotes] at hn
    rw [hopened, hclock]
    rcases List.mem_append.mp hn with hn | hn
    · obtain ⟨hle, hopen⟩ := h.openings n hn T hT
      refine ⟨hle.trans ht, ?_⟩
      cases hisOpen : (s.slot p).openedAt with
      | none => exact hover n hn T hT
      | some T' =>
        rw [hisOpen] at hopen
        exact hopen
    · obtain rfl := List.mem_singleton.mp hn
      cases hT
  · unfold ProbesKnown
    rw [hnotes, hclock, List.past_concat]
    constructor
    · intro pre a post hpast x g ha hnone
      exact .inr (hexpired pre a post hpast x g ha fun n hn => hnone n (List.mem_append_left _ hn))
    · intro x g ha _
      injection ha with hx hprobe hg
      rw [hslot, hholder, hprobe, hg, hx]
      exact .inl ⟨rfl, rfl⟩
  · unfold HolderCurrent
    rw [hnotes, List.past_concat]
    constructor
    · intro pre a post hpast x probe g ha hprobe hx n hn
      cases hisOpen : (s.slot p).openedAt with
      | none =>
        -- without a probe before there is none now
        rw [hslot, hisOpen] at hprobe
        simp [h.probeAt_eq_none hisOpen] at hprobe
      | some T =>
        -- the new holder has not been admitted before
        rw [hholder, hisOpen] at hx
        obtain rfl : s.asked = x := by simpa using hx
        have hmem : a ∈ s.notes := by simp [hpast]
        exact absurd (h.asked a hmem _ probe g ha) (lt_irrefl _)
    · intro x probe g _ _ _ n hn
      cases hn
  · rw [hnotes]
    exact h.guarded.admitted s.asked _ hover hexpired

/-- A question keeps the order. -/
lemma ask (hstep : s.step p (.ask t) = some s') : s'.Orderly p k c := by
  obtain ⟨ht, henabled, hslot, hclock, hasked, hnotes⟩ := step_ask h.enabled hstep
  by_cases hadmits : (s.slot p).admits c t = true
  · rw [if_pos hadmits] at hnotes
    have hnext : s'.slot p = if (s.slot p).openedAt.isSome then
        { s.slot p with probeAt := some t } else s.slot p := by
      rw [hslot]
      simp [Slot.next, hadmits]
    exact h.admitted ht henabled hadmits hnext hclock hasked hnotes.1 hnotes.2
  · rw [if_neg hadmits] at hnotes
    have hnext : s'.slot p = s.slot p := by
      rw [hslot]
      simp [Slot.next, hadmits]
    exact h.refused ht henabled hnext hclock hasked hnotes.2 hnotes.1

/-- The row after a report: no probe is in flight, and a failure that leaves the breaker open has
opened it anew. -/
lemma next_report (x : ℕ) (ok : Bool) {row : Slot}
    (hrow : row = (s.slot p).next k c t (if ok then .success else .failure)) :
    row.probeAt = none ∧ (CallNote.reported x ok t (s.slot p) row).opensAt = row.openedAt ∧
      (∀ T ∈ row.openedAt, T = t ∧ k ≤ row.fails) ∧
      (ok = true → row.openedAt = none) ∧
      ((s.slot p).openedAt.isSome = true → ok = false → row.openedAt = some t) := by
  cases ok with
  | true =>
    obtain rfl : row = {} := hrow
    refine ⟨rfl, rfl, ?_, fun _ => rfl, ?_⟩
    · intro T hT
      cases hT
    · intro _ hok
      cases hok
  | false =>
    have hfailure : row =
        if k ≤ (if (s.slot p).probeAt.isSome then k else (s.slot p).fails + 1) then
        ⟨if (s.slot p).probeAt.isSome then k else (s.slot p).fails + 1, some t, none⟩
        else { s.slot p with fails := if (s.slot p).probeAt.isSome then k
                                      else (s.slot p).fails + 1 } := hrow
    by_cases hk : k ≤ (if (s.slot p).probeAt.isSome then k else (s.slot p).fails + 1)
    · rw [if_pos hk] at hfailure
      rw [hfailure]
      refine ⟨rfl, rfl, ?_, ?_, fun _ _ => rfl⟩
      · intro T hT
        exact ⟨(Option.some.inj hT).symm, hk⟩
      · intro hok
        cases hok
    · rw [if_neg hk] at hfailure
      -- fewer than `k` failures: the breaker was closed and stays so
      have hprobe : (s.slot p).probeAt.isSome = false := by
        by_contra hprobe
        rw [if_pos (Bool.of_not_eq_false hprobe)] at hk
        exact hk le_rfl
      have hclosed : (s.slot p).openedAt = none := by
        cases hisOpen : (s.slot p).openedAt with
        | none => rfl
        | some T =>
          have hcounted := h.counted (by rw [hisOpen]; rfl)
          rw [hprobe] at hk
          simp only [Bool.false_eq_true, if_false] at hk
          omega
      have hnone := h.probeAt_eq_none hclosed
      rw [hfailure]
      refine ⟨hnone, ?_, ?_, ?_, ?_⟩
      · simp [CallNote.opensAt, hclosed]
      · intro T hT
        rw [hclosed] at hT
        cases hT
      · intro hok
        cases hok
      · intro hopen
        rw [hclosed] at hopen
        cases hopen

/-- A report keeps the order, if the open breaker acts on those of the probe only. -/
lemma report {x : ℕ} {ok : Bool} (hprobe : s.FromProbe p (.report x ok t))
    (hstep : s.step p (.report x ok t) = some s') : s'.Orderly p k c := by
  obtain ⟨ht, henabled, hslot, hclock, hasked, hholder, hnotes⟩ := step_report h.enabled hstep
  obtain ⟨hnoProbe, hopens, hopenedAt, hsuccess, hreopened⟩ := h.next_report x ok hslot
  refine ⟨henabled, ?_, ?_, ?_, ?_, ?_, ?_, ?_⟩
  · intro hopen
    obtain ⟨T, hT⟩ := Option.isSome_iff_exists.mp hopen
    exact (hopenedAt T hT).2
  · intro g hg
    rw [hnoProbe] at hg
    cases hg
  · intro n hn y probe g hny
    rw [hnotes] at hn
    rw [hasked]
    rcases List.mem_append.mp hn with hn | hn
    · exact h.asked n hn y probe g hny
    · obtain rfl := List.mem_singleton.mp hn
      cases hny
  · intro n hn T hT
    rw [hnotes] at hn
    rw [hclock]
    rcases List.mem_append.mp hn with hn | hn
    · obtain ⟨hle, hopen⟩ := h.openings n hn T hT
      refine ⟨hle.trans ht, ?_⟩
      cases hafter : (s'.slot p).openedAt with
      | some T' =>
        obtain ⟨rfl, -⟩ := hopenedAt T' hafter
        exact hle.trans ht
      | none =>
        cases hbefore : (s.slot p).openedAt with
        | none =>
          rw [hbefore] at hopen
          exact hopen.trans ht
        | some T' =>
          -- only a success closes an open breaker, and it comes from a probe after the cooldown
          have hisOpen : (s.slot p).openedAt.isSome = true := by
            rw [hbefore]
            rfl
          have hok : ok = true := by
            by_contra hfail
            have hreopen := hreopened hisOpen (by simpa using hfail)
            rw [hafter] at hreopen
            cases hreopen
          obtain ⟨hinFlight, -⟩ := hprobe hisOpen (.inl hok)
          obtain ⟨g, hg⟩ := Option.isSome_iff_exists.mp hinFlight
          obtain ⟨T'', hT'', hcool, hgranted⟩ := h.probeAt g hg
          obtain rfl : T' = T'' := Option.some.inj (hbefore.symm.trans hT'')
          rw [hbefore] at hopen
          have hle' : T ≤ T' := hopen
          dsimp only
          linarith
    · obtain rfl := List.mem_singleton.mp hn
      rw [hopens] at hT
      rw [hT]
      exact ⟨((hopenedAt T hT).1).le, le_rfl⟩
  · unfold ProbesKnown
    rw [hnotes, hclock, List.past_concat]
    constructor
    · intro pre a post hpast y g ha hnone
      rcases h.probes pre a post hpast y g ha fun n hn => hnone n (List.mem_append_left _ hn)
        with ⟨hg, hy⟩ | hexpired
      · -- the probe in flight reports itself
        obtain ⟨T, hT, -⟩ := h.probeAt g hg
        have hholds := hprobe (by rw [hT]; rfl) (.inr (by rw [hg]; rfl))
        obtain rfl : x = y := Option.some.inj (hholds.2.symm.trans hy)
        exact absurd rfl (hnone _ (List.mem_append_right _ (List.mem_singleton_self _)))
      · exact .inr (hexpired.trans ht)
    · intro y g ha
      cases ha
  · intro pre a post _ y probe g _ hinFlight
    rw [hnoProbe] at hinFlight
    cases hinFlight
  · rw [hnotes]
    apply h.guarded.reported
    intro pre a post hpast probe g ha hopened hisOpen
    have hnot : ¬ (ok = true ∨ (s.slot p).probeAt.isSome = true) := by
      intro hacts
      obtain ⟨hinFlight, hx⟩ := hprobe hisOpen hacts
      obtain ⟨n, hn, hnopens⟩ := hopened
      rw [h.holder pre a post hpast x probe g ha hinFlight hx n hn] at hnopens
      cases hnopens
    obtain ⟨hok, hnone⟩ := not_or.mp hnot
    rw [hreopened hisOpen (by simpa using hok), hnoProbe]
    exact ⟨rfl, (by simpa using hnone : (s.slot p).probeAt = none).symm⟩

end Orderly

/-- A provider without calls, with a breaker as it is made. -/
def start (k : ℤ) (c t : ℚ) : Traffic := { breaker := freshBreaker k c, clock := t }

/-- The first state of a run is in order. -/
lemma orderly_start (hk : 0 < k) (hc : 0 < c) (p : Str) (t : ℚ) :
    (start k c t).Orderly p k c := by
  refine ⟨⟨rfl, rfl, hk, hc⟩, ?_, ?_, ?_, ?_, ?_, ?_, ?_⟩
  · intro hopen
    cases hopen
  · intro g hg
    cases hg
  · intro n hn
    cases hn
  · intro n hn
    cases hn
  · exact List.past_nil
  · exact List.past_nil
  · exact ⟨List.between_nil, List.between_nil, List.between_nil⟩

end Traffic

/-- **The promise of an open breaker.** In every interleaving of the calls to one provider in which
the reports that an open breaker acts on come from the probe in flight, no call is admitted during
the cooldown, none but the probe while that is in flight, and late reports change nothing. -/
theorem guarded_of_fromProbe {k : ℤ} {c : ℚ} (hk : 0 < k) (hc : 0 < c) (p : Str) (t : ℚ)
    (ms : List CallMove) (s : Traffic) (hrun : (Traffic.start k c t).run p ms = some s)
    (hreports : ∀ pre m s₁, pre ++ [m] <+: ms → (Traffic.start k c t).run p pre = some s₁ →
      s₁.FromProbe p m) : Guarded c s.notes := by
  have horderly : s.Orderly p k c := by
    refine PartialRun.invariant (I := Traffic.Orderly p k c) (P := Traffic.FromProbe p) ?_
      (Traffic.orderly_start hk hc p t) hreports hrun
    intro s m s' h hm hstep
    cases m with
    | ask t => exact h.ask hstep
    | report x ok t => exact h.report hm hstep
  exact horderly.guarded

/-- A call fails and opens the breaker; a question during the cooldown is refused, a probe fails,
and a second probe closes the breaker. -/
def twoProbes : List CallMove :=
  [.ask 0, .report 0 false 1, .ask 2, .ask 31, .report 2 false 40, .ask 71, .report 3 true 72,
    .ask 73]

/-- Every report of the two probes comes from the probe in flight. -/
lemma along_twoProbes : PartialRun.Along (Traffic.step "p") (Traffic.FromProbe "p")
    (Traffic.start 1 30 0) twoProbes := by
  decide +kernel

/-- A run with two probes keeps the promise. -/
theorem guarded_of_fromProbe_twoProbes :
    ∃ s, (Traffic.start 1 30 0).run "p" twoProbes = some s ∧ Guarded 30 s.notes := by
  have hsome : ((Traffic.start 1 30 0).run "p" twoProbes).isSome = true := by decide +kernel
  obtain ⟨s, hs⟩ := Option.isSome_iff_exists.mp hsome
  refine ⟨s, hs, ?_⟩
  exact guarded_of_fromProbe (by decide) (by norm_num) "p" 0 twoProbes s hs
    fun pre m s₁ hpre hrun => along_twoProbes.at hpre hrun

/-- Two calls are admitted; one fails and opens the breaker, then the other one succeeds. -/
def lateSuccess : List CallMove :=
  [.ask 0, .ask 0, .report 0 false 1, .report 1 true 2, .ask 3]

/-- **A late success closes the breaker.** Two seconds after the breaker has opened for half a
minute, the next call is admitted. -/
theorem lateSuccess_admits :
    ∃ s, (Traffic.start 1 30 0).run "p" lateSuccess = some s ∧
      ¬ CooldownKept 30 s.notes ∧ ¬ LateReportsIgnored s.notes := by
  refine ⟨_, rfl, ?_, ?_⟩
  · intro h
    have hopened := h [.admitted 0 false 0, .admitted 1 false 0] _ [_] _ [] rfl 1 rfl 3 rfl
    norm_num at hopened
  · intro h
    have hignored := h [.admitted 0 false 0] _ [_] _ [_] rfl 1 false 0 true 2 _ _ rfl rfl
      ⟨_, List.mem_singleton_self _, rfl⟩ rfl
    exact absurd hignored.1 (by decide)

end AgentCtl
