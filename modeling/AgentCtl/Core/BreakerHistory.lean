import AgentCtl.Core.Circuit
import AgentCtl.Library.History
import Mathlib.Tactic.Linarith

set_option relaxedAutoImplicit false
set_option autoImplicit false

/-!
# What a breaker remembers

The breaker keeps three tables, which its operations change in different ways. What it says of a
provider is a matter of that provider's history alone: of the failures since its last success, of
the time of its last failure, and of the probes granted since then.

## Main definitions

* `AgentCtl.Slot` — the breaker of a single provider: one row of the three tables.
* `AgentCtl.CircuitBreaker.replay` — the breaker after a list of events, with their history.
* `AgentCtl.AdmittedBy` — what a history says about a provider.

## Main results

* `CircuitBreaker.slot_perform` — an operation changes the row of its own provider.
* `AgentCtl.allow_iff_history` — `allow` answers what the history says.
-/

namespace AgentCtl

/-- What a breaker is asked or told. -/
inductive BreakerOp where
  | allow
  | success
  | failure
  deriving DecidableEq

/-- An operation on a provider, at a time. -/
structure BreakerEvent where
  op : BreakerOp
  provider : Str
  time : ℚ

/-- An event of the past: was it an `allow` that let the provider be tried? -/
structure BreakerEntry extends BreakerEvent where
  granted : Bool

/-! ## The breaker of one provider -/

/-- The breaker of one provider: its failure count, and the times at which it was opened and at
which the probe in flight was granted. -/
structure Slot where
  fails : ℤ := 0
  openedAt : Option ℚ := none
  probeAt : Option ℚ := none
  deriving DecidableEq

namespace Slot

variable (k : ℤ) (c : ℚ) (s : Slot) (now : ℚ)

/-- May the provider be tried now? -/
def admits : Bool :=
  match s.openedAt with
  | none => true
  | some opened =>
    decide (c ≤ now - opened) &&
      match s.probeAt with
      | none => true
      | some probe => decide (c ≤ now - probe)

/-- The breaker after an operation. A failure while a probe is in flight counts as `k` failures. -/
def next : BreakerOp → Slot
  | .allow => if s.openedAt.isSome && s.admits c now then { s with probeAt := some now } else s
  | .success => {}
  | .failure =>
    let n := if s.probeAt.isSome then k else s.fails + 1
    if k ≤ n then ⟨n, some now, none⟩ else { s with fails := n }

end Slot

namespace CircuitBreaker

variable (cb : CircuitBreaker)

/-- The row of a provider in the three tables. -/
def slot (p : Str) : Slot := ⟨cb.fails.getD p 0, cb.openedAt.get? p, cb.probeAt.get? p⟩

/-- An event: its answer, and the breaker after it. A report has no answer. -/
def perform (e : BreakerEvent) : Bool × CircuitBreaker :=
  match e.op with
  | .allow => cb.allow e.provider e.time
  | .success => (false, cb.recordSuccess e.provider)
  | .failure => (false, cb.recordFailure e.provider e.time)

/-- An event, and its entry in the history. -/
def observe (s : CircuitBreaker × List BreakerEntry) (e : BreakerEvent) :
    CircuitBreaker × List BreakerEntry :=
  ((s.1.perform e).2, s.2 ++ [⟨e, (s.1.perform e).1⟩])

/-- The breaker after a list of events, with their history. -/
def replay (es : List BreakerEvent) : CircuitBreaker × List BreakerEntry :=
  es.foldl observe (cb, [])

variable {cb} {k : ℤ} {c : ℚ} {p : Str}

/-- One more event. -/
lemma replay_concat (es : List BreakerEvent) (e : BreakerEvent) :
    cb.replay (es ++ [e]) = observe (cb.replay es) e := by
  rw [replay, List.foldl_append]
  rfl

/-- The history is that of the events. -/
lemma history_replay (es : List BreakerEvent) :
    (cb.replay es).2.map BreakerEntry.toBreakerEvent = es := by
  induction es using List.reverseRecOn with
  | nil => rfl
  | append_singleton es e ih =>
    rw [replay_concat, observe, List.map_append, ih]
    rfl

/-- An enabled breaker of a threshold and a cooldown. -/
structure Enabled (cb : CircuitBreaker) (k : ℤ) (c : ℚ) : Prop where
  threshold : cb.threshold = k
  cooldown : cb.cooldown = c
  threshold_pos : 0 < k
  cooldown_pos : 0 < c

namespace Enabled

variable (h : cb.Enabled k c)

include h

/-- The test for it. -/
lemma enabled : cb.enabled = true := by
  have hk := h.threshold_pos
  have hc := h.cooldown_pos
  rw [← h.threshold] at hk
  rw [← h.cooldown] at hc
  simp [CircuitBreaker.enabled, hk, hc]

/-- `allow` asks the row of its provider. -/
lemma allow_eq (p : Str) (now : ℚ) : (cb.allow p now).1 = (cb.slot p).admits c now := by
  have henabled := h.enabled
  unfold allow Slot.admits slot
  rw [h.cooldown]
  simp only [henabled, Bool.not_true, Bool.false_eq_true, if_false]
  cases cb.openedAt.get? p with
  | none => rfl
  | some opened =>
    dsimp only
    by_cases hopened : now - opened < c
    · simp [hopened, not_le.mpr hopened]
    · cases cb.probeAt.get? p with
      | none => simp [hopened, not_lt.mp hopened]
      | some probe =>
        by_cases hprobe : now - probe < c
        · simp [hopened, hprobe, not_le.mpr hprobe]
        · simp [hopened, hprobe, not_lt.mp hopened, not_lt.mp hprobe]

/-- `allow` changes the row of its provider only. -/
lemma slot_allow (q p : Str) (now : ℚ) : (cb.allow q now).2.slot p =
    if q = p then (cb.slot p).next k c now .allow else cb.slot p := by
  have hanswer := h.allow_eq q now
  unfold Slot.next
  by_cases hq : q = p
  · subst hq
    rw [if_pos rfl, ← hanswer]
    unfold allow slot
    simp only [h.enabled, Bool.not_true, Bool.false_eq_true, if_false]
    cases hopened : cb.openedAt.get? q with
    | none => simp [hopened]
    | some opened =>
      dsimp only
      split
      · simp [hopened]
      · cases hprobe : cb.probeAt.get? q with
        | none => simp [hopened, OrderedDict.getD]
        | some probe =>
          dsimp only
          split
          · simp [hopened, hprobe]
          · simp [hopened, OrderedDict.getD]
  · rw [if_neg hq]
    unfold allow slot
    simp only [h.enabled, Bool.not_true, Bool.false_eq_true, if_false]
    cases cb.openedAt.get? q with
    | none => rfl
    | some opened =>
      dsimp only
      split
      · rfl
      · cases cb.probeAt.get? q with
        | none => simp [hq, OrderedDict.getD]
        | some probe =>
          dsimp only
          split
          · rfl
          · simp [hq, OrderedDict.getD]

/-- A success changes the row of its provider only. -/
lemma slot_recordSuccess (q p : Str) (now : ℚ) : (cb.recordSuccess q).slot p =
    if q = p then (cb.slot p).next k c now .success else cb.slot p := by
  unfold recordSuccess slot Slot.next
  simp only [h.enabled, Bool.not_true, Bool.false_eq_true, if_false]
  by_cases hq : q = p
  · subst hq
    simp [OrderedDict.getD]
  · simp [hq, OrderedDict.getD]

/-- A failure changes the row of its provider only. -/
lemma slot_recordFailure (q p : Str) (now : ℚ) : (cb.recordFailure q now).slot p =
    if q = p then (cb.slot p).next k c now .failure else cb.slot p := by
  unfold recordFailure slot Slot.next
  simp only [h.enabled, Bool.not_true, Bool.false_eq_true, if_false, h.threshold]
  by_cases hq : q = p
  · subst hq
    rw [if_pos rfl]
    cases hprobe : cb.probeAt.get? q with
    | some probe => simp [OrderedDict.has, OrderedDict.getD, hprobe]
    | none =>
      by_cases hk : k ≤ cb.nextFails q
      · have hk' : k ≤ (cb.fails.get? q).getD 0 + 1 := hk
        simp [OrderedDict.has, hprobe, hk', nextFails, OrderedDict.getD]
      · have hk' : ¬ k ≤ (cb.fails.get? q).getD 0 + 1 := hk
        simp [OrderedDict.has, hprobe, hk', nextFails, OrderedDict.getD]
  · rw [if_neg hq]
    split
    · simp [hq, OrderedDict.getD]
    · split
      · simp [hq, OrderedDict.getD]
      · simp [hq, OrderedDict.getD]

/-- **One row each.** An operation changes the row of its provider as the breaker of that provider
does, and no other row. -/
lemma slot_perform (e : BreakerEvent) (p : Str) : (cb.perform e).2.slot p =
    if e.provider = p then (cb.slot p).next k c e.time e.op else cb.slot p := by
  unfold perform
  cases hop : e.op with
  | allow => exact h.slot_allow e.provider p e.time
  | success => exact h.slot_recordSuccess e.provider p e.time
  | failure => exact h.slot_recordFailure e.provider p e.time

/-- Operations do not change the configuration. -/
lemma perform (e : BreakerEvent) : (cb.perform e).2.Enabled k c := by
  have hconfig : (cb.perform e).2.threshold = cb.threshold ∧
      (cb.perform e).2.cooldown = cb.cooldown := by
    unfold CircuitBreaker.perform CircuitBreaker.allow recordSuccess recordFailure
    cases e.op with
    | allow =>
      dsimp only
      split
      · exact ⟨rfl, rfl⟩
      · split
        · exact ⟨rfl, rfl⟩
        · split
          · exact ⟨rfl, rfl⟩
          · split
            · split <;> exact ⟨rfl, rfl⟩
            · exact ⟨rfl, rfl⟩
    | success =>
      dsimp only
      split <;> exact ⟨rfl, rfl⟩
    | failure =>
      dsimp only
      split
      · exact ⟨rfl, rfl⟩
      · split
        · exact ⟨rfl, rfl⟩
        · split <;> exact ⟨rfl, rfl⟩
  exact ⟨hconfig.1.trans h.threshold, hconfig.2.trans h.cooldown, h.threshold_pos, h.cooldown_pos⟩

/-- Events do not change the configuration. -/
lemma replay (es : List BreakerEvent) : (cb.replay es).1.Enabled k c := by
  induction es using List.reverseRecOn with
  | nil => exact h
  | append_singleton es e ih =>
    rw [replay_concat]
    exact ih.perform e

/-- The row of a provider depends on its own events alone. -/
lemma slot_replay_filter (es : List BreakerEvent) (p : Str) :
    (cb.replay (es.filter fun e => e.provider = p)).1.slot p = (cb.replay es).1.slot p := by
  induction es using List.reverseRecOn with
  | nil => rfl
  | append_singleton es e ih =>
    rw [replay_concat, observe, (h.replay es).slot_perform, List.filter_append]
    by_cases he : e.provider = p
    · rw [List.filter_singleton]
      simp only [he, decide_true, cond_true, if_true]
      rw [replay_concat, observe, (h.replay _).slot_perform, ih, if_pos he]
    · simpa [he] using ih

end Enabled

end CircuitBreaker

/-! ## Histories -/

namespace BreakerEntry

/-- Is it a success? -/
def isSuccess (e : BreakerEntry) : Bool := e.op = .success

/-- Is it a failure? -/
def isFailure (e : BreakerEntry) : Bool := e.op = .failure

end BreakerEntry

/-- The failures since the last success. -/
def failuresSinceSuccess (h : List BreakerEntry) : ℕ :=
  (h.since BreakerEntry.isSuccess).countP BreakerEntry.isFailure

/-- What a history of a provider says about it: fewer than `k` failures since its last success, or
`c` seconds since its last failure and since every `allow` granted after that. -/
def AdmittedBy (k : ℤ) (c : ℚ) (h : List BreakerEntry) (now : ℚ) : Prop :=
  (failuresSinceSuccess h : ℤ) < k ∨
    (∀ f ∈ h.latest BreakerEntry.isFailure, c ≤ now - f.time) ∧
      ∀ g ∈ h.since BreakerEntry.isFailure, g.granted = true → c ≤ now - g.time

/-- The row of a provider is what its history says: closed with the number of failures, or open
since the last failure, with the last probe granted after it. -/
structure Slot.Tracks (s : Slot) (k : ℤ) (h : List BreakerEntry) : Prop where
  closed : (failuresSinceSuccess h : ℤ) < k → s = { fails := failuresSinceSuccess h }
  opened : k ≤ failuresSinceSuccess h → k ≤ s.fails ∧
    (∃ f, h.latest BreakerEntry.isFailure = some f ∧ s.openedAt = some f.time) ∧
    s.probeAt = ((h.since BreakerEntry.isFailure).latest BreakerEntry.granted).map (fun e => e.time)

/-- Without events there are no failures. -/
lemma Slot.tracks_nil {k : ℤ} (hk : 0 < k) : Slot.Tracks {} k [] := by
  constructor
  · intro _
    rfl
  · intro hle
    exact absurd hle (not_le.mpr hk)

/-- A success closes the provider. -/
lemma Slot.Tracks.success {k : ℤ} {c : ℚ} {s : Slot} {h : List BreakerEntry} (hk : 0 < k)
    (e : BreakerEntry) (he : e.op = .success) : (s.next k c e.time e.op).Tracks k (h ++ [e]) := by
  have hnone : failuresSinceSuccess (h ++ [e]) = 0 := by
    rw [failuresSinceSuccess, List.since_concat]
    simp [BreakerEntry.isSuccess, he]
  rw [he]
  constructor
  · intro _
    rw [hnone]
    rfl
  · intro hle
    rw [hnone] at hle
    exact absurd hle (not_le.mpr hk)

/-- A failure is counted, and opens the provider when there are `k` of them. -/
lemma Slot.Tracks.failure {k : ℤ} {c : ℚ} {s : Slot} {h : List BreakerEntry} (hs : s.Tracks k h)
    (e : BreakerEntry) (he : e.op = .failure) : (s.next k c e.time e.op).Tracks k (h ++ [e]) := by
  have hcount : failuresSinceSuccess (h ++ [e]) = failuresSinceSuccess h + 1 := by
    rw [failuresSinceSuccess, List.since_concat]
    simp [BreakerEntry.isSuccess, BreakerEntry.isFailure, he, failuresSinceSuccess]
  have hlatest : (h ++ [e]).latest BreakerEntry.isFailure = some e := by
    rw [List.latest_concat]
    simp [BreakerEntry.isFailure, he]
  have hsince : (h ++ [e]).since BreakerEntry.isFailure = [] := by
    rw [List.since_concat]
    simp [BreakerEntry.isFailure, he]
  rw [he]
  unfold Slot.next
  constructor
  · intro hlt
    rw [hcount] at hlt ⊢
    push_cast at hlt ⊢
    -- with one failure more the provider is still closed, so it was closed before
    rw [hs.closed (by omega)]
    have hnot : ¬ k ≤ (failuresSinceSuccess h : ℤ) + 1 := by omega
    simp [hnot]
  · intro hle
    rw [hcount] at hle
    push_cast at hle
    rw [hlatest, hsince]
    have hn : k ≤ if s.probeAt.isSome then k else s.fails + 1 := by
      by_cases hlt : (failuresSinceSuccess h : ℤ) < k
      · rw [hs.closed hlt]
        simpa using hle
      · have hfails := (hs.opened (not_lt.mp hlt)).1
        split
        · exact le_rfl
        · omega
    dsimp only
    rw [if_pos hn]
    exact ⟨hn, ⟨e, rfl, rfl⟩, rfl⟩

/-- A question is remembered if it grants a probe. -/
lemma Slot.Tracks.allow {k : ℤ} {c : ℚ} {s : Slot} {h : List BreakerEntry} (hs : s.Tracks k h)
    (e : BreakerEntry) (he : e.op = .allow) (hanswer : e.granted = s.admits c e.time) :
    (s.next k c e.time e.op).Tracks k (h ++ [e]) := by
  have hcount : failuresSinceSuccess (h ++ [e]) = failuresSinceSuccess h := by
    rw [failuresSinceSuccess, List.since_concat]
    simp [BreakerEntry.isSuccess, BreakerEntry.isFailure, he, failuresSinceSuccess]
  have hlatest : (h ++ [e]).latest BreakerEntry.isFailure = h.latest BreakerEntry.isFailure := by
    rw [List.latest_concat]
    simp [BreakerEntry.isFailure, he]
  have hsince : (h ++ [e]).since BreakerEntry.isFailure =
      h.since BreakerEntry.isFailure ++ [e] := by
    rw [List.since_concat]
    simp [BreakerEntry.isFailure, he]
  rw [he]
  constructor
  · intro hlt
    rw [hcount] at hlt ⊢
    rw [hs.closed hlt]
    rfl
  · intro hle
    rw [hcount] at hle
    obtain ⟨hfails, ⟨f, hf, hopened⟩, hprobe⟩ := hs.opened hle
    rw [hlatest, hsince, List.latest_concat, hanswer]
    have hnext : s.next k c e.time .allow =
        if s.admits c e.time = true then { s with probeAt := some e.time } else s := by
      simp [Slot.next, hopened]
    rw [hnext]
    by_cases hadmits : s.admits c e.time = true
    · rw [if_pos hadmits, if_pos hadmits]
      exact ⟨hfails, ⟨f, hf, hopened⟩, rfl⟩
    · rw [if_neg hadmits, if_neg hadmits]
      exact ⟨hfails, ⟨f, hf, hopened⟩, hprobe⟩

/-- A history with `k` failures and more, in which times do not decrease, admits a provider exactly
if its row does. -/
lemma Slot.Tracks.admits_iff {k : ℤ} {c : ℚ} {s : Slot} {h : List BreakerEntry} (hs : s.Tracks k h)
    (hclock : h.Pairwise fun a b => a.time ≤ b.time) (now : ℚ) :
    s.admits c now = true ↔ AdmittedBy k c h now := by
  unfold AdmittedBy
  by_cases hlt : (failuresSinceSuccess h : ℤ) < k
  · rw [hs.closed hlt]
    exact iff_of_true rfl (.inl hlt)
  · obtain ⟨-, ⟨f, hf, hopened⟩, hprobe⟩ := hs.opened (not_lt.mp hlt)
    have hfailure : (∀ f' ∈ h.latest BreakerEntry.isFailure, c ≤ now - f'.time) ↔
        c ≤ now - f.time := by simp [hf]
    rw [or_iff_right hlt, hfailure]
    unfold Slot.admits
    rw [hopened, hprobe]
    cases hlast : (h.since BreakerEntry.isFailure).latest BreakerEntry.granted with
    | none =>
      have hno := List.latest_eq_none_iff.mp hlast
      have hgrants : ∀ g ∈ h.since BreakerEntry.isFailure, g.granted = true → c ≤ now - g.time := by
        intro g hg hgranted
        rw [hno g hg] at hgranted
        cases hgranted
      rw [and_iff_left hgrants]
      simp
    | some last =>
      -- the last grant is the latest, so the others are as old at least
      obtain ⟨hmem, hgranted⟩ := List.mem_of_latest hlast
      have hsince : (h.since BreakerEntry.isFailure).Pairwise fun a b => a.time ≤ b.time :=
        hclock.sublist List.since_suffix.sublist
      have hgrants : (∀ g ∈ h.since BreakerEntry.isFailure, g.granted = true → c ≤ now - g.time) ↔
          c ≤ now - last.time := by
        constructor
        · intro hall
          exact hall last hmem hgranted
        · intro hle g hg hggranted
          have hrel : g.time ≤ last.time :=
            List.rel_latest (R := fun a b => a.time ≤ b.time) (fun _ => le_rfl) hsince hlast hg
              hggranted
          linarith
      rw [hgrants]
      simp

namespace CircuitBreaker

/-- The history of a provider. -/
def historyOf (h : List BreakerEntry) (p : Str) : List BreakerEntry :=
  h.filter fun e => e.provider = p

variable {k : ℤ} {c : ℚ}

/-- The row of every provider is what the history of that provider says, by induction on the
events. -/
lemma Enabled.tracks {cb : CircuitBreaker} (h : cb.Enabled k c) (p : Str)
    (hstart : cb.slot p = {}) (es : List BreakerEvent) :
    ((cb.replay es).1.slot p).Tracks k (historyOf (cb.replay es).2 p) := by
  induction es using List.reverseRecOn with
  | nil =>
    change (cb.slot p).Tracks k []
    rw [hstart]
    exact Slot.tracks_nil h.threshold_pos
  | append_singleton es e ih =>
    have henabled := h.replay es
    rw [replay_concat, observe, henabled.slot_perform, historyOf, List.filter_append]
    by_cases he : e.provider = p
    · rw [if_pos he, List.filter_singleton]
      simp only [he, decide_true, cond_true]
      let entry : BreakerEntry := ⟨e, ((cb.replay es).1.perform e).1⟩
      cases hop : e.op with
      | success =>
        have hnext := Slot.Tracks.success (c := c) (s := (cb.replay es).1.slot p)
          (h := historyOf (cb.replay es).2 p) h.threshold_pos entry hop
        rw [← hop]
        exact hnext
      | failure =>
        have hnext := ih.failure (c := c) entry hop
        rw [← hop]
        exact hnext
      | allow =>
        have hanswer : entry.granted = ((cb.replay es).1.slot p).admits c entry.time := by
          have hperform : ((cb.replay es).1.perform e).1 =
              ((cb.replay es).1.allow e.provider e.time).1 := by
            rw [CircuitBreaker.perform, hop]
          change ((cb.replay es).1.perform e).1 = _
          rw [hperform, henabled.allow_eq, he]
        have hnext := ih.allow (c := c) entry hop hanswer
        rw [← hop]
        exact hnext
    · rw [if_neg he]
      simpa [he, historyOf] using ih

end CircuitBreaker

/-- A breaker as it is made. -/
def freshBreaker (k : ℤ) (c : ℚ) : CircuitBreaker := { threshold := k, cooldown := c }

/-- **What a breaker remembers.** After any events at times that do not decrease, an enabled breaker
answers for a provider what the history of that provider says, and what it would answer if the
events of the other providers had not been. -/
theorem allow_iff_history {k : ℤ} {c : ℚ} (hk : 0 < k) (hc : 0 < c) (es : List BreakerEvent)
    (hclock : es.Pairwise fun a b => a.time ≤ b.time) (p : Str) (now : ℚ) :
    ((((freshBreaker k c).replay es).1.allow p now).1 = true ↔
      AdmittedBy k c (CircuitBreaker.historyOf ((freshBreaker k c).replay es).2 p) now) ∧
    (((freshBreaker k c).replay es).1.allow p now).1 =
      (((freshBreaker k c).replay (es.filter fun e => e.provider = p)).1.allow p now).1 := by
  have henabled : (freshBreaker k c).Enabled k c := ⟨rfl, rfl, hk, hc⟩
  constructor
  · rw [(henabled.replay es).allow_eq]
    refine (henabled.tracks p rfl es).admits_iff ?_ now
    have hhistory : ((freshBreaker k c).replay es).2.Pairwise fun a b => a.time ≤ b.time := by
      rw [← CircuitBreaker.history_replay es, List.pairwise_map] at hclock
      exact hclock
    exact hhistory.sublist List.filter_sublist
  · rw [(henabled.replay es).allow_eq, (henabled.replay _).allow_eq, henabled.slot_replay_filter]

/-- A probe that fails, while another provider has a success. -/
def failedProbe : List BreakerEvent :=
  [⟨.failure, "p", 0⟩, ⟨.allow, "p", 30⟩, ⟨.success, "q", 31⟩, ⟨.failure, "p", 40⟩]

/-- What is remembered of the failed probe half a minute later. -/
theorem allow_iff_history_failedProbe :
    ((((freshBreaker 1 30).replay failedProbe).1.allow "p" 65).1 = true ↔
      AdmittedBy 1 30 (CircuitBreaker.historyOf ((freshBreaker 1 30).replay failedProbe).2 "p")
        65) ∧
    (((freshBreaker 1 30).replay failedProbe).1.allow "p" 65).1 =
      (((freshBreaker 1 30).replay (failedProbe.filter fun e => e.provider = "p")).1.allow "p"
        65).1 :=
  allow_iff_history (by decide) (by decide) failedProbe (by decide) "p" 65

end AgentCtl
