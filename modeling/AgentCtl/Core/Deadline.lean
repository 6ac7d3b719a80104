import AgentCtl.Core.FailedAttempts
import AgentCtl.Core.Scripted

set_option relaxedAutoImplicit false
set_option autoImplicit false

/-!
# The deadline of a chat call

`request_deadline_s` is to cap the time of a whole call. Time is a value of the world outside; it
passes in provider calls and in the pauses between attempts. The timeout of every provider call
ends at the deadline, but a pause is as long as the backoff says, whatever the time: so a call ends
in time exactly when after each failed attempt that is to be followed by another one there is still
time for `base_backoff_s * 2 ** n` seconds, with their jitter.

Two facts make up the proof. A part of a call that begins by the deadline, and whose sleeps end by
it, ends by it (`Lapse`, along the whole call); and the sleeps of a call are those after its failed
attempts (`Gateway.sleepsOf_invoke`). Pauses that a float or `time.sleep` cannot hold are outside
the model (`Gateway.backoff`).

## Main definitions

* `AgentCtl.Timed` — time passes in provider calls and sleeps only.
* `AgentCtl.Lapse` — what a part of a call does to the time.

## Main results

* `AgentCtl.Gateway.keeps_lapse_invokeTarget` — the retry loop within a deadline.
* `AgentCtl.invoke_in_time_iff` — a call ends by its deadline exactly when there is time for the
  pauses after its failed attempts.
-/

namespace AgentCtl

variable {σ : Type}

/-- Time passes in provider calls and sleeps only: the clock shows it, a sleep takes as long as it
says, and a provider called with a timeout returns or raises within it. -/
structure Timed (G : Gateway σ) (time : σ → ℚ) : Prop where
  monotonic : ∀ s, (G.outside.monotonic s).1 = time s ∧ time (G.outside.monotonic s).2 = time s
  sleep : ∀ d s, 0 ≤ d → time (G.outside.sleep d s) = time s + d
  uniform : ∀ a b s, time (G.outside.uniform a b s).2 = time s
  cacheGet : ∀ c ∈ G.cache, ∀ k s, time (c.get k s).2 = time s
  cacheSet : ∀ c ∈ G.cache, ∀ k r ttl s, time (c.set k r ttl s).2 = time s
  invoke : ∀ name p, G.providers.get? name = some p → ∀ target request timeout s, 0 ≤ timeout →
    time s ≤ time (p.invoke target request timeout s).2 ∧
      time (p.invoke target request timeout s).2 ≤ time s + timeout

/-- What a part of a call does to the time, up to a limit `L`: time does not go back, every pause
is over at the end, and a part that begins by `L`, and whose pauses all end by `L`, ends by `L`. -/
structure Lapse (time : σ → ℚ) (L : ℚ) (w w' : World σ) (es : List (Event σ)) : Prop where
  le : time w.outer ≤ time w'.outer
  sleeps : ∀ d s, .sleep d s ∈ es → time s + d ≤ time w'.outer
  bound : time w.outer ≤ L → (∀ d s, .sleep d s ∈ es → time s + d ≤ L) → time w'.outer ≤ L

variable {G : Gateway σ} {time : σ → ℚ} {L : ℚ}

/-- Time adds up along a run. -/
lemma frame_lapse : Prog.Frame (Lapse time L) where
  refl w := ⟨le_rfl, by simp, fun h _ => h⟩
  trans {w w₁ w₂ es fs} h₁ h₂ := by
    refine ⟨h₁.le.trans h₂.le, fun d s hd => ?_, fun hw hs => ?_⟩
    · rcases List.mem_append.mp hd with h | h
      · exact (h₁.sleeps d s h).trans h₂.le
      · exact h₂.sleeps d s h
    · refine h₂.bound (h₁.bound hw fun d s hd => ?_) fun d s hd => ?_
      · exact hs d s (List.mem_append_left _ hd)
      · exact hs d s (List.mem_append_right _ hd)

/-- A part that takes no time. -/
lemma Lapse.of_eq {w w' : World σ} {es : List (Event σ)} (h : time w'.outer = time w.outer)
    (hes : ∀ d s, .sleep d s ∉ es) : Lapse time L w w' es :=
  ⟨h.ge, fun d s hd => absurd hd (hes d s), fun hw _ => h.trans_le hw⟩

/-! ## What takes no time -/

section Still

open Prog

/-- Changing the state of the call takes no time. -/
lemma keeps_lapse_modify {f : World σ → World σ} (h : ∀ w, (f w).outer = w.outer) :
    Keeps (Lapse time L) (modify f : Call σ Unit) := fun w =>
  .of_eq (congrArg time (h w)) (by simp [trace])

/-- An event other than a sleep takes no time. -/
lemma keeps_lapse_emit {e : Event σ} (h : ∀ d s, e ≠ .sleep d s) :
    Keeps (Lapse time L) (emit e : Call σ Unit) := fun _ =>
  .of_eq rfl fun d s hd => h d s (List.mem_singleton.mp hd).symm

/-- Acting on the outside world in a way that takes no time. -/
lemma keeps_lapse_outside {α : Type} {f : σ → α × σ} (h : ∀ s, time (f s).2 = time s) :
    Keeps (Lapse time L) (outsideDo f : Call σ α) := fun w =>
  .of_eq (h w.outer) (by simp [trace, outsideDo])

/-- Recording an attempt takes no time. -/
lemma keeps_lapse_addAttempt (a : Attempt) :
    Keeps (Lapse time L) (addAttempt a : Call σ Unit) :=
  keeps_lapse_modify fun _ => rfl

end Still

namespace Gateway

open Prog

variable (hG : Timed G time)

include hG

/-- Reading the clock takes no time. -/
lemma keeps_lapse_monotonic : Keeps (Lapse time L) G.monotonic :=
  keeps_lapse_outside fun s => (hG.monotonic s).2

/-- Reading the clock, or not, takes no time. -/
lemma keeps_lapse_monotonicIf (needed : Bool) :
    Keeps (Lapse time L) (G.monotonicIf needed) := by
  cases needed with
  | true => exact keeps_lapse_monotonic hG
  | false => exact .pure frame_lapse _

/-- Measuring a latency takes no time. -/
lemma keeps_lapse_latencySince (started : ℚ) : Keeps (Lapse time L) (G.latencySince started) :=
  .bind frame_lapse (keeps_lapse_monotonic hG) fun _ => .pure frame_lapse _

/-- An attempt with its latency takes no time. -/
lemma keeps_lapse_recordAttempt (target : Target) (outcome : AttemptOutcome) (started : ℚ)
    (error : Option Str) :
    Keeps (Lapse time L) (G.recordAttempt target outcome started error) :=
  .bind frame_lapse (keeps_lapse_latencySince hG started) fun _ => keeps_lapse_addAttempt _

/-- Capturing a call takes no time. -/
lemma keeps_lapse_record (request : NormalizedRequest) (started : ℚ) (c : Captured) :
    Keeps (Lapse time L) (G.record request started c) := by
  refine .bind frame_lapse (keeps_lapse_emit (by simp)) fun _ =>
    .bind frame_lapse (keeps_lapse_latencySince hG started) fun latency =>
    .bind frame_lapse (keeps_lapse_modify fun _ => rfl) fun _ => ?_
  split
  · exact keeps_lapse_emit (by simp)
  · exact .pure frame_lapse _

/-- Capturing a failed call takes no time. -/
lemma keeps_lapse_recordError (request : NormalizedRequest) (started : ℚ) (key : Option Str)
    (errorType : ErrorType) (message resolved : Option Str) :
    Keeps (Lapse time L) (G.recordError request started key errorType message resolved) :=
  .bind frame_lapse (.gets frame_lapse _) fun _ => keeps_lapse_record hG _ _ _

/-- Capturing an answered call takes no time. -/
lemma keeps_lapse_recordAnswer (request : NormalizedRequest) (started : ℚ) (key : Option Str)
    (target : Target) (resp : NormalizedResponse) (idx : ℕ) :
    Keeps (Lapse time L) (G.recordAnswer request started key target resp idx) :=
  .bind frame_lapse (.gets frame_lapse _) fun _ => keeps_lapse_record hG _ _ _

/-- Reporting a failure takes no time. -/
lemma keeps_lapse_reportFailure (provider : Str) :
    Keeps (Lapse time L) (G.reportFailure provider) := by
  refine .bind frame_lapse (.gets frame_lapse _) fun cb =>
    .bind frame_lapse (keeps_lapse_monotonicIf hG _) fun now => ?_
  exact .bind frame_lapse (keeps_lapse_modify fun _ => rfl) fun _ => keeps_lapse_emit (by simp)

/-- The breaker guard takes no time. -/
lemma keeps_lapse_circuitBlocked (target : Target) :
    Keeps (Lapse time L) (G.circuitBlocked target) := by
  refine .bind frame_lapse ?_ fun allowed => ?_
  · refine .bind frame_lapse (.gets frame_lapse _) fun cb =>
      .bind frame_lapse (keeps_lapse_monotonicIf hG _) fun now => ?_
    exact .bind frame_lapse (keeps_lapse_modify fun _ => rfl) fun _ => .pure frame_lapse _
  · split
    · exact .pure frame_lapse _
    · exact .bind frame_lapse (keeps_lapse_addAttempt _) fun _ => .pure frame_lapse _

/-- The deadline guard takes no time. -/
lemma keeps_lapse_deadlineExceeded (target : Target) (deadline : Option ℚ) :
    Keeps (Lapse time L) (G.deadlineExceeded target deadline) := by
  unfold deadlineExceeded
  split
  · exact .pure frame_lapse _
  · refine .bind frame_lapse (keeps_lapse_monotonic hG) fun now => ?_
    split
    · exact .bind frame_lapse (keeps_lapse_addAttempt _) fun _ => .pure frame_lapse _
    · exact .pure frame_lapse _

/-- A cache lookup takes no time. -/
lemma keeps_lapse_cacheGet (key : Option Str) : Keeps (Lapse time L) (G.cacheGet key) := by
  unfold cacheGet
  split
  · next k c hc =>
    refine .bind frame_lapse (keeps_lapse_outside fun s => hG.cacheGet c hc k s) fun r => ?_
    split <;> exact .pure frame_lapse _
  · exact .pure frame_lapse _

/-- A cache entry takes no time. -/
lemma keeps_lapse_cacheSet (key : Option Str) (resp : NormalizedResponse) :
    Keeps (Lapse time L) (G.cacheSet key resp) := by
  unfold cacheSet
  split
  · next k c hc =>
    exact .bind frame_lapse (keeps_lapse_outside fun s => hG.cacheSet c hc k resp _ s) fun _ =>
      .pure frame_lapse _
  · exact .pure frame_lapse _

omit hG in
/-- Reporting a success takes no time. -/
lemma keeps_lapse_reportSuccess (provider : Str) :
    Keeps (Lapse time L) (reportSuccess provider : Call σ Unit) :=
  .bind frame_lapse (keeps_lapse_modify fun _ => rfl) fun _ => keeps_lapse_emit (by simp)

/-! ## What takes time -/

/-- A pause is not negative. -/
lemma run_backoff_timed (n : ℕ) (w : World σ) :
    ∃ d s, (G.backoff n).run w = (.ok d, { w with outer := s }, []) ∧ 0 ≤ d ∧
      time s = time w.outer := by
  unfold backoff
  by_cases h : G.retry.baseBackoffS * 2 ^ n ≤ 0 ∨ G.retry.jitterRatio ≤ 0
  · refine ⟨G.retry.baseBackoffS * 2 ^ n, w.outer, by simp [h], ?_, rfl⟩
    exact mul_nonneg G.retry.baseBackoff_nonneg (by positivity)
  · let jitter := G.retry.baseBackoffS * 2 ^ n * G.retry.jitterRatio
    let x := G.outside.uniform (G.retry.baseBackoffS * 2 ^ n - jitter)
      (G.retry.baseBackoffS * 2 ^ n + jitter) w.outer
    refine ⟨max 0 x.1, x.2, ?_, le_max_left _ _, hG.uniform _ _ _⟩
    simp only [h, if_false]
    rfl

/-- A pause takes the time it says. -/
lemma keeps_lapse_pause (n : ℕ) : Keeps (Lapse time L) (G.pause n) := by
  unfold pause
  split
  · refine .of_run fun w => ?_
    obtain ⟨d, s, hd, hnonneg, hs⟩ := run_backoff_timed hG n w
    have hsleep := hG.sleep d s hnonneg
    refine ⟨_, _, _, Prog.run_bind_ok hd, ?_, ?_, ?_⟩
    · rw [run_sleep]
      simp only [hsleep]
      linarith
    · intro d' s' hd'
      rw [run_sleep] at hd'
      obtain ⟨rfl, rfl⟩ : d' = d ∧ s' = s := by simpa using hd'
      exact hsleep.ge
    · intro _ hall
      rw [run_sleep] at hall ⊢
      exact hsleep.trans_le (hall d s (by simp))
  · exact .pure frame_lapse _

/-- The clock shows the time, and reading it takes none. -/
lemma run_monotonic_timed (w : World σ) :
    ∃ s, G.monotonic.run w = (.ok (time w.outer), { w with outer := s }, []) ∧
      time s = time w.outer := by
  obtain ⟨hnow, hstill⟩ := hG.monotonic w.outer
  refine ⟨(G.outside.monotonic w.outer).2, ?_, hstill⟩
  rw [← hnow]
  rfl

/-- The timeout of an attempt ends at the deadline; once the deadline has passed there is none. -/
lemma run_timeoutWithin_timed (w : World σ) :
    ∃ (slot : Option TimeoutSlot) (s : σ),
      (G.timeoutWithin (some L)).run w = (.ok slot, { w with outer := s }, []) ∧
      time s = time w.outer ∧
      ∀ t ∈ slot, 0 ≤ t.timeout ∧ time w.outer + t.timeout ≤ L := by
  obtain ⟨s, hmono, hs⟩ := run_monotonic_timed hG w
  unfold timeoutWithin
  by_cases hL : L - time w.outer ≤ 0
  · refine ⟨none, s, ?_, hs, by simp⟩
    rw [Prog.run_bind_ok hmono, if_pos hL]
    rfl
  · refine ⟨some ⟨min G.retry.timeoutS (L - time w.outer), some (time w.outer)⟩, s, ?_, hs, ?_⟩
    · rw [Prog.run_bind_ok hmono, if_neg hL]
      rfl
    · intro t ht
      obtain rfl := Option.some.inj ht
      have hmin : min G.retry.timeoutS (L - time w.outer) ≤ L - time w.outer := min_le_right _ _
      exact ⟨le_min G.retry.timeout_pos.le (not_le.mp hL).le, by linarith⟩

/-- A provider called with a timeout returns or raises within it. -/
lemma run_callProvider_timed {name : Str} {provider : Provider σ}
    (hp : G.providers.get? name = some provider) (target : Target) (request : NormalizedRequest)
    {slot : TimeoutSlot} (hslot : 0 ≤ slot.timeout) (w : World σ) :
    ∃ out s, (callProvider provider target request slot).run w =
        (.ok out, { w with outer := s }, [.call target slot out]) ∧
      time w.outer ≤ time s ∧ time s ≤ time w.outer + slot.timeout := by
  obtain ⟨hle, hbound⟩ := hG.invoke name provider hp target request slot.timeout w.outer hslot
  exact ⟨_, _, rfl, hle, hbound⟩

/-- The retry loop within a deadline: every provider call ends by it, whatever the time. -/
lemma keeps_lapse_invokeTargetFrom {name : Str} {provider : Provider σ}
    (hp : G.providers.get? name = some provider) (target : Target) (request : NormalizedRequest)
    (left n : ℕ) (last : Exc) :
    Keeps (Lapse time L)
      (G.invokeTargetFrom provider target request (some L) n last left) := by
  induction left generalizing n last with
  | zero => exact .raise frame_lapse _
  | succ left ih =>
    intro w
    change Sat _ w (fun _ w' es => Lapse time L w w' es)
    rw [invokeTargetFrom]
    obtain ⟨slot, s₁, h₁, hs₁, hslot⟩ := run_timeoutWithin_timed (L := L) hG w
    refine .bind_run h₁ ?_
    cases slot with
    | none => exact .of_run (Prog.run_raise _ _) (.of_eq hs₁ (by simp))
    | some slot =>
      obtain ⟨hnonneg, hends⟩ := hslot slot rfl
      -- the clock is read once more, then the provider is called with what remains
      obtain ⟨s₂, h₂, hs₂⟩ := run_monotonic_timed hG { w with outer := s₁ }
      refine .bind_run h₂ ?_
      obtain ⟨out, s₃, h₃, hle, hbound⟩ :=
        run_callProvider_timed hG hp target request hnonneg { w with outer := s₂ }
      refine .bind_run h₃ ?_
      have hstill : time s₂ = time w.outer := hs₂.trans hs₁
      have hlapse : Lapse time L w { w with outer := s₃ } [.call target slot out] := by
        refine ⟨?_, by simp, fun _ _ => ?_⟩
        · exact hstill.symm.trans_le hle
        · exact (hbound.trans_eq (by rw [hstill])).trans hends
      refine Sat.imp (Q := fun _ w' es => Lapse time L { w with outer := s₃ } w' es) ?_ ?_
      swap
      · intro _ w' es h
        simpa using frame_lapse.trans hlapse h
      refine (?_ : Keeps (Lapse time L) _) _
      cases out with
      | ok resp =>
        exact .bind frame_lapse (keeps_lapse_recordAttempt hG _ _ _ _) fun _ => .pure frame_lapse _
      | error e =>
        dsimp only
        split
        · exact .bind frame_lapse (keeps_lapse_recordAttempt hG _ _ _ _) fun _ =>
            .raise frame_lapse _
        · split
          · exact .bind frame_lapse (keeps_lapse_recordAttempt hG _ _ _ _) fun _ =>
              .bind frame_lapse (keeps_lapse_pause hG n) fun _ => ih (n + 1) e
          · exact .raise frame_lapse _

/-- The loop over the targets within a deadline. -/
lemma keeps_lapse_walk (request : NormalizedRequest) (started : ℚ) (key : Option Str)
    (targets : List Target) (idx : ℕ) :
    Keeps (Lapse time L) (G.walk request started key (some L) idx targets) := by
  have hfail : Keeps (Lapse time L) (G.allFailed request started key) :=
    .bind frame_lapse (.gets frame_lapse _) fun _ =>
      .bind frame_lapse (keeps_lapse_recordError hG _ _ _ _ _ _) fun _ => .raise frame_lapse _
  induction targets generalizing idx with
  | nil => exact hfail
  | cons t rest ih =>
    rw [walk]
    refine .bind frame_lapse (keeps_lapse_deadlineExceeded hG t _) fun passed => ?_
    split
    · exact hfail
    · split
      · exact .bind frame_lapse (keeps_lapse_recordError hG _ _ _ _ _ _) fun _ =>
          .raise frame_lapse _
      · next provider hp =>
        split
        · exact .bind frame_lapse (keeps_lapse_recordError hG _ _ _ _ _ _) fun _ =>
            .raise frame_lapse _
        · refine .bind frame_lapse (keeps_lapse_circuitBlocked hG t) fun blocked => ?_
          split
          · exact ih (idx + 1)
          · refine .bind frame_lapse (.attempt (keeps_lapse_invokeTargetFrom hG hp _ _ _ _ _))
              fun out => ?_
            cases out with
            | ok resp =>
              exact .bind frame_lapse (keeps_lapse_reportSuccess _) fun _ =>
                .bind frame_lapse (keeps_lapse_cacheSet hG _ _) fun _ =>
                .bind frame_lapse (keeps_lapse_recordAnswer hG _ _ _ _ _ _) fun _ =>
                .pure frame_lapse _
            | error e =>
              dsimp only
              split
              · exact .bind frame_lapse (keeps_lapse_reportFailure hG _) fun _ =>
                  .bind frame_lapse (keeps_lapse_recordError hG _ _ _ _ _ _) fun _ =>
                  .raise frame_lapse _
              · split
                · exact ih (idx + 1)
                · split
                  · exact .bind frame_lapse (keeps_lapse_reportFailure hG _) fun _ => ih (idx + 1)
                  · exact .raise frame_lapse _

/-- A call that is checked already, within its deadline. -/
lemma keeps_lapse_invokeKeyed (request : NormalizedRequest) {started : ℚ} (key : Option Str)
    (hL : G.deadlineFor started = some L) :
    Keeps (Lapse time L) (G.invokeKeyed request started key) := by
  refine .bind frame_lapse (keeps_lapse_cacheGet hG key) fun cached => ?_
  split
  · exact .bind frame_lapse (keeps_lapse_record hG _ _ _) fun _ => .pure frame_lapse _
  · refine .bind frame_lapse ?_ fun _ => .bind frame_lapse ?_ fun targets => ?_
    · refine .bind frame_lapse (.attempt (.bind frame_lapse (.gets frame_lapse _) fun _ =>
        .ofExcept frame_lapse _)) fun r => ?_
      split
      · exact .pure frame_lapse _
      · exact .bind frame_lapse (keeps_lapse_recordError hG _ _ _ _ _ _) fun _ =>
          .raise frame_lapse _
    · unfold resolveTargets
      split
      · exact .pure frame_lapse _
      · exact .bind frame_lapse (keeps_lapse_recordError hG _ _ _ _ _ _) fun _ =>
          .raise frame_lapse _
    · rw [hL]
      exact keeps_lapse_walk hG request started key targets 0

/-- A whole call within its deadline. -/
lemma lapse_invoke (request : NormalizedRequest) (w : World σ) (hD : 0 < G.requestDeadlineS) :
    Lapse time (time w.outer + G.requestDeadlineS) w ((G.invoke request).final w)
      ((G.invoke request).trace w) := by
  change Sat _ w (fun _ w' es => Lapse time (time w.outer + G.requestDeadlineS) w w' es)
  obtain ⟨s, hmono, hstill⟩ := run_monotonic_timed hG { w with attempts := [] }
  have hL : G.deadlineFor (time w.outer) = some (time w.outer + G.requestDeadlineS) := if_pos hD
  rw [invoke]
  refine .bind_run (Prog.run_modify _ _) (.bind_run hmono ?_)
  refine Sat.imp (Q := fun _ w' es => Lapse time (time w.outer + G.requestDeadlineS)
    { w with outer := s, attempts := [] } w' es) ?_ ?_
  · refine (?_ : Keeps (Lapse time _) _) _
    refine .bind frame_lapse ?_ fun _ => .bind frame_lapse (.ofExcept frame_lapse _) fun key =>
      keeps_lapse_invokeKeyed hG request key hL
    unfold checkRequest
    split
    · exact .pure frame_lapse _
    · dsimp only
      split
      · exact .bind frame_lapse (keeps_lapse_recordError hG _ _ _ _ _ _) fun _ =>
          .raise frame_lapse _
      · exact .raise frame_lapse _
  · intro _ w' es h
    exact frame_lapse.trans (.of_eq hstill (by simp)) h

/-- A call ends by its deadline exactly when its sleeps do. -/
lemma in_time_iff_sleeps (hD : 0 < G.requestDeadlineS) (request : NormalizedRequest)
    (w : World σ) :
    time ((G.invoke request).final w).outer ≤ time w.outer + G.requestDeadlineS ↔
      ∀ d s, (d, s) ∈ sleepsOf ((G.invoke request).trace w) →
        time s + d ≤ time w.outer + G.requestDeadlineS := by
  have hlapse := lapse_invoke hG request w hD
  simp only [mem_sleepsOf]
  constructor
  · exact fun h d s hd => (hlapse.sleeps d s hd).trans h
  · exact fun h => hlapse.bound (le_add_of_nonneg_right hD.le) h

/-- Drawing the length of a pause takes no time. -/
lemma time_pauseAt (n : ℕ) (s : σ) : time (G.pauseAt n s).2 = time s := by
  unfold pauseAt
  dsimp only
  split
  · rfl
  · exact hG.uniform _ _ _

end Gateway

/-- **The deadline of a call.** In a world where time passes in provider calls and sleeps only, and
every provider called with a timeout returns or raises within it, a call with a deadline of `D`
seconds ends no later than `D` seconds after its start exactly when each failed attempt that is not
the last one at its target leaves enough of them for the pause after it: `base_backoff_s * 2 ** n`
seconds after attempt `n`, with the jitter drawn for them. -/
theorem invoke_in_time_iff (hG : Timed G time) (hD : 0 < G.requestDeadlineS)
    (request : NormalizedRequest) (w : World σ) :
    time ((G.invoke request).final w).outer ≤ time w.outer + G.requestDeadlineS ↔
      ∀ f ∈ G.callFailedAttempts request w,
        time f.after + (G.pauseAt f.n f.after).1 ≤ time w.outer + G.requestDeadlineS := by
  rw [Gateway.in_time_iff_sleeps hG hD, Gateway.sleepsOf_invoke request hD w]
  simp only [List.mem_map, Prod.ext_iff]
  constructor
  · intro h f hf
    have hpause := h _ _ ⟨f, hf, rfl, rfl⟩
    rwa [Gateway.time_pauseAt hG] at hpause
  · rintro h d s ⟨f, hf, rfl, rfl⟩
    rw [Gateway.time_pauseAt hG]
    exact h f hf

/-- A deadline of one second, and a pause of an hour after the first failed attempt. -/
def hourlyGateway : Gateway Scripted :=
  { scriptedGateway with
    requestDeadlineS := 1,
    retry := { RetryConfig.defaults with
      baseBackoffS := 3600, jitterRatio := 0,
      baseBackoff_nonneg := by norm_num, jitter_nonneg := by norm_num,
      jitter_le_one := by norm_num } }

/-- The first target is busy twice, each time for half a second. -/
def busyHalfSecond : World Scripted :=
  { outer := { outcomes :=
      [(1 / 2, .error (.retriable "busy")), (1 / 2, .error (.retriable "busy"))] } }

/-- Scripted providers keep to the timeout they are given. -/
lemma timed_hourlyGateway : Timed hourlyGateway Scripted.now where
  monotonic _ := ⟨rfl, rfl⟩
  sleep _ _ _ := rfl
  uniform _ _ _ := rfl
  cacheGet c hc := by cases hc
  cacheSet c hc := by cases hc
  invoke name p hp target request timeout s htimeout := by
    obtain rfl := scriptedProvider_of_get? hp
    obtain ⟨now, outcomes⟩ := s
    cases outcomes with
    | nil => exact ⟨le_rfl, le_add_of_nonneg_right htimeout⟩
    | cons o rest =>
      have hnonneg : 0 ≤ min (max 0 o.1) timeout := le_min (le_max_left _ _) htimeout
      exact ⟨le_add_of_nonneg_right hnonneg, by simp [scriptedProvider]⟩

/-- The call on a busy provider, with a pause of an hour. -/
theorem invoke_in_time_iff_busyHalfSecond :
    Timed hourlyGateway Scripted.now ∧ 0 < hourlyGateway.requestDeadlineS ∧
      (((hourlyGateway.invoke plainRequest).final busyHalfSecond).outer.now ≤ 0 + 1 ↔
        ∀ f ∈ hourlyGateway.callFailedAttempts plainRequest busyHalfSecond,
          f.after.now + (hourlyGateway.pauseAt f.n f.after).1 ≤ 0 + 1) :=
  ⟨timed_hourlyGateway, by decide +kernel,
    invoke_in_time_iff timed_hourlyGateway (by decide +kernel) plainRequest busyHalfSecond⟩

/-- With a deadline of one second, the call ends after an hour. -/
theorem hourlyGateway_overruns :
    ¬ (Timed hourlyGateway Scripted.now →
      ((hourlyGateway.invoke plainRequest).final busyHalfSecond).outer.now ≤
        busyHalfSecond.outer.now + hourlyGateway.requestDeadlineS) := by
  intro h
  have hnow : ((hourlyGateway.invoke plainRequest).final busyHalfSecond).outer.now = 7201 / 2 := by
    decide +kernel
  have hle := h timed_hourlyGateway
  rw [hnow] at hle
  exact absurd hle (by decide +kernel)

end AgentCtl
