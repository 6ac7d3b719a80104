import AgentCtl.Core.HostLaws

set_option relaxedAutoImplicit false
set_option autoImplicit false

/-!
# The failed attempts of a chat call

A gateway pauses after an attempt that failed and is not the last one at its target. When such
attempts fail, and in which world, is decided by the providers, the clock, the breaker and the
guards. It is read off them here without the call: `callFailedAttempts` follows the request from
target to target and lists the failed attempts, and `pauseAt` says from the retry settings alone how
long the pause after one of them has to be.

The two are connected to the call by `sleepsOf_invoke`: a call sleeps once for each failed attempt,
from the world in which the attempt ended, and for as long as `pauseAt` says.

## Main definitions

* `AgentCtl.FailedAttempt` — the number of an attempt, and the world it ended in.
* `AgentCtl.Gateway.pauseAt` — `base_backoff_s * 2 ** n`, with its jitter.
* `AgentCtl.Gateway.failedAttempts`, `chainFailedAttempts`, `callFailedAttempts` — the failed
  attempts at a target, along a chain, and of a whole call.

## Main results

* `AgentCtl.Gateway.sleepsOf_invoke` — what a call sleeps.
-/

namespace AgentCtl

variable {σ α β : Type}

/-! ## Sleeps of a trace -/

/-- The event as a sleep: its length, and the world it begins in. -/
@[simp] def Event.sleep? : Event σ → Option (ℚ × σ)
  | sleep d s => some (d, s)
  | _ => none

/-- The sleeps of a trace. -/
def sleepsOf (es : List (Event σ)) : List (ℚ × σ) := es.filterMap Event.sleep?

section Sleeps

variable (e : Event σ) (es fs : List (Event σ))

@[simp] lemma sleepsOf_nil : sleepsOf ([] : List (Event σ)) = [] := rfl

@[simp] lemma sleepsOf_cons : sleepsOf (e :: es) = e.sleep?.toList ++ sleepsOf es :=
  filterMap_cons_toList _ _ _

@[simp] lemma sleepsOf_append : sleepsOf (es ++ fs) = sleepsOf es ++ sleepsOf fs :=
  List.filterMap_append

/-- A sleep of a trace is among its sleeps. -/
lemma mem_sleepsOf {d : ℚ} {s : σ} : (d, s) ∈ sleepsOf es ↔ .sleep d s ∈ es := by
  refine List.mem_filterMap.trans ⟨?_, fun h => ⟨_, h, rfl⟩⟩
  rintro ⟨e, he, hsleep⟩
  cases e with
  | sleep d' s' =>
    obtain ⟨rfl, rfl⟩ : d' = d ∧ s' = s := by simpa using hsleep
    exact he
  | _ => cases hsleep

end Sleeps

/-! ## Failed attempts -/

/-- An attempt that failed: its number among those at its target, and the world it ended in. -/
structure FailedAttempt (σ : Type) where
  n : ℕ
  after : σ

/-- What is found after a program, from where it ends; nothing if it raises. -/
def foundAfter (m : Call σ α) (next : α → World σ → List β) (w : World σ) : List β :=
  match m.run w with
  | (.ok a, w', _) => next a w'
  | (.error _, _, _) => []

lemma foundAfter_of_run {m : Call σ α} {next : α → World σ → List β} {w w' : World σ} {a : α}
    {es : List (Event σ)} (h : m.run w = (.ok a, w', es)) :
    foundAfter m next w = next a w' := by
  rw [foundAfter, h]

namespace Gateway

variable (G : Gateway σ)

/-- The pause after attempt `n`, begun in the world `s`, and the world after it is drawn:
`base_backoff_s * 2 ** n`, or a number drawn around it if there is jitter. -/
def pauseAt (n : ℕ) (s : σ) : ℚ × σ :=
  let base := G.retry.baseBackoffS * 2 ^ n
  let jitter := base * G.retry.jitterRatio
  if base ≤ 0 ∨ G.retry.jitterRatio ≤ 0 then (base, s)
  else (G.outside.uniform (base - jitter) (base + jitter) s).map (max 0) id

/-- The attempts at one target, from attempt `n` on, that fail and are not the last one, with a
deadline at `L`: the number of attempts left decides. -/
def failedAttempts (provider : Provider σ) (target : Target) (request : NormalizedRequest) (L : ℚ)
    (n : ℕ) : ℕ → σ → List (FailedAttempt σ)
  | 0, _ => []
  | left + 1, s =>
    let (now, s) := G.outside.monotonic s
    if L ≤ now then []
    else
      let (_, s) := G.outside.monotonic s
      let (out, s) := provider.invoke target request (min G.retry.timeoutS (L - now)) s
      match out with
      | .ok _ => []
      | .error e =>
        if !e.isTerminal && (e.isRetriable || e.isTimeout) then
          let (_, s) := G.outside.monotonic s
          if n < G.retry.maxAttemptsPerTarget - 1 then
            let (d, s') := G.pauseAt n s
            ⟨n, s⟩ :: failedAttempts provider target request L (n + 1) left (G.outside.sleep d s')
          else failedAttempts provider target request L (n + 1) left s
        else []

/-- The failed attempts along a chain with a deadline at `L`, from a world on: at each target that
the time and the breaker let through, until one of them answers or the chain is left. -/
def chainFailedAttempts (request : NormalizedRequest) (L : ℚ) :
    List Target → World σ → List (FailedAttempt σ)
  | [] => fun _ => []
  | target :: rest =>
    foundAfter (G.deadlineExceeded target (some L)) fun passed =>
      if passed then fun _ => []
      else
        match G.providers.get? target.provider, G.costMeter.ensurePrice target.name with
        | some provider, .ok () => foundAfter (G.circuitBlocked target) fun blocked =>
          if blocked then chainFailedAttempts request L rest
          else fun w =>
            G.failedAttempts provider target request L 0 G.retry.maxAttemptsPerTarget w.outer ++
              foundAfter (Prog.attempt (G.invokeTarget provider target request (some L)))
                (fun out => match out with
                  | .ok _ => fun _ => []
                  | .error e =>
                    if e.isTerminal then fun _ => []
                    else if e.isDeadline then chainFailedAttempts request L rest
                    else if e.isRetriable then
                      foundAfter (G.reportFailure target.provider) fun _ =>
                        chainFailedAttempts request L rest
                    else fun _ => []) w
        | _, _ => fun _ => []

/-- The failed attempts of a whole call with a deadline: those along its chain, unless the request
is refused before, or answered from the cache. -/
def callFailedAttempts (request : NormalizedRequest) : World σ → List (FailedAttempt σ) :=
  foundAfter (Prog.modify fun w => { w with attempts := [] }) fun _ =>
  foundAfter G.monotonic fun started =>
  foundAfter (G.checkRequest request started) fun _ =>
  foundAfter (Prog.ofExcept (G.cacheKeyFor request)) fun key =>
  foundAfter (G.cacheGet key) fun cached => match cached with
    | some _ => fun _ => []
    | none =>
      foundAfter (G.checkBudget request started key) fun _ =>
      foundAfter (G.resolveTargets request started key) fun targets =>
      G.chainFailedAttempts request (started + G.requestDeadlineS) targets

/-! ## A call sleeps for its failed attempts -/

/-- A program sleeps once for each of the attempts found, from the world it ended in, and for as
long as the retry settings say. -/
def SleepsFor (found : World σ → List (FailedAttempt σ)) (m : Call σ α) : Prop :=
  ∀ w, sleepsOf (m.trace w) = (found w).map fun f => G.pauseAt f.n f.after

/-- A program that does not sleep. -/
abbrev Sleepless (m : Call σ α) : Prop :=
  Prog.Keeps (fun _ _ es => sleepsOf es = []) m

/-- Not to sleep adds up along a run. -/
lemma frame_sleepless :
    Prog.Frame fun (_ _ : World σ) (es : List (Event σ)) => sleepsOf es = [] where
  refl _ := rfl
  trans h₁ h₂ := by rw [sleepsOf_append, h₁, h₂, List.append_nil]

variable {G}

/-- A program that does not sleep has no failed attempts. -/
lemma Sleepless.sleepsFor {m : Call σ α} (h : Sleepless m) : G.SleepsFor (fun _ => []) m := h

/-- Programs in sequence: the sleeps of the second follow those of the first. -/
lemma SleepsFor.bind {m : Call σ α} {f : α → Call σ β} {found : World σ → List (FailedAttempt σ)}
    {next : α → World σ → List (FailedAttempt σ)} (hm : G.SleepsFor found m)
    (hf : ∀ a, G.SleepsFor (next a) (f a)) :
    G.SleepsFor (fun w => found w ++ foundAfter m next w) (m >>= f) := by
  intro w
  have hfirst := hm w
  unfold Prog.trace at hfirst ⊢
  dsimp only
  rcases hr : m.run w with ⟨e | a, w₁, es⟩
  · rw [hr] at hfirst
    rw [Prog.run_bind_error hr, foundAfter, hr, List.append_nil]
    exact hfirst
  · rw [hr] at hfirst
    rw [Prog.run_bind_ok hr, sleepsOf_append, List.map_append, ← hfirst, foundAfter_of_run hr]
    exact congrArg (sleepsOf es ++ ·) (hf a w₁)

/-- What follows a program that does not sleep. -/
lemma Sleepless.followed {m : Call σ α} {f : α → Call σ β}
    {next : α → World σ → List (FailedAttempt σ)} (hm : Sleepless m)
    (hf : ∀ a, G.SleepsFor (next a) (f a)) : G.SleepsFor (foundAfter m next) (m >>= f) :=
  SleepsFor.bind hm.sleepsFor hf

/-! ### What does not sleep -/

open Prog

/-- Acting on the world outside. -/
lemma run_outsideDo {f : σ → α × σ} {w : World σ} {a : α} {s : σ} (h : f w.outer = (a, s)) :
    (outsideDo f).run w = (.ok a, { w with outer := s }, []) := by
  rw [outsideDo, run_modifyGet, h]

/-- Acting on the world outside other than by a sleep. -/
lemma sleepless_outsideDo {f : σ → α × σ} : Sleepless (outsideDo f) := fun _ => rfl

/-- Recording an attempt. -/
lemma sleepless_recordAttempt (target : Target) (outcome : AttemptOutcome) (started : ℚ)
    (error : Option Str) : Sleepless (G.recordAttempt target outcome started error) :=
  fun _ => rfl

/-- Capturing a call. -/
lemma sleepless_record (request : NormalizedRequest) (started : ℚ) (c : Captured) :
    Sleepless (G.record request started c) := by
  refine .of_run fun w => ?_
  obtain ⟨latency, s, h⟩ := G.run_record w request started c
  refine ⟨_, _, _, h, ?_⟩
  unfold captureEvents
  split <;> rfl

/-- Capturing a failed call. -/
lemma sleepless_recordError (request : NormalizedRequest) (started : ℚ) (key : Option Str)
    (errorType : ErrorType) (message resolved : Option Str) :
    Sleepless (G.recordError request started key errorType message resolved) :=
  fun w => sleepless_record request started _ w

/-- Capturing an answered call. -/
lemma sleepless_recordAnswer (request : NormalizedRequest) (started : ℚ) (key : Option Str)
    (target : Target) (resp : NormalizedResponse) (idx : ℕ) :
    Sleepless (G.recordAnswer request started key target resp idx) :=
  fun w => sleepless_record request started _ w

/-- Capturing a failed call, and raising its exception. -/
lemma sleepless_recordError_raise (request : NormalizedRequest) (started : ℚ) (key : Option Str)
    (errorType : ErrorType) (message resolved : Option Str) (e : Exc) :
    Sleepless (do
      G.recordError request started key errorType message resolved
      Prog.raise (α := α) e) :=
  .bind frame_sleepless (sleepless_recordError _ _ _ _ _ _) fun _ => .raise frame_sleepless _

/-- The end of a chain without an answer. -/
lemma sleepless_allFailed (request : NormalizedRequest) (started : ℚ) (key : Option Str) :
    Sleepless (G.allFailed request started key) :=
  .bind frame_sleepless (.gets frame_sleepless _) fun _ => sleepless_recordError_raise _ _ _ _ _ _ _

/-- The deadline guard. -/
lemma sleepless_deadlineExceeded (target : Target) (deadline : Option ℚ) :
    Sleepless (G.deadlineExceeded target deadline) :=
  .of_run fun w =>
    let ⟨_, _, h⟩ := G.run_deadlineExceeded w target deadline
    ⟨_, _, _, h, rfl⟩

/-- The breaker guard. -/
lemma sleepless_circuitBlocked (target : Target) : Sleepless (G.circuitBlocked target) :=
  .of_run fun w =>
    let ⟨_, h⟩ := G.run_circuitBlocked_reading w target
    ⟨_, _, _, h, rfl⟩

/-- Reporting a failure. -/
lemma sleepless_reportFailure (provider : Str) : Sleepless (G.reportFailure provider) :=
  .of_run fun w =>
    let ⟨_, h⟩ := G.run_reportFailure_reading w provider
    ⟨_, _, _, h, rfl⟩

/-- A cache lookup. -/
lemma sleepless_cacheGet (key : Option Str) : Sleepless (G.cacheGet key) :=
  .of_run fun w =>
    let ⟨_, _, h⟩ := G.run_cacheGet w key
    ⟨_, _, _, h, rfl⟩

/-- A cache entry. -/
lemma sleepless_cacheSet (key : Option Str) (resp : NormalizedResponse) :
    Sleepless (G.cacheSet key resp) :=
  .of_run fun w =>
    let ⟨_, h⟩ := G.run_cacheSet w key resp
    ⟨_, _, _, h, rfl⟩

/-- The local validation. -/
lemma sleepless_checkRequest (request : NormalizedRequest) (started : ℚ) :
    Sleepless (G.checkRequest request started) := by
  unfold checkRequest
  split
  · exact .pure frame_sleepless _
  · dsimp only
    split
    · exact sleepless_recordError_raise _ _ _ _ _ _ _
    · exact .raise frame_sleepless _

/-- The budget gate. -/
lemma sleepless_checkBudget (request : NormalizedRequest) (started : ℚ) (key : Option Str) :
    Sleepless (G.checkBudget request started key) := by
  refine .bind frame_sleepless (.attempt (.bind frame_sleepless (.gets frame_sleepless _)
    fun _ => .ofExcept frame_sleepless _)) fun r => ?_
  cases r with
  | ok => exact .pure frame_sleepless _
  | error e => exact sleepless_recordError_raise _ _ _ _ _ _ _

/-- The resolution of the model. -/
lemma sleepless_resolveTargets (request : NormalizedRequest) (started : ℚ) (key : Option Str) :
    Sleepless (G.resolveTargets request started key) := by
  unfold resolveTargets
  split
  · exact .pure frame_sleepless _
  · exact sleepless_recordError_raise _ _ _ _ _ _ _

/-! ### What sleeps -/

/-- The pause after an attempt, if it is not the last one, is as long as the settings say. -/
lemma run_pause_eq (n : ℕ) (w : World σ) :
    (G.pause n).run w =
      if n < G.retry.maxAttemptsPerTarget - 1 then
        (.ok (),
          { w with outer := G.outside.sleep (G.pauseAt n w.outer).1 (G.pauseAt n w.outer).2 },
          [.sleep (G.pauseAt n w.outer).1 (G.pauseAt n w.outer).2])
      else (.ok (), w, []) := by
  unfold pause
  split
  · have hd : (G.backoff n).run w =
        (.ok (G.pauseAt n w.outer).1, { w with outer := (G.pauseAt n w.outer).2 }, []) := by
      unfold backoff pauseAt
      dsimp only
      split <;> rfl
    rw [run_bind_ok hd]
    rfl
  · rfl

/-- Recording an attempt leaves the world in which the clock was read for its latency. -/
lemma run_recordAttempt_at {w : World σ} {now : ℚ} {s : σ}
    (h : G.outside.monotonic w.outer = (now, s)) (target : Target) (outcome : AttemptOutcome)
    (started : ℚ) (error : Option Str) :
    ∃ attempts, (G.recordAttempt target outcome started error).run w =
      (.ok (), { w with outer := s, attempts := attempts }, []) := by
  refine ⟨w.attempts ++ [⟨target.provider, target.model, outcome,
    truncate ((now - started) * 1000), error⟩], ?_⟩
  rw [recordAttempt, latencySince, monotonic, bind_bind, run_bind_ok (run_outsideDo h)]
  rfl

/-- The retry loop sleeps for the failed attempts at its target. -/
lemma sleepsFor_invokeTargetFrom (provider : Provider σ) (target : Target)
    (request : NormalizedRequest) (L : ℚ) (left n : ℕ) (last : Exc) :
    G.SleepsFor (fun w => G.failedAttempts provider target request L n left w.outer)
      (G.invokeTargetFrom provider target request (some L) n last left) := by
  induction left generalizing n last with
  | zero => exact Keeps.raise frame_sleepless _
  | succ left ih =>
    intro w
    change Sat _ w fun _ _ es => sleepsOf es =
      (G.failedAttempts provider target request L n (left + 1) w.outer).map _
    rcases hnow : G.outside.monotonic w.outer with ⟨now, s₁⟩
    rcases hstarted : G.outside.monotonic s₁ with ⟨started, s₂⟩
    rw [invokeTargetFrom, failedAttempts]
    by_cases hL : L ≤ now
    · have hslot : (G.timeoutWithin (some L)).run w = (.ok none, { w with outer := s₁ }, []) := by
        rw [timeoutWithin, monotonic, run_bind_ok (run_outsideDo hnow),
          if_pos (sub_nonpos.mpr hL)]
        rfl
      simp only [hnow, if_pos hL]
      exact .bind_run hslot (.of_run (run_raise _ _) rfl)
    · have hslot : (G.timeoutWithin (some L)).run w =
          (.ok (some ⟨min G.retry.timeoutS (L - now), some now⟩), { w with outer := s₁ }, []) := by
        rw [timeoutWithin, monotonic, run_bind_ok (run_outsideDo hnow),
          if_neg fun h => hL (sub_nonpos.mp h)]
        rfl
      rcases hcall : provider.invoke target request (min G.retry.timeoutS (L - now)) s₂
        with ⟨out, s₃⟩
      rcases hended : G.outside.monotonic s₃ with ⟨ended, s₄⟩
      have hout : (callProvider provider target request
          ⟨min G.retry.timeoutS (L - now), some now⟩).run { w with outer := s₂ } =
          (.ok out, { w with outer := s₃ },
            [.call target ⟨min G.retry.timeoutS (L - now), some now⟩ out]) := by
        rw [callProvider, run_bind_ok (run_outsideDo hcall)]
        rfl
      simp only [hnow, if_neg hL, hstarted, hcall, hended]
      refine .bind_run hslot (.bind_run (run_outsideDo hstarted) (.bind_run hout ?_))
      -- what is left of the attempt depends on what the provider did
      cases out with
      | ok resp =>
        exact sleepless_recordAttempt (G := G) target .success started none { w with outer := s₃ }
      | error e =>
        dsimp only
        cases hterminal : e.isTerminal with
        | true =>
          exact sleepless_recordAttempt (G := G) target .terminal started (some e.msg)
            { w with outer := s₃ }
        | false =>
          cases hfailed : e.isRetriable || e.isTimeout with
          | false => rfl
          | true =>
            simp only [Bool.not_false, Bool.and_true, if_true, Bool.false_eq_true, if_false]
            obtain ⟨attempts, hrecord⟩ := run_recordAttempt_at (G := G)
              (w := { w with outer := s₃ }) hended target (retryOutcome e) started (some e.msg)
            refine .bind_run hrecord ?_
            by_cases hn : n < G.retry.maxAttemptsPerTarget - 1
            · simp only [if_pos hn]
              refine .bind_run ((run_pause_eq n _).trans (if_pos hn)) ?_
              exact congrArg (G.pauseAt n s₄ :: ·) (ih (n + 1) e _)
            · simp only [if_neg hn]
              exact .bind_run ((run_pause_eq n _).trans (if_neg hn)) (ih (n + 1) e _)

/-- The loop over the targets sleeps for the failed attempts along the chain. -/
lemma sleepsFor_walk (request : NormalizedRequest) (started : ℚ) (key : Option Str) (L : ℚ)
    (targets : List Target) (idx : ℕ) :
    G.SleepsFor (G.chainFailedAttempts request L targets)
      (G.walk request started key (some L) idx targets) := by
  induction targets generalizing idx with
  | nil => exact sleepless_allFailed request started key
  | cons t rest ih =>
    rw [walk, chainFailedAttempts]
    refine (sleepless_deadlineExceeded t _).followed fun passed => ?_
    cases passed with
    | true => exact sleepless_allFailed request started key
    | false =>
      simp only [Bool.false_eq_true, if_false]
      cases hp : G.providers.get? t.provider with
      | none => exact sleepless_recordError_raise _ _ _ _ _ _ _
      | some provider =>
        cases hprice : G.costMeter.ensurePrice t.name with
        | error e => exact sleepless_recordError_raise _ _ _ _ _ _ _
        | ok =>
          refine (sleepless_circuitBlocked t).followed fun blocked => ?_
          cases blocked with
          | true => exact ih (idx + 1)
          | false =>
            have htarget : G.SleepsFor (fun w => G.failedAttempts provider t request L 0
                G.retry.maxAttemptsPerTarget w.outer)
                (attempt (G.invokeTarget provider t request (some L))) :=
              sleepsFor_invokeTargetFrom provider t request L _ 0 _
            refine htarget.bind fun out => ?_
            cases out with
            | ok resp =>
              have hreport : Sleepless (reportSuccess t.provider : Call σ Unit) := fun _ => rfl
              exact Keeps.bind frame_sleepless hreport fun _ =>
                .bind frame_sleepless (sleepless_cacheSet key resp) fun _ =>
                .bind frame_sleepless (sleepless_recordAnswer request started key t resp idx)
                fun _ => .pure frame_sleepless _
            | error e =>
              dsimp only
              split
              · exact Keeps.bind frame_sleepless (sleepless_reportFailure t.provider) fun _ =>
                  sleepless_recordError_raise _ _ _ _ _ _ _
              · split
                · exact ih (idx + 1)
                · split
                  · exact (sleepless_reportFailure t.provider).followed fun _ => ih (idx + 1)
                  · exact Keeps.raise frame_sleepless e

/-- **The sleeps of a call.** A call with a deadline sleeps once for each failed attempt, from the
world in which the attempt ended, and for as long as the retry settings say. -/
lemma sleepsOf_invoke (request : NormalizedRequest) (hD : 0 < G.requestDeadlineS) :
    G.SleepsFor (G.callFailedAttempts request) (G.invoke request) := by
  have hstart : Sleepless (modify fun w : World σ => { w with attempts := [] }) := fun _ => rfl
  refine hstart.followed fun _ => sleepless_outsideDo.followed fun started =>
    (sleepless_checkRequest request started).followed fun _ =>
    Sleepless.followed (.ofExcept frame_sleepless _) fun key =>
    (sleepless_cacheGet key).followed fun cached => ?_
  cases cached with
  | some resp =>
    exact Keeps.bind frame_sleepless (sleepless_record request started _) fun _ =>
      .pure frame_sleepless _
  | none =>
    refine (sleepless_checkBudget request started key).followed fun _ =>
      (sleepless_resolveTargets request started key).followed fun targets => ?_
    rw [deadlineFor, if_pos hD]
    exact sleepsFor_walk request started key _ targets 0

end Gateway

end AgentCtl
