import AgentCtl.Errors
import AgentCtl.Library.Unwinding

set_option relaxedAutoImplicit false
set_option autoImplicit false

/-!
# The registry of the metrics

`MetricsRegistry.get` of `obs/metrics.py`: the one instance of a process is made by the first call
that needs it, under a lock, with the test of `_resolved` before and under the lock, and `_instance`
assigned before `_resolved`. Calls come from any number of threads, and between any two of their
steps others may take theirs.

## Main definitions

* `AgentCtl.GetPhase` — how far a call of `get` has come.
* `AgentCtl.MetricsRegistry`, `MetricsRegistry.step` — the class, and the calls at work.
* `AgentCtl.MetricsRegistry.Settled` — the invariant.

## Main results

* `AgentCtl.MetricsRegistry.Settled.step` — every step keeps it.
* `AgentCtl.registry_once` — one instance, the same for all, and no call is stuck.
-/

namespace AgentCtl

/-- How far a call of `get` has come; `μ` are the instances of `Metrics`. -/
inductive GetPhase (μ : Type) where
  /-- `if not cls._resolved`, without the lock. -/
  | started
  /-- `with cls._lock`. -/
  | waiting
  /-- `if not cls._resolved`, under the lock. -/
  | checking
  /-- `Metrics() if _prometheus_available() else None`. -/
  | making
  /-- `cls._instance = ` this value. -/
  | assigning (m : Option μ)
  /-- `cls._resolved = True`. -/
  | resolving
  /-- The end of `with`. -/
  | releasing
  /-- The end of `with`, with an exception. -/
  | failing (e : Exc)
  /-- `return cls._instance`. -/
  | reading
  | returned (m : Option μ)
  | raised (e : Exc)

/-- Is the call over? -/
def GetPhase.over {μ : Type} : GetPhase μ → Bool
  | returned _ | raised _ => true
  | _ => false

/-- Does the call hold the lock? -/
def GetPhase.holds {μ : Type} : GetPhase μ → Bool
  | checking | making | assigning _ | resolving | releasing | failing _ => true
  | _ => false

/-- The steps that a call still has before it, at most. -/
def GetPhase.rank {μ : Type} : GetPhase μ → ℕ
  | started => 8
  | waiting => 7
  | checking => 6
  | making => 5
  | assigning _ => 4
  | resolving => 3
  | releasing => 2
  | failing _ | reading => 1
  | returned _ | raised _ => 0

/-- The class `MetricsRegistry`, and the calls of `get`. `lock` is the call that holds the lock,
`made` are the values that were computed for `_instance`. -/
structure MetricsRegistry (μ : Type) where
  inst : Option μ := none
  resolved : Bool := false
  lock : Option ℕ := none
  calls : List (GetPhase μ) := []
  made : List (Option μ) := []

/-- The steps: a call begins; a call goes on; and the call that computes the value for `_instance`
gets it, or an exception. -/
inductive GetMove (μ : Type) where
  | begin
  | go (i : ℕ)
  | make (i : ℕ) (outcome : Except Exc (Option μ))

/-- The value that a step computes for `_instance`. -/
def GetMove.computed {μ : Type} : GetMove μ → Option (Option μ)
  | make _ (.ok m) => some m
  | begin | go _ | make _ (.error _) => none

/-- Is it a step of this call? -/
def GetMove.of {μ : Type} (i : ℕ) : GetMove μ → Prop
  | begin => False
  | go j | make j _ => j = i

namespace MetricsRegistry

variable {μ : Type}

/-- A call comes to another phase. -/
def set (s : MetricsRegistry μ) (i : ℕ) (p : GetPhase μ) : MetricsRegistry μ :=
  { s with calls := s.calls.set i p }

/-- What a call does next. -/
def advance (s : MetricsRegistry μ) (i : ℕ) : GetPhase μ → Option (MetricsRegistry μ)
  | .started => some (s.set i (if s.resolved then .reading else .waiting))
  | .waiting => if s.lock.isNone then some { s.set i .checking with lock := some i } else none
  | .checking => some (s.set i (if s.resolved then .releasing else .making))
  | .assigning m => some { s.set i .resolving with inst := m }
  | .resolving => some { s.set i .releasing with resolved := true }
  | .releasing => some { s.set i .reading with lock := none }
  | .failing e => some { s.set i (.raised e) with lock := none }
  | .reading => some (s.set i (.returned s.inst))
  | .making | .returned _ | .raised _ => none

/-- One step, if it is possible. -/
def step (s : MetricsRegistry μ) : GetMove μ → Option (MetricsRegistry μ)
  | .begin => some { s with calls := s.calls ++ [.started] }
  | .go i => (s.calls[i]?).bind (s.advance i)
  | .make i outcome =>
    match s.calls[i]?, outcome with
    | some .making, .ok m => some { s.set i (.assigning m) with made := s.made ++ [m] }
    | some .making, .error e => some (s.set i (.failing e))
    | _, _ => none

/-- The registry after an interleaving of steps. -/
def run (s : MetricsRegistry μ) (ms : List (GetMove μ)) : Option (MetricsRegistry μ) :=
  PartialRun.run step s ms

/-! ## The invariant -/

/-- The registry of a process that has not called `get` yet: the values of the class body. -/
def fresh : MetricsRegistry μ := {}

/-- What a phase of a call says of the registry. -/
def Fits (s : MetricsRegistry μ) (i : ℕ) : GetPhase μ → Prop
  | .started | .waiting | .raised _ => True
  | .checking => s.lock = some i ∧ (s.resolved = false → s.made = [])
  | .making | .failing _ => s.lock = some i ∧ s.resolved = false ∧ s.made = []
  | .assigning m => s.lock = some i ∧ s.resolved = false ∧ s.made = [m]
  | .resolving => s.lock = some i ∧ s.resolved = false ∧ s.made = [s.inst]
  | .releasing => s.lock = some i ∧ s.resolved = true
  | .reading => s.resolved = true
  | .returned m => s.resolved = true ∧ s.made = [m]

/-- The states of runs: once `_resolved` is set the instance is the one value that was made; while
nobody holds the lock before, none was made; the lock is held by a call; and every call is where it
may be. -/
structure Settled (s : MetricsRegistry μ) : Prop where
  resolved : s.resolved = true → s.made = [s.inst]
  idle : s.lock = none → s.resolved = false → s.made = []
  holder : ∀ i, s.lock = some i → ∃ p, s.calls[i]? = some p ∧ p.holds = true
  fits : ∀ i p, s.calls[i]? = some p → s.Fits i p

variable {s s' : MetricsRegistry μ}

/-- A call that holds the lock is the one that has it. -/
lemma Fits.lock {i : ℕ} {p : GetPhase μ} (h : s.Fits i p) (hp : p.holds = true) :
    s.lock = some i := by
  cases p with
  | checking | making | assigning m | resolving | releasing | failing e => exact h.1
  | started | waiting | reading | returned m | raised e => cases hp

/-- The phases after a call has come to another one. -/
lemma getElem?_set_calls {i j : ℕ} {p q : GetPhase μ} (h : (s.set i p).calls[j]? = some q) :
    j = i ∧ q = p ∨ j ≠ i ∧ s.calls[j]? = some q := by
  change (s.calls.set i p)[j]? = some q at h
  rw [List.getElem?_set] at h
  split at h
  · next heq =>
    split at h
    · exact .inl ⟨heq.symm, (Option.some.inj h).symm⟩
    · cases h
  · next hne => exact .inr ⟨Ne.symm hne, h⟩

/-- The lock and the values matter to a phase, the calls do not. -/
lemma fits_calls (cs : List (GetPhase μ)) (i : ℕ) (p : GetPhase μ) :
    Fits { s with calls := cs } i p ↔ s.Fits i p := by
  cases p <;> exact Iff.rfl

/-- A call that does not hold the lock is where it may be as long as the value stays that is set. -/
lemma Fits.of_resolved {j : ℕ} {q : GetPhase μ} (h : s.Fits j q) (hq : q.holds = false)
    (hkept : s.resolved = true → s'.resolved = true ∧ s'.made = s.made) : s'.Fits j q := by
  cases q with
  | started | waiting | raised e => trivial
  | reading => exact (hkept h).1
  | returned m =>
    obtain ⟨hresolved, hmade⟩ := h
    obtain ⟨hresolved', hmade'⟩ := hkept hresolved
    exact ⟨hresolved', hmade'.trans hmade⟩
  | checking | making | assigning m | resolving | releasing | failing e => cases hq

namespace Settled

variable (hs : s.Settled) {i : ℕ} {p p' : GetPhase μ}

include hs

/-- One value is made at most. -/
lemma made_length : s.made.length ≤ 1 := by
  cases hresolved : s.resolved with
  | true => simp [hs.resolved hresolved]
  | false =>
    cases hlock : s.lock with
    | none => simp [hs.idle hlock hresolved]
    | some i =>
      obtain ⟨p, hget, hholds⟩ := hs.holder i hlock
      have hfits := hs.fits i p hget
      cases p with
      | checking => simp [hfits.2 hresolved]
      | making | failing e | assigning m | resolving => simp [hfits.2.2]
      | releasing => exact absurd (hfits.2.symm.trans hresolved) (by simp)
      | started | waiting | reading | returned m | raised e => cases hholds

/-- Another call than the one that has the lock does not hold it. -/
lemma holds_eq_false {j : ℕ} {q : GetPhase μ} (hlock : s.lock = some i ∨ s.lock = none)
    (hj : j ≠ i) (hq : s.calls[j]? = some q) : q.holds = false := by
  by_contra hholds
  have hheld := (hs.fits j q hq).lock (by simpa using hholds)
  rcases hlock with hlock | hlock
  · exact hj (Option.some.inj (hheld.symm.trans hlock))
  · rw [hlock] at hheld
    cases hheld

/-- A call goes on without touching the registry. -/
lemma same (hget : s.calls[i]? = some p) (hholds : p.holds = true → p'.holds = true)
    (hfits : s.Fits i p') : (s.set i p').Settled where
  resolved := hs.resolved
  idle := hs.idle
  holder := by
    intro j hj
    obtain ⟨q, hq, hholds'⟩ := hs.holder j hj
    have hlength := (List.getElem?_eq_some_iff.mp hq).1
    by_cases hij : i = j
    · subst hij
      obtain rfl := Option.some.inj (hget.symm.trans hq)
      exact ⟨p', List.getElem?_set_self hlength, hholds hholds'⟩
    · exact ⟨q, (List.getElem?_set_ne hij).trans hq, hholds'⟩
  fits := by
    intro j q hq
    refine (fits_calls _ j q).mpr ?_
    rcases getElem?_set_calls hq with ⟨rfl, rfl⟩ | ⟨-, hq⟩
    · exact hfits
    · exact hs.fits j q hq

/-- A call goes on that has the lock, or takes it, or gives it back. -/
lemma held (hget : s.calls[i]? = some p) (hlock : s.lock = some i ∨ s.lock = none)
    (hcalls : s'.calls = s.calls.set i p')
    (hkept : s.resolved = true → s'.resolved = true ∧ s'.made = s.made)
    (hlock' : s'.lock = some i ∧ p'.holds = true ∨ s'.lock = none)
    (hresolved : s'.resolved = true → s'.made = [s'.inst])
    (hidle : s'.lock = none → s'.resolved = false → s'.made = [])
    (hfits : s'.Fits i p') : s'.Settled where
  resolved := hresolved
  idle := hidle
  holder := by
    intro j hj
    rcases hlock' with ⟨hlock', hholds⟩ | hlock'
    · obtain rfl := Option.some.inj (hlock'.symm.trans hj)
      refine ⟨p', ?_, hholds⟩
      rw [hcalls]
      exact List.getElem?_set_self (List.getElem?_eq_some_iff.mp hget).1
    · rw [hlock'] at hj
      cases hj
  fits := by
    intro j q hq
    have hq' : (s.set i p').calls[j]? = some q := by
      rw [← hq, hcalls]
      rfl
    rcases getElem?_set_calls hq' with ⟨rfl, rfl⟩ | ⟨hj, hq⟩
    · exact hfits
    · exact (hs.fits j q hq).of_resolved (hs.holds_eq_false hlock hj hq) hkept

/-- What a call does next keeps the invariant. -/
lemma advance (hget : s.calls[i]? = some p) (h : s.advance i p = some s') : s'.Settled := by
  have hfits := hs.fits i p hget
  cases p with
  | started =>
    obtain rfl := Option.some.inj h
    refine hs.same hget (by simp [GetPhase.holds]) ?_
    split
    · next hresolved => exact hresolved
    · trivial
  | waiting =>
    simp only [MetricsRegistry.advance] at h
    split at h
    · next hfree =>
      obtain rfl := Option.some.inj h
      have hnone : s.lock = none := Option.isNone_iff_eq_none.mp hfree
      exact hs.held hget (.inr hnone) rfl (fun hresolved => ⟨hresolved, rfl⟩) (.inl ⟨rfl, rfl⟩)
        hs.resolved nofun ⟨rfl, hs.idle hnone⟩
    · cases h
  | checking =>
    obtain rfl := Option.some.inj h
    obtain ⟨hlock, hmade⟩ := hfits
    cases hresolved : s.resolved with
    | true =>
      exact hs.same hget (fun _ => rfl) ⟨hlock, hresolved⟩
    | false =>
      exact hs.same hget (fun _ => rfl) ⟨hlock, hresolved, hmade hresolved⟩
  | making => cases h
  | assigning m =>
    obtain rfl := Option.some.inj h
    obtain ⟨hlock, hresolved, hmade⟩ := hfits
    refine hs.held hget (.inl hlock) rfl (fun h => ⟨h, rfl⟩) (.inl ⟨hlock, rfl⟩) ?_ ?_
      ⟨hlock, hresolved, hmade⟩
    · intro h
      exact absurd (h.symm.trans hresolved) (by simp)
    · intro hnone
      exact absurd (hlock.symm.trans hnone) (by simp)
  | resolving =>
    obtain rfl := Option.some.inj h
    obtain ⟨hlock, hresolved, hmade⟩ := hfits
    exact hs.held hget (.inl hlock) rfl (fun _ => ⟨rfl, rfl⟩) (.inl ⟨hlock, rfl⟩) (fun _ => hmade)
      nofun ⟨hlock, rfl⟩
  | releasing =>
    obtain rfl := Option.some.inj h
    obtain ⟨hlock, hresolved⟩ := hfits
    refine hs.held hget (.inl hlock) rfl (fun h => ⟨h, rfl⟩) (.inr rfl) hs.resolved ?_ hresolved
    intro _ h
    exact absurd (hresolved.symm.trans h) (by simp)
  | failing e =>
    obtain rfl := Option.some.inj h
    obtain ⟨hlock, hresolved, hmade⟩ := hfits
    exact hs.held hget (.inl hlock) rfl (fun h => ⟨h, rfl⟩) (.inr rfl) hs.resolved
      (fun _ _ => hmade) trivial
  | reading =>
    obtain rfl := Option.some.inj h
    exact hs.same hget (by simp [GetPhase.holds]) ⟨hfits, hs.resolved hfits⟩
  | returned m => cases h
  | raised e => cases h

/-- **Every step keeps the invariant.** -/
lemma step {m : GetMove μ} (h : s.step m = some s') : s'.Settled := by
  cases m with
  | begin =>
    obtain rfl := Option.some.inj h
    refine ⟨hs.resolved, hs.idle, ?_, ?_⟩
    · intro i hi
      obtain ⟨p, hp, hholds⟩ := hs.holder i hi
      refine ⟨p, ?_, hholds⟩
      rw [← hp]
      exact List.getElem?_append_left (List.getElem?_eq_some_iff.mp hp).1
    · intro i p hp
      refine (fits_calls _ i p).mpr ?_
      rw [List.getElem?_append] at hp
      split at hp
      · exact hs.fits i p hp
      · obtain rfl := List.mem_singleton.mp (List.mem_of_getElem? hp)
        trivial
  | go i =>
    obtain ⟨p, hget, hadvance⟩ := Option.bind_eq_some_iff.mp h
    exact hs.advance hget hadvance
  | make i outcome =>
    simp only [MetricsRegistry.step] at h
    split at h
    · next m hget =>
      obtain rfl := Option.some.inj h
      obtain ⟨hlock, hresolved, hmade⟩ := hs.fits i _ hget
      have hmade' : s.made ++ [m] = [m] := by rw [hmade, List.nil_append]
      refine hs.held hget (.inl hlock) rfl ?_ (.inl ⟨hlock, rfl⟩) ?_ ?_ ⟨hlock, hresolved, hmade'⟩
      · intro h
        exact absurd (h.symm.trans hresolved) (by simp)
      · intro h
        exact absurd (h.symm.trans hresolved) (by simp)
      · intro hnone
        exact absurd (hlock.symm.trans hnone) (by simp)
    · next e hget =>
      obtain rfl := Option.some.inj h
      obtain ⟨hlock, hresolved, hmade⟩ := hs.fits i _ hget
      exact hs.same hget (fun _ => rfl) ⟨hlock, hresolved, hmade⟩
    · cases h

end Settled

lemma settled_fresh : (fresh : MetricsRegistry μ).Settled where
  resolved := nofun
  idle _ _ := rfl
  holder := nofun
  fits := nofun

lemma settled_run {ms : List (GetMove μ)} (hrun : fresh.run ms = some s) : s.Settled :=
  PartialRun.invariant (P := fun _ _ => True) (fun _ _ _ hs _ h => hs.step h) settled_fresh
    (fun _ _ _ _ _ => trivial) hrun

/-! ## Progress -/

/-- The steps that all calls still have before them, at most. -/
def rank (s : MetricsRegistry μ) : ℕ := (s.calls.map GetPhase.rank).sum

/-- A call has a step to take: whatever comes of it, where it computes the value. -/
def Active (s : MetricsRegistry μ) (i : ℕ) : Prop :=
  (s.step (.go i)).isSome = true ∨ ∀ outcome, (s.step (.make i outcome)).isSome = true

lemma rank_set {i : ℕ} {p : GetPhase μ} (hget : s.calls[i]? = some p) (p' : GetPhase μ) :
    (s.set i p').rank + p.rank = s.rank + p'.rank := by
  obtain ⟨hlength, hget⟩ := List.getElem?_eq_some_iff.mp hget
  have hsplit : s.calls = s.calls.take i ++ p :: s.calls.drop (i + 1) := by
    rw [← hget, List.getElem_cons_drop, List.take_append_drop]
  have hset : s.calls.set i p' = s.calls.take i ++ p' :: s.calls.drop (i + 1) :=
    List.set_eq_take_append_cons_drop .. |>.trans (if_pos hlength)
  have hbefore : s.rank = ((s.calls.take i ++ p :: s.calls.drop (i + 1)).map GetPhase.rank).sum :=
    congrArg (fun cs => (cs.map GetPhase.rank).sum) hsplit
  have hafter :
      (s.set i p').rank =
        ((s.calls.take i ++ p' :: s.calls.drop (i + 1)).map GetPhase.rank).sum :=
    congrArg (fun cs => (cs.map GetPhase.rank).sum) hset
  rw [hbefore, hafter]
  simp only [List.map_append, List.map_cons, List.sum_append, List.sum_cons]
  omega

/-- A step of a call brings it nearer to its end. -/
lemma rank_advance {i : ℕ} {p : GetPhase μ} (hget : s.calls[i]? = some p)
    (h : s.advance i p = some s') :
    s'.rank + 1 ≤ s.rank ∧ s'.calls.length = s.calls.length := by
  have hcalls : ∃ p', s'.calls = (s.set i p').calls ∧ p'.rank + 1 ≤ p.rank := by
    cases p with
    | started =>
      obtain rfl := Option.some.inj h
      refine ⟨_, rfl, ?_⟩
      split <;> simp [GetPhase.rank]
    | waiting =>
      simp only [advance] at h
      split at h
      · obtain rfl := Option.some.inj h
        exact ⟨_, rfl, by simp [GetPhase.rank]⟩
      · cases h
    | checking =>
      obtain rfl := Option.some.inj h
      refine ⟨_, rfl, ?_⟩
      split <;> simp [GetPhase.rank]
    | assigning m | resolving | releasing | failing e | reading =>
      obtain rfl := Option.some.inj h
      exact ⟨_, rfl, by simp [GetPhase.rank]⟩
    | making | returned m | raised e => cases h
  obtain ⟨p', hcalls, hlt⟩ := hcalls
  have hset := rank_set hget p'
  have hrank : s'.rank = (s.set i p').rank := congrArg (fun cs => (cs.map GetPhase.rank).sum) hcalls
  refine ⟨by omega, ?_⟩
  rw [hcalls]
  exact List.length_set

/-- A call comes with nine steps at most, its first one among them. -/
lemma rank_step {m : GetMove μ} (h : s.step m = some s') :
    s'.rank + 1 + 9 * s.calls.length ≤ s.rank + 9 * s'.calls.length := by
  cases m with
  | begin =>
    obtain rfl := Option.some.inj h
    simp only [rank, List.map_append, List.map_cons, List.map_nil, List.sum_append, List.sum_cons,
      List.sum_nil, List.length_append, List.length_cons, List.length_nil, GetPhase.rank]
    omega
  | go i =>
    obtain ⟨p, hget, hadvance⟩ := Option.bind_eq_some_iff.mp h
    have := rank_advance hget hadvance
    omega
  | make i outcome =>
    simp only [step] at h
    split at h
    · next m hget =>
      obtain rfl := Option.some.inj h
      have hset := rank_set hget (.assigning m)
      have hlength : (s.set i (.assigning m)).calls.length = s.calls.length := List.length_set
      change (s.set i (.assigning m)).rank + 1 + _ ≤
        s.rank + 9 * (s.set i (.assigning m)).calls.length
      simp only [GetPhase.rank] at hset
      omega
    · next e hget =>
      obtain rfl := Option.some.inj h
      have hset := rank_set hget (.failing e)
      have hlength : (s.set i (.failing e)).calls.length = s.calls.length := List.length_set
      simp only [GetPhase.rank] at hset
      omega
    · cases h

lemma rank_run {ms : List (GetMove μ)} (hrun : s.run ms = some s') :
    s'.rank + ms.length + 9 * s.calls.length ≤ s.rank + 9 * s'.calls.length := by
  induction ms generalizing s with
  | nil =>
    obtain rfl := Option.some.inj hrun
    simp
  | cons m ms ih =>
    obtain ⟨t, ht, hrest⟩ := Option.bind_eq_some_iff.mp hrun
    have hstep := rank_step ht
    have hrun := ih hrest
    rw [List.length_cons]
    omega

/-- The values that were made are those that the steps computed. -/
lemma made_step {m : GetMove μ} (h : s.step m = some s') :
    s'.made = s.made ++ m.computed.toList := by
  cases m with
  | begin =>
    obtain rfl := Option.some.inj h
    exact (List.append_nil _).symm
  | go i =>
    obtain ⟨p, hget, hadvance⟩ := Option.bind_eq_some_iff.mp h
    have hmade : s'.made = s.made := by
      cases p with
      | waiting =>
        simp only [advance] at hadvance
        split at hadvance
        · obtain rfl := Option.some.inj hadvance
          rfl
        · cases hadvance
      | started | checking | assigning m | resolving | releasing | failing e | reading =>
        obtain rfl := Option.some.inj hadvance
        rfl
      | making | returned m | raised e => cases hadvance
    exact hmade.trans (List.append_nil _).symm
  | make i outcome =>
    simp only [step] at h
    split at h
    · obtain rfl := Option.some.inj h
      rfl
    · obtain rfl := Option.some.inj h
      exact (List.append_nil _).symm
    · cases h

lemma made_run {ms : List (GetMove μ)} (hrun : s.run ms = some s') :
    s'.made = s.made ++ ms.filterMap GetMove.computed := by
  induction ms generalizing s with
  | nil =>
    obtain rfl := Option.some.inj hrun
    exact (List.append_nil _).symm
  | cons m ms ih =>
    obtain ⟨t, ht, hrest⟩ := Option.bind_eq_some_iff.mp hrun
    rw [ih hrest, made_step ht, List.append_assoc, List.filterMap_cons]
    cases m.computed <;> rfl

/-- A call that is not over has a step to take, or waits for the lock. -/
lemma active_of_over {i : ℕ} {p : GetPhase μ} (hget : s.calls[i]? = some p) (hp : p.over = false)
    (hwait : p = .waiting → s.lock = none) : s.Active i := by
  cases p with
  | making =>
    refine .inr fun outcome => ?_
    cases outcome <;> simp [step, hget]
  | waiting =>
    refine .inl ?_
    simp [step, hget, advance, hwait rfl]
  | started | checking | assigning m | resolving | releasing | failing e | reading =>
    refine .inl ?_
    simp [step, hget, advance]
  | returned m | raised e => cases hp

/-- A call that has the lock is not over, and does not wait. -/
lemma over_of_holds {p : GetPhase μ} (hp : p.holds = true) : p.over = false ∧ p ≠ .waiting := by
  cases p with
  | started | waiting | reading | returned m | raised e => cases hp
  | checking | making | assigning m | resolving | releasing | failing e => exact ⟨rfl, nofun⟩

/-- Somebody has a step to take, unless all calls are over. -/
lemma Settled.active (hs : s.Settled) {i : ℕ} {p : GetPhase μ} (hget : s.calls[i]? = some p)
    (hp : p.over = false) : s.Active i ∨ p = .waiting ∧ ∃ j, s.lock = some j ∧ s.Active j := by
  cases hlock : s.lock with
  | none => exact .inl (active_of_over hget hp fun _ => hlock)
  | some j =>
    by_cases hwait : p = .waiting
    · obtain ⟨q, hq, hholds⟩ := hs.holder j hlock
      obtain ⟨hover, hne⟩ := over_of_holds hholds
      exact .inr ⟨hwait, j, rfl, active_of_over hq hover (absurd · hne)⟩
    · exact .inl (active_of_over hget hp (absurd · hwait))

end MetricsRegistry

open MetricsRegistry

/-- **The registry is made once.** Let any number of threads call `MetricsRegistry.get`, in any
interleaving of their steps. The value of `_instance` is computed at most once without an exception,
and whoever gets an answer gets this value, so `None` only if the library was found missing. The
calls that hold the lock are one at most; a call that is not over has a step to take, or waits for
one that has; and together they take nine steps each at most, so all of them come to an end. -/
theorem registry_once {μ : Type} {ms : List (GetMove μ)} {s : MetricsRegistry μ}
    (hrun : fresh.run ms = some s) :
    (ms.filterMap GetMove.computed).length ≤ 1 ∧
      (∀ (i : ℕ) (m : Option μ), s.calls[i]? = some (.returned m) →
        ms.filterMap GetMove.computed = [m]) ∧
      (∀ (i j : ℕ) (p q : GetPhase μ), s.calls[i]? = some p → s.calls[j]? = some q →
        p.holds = true → q.holds = true → i = j) ∧
      (∀ (i : ℕ) (p : GetPhase μ), s.calls[i]? = some p → p.over = false →
        s.Active i ∨ p = .waiting ∧ ∃ j, s.lock = some j ∧ s.Active j) ∧
      ms.length ≤ 9 * s.calls.length := by
  have hs := settled_run hrun
  have hmade : s.made = ms.filterMap GetMove.computed := made_run hrun
  refine ⟨?_, ?_, ?_, fun i p hget hp => hs.active hget hp, ?_⟩
  · rw [← hmade]
    exact hs.made_length
  · intro i m hget
    obtain ⟨-, hreturned⟩ := hs.fits i (.returned m) hget
    rw [← hmade]
    exact hreturned
  · intro i j p q hp hq hholds hholds'
    have hi := (hs.fits i p hp).lock hholds
    have hj := (hs.fits j q hq).lock hholds'
    exact Option.some.inj (hi.symm.trans hj)
  · have hrank := rank_run hrun
    simp only [fresh, rank, List.map_nil, List.sum_nil, List.length_nil] at hrank
    omega

/-- Two threads come to the lock before either has it; the first one makes the instance, and the
second one gets it too. -/
def twoThreads : List (GetMove Unit) :=
  [.begin, .begin, .go 0, .go 1, .go 0, .go 0, .make 0 (.ok (some ())), .go 0, .go 0, .go 0, .go 1,
    .go 0, .go 1, .go 1, .go 1]

theorem registry_once_twoThreads :
    (fresh.run twoThreads).map MetricsRegistry.calls =
        some [.returned (some ()), .returned (some ())] ∧
      twoThreads.filterMap GetMove.computed = [some ()] := by
  obtain ⟨s, hrun, hcalls⟩ : ∃ s, fresh.run twoThreads = some s ∧
      s.calls = [.returned (some ()), .returned (some ())] := ⟨_, rfl, rfl⟩
  refine ⟨by rw [hrun, ← hcalls]; rfl, ?_⟩
  exact (registry_once hrun).2.1 1 (some ()) (by rw [hcalls]; rfl)

end AgentCtl
