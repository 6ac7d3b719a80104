import AgentCtl.Server.Admission

set_option relaxedAutoImplicit false
set_option autoImplicit false

/-!
# How often the gateway is reached

The table of requests is a run of the limiter over the requests that it is asked about, and such a
request has a connection, or is served, only if the limiter has admitted it. So the sliding window
of the limiter bounds the calls of the gateway, whenever they are made.

The limiter is not asked about a request whose URL is `/healthz` or `/metrics`. No endpoint has such
a path, but the path of the URL is not the one that the router matches, so that a request for an
endpoint may pass the limiter by (`HttpServer.isExempt`).

## Main definitions

* `AgentCtl.meteredCalls` — the requests that the limiter is asked about.
* `AgentCtl.Hub.Reaches` — a request that has led to a call of the gateway, or may still.
* `AgentCtl.Hub.Metered` — the invariant.

## Main results

* `AgentCtl.Hub.Metered.step` — every step keeps it.
* `AgentCtl.gateway_calls_in_window` — the calls of the gateway in a minute, and the size of the
  tables.
-/

namespace AgentCtl

open OrderedDict

variable {σ : Type}

/-- Is the request one that the limiter is asked about? -/
def HttpServer.isMetered (S : HttpServer σ) (request : HttpRequest) : Bool :=
  match S.classOf request with
  | .metered => true
  | _ => false

/-- The requests that the limiter is asked about, with their times. -/
def meteredCalls (S : HttpServer σ) (ms : List HttpMove) : List (ℕ × LimiterCall) :=
  ms.filterMap fun m =>
    match m with
    | .arrive id request now =>
      if S.isMetered request then some (id, ⟨S.keyOfRequest request, now⟩) else none
    | _ => none

/-- The limiter's own run over these requests. -/
def limiterRun (S : HttpServer σ) (ms : List HttpMove) : Buckets × List LimiterEntry :=
  rateLimitedRun S.rateLimitPerMinute.toNat maxClients ((meteredCalls S ms).map Prod.snd)

/-- The requests that the limiter was asked about, with its answers. -/
def limiterLog (S : HttpServer σ) (ms : List HttpMove) : List (ℕ × LimiterEntry) :=
  ((meteredCalls S ms).map Prod.fst).zip (limiterRun S ms).2

/-- The request has led to a call of the gateway, or its connection is still at work. -/
def Hub.Reaches (h : Hub σ) (id : ℕ) : Prop :=
  id ∈ h.served.map Served.id ∨ (h.connections.get? id).isSome

instance (h : Hub σ) (id : ℕ) : Decidable (h.Reaches id) := by
  unfold Hub.Reaches
  infer_instance

/-- The table of requests is that of the limiter, every request is asked about once, and a request
that the limiter was asked about has been admitted if it gets further. -/
structure Hub.Metered (S : HttpServer σ) (ms : List HttpMove) (h : Hub σ) : Prop where
  buckets : h.limits.requestBuckets = (limiterRun S ms).1
  seen : ∀ p ∈ meteredCalls S ms, p.1 ∈ h.seen
  once : ((meteredCalls S ms).map Prod.fst).Nodup
  reached : ∀ id, h.Reaches id → id ∈ h.seen
  admitted : ∀ p ∈ meteredCalls S ms, h.Reaches p.1 →
    ∃ e, (p.1, e) ∈ limiterLog S ms ∧ e.rejected = false
  failures : h.limits.authFailureBuckets.length ≤ maxClients

section Runs

variable {S : HttpServer σ} {ms : List HttpMove} {h h' : Hub σ} {m : HttpMove}

/-- One more request that is not metered, or another move. -/
lemma meteredCalls_of_not (hm : ∀ id request now, m = .arrive id request now →
    S.isMetered request = false) : meteredCalls S (ms ++ [m]) = meteredCalls S ms := by
  unfold meteredCalls
  cases m with
  | arrive id request now => simp [hm id request now rfl]
  | _ => simp

/-- One more metered request. -/
lemma meteredCalls_arrive {request : HttpRequest} (hm : S.isMetered request = true) (id : ℕ)
    (now : ℚ) : meteredCalls S (ms ++ [.arrive id request now]) =
      meteredCalls S ms ++ [(id, ⟨S.keyOfRequest request, now⟩)] := by
  unfold meteredCalls
  simp [hm]

/-- The limiter after one more metered request. -/
lemma limiterRun_arrive {request : HttpRequest} (hm : S.isMetered request = true) (id : ℕ)
    (now : ℚ) : limiterRun S (ms ++ [.arrive id request now]) =
      rateLimitedStep S.rateLimitPerMinute.toNat maxClients (limiterRun S ms)
        ⟨S.keyOfRequest request, now⟩ := by
  unfold limiterRun
  rw [meteredCalls_arrive hm, List.map_append]
  exact rateLimitedRun_concat _ _

/-- There is an answer for each request. -/
lemma length_limiterRun : (limiterRun S ms).2.length = (meteredCalls S ms).length := by
  have hhistory := congrArg List.length (@history_rateLimitedRun S.rateLimitPerMinute.toNat
    maxClients ((meteredCalls S ms).map Prod.snd))
  rw [List.length_map, List.length_map] at hhistory
  exact hhistory

/-- The log after one more metered request. -/
lemma limiterLog_arrive {request : HttpRequest} (hm : S.isMetered request = true) (id : ℕ)
    (now : ℚ) : limiterLog S (ms ++ [.arrive id request now]) =
      limiterLog S ms ++ [(id, ⟨⟨S.keyOfRequest request, now⟩,
        (rateLimited (limiterRun S ms).1 (S.keyOfRequest request) S.rateLimitPerMinute.toNat
          maxClients now).1⟩)] := by
  unfold limiterLog
  rw [limiterRun_arrive hm, meteredCalls_arrive hm, List.map_append]
  refine List.zip_append ?_
  rw [List.length_map, length_limiterRun]

/-- A metered request is of that class. -/
lemma isMetered_iff (request : HttpRequest) :
    S.isMetered request = true ↔ S.classOf request = .metered := by
  unfold HttpServer.isMetered
  cases S.classOf request with
  | metered => simp
  | _ => simp

namespace Hub.Metered

/-- The table of requests after a request has arrived. -/
lemma buckets_arrive (hg : h.Metered S ms) (hrate : 0 < S.rateLimitPerMinute) (id : ℕ)
    (request : HttpRequest) (now : ℚ) :
    (S.safetyMiddleware h.limits request now).2.requestBuckets =
      (limiterRun S (ms ++ [.arrive id request now])).1 := by
  have hquiet : S.classOf request ≠ .metered →
      limiterRun S (ms ++ [.arrive id request now]) = limiterRun S ms := by
    intro hclass
    have hm : S.isMetered request = false := by
      rw [Bool.eq_false_iff, Ne, isMetered_iff]
      exact hclass
    unfold limiterRun
    rw [meteredCalls_of_not]
    rintro _ _ _ ⟨⟩
    exact hm
  rw [HttpServer.safetyMiddleware_eq]
  cases hclass : S.classOf request with
  | early v =>
    rw [hquiet (by simp [hclass])]
    exact hg.buckets
  | unauthorized body =>
    rw [hquiet (by simp [hclass])]
    exact hg.buckets
  | exempt =>
    rw [hquiet (by simp [hclass])]
    exact hg.buckets
  | metered =>
    rw [limiterRun_arrive ((isMetered_iff request).mpr hclass)]
    dsimp only
    rw [HttpServer.overLimit, if_pos hrate, hg.buckets]
    rfl

/-- The table of failed authentication stays within its bound. -/
lemma failures_arrive (hg : h.Metered S ms) (request : HttpRequest) (now : ℚ) :
    (S.safetyMiddleware h.limits request now).2.authFailureBuckets.length ≤ maxClients := by
  rw [HttpServer.safetyMiddleware_eq]
  cases S.classOf request with
  | unauthorized body =>
    dsimp only
    unfold HttpServer.overLimit
    split
    · next hrate => exact length_rateLimited (by omega) hg.failures _ _
    · exact hg.failures
  | _ => exact hg.failures

/-- A move that is no arrival, and after which no request gets further that had not before. -/
lemma quiet (hg : h.Metered S ms) (hm : ∀ id request now, m ≠ .arrive id request now)
    (hlimits : h'.limits = h.limits) (hseen : h'.seen = h.seen)
    (hreaches : ∀ id, h'.Reaches id → h.Reaches id) : h'.Metered S (ms ++ [m]) := by
  have hcalls : meteredCalls S (ms ++ [m]) = meteredCalls S ms :=
    meteredCalls_of_not fun id request now heq => absurd heq (hm id request now)
  have hrun : limiterRun S (ms ++ [m]) = limiterRun S ms := by
    unfold limiterRun
    rw [hcalls]
  refine ⟨?_, ?_, ?_, ?_, ?_, ?_⟩
  · rw [hlimits, hrun]
    exact hg.buckets
  · rw [hcalls, hseen]
    exact hg.seen
  · rw [hcalls]
    exact hg.once
  · intro id hid
    rw [hseen]
    exact hg.reached id (hreaches id hid)
  · intro p hp hid
    rw [hcalls] at hp
    unfold limiterLog
    rw [hcalls, hrun]
    exact hg.admitted p hp (hreaches p.1 hid)
  · rw [hlimits]
    exact hg.failures

/-- A request arrives, and if the limiter is asked about it, it gets further only if it is admitted.
-/
lemma arrive (hg : h.Metered S ms) (hrate : 0 < S.rateLimitPerMinute) {id : ℕ}
    {request : HttpRequest} {now : ℚ} (hid : id ∉ h.seen)
    (hlimits : h'.limits = (S.safetyMiddleware h.limits request now).2)
    (hseen : h'.seen = h.seen ++ [id])
    (hreaches : ∀ i, h'.Reaches i → h.Reaches i ∨ i = id ∧ (S.classOf request = .metered →
      (S.overLimit h.limits.requestBuckets request now).1 = false)) :
    h'.Metered S (ms ++ [.arrive id request now]) := by
  have hreached : ∀ i, h'.Reaches i → i ∈ h'.seen := by
    intro i hi
    rw [hseen]
    rcases hreaches i hi with hold | ⟨rfl, -⟩
    · exact List.mem_append_left _ (hg.reached i hold)
    · exact List.mem_append_right _ (List.mem_singleton_self i)
  cases hm : S.isMetered request with
  | false =>
    have hcalls : meteredCalls S (ms ++ [.arrive id request now]) = meteredCalls S ms := by
      refine meteredCalls_of_not ?_
      rintro _ _ _ ⟨⟩
      exact hm
    refine ⟨?_, ?_, ?_, hreached, ?_, ?_⟩
    · rw [hlimits]
      exact hg.buckets_arrive hrate id request now
    · rw [hcalls, hseen]
      exact fun p hp => List.mem_append_left _ (hg.seen p hp)
    · rw [hcalls]
      exact hg.once
    · intro p hp hreach
      rw [hcalls] at hp
      rcases hreaches p.1 hreach with hold | ⟨heq, -⟩
      · unfold limiterLog limiterRun
        rw [hcalls]
        exact hg.admitted p hp hold
      · exact absurd (heq ▸ hg.seen p hp) hid
    · rw [hlimits]
      exact hg.failures_arrive request now
  | true =>
    refine ⟨?_, ?_, ?_, hreached, ?_, ?_⟩
    · rw [hlimits]
      exact hg.buckets_arrive hrate id request now
    · intro p hp
      rw [meteredCalls_arrive hm] at hp
      rw [hseen]
      rcases List.mem_append.mp hp with hp | hp
      · exact List.mem_append_left _ (hg.seen p hp)
      · rw [List.mem_singleton.mp hp]
        exact List.mem_append_right _ (List.mem_singleton_self id)
    · rw [meteredCalls_arrive hm, List.map_append]
      refine List.Nodup.append hg.once (List.nodup_singleton _) ?_
      rw [List.map_singleton, List.disjoint_singleton]
      intro hmem
      obtain ⟨p, hp, hpid⟩ := List.mem_map.mp hmem
      have hseenp := hg.seen p hp
      rw [hpid] at hseenp
      exact hid hseenp
    · intro p hp hreach
      rw [meteredCalls_arrive hm] at hp
      rw [limiterLog_arrive hm]
      rcases hreaches p.1 hreach with hold | ⟨heq, hadmitted⟩
      · rcases List.mem_append.mp hp with hp | hp
        · obtain ⟨e, he, hrejected⟩ := hg.admitted p hp hold
          exact ⟨e, List.mem_append_left _ he, hrejected⟩
        · -- the request is new, and cannot have got further before
          rw [List.mem_singleton.mp hp] at hold
          exact absurd (hg.reached id hold) hid
      · rw [heq]
        refine ⟨_, List.mem_append_right _ (List.mem_singleton_self _), ?_⟩
        have hover := hadmitted ((isMetered_iff request).mp hm)
        rw [HttpServer.overLimit, if_pos hrate, hg.buckets] at hover
        exact hover
    · rw [hlimits]
      exact hg.failures_arrive request now

/-- **Every step keeps the invariant.** -/
lemma step (hg : h.Metered S ms) (hrate : 0 < S.rateLimitPerMinute) (hstep : HttpStep S h m h') :
    h'.Metered S (ms ++ [m]) := by
  -- a connection that goes on, or is done, was at work before
  have hset : ∀ {id : ℕ} {c c' : Connection}, h.connections.get? id = some c → ∀ i,
      (h.set id c').Reaches i → h.Reaches i := by
    intro id c c' hget i hi
    refine hi.imp_right fun hsome => ?_
    by_cases hne : id = i
    · rw [← hne, hget]
      rfl
    · rwa [get?_set, if_neg hne] at hsome
  have hdrop : ∀ {id : ℕ} i, ((h.drop id).connections.get? i).isSome →
      (h.connections.get? i).isSome := by
    intro id i hsome
    rw [get?_drop] at hsome
    split at hsome
    · cases hsome
    · exact hsome
  cases hstep with
  | answered hid _ => exact hg.arrive hrate hid rfl rfl fun i hi => .inl hi
  | @opened id request now c hid hc =>
    obtain ⟨hpassed, -, -⟩ := HttpServer.outset_eq_inr hc
    refine hg.arrive hrate hid rfl rfl fun i hi => ?_
    by_cases hne : id = i
    · right
      refine ⟨hne.symm, fun hclass => ?_⟩
      rcases HttpServer.of_passed hpassed with hexempt | hmetered
      · rw [hclass] at hexempt
        cases hexempt
      · exact hmetered.2
    · left
      refine hi.imp_right fun hsome => ?_
      rwa [get?_set, if_neg hne] at hsome
  | read hget _ => exact hg.quiet (by simp) rfl rfl (hset hget)
  | parsed hget _ => exact hg.quiet (by simp) rfl rfl (hset hget)
  | overrun hget _ => exact hg.quiet (by simp) rfl rfl fun i hi => hi.imp_right (hdrop i)
  | unparsed hget _ => exact hg.quiet (by simp) rfl rfl fun i hi => hi.imp_right (hdrop i)
  | gone hget => exact hg.quiet (by simp) rfl rfl fun i hi => hi.imp_right (hdrop i)
  | called hget hx =>
    refine hg.quiet (by simp) rfl rfl fun i hi => ?_
    rcases hi with hserved | hsome
    · rw [List.map_append, List.map_singleton, hx] at hserved
      rcases List.mem_append.mp hserved with hold | hnew
      · exact .inl hold
      · obtain rfl := List.mem_singleton.mp hnew
        right
        rw [hget]
        rfl
    · exact .inr (hdrop i hsome)

end Hub.Metered

/-- The invariant holds after every run. -/
lemma metered_run {w : World σ} (hrate : 0 < S.rateLimitPerMinute)
    (hrun : S.run { world := w } ms = some h) : h.Metered S ms := by
  refine PartialRun.historyInvariant (I := Hub.Metered S) ?_ ?_ hrun
  · refine ⟨rfl, by simp [meteredCalls], List.nodup_nil, ?_, by simp [meteredCalls], Nat.zero_le _⟩
    intro id hid
    rcases hid with hserved | hsome
    · cases hserved
    · cases hsome
  · intro ms h m h' _ hg hstep
    exact hg.step hrate (HttpServer.httpStep_of_step hstep)

/-! ## Counting -/

/-- The log has the requests and the answers. -/
lemma limiterLog_fst : (limiterLog S ms).map Prod.fst = (meteredCalls S ms).map Prod.fst := by
  refine List.map_fst_zip ?_
  rw [List.length_map, length_limiterRun]

/-- The requests of the log are those that the limiter was asked about. -/
lemma limiterLog_calls :
    (limiterLog S ms).map (Prod.map id LimiterEntry.toLimiterCall) = meteredCalls S ms := by
  unfold limiterLog
  rw [← List.zip_map_right]
  unfold limiterRun
  rw [history_rateLimitedRun, List.zip_map']
  exact List.map_id' _

/-- The answers of the log are those of the limiter. -/
lemma limiterLog_snd : (limiterLog S ms).map Prod.snd = (limiterRun S ms).2 := by
  refine List.map_snd_zip ?_
  rw [List.length_map, length_limiterRun]

/-- The requests of a client in an interval that get further are no more than those that the limiter
has admitted. -/
lemma Hub.Metered.reaches_le (hg : h.Metered S ms) (c : Str) (a b : ℚ) :
    ((meteredCalls S ms).filter fun p =>
      p.2.client = c ∧ a ≤ p.2.time ∧ p.2.time ≤ b ∧ h.Reaches p.1).length ≤
      admittedIn c (limiterRun S ms).2 a b := by
  have honce : ((limiterLog S ms).map Prod.fst).Nodup := by
    rw [limiterLog_fst]
    exact hg.once
  have hentries : ∀ p ∈ limiterLog S ms, h.Reaches p.1 → p.2.rejected = false := by
    intro p hp hreaches
    have hcall : Prod.map id LimiterEntry.toLimiterCall p ∈ meteredCalls S ms := by
      rw [← limiterLog_calls]
      exact List.mem_map_of_mem hp
    obtain ⟨e, he, hrejected⟩ := hg.admitted _ hcall hreaches
    have hinj := List.inj_on_of_nodup_map honce hp he rfl
    rw [hinj]
    exact hrejected
  have hadmitted : admittedIn c (limiterRun S ms).2 a b = (limiterLog S ms).countP fun p =>
      p.2.client = c ∧ p.2.rejected = false ∧ a ≤ p.2.time ∧ p.2.time ≤ b := by
    rw [admittedIn, admittedTimes, ← limiterLog_snd, List.countP_map, List.countP_filter,
      List.countP_map]
    refine List.countP_congr fun p _ => ?_
    simp only [Function.comp_apply, Bool.and_eq_true, decide_eq_true_eq]
    tauto
  rw [hadmitted, ← List.countP_eq_length_filter, ← limiterLog_calls, List.countP_map]
  refine List.countP_mono_left fun p hp hreaches => ?_
  simp only [Function.comp_apply, Prod.map, decide_eq_true_eq, id_eq] at hreaches ⊢
  obtain ⟨hclient, hafter, hbefore, hreach⟩ := hreaches
  exact ⟨hclient, hentries p hp hreach, hafter, hbefore⟩

/-- What is served is metered, unless its URL is exempt. -/
lemma Served.Legitimate.metered {x : Served} (hx : x.Legitimate S ms)
    (hurl : S.isExempt x.request = false) :
    ∃ now, (x.id, ⟨S.keyOfRequest x.request, now⟩) ∈ meteredCalls S ms := by
  obtain ⟨now, hnow⟩ := hx.begun.arrived
  obtain ⟨length, hlength, hshort⟩ := hx.begun.admissible.length
  have hclass : S.classOf x.request = .metered := by
    unfold HttpServer.classOf
    rw [hlength, hx.begun.admissible.authentic]
    simp [not_lt.mpr hshort, hurl]
  refine ⟨now, List.mem_filterMap.mpr ⟨_, hnow, ?_⟩⟩
  simp [(isMetered_iff x.request).mpr hclass]

/-- The URL of a request for an endpoint is not exempt, if its path is the one that was matched. -/
lemma HttpServer.isExempt_of_route {request : HttpRequest} {endpoint : Endpoint}
    (hroute : routeOf request = endpoint.route) (hurl : S.urlPath request = .ok request.path) :
    S.isExempt request = false := by
  unfold isExempt
  rw [hurl]
  simpa using path_of_route hroute

/-- **How often the gateway is reached.** After any run of the server on a clock that does not go
back, no table has more buckets than allowed, and every request that was served is one that the
limiter was asked about, unless the path of its URL is an exempt one and so another one than was
matched. Of the requests of a client that the limiter was asked about within a minute no more than
the limit have been served or may still be, as long as fewer other clients call between any two of
its requests than the table has room for. -/
theorem gateway_calls_in_window (S : HttpServer σ) (hrate : 0 < S.rateLimitPerMinute) {w : World σ}
    (hclock : ((meteredCalls S ms).map Prod.snd).Pairwise fun a b => a.time ≤ b.time)
    (hrun : S.run { world := w } ms = some h) :
    h.limits.requestBuckets.length ≤ maxClients ∧
      h.limits.authFailureBuckets.length ≤ maxClients ∧
      (∀ x ∈ h.served, S.isExempt x.request = false →
        ∃ now, (x.id, ⟨S.keyOfRequest x.request, now⟩) ∈ meteredCalls S ms) ∧
      (∀ x ∈ h.served, S.urlPath x.request = .ok x.request.path →
        S.isExempt x.request = false) ∧
      ∀ c, FewBetween maxClients c ((meteredCalls S ms).map Prod.snd) → ∀ a : ℚ,
        (((meteredCalls S ms).filter fun p => p.2.client = c ∧ a ≤ p.2.time ∧
          p.2.time ≤ a + 60 ∧ h.Reaches p.1).length : ℤ) ≤ S.rateLimitPerMinute := by
  have hg := metered_run hrate hrun
  have hlimit : 0 < S.rateLimitPerMinute.toNat := by omega
  have hserved := (guarded_run hrun).served
  refine ⟨?_, hg.failures, ?_, ?_, ?_⟩
  · rw [hg.buckets]
    exact (recent_rateLimitedRun maxClients hlimit _).2
  · exact fun x hx => (hserved x hx).2.metered
  · exact fun x hx => HttpServer.isExempt_of_route (hserved x hx).2.begun.route
  · intro c hfew a
    have hwindow := inWindow_rateLimitedRun hlimit (by decide) hclock hfew
    have hcount := (hg.reaches_le c a (a + 60)).trans (hwindow.within a)
    omega

end Runs

/-- Few calls in all are few between any two. -/
lemma fewBetween_of_length {n : ℕ} {calls : List LimiterCall} (hn : calls.length ≤ n) (c : Str) :
    FewBetween n c calls := by
  intro pre x mid y post hsplit _ _ _
  have hlength := congrArg List.length hsplit
  simp only [List.length_append, List.length_cons] at hlength
  have hmid : (clientsOf mid).toFinset.card ≤ mid.length :=
    (List.toFinset_card_le _).trans_eq (List.length_map _)
  omega

/-- Of the two requests with a token one gets further. -/
theorem gateway_calls_in_window_threeRequests :
    ∃ h, tokenServer.run { world := failThenAnswer } threeRequests = some h ∧
      (meteredCalls tokenServer threeRequests).map Prod.fst = [2, 3] ∧
      (((meteredCalls tokenServer threeRequests).filter fun p => p.2.client = Str.ofString "h" ∧
        0 ≤ p.2.time ∧ p.2.time ≤ 0 + 60 ∧ h.Reaches p.1).length : ℤ) ≤ 1 := by
  have hsome : (tokenServer.run { world := failThenAnswer } threeRequests).isSome = true := by
    decide +kernel
  have hcalls : (meteredCalls tokenServer threeRequests).map Prod.snd =
      [⟨"h", 0⟩, ⟨"h", 1⟩] := by rfl
  obtain ⟨h, hrun⟩ := Option.isSome_iff_exists.mp hsome
  have hmain := gateway_calls_in_window tokenServer (by decide) (by rw [hcalls]; decide) hrun
  refine ⟨h, hrun, rfl, hmain.2.2.2.2 "h" (fewBetween_of_length ?_ _) 0⟩
  rw [hcalls]
  decide

end AgentCtl
