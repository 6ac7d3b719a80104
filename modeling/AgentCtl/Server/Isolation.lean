import AgentCtl.Server.Admission

set_option relaxedAutoImplicit false
set_option autoImplicit false

/-!
# Strangers and guests

Failed authentication has a table of its own. So strangers, who have no token, and guests, who pass
the authentication, do not get in each other's way, not even when they share a host: what a guest is
answered, and what the gateway does, is as if no stranger had ever called, and what a stranger is
answered is as if there were strangers only: status 401, or 429 for too many failures in a minute.

## Main definitions

* `AgentCtl.HttpServer.isStranger`, `isGuest` — the requests that fail the authentication, and those
  that pass it.
* `AgentCtl.Hub.Part` — a server that has seen a part of what another one has seen.

## Main results

* `AgentCtl.Hub.ForGuests.hidden`, `AgentCtl.Hub.ForGuests.visible` — what guests see of a step.
* `AgentCtl.strangers_and_guests_isolated` — a run without those who are no guests, and a run with
  the strangers only.
-/

namespace AgentCtl

variable {σ : Type}

namespace HttpServer

variable (S : HttpServer σ)

/-- A request that fails the authentication. -/
def isStranger (request : HttpRequest) : Bool :=
  match S.classOf request with
  | .unauthorized _ => true
  | _ => false

/-- A request that passes the authentication. -/
def isGuest (request : HttpRequest) : Bool :=
  match S.classOf request with
  | .exempt | .metered => true
  | _ => false

/-- A move of a guest: other requests have arrivals only. -/
def guestMove : HttpMove → Bool
  | .arrive _ request _ => S.isGuest request
  | _ => true

/-- A move of a stranger. -/
def strangerMove : HttpMove → Bool
  | .arrive _ request _ => S.isStranger request
  | _ => false

end HttpServer

/-- The requests that have arrived. -/
def arrivals (ms : List HttpMove) : List ℕ :=
  ms.filterMap fun m =>
    match m with
    | .arrive id _ _ => some id
    | _ => none

/-- One server has seen a part of what another one has seen, and has answered this part likewise. -/
structure Hub.Part (s t : Hub σ) : Prop where
  seen : t.seen ⊆ s.seen
  answered : t.answered = s.answered.filter fun p => p.1 ∈ t.seen
  replied : ∀ p ∈ s.answered, p.1 ∈ s.seen
  working : ∀ id c, s.connections.get? id = some c → id ∈ s.seen

section Runs

variable {S : HttpServer σ} {ms : List HttpMove} {m : HttpMove}

namespace Hub.Part

variable {s s' t t' : Hub σ} {id : ℕ}

/-- A new request is answered that the part does not see. -/
lemma hidden (h : s.Part t) (hid : id ∉ s.seen) (limits : Limits) (r : HttpReply) :
    ((s.enter id limits).answer id r).Part t where
  seen := List.Subset.trans h.seen (List.subset_append_left _ _)
  answered := by
    have hnot : id ∉ t.seen := fun hmem => hid (h.seen hmem)
    change t.answered = (s.answered ++ [(id, r)]).filter _
    rw [List.filter_append, ← h.answered]
    simp [hnot]
  replied := by
    intro p hp
    rcases List.mem_append.mp hp with hp | hp
    · exact List.mem_append_left _ (h.replied p hp)
    · rw [List.mem_singleton.mp hp]
      exact List.mem_append_right _ (List.mem_singleton_self id)
  working i c hget := List.mem_append_left _ (h.working i c hget)

/-- A new request is answered in both. -/
lemma answered_both (h : s.Part t) (hid : id ∉ s.seen) (limits limits' : Limits) (r : HttpReply) :
    ((s.enter id limits).answer id r).Part ((t.enter id limits').answer id r) where
  seen := List.append_subset.mpr
    ⟨List.Subset.trans h.seen (List.subset_append_left _ _), List.subset_append_right _ _⟩
  answered := by
    change t.answered ++ [(id, r)] = (s.answered ++ [(id, r)]).filter fun p => p.1 ∈ t.seen ++ [id]
    have hold : s.answered.filter (fun p => p.1 ∈ t.seen ++ [id]) =
        s.answered.filter fun p => p.1 ∈ t.seen := by
      refine List.filter_congr fun p hp => ?_
      have hne : p.1 ≠ id := fun heq => hid (heq ▸ h.replied p hp)
      simp [hne]
    rw [List.filter_append, hold, ← h.answered]
    simp
  replied := (h.hidden hid limits r).replied
  working := (h.hidden hid limits r).working

/-- A new request has a connection in both. -/
lemma opened_both (h : s.Part t) (hid : id ∉ s.seen) (limits limits' : Limits) (c : Connection) :
    ((s.enter id limits).set id c).Part ((t.enter id limits').set id c) where
  seen := (h.answered_both hid limits limits' .metricsPage).seen
  answered := by
    change t.answered = s.answered.filter fun p => p.1 ∈ t.seen ++ [id]
    rw [h.answered]
    refine List.filter_congr fun p hp => ?_
    have hne : p.1 ≠ id := fun heq => hid (heq ▸ h.replied p hp)
    simp [hne]
  replied p hp := List.mem_append_left _ (h.replied p hp)
  working i c' hget := by
    rw [get?_set] at hget
    split at hget
    · next heq => exact List.mem_append_right _ (List.mem_singleton.mpr heq.symm)
    · exact List.mem_append_left _ (h.working i c' hget)

/-- A step of a connection that brings no reply. -/
lemma keep (h : s.Part t) (hseen : s'.seen = s.seen) (hanswered : s'.answered = s.answered)
    (hworking : ∀ i c, s'.connections.get? i = some c → i ∈ s.seen) (hseen' : t'.seen = t.seen)
    (hanswered' : t'.answered = t.answered) : s'.Part t' where
  seen := by rw [hseen, hseen']; exact h.seen
  answered := by rw [hanswered, hanswered', hseen']; exact h.answered
  replied := by rw [hanswered, hseen]; exact h.replied
  working := by rw [hseen]; exact hworking

/-- A step of a connection that brings a reply, which the part sees or not. -/
lemma reply (h : s.Part t) {r : HttpReply} (hid : id ∈ s.seen) (hseen : s'.seen = s.seen)
    (hanswered : s'.answered = s.answered ++ [(id, r)])
    (hworking : ∀ i c, s'.connections.get? i = some c → i ∈ s.seen) (hseen' : t'.seen = t.seen)
    (hanswered' : t'.answered = if id ∈ t.seen then t.answered ++ [(id, r)] else t.answered) :
    s'.Part t' where
  seen := by rw [hseen, hseen']; exact h.seen
  answered := by
    rw [hanswered, hanswered', hseen', List.filter_append, ← h.answered]
    by_cases hmem : id ∈ t.seen
    · simp [hmem]
    · simp [hmem]
  replied := by
    rw [hanswered, hseen]
    intro p hp
    rcases List.mem_append.mp hp with hp | hp
    · exact h.replied p hp
    · rwa [List.mem_singleton.mp hp]
  working := by rw [hseen]; exact hworking

end Hub.Part

/-- The identity of a connection that has gone on. -/
lemma Hub.mem_of_get?_set {s : Hub σ} (h : ∀ i c, s.connections.get? i = some c → i ∈ s.seen)
    {id : ℕ} {c c' : Connection} (hget : s.connections.get? id = some c) (i : ℕ) (c₁ : Connection)
    (hi : (s.set id c').connections.get? i = some c₁) : i ∈ s.seen := by
  rw [get?_set] at hi
  split at hi
  · next heq => exact heq ▸ h id c hget
  · exact h i c₁ hi

/-- The identity of a connection that has not been dropped. -/
lemma Hub.mem_of_get?_drop {s : Hub σ} (h : ∀ i c, s.connections.get? i = some c → i ∈ s.seen)
    {id : ℕ} (i : ℕ) (c₁ : Connection) (hi : (s.drop id).connections.get? i = some c₁) :
    i ∈ s.seen := by
  rw [get?_drop] at hi
  split at hi
  · cases hi
  · exact h i c₁ hi

/-! ## Guests -/

/-- The part has all that guests get to see. -/
structure Hub.ForGuests (s t : Hub σ) : Prop extends s.Part t where
  world : t.world = s.world
  connections : t.connections = s.connections
  served : t.served = s.served
  buckets : t.limits.requestBuckets = s.limits.requestBuckets
  guests : ∀ id c, t.connections.get? id = some c → id ∈ t.seen

/-- Those who are no guests are answered at once, and leave the table of requests alone. -/
lemma not_guest {request : HttpRequest} (h : S.isGuest request = false) (limits : Limits)
    (now : ℚ) :
    (S.safetyMiddleware limits request now).1 ≠ .passed ∧
      (S.safetyMiddleware limits request now).2.requestBuckets = limits.requestBuckets := by
  rw [HttpServer.safetyMiddleware_eq]
  unfold HttpServer.isGuest at h
  cases hclass : S.classOf request with
  | early v =>
    refine ⟨?_, rfl⟩
    rintro rfl
    exact HttpServer.classOf_ne_passed request hclass
  | unauthorized body => exact ⟨by simp, rfl⟩
  | exempt => simp [hclass] at h
  | metered => simp [hclass] at h

/-- What becomes of a guest depends on the table of requests only. -/
lemma guest_congr {request : HttpRequest} (h : S.isGuest request = true) {limits limits' : Limits}
    (hbuckets : limits'.requestBuckets = limits.requestBuckets) (now : ℚ) :
    (S.safetyMiddleware limits' request now).1 = (S.safetyMiddleware limits request now).1 ∧
      (S.safetyMiddleware limits' request now).2.requestBuckets =
        (S.safetyMiddleware limits request now).2.requestBuckets := by
  rw [HttpServer.safetyMiddleware_eq, HttpServer.safetyMiddleware_eq]
  unfold HttpServer.isGuest at h
  cases hclass : S.classOf request with
  | early v => simp [hclass] at h
  | unauthorized body => simp [hclass] at h
  | exempt => exact ⟨rfl, hbuckets⟩
  | metered =>
    dsimp only
    rw [hbuckets]
    exact ⟨rfl, rfl⟩

namespace Hub.ForGuests

variable {s s' t : Hub σ}

/-- Those who are no guests change nothing for the guests. -/
lemma hidden (h : s.ForGuests t) (hm : S.guestMove m = false) (hstep : HttpStep S s m s') :
    s'.ForGuests t := by
  cases hstep with
  | @answered id request now r hid hr =>
    obtain ⟨-, hbuckets⟩ := not_guest (S := S) hm s.limits now
    exact ⟨h.toPart.hidden hid _ r, h.world, h.connections, h.served,
      h.buckets.trans hbuckets.symm, h.guests⟩
  | opened hid hc =>
    exact absurd (HttpServer.outset_eq_inr hc).1 (not_guest hm _ _).1
  | read => cases hm
  | overrun => cases hm
  | parsed => cases hm
  | unparsed => cases hm
  | gone => cases hm
  | called => cases hm

/-- A move of a guest is possible for the part as well, and comes to the same. -/
lemma visible (h : s.ForGuests t) (hm : S.guestMove m = true) (hstep : HttpStep S s m s') :
    ∃ t', HttpStep S t m t' ∧ s'.ForGuests t' := by
  have hget' : ∀ {id : ℕ} {c : Connection}, s.connections.get? id = some c →
      t.connections.get? id = some c := fun hget => h.connections ▸ hget
  have hseen : ∀ {id : ℕ} {c : Connection}, s.connections.get? id = some c → id ∈ t.seen :=
    fun hget => h.guests _ _ (hget' hget)
  have hset : ∀ (id : ℕ) (c : Connection), (t.set id c).connections = (s.set id c).connections := by
    intro id c
    unfold Hub.set
    rw [h.connections]
  have hdrop : ∀ id : ℕ, (t.drop id).connections = (s.drop id).connections := by
    intro id
    unfold Hub.drop
    rw [h.connections]
  cases hstep with
  | @answered id request now r hid hr =>
    obtain ⟨hverdict, hbuckets⟩ := guest_congr (S := S) hm h.buckets now
    have hid' : id ∉ t.seen := fun hmem => hid (h.seen hmem)
    refine ⟨_, .answered hid' (hverdict ▸ hr), h.toPart.answered_both hid _ _ r, h.world,
      h.connections, h.served, hbuckets, ?_⟩
    exact fun i c hget => List.mem_append_left _ (h.guests i c hget)
  | @opened id request now c hid hc =>
    obtain ⟨hverdict, hbuckets⟩ := guest_congr (S := S) hm h.buckets now
    have hid' : id ∉ t.seen := fun hmem => hid (h.seen hmem)
    refine ⟨_, .opened hid' (hverdict ▸ hc), h.toPart.opened_both hid _ _ c, h.world, ?_,
      h.served, hbuckets, ?_⟩
    · exact hset id c
    · intro i c' hget
      rw [get?_set] at hget
      split at hget
      · next heq => exact List.mem_append_right _ (List.mem_singleton.mpr heq.symm)
      · exact List.mem_append_left _ (h.guests i c' hget)
  | @read id bytes buffer buffer' request endpoint hget hread =>
    refine ⟨_, .read (hget' hget) hread, ?_, h.world, hset _ _, h.served, h.buckets, ?_⟩
    · exact h.toPart.keep rfl rfl (mem_of_get?_set h.working hget) rfl rfl
    · exact mem_of_get?_set h.guests (hget' hget)
  | @overrun id bytes buffer request endpoint hget hread =>
    refine ⟨_, .overrun (hget' hget) hread, ?_, h.world, hdrop _, h.served, h.buckets, ?_⟩
    · refine h.toPart.reply (h.working _ _ hget) rfl rfl (mem_of_get?_drop h.working) rfl ?_
      rw [if_pos (hseen hget)]
      rfl
    · exact mem_of_get?_drop h.guests
  | @parsed id created body buffer request endpoint hget hparse =>
    refine ⟨_, .parsed (hget' hget) hparse, ?_, h.world, hset _ _, h.served, h.buckets, ?_⟩
    · exact h.toPart.keep rfl rfl (mem_of_get?_set h.working hget) rfl rfl
    · exact mem_of_get?_set h.guests (hget' hget)
  | @unparsed id created buffer request endpoint r hget hparse =>
    refine ⟨_, .unparsed (hget' hget) hparse, ?_, h.world, hdrop _, h.served, h.buckets, ?_⟩
    · refine h.toPart.reply (h.working _ _ hget) rfl rfl (mem_of_get?_drop h.working) rfl ?_
      rw [if_pos (hseen hget)]
      rfl
    · exact mem_of_get?_drop h.guests
  | @gone id buffer request endpoint hget =>
    refine ⟨_, .gone (hget' hget), ?_, h.world, hdrop _, h.served, h.buckets, ?_⟩
    · exact h.toPart.keep rfl rfl (mem_of_get?_drop h.working) rfl rfl
    · exact mem_of_get?_drop h.guests
  | @called id answerId patience bytes body created request endpoint x hget hx =>
    refine ⟨_, .called (hget' hget) hx, ?_, ?_, hdrop _, ?_, h.buckets, ?_⟩
    · rw [h.world]
      refine h.toPart.reply (h.working _ _ hget) rfl rfl (mem_of_get?_drop h.working) rfl ?_
      rw [if_pos (hseen hget)]
      rfl
    · dsimp only
      rw [h.world]
    · dsimp only
      rw [h.served]
    · exact mem_of_get?_drop h.guests

end Hub.ForGuests

/-! ## Strangers -/

/-- The reply to a failed authentication: status 401, or 429 if there are too many of them. -/
def HttpReply.IsRefusal (r : HttpReply) : Prop :=
  r = .reply rateLimitExceeded ∨ ∃ body, r = .reply (.error 401 body)

/-- The part has all that strangers get to see, and nothing else. -/
structure Hub.ForStrangers (w : World σ) (s t : Hub σ) : Prop extends s.Part t where
  world : t.world = w
  connections : t.connections = []
  served : t.served = []
  buckets : t.limits.authFailureBuckets = s.limits.authFailureBuckets
  refused : ∀ p ∈ t.answered, p.2.IsRefusal
  strangers : ∀ id c, s.connections.get? id = some c → id ∉ t.seen

/-- Those who are no strangers leave the table of failed authentication alone. -/
lemma not_stranger {request : HttpRequest} (h : S.isStranger request = false) (limits : Limits)
    (now : ℚ) : (S.safetyMiddleware limits request now).2.authFailureBuckets =
      limits.authFailureBuckets := by
  rw [HttpServer.safetyMiddleware_eq]
  unfold HttpServer.isStranger at h
  cases hclass : S.classOf request with
  | early v => rfl
  | unauthorized body => simp [hclass] at h
  | exempt => rfl
  | metered => rfl

/-- What becomes of a stranger depends on the table of failed authentication only. -/
lemma stranger_congr {request : HttpRequest} (h : S.isStranger request = true)
    {limits limits' : Limits} (hbuckets : limits'.authFailureBuckets = limits.authFailureBuckets)
    (now : ℚ) :
    (S.safetyMiddleware limits' request now).1 = (S.safetyMiddleware limits request now).1 ∧
      (S.safetyMiddleware limits' request now).2.authFailureBuckets =
        (S.safetyMiddleware limits request now).2.authFailureBuckets ∧
      ∃ r, (S.safetyMiddleware limits request now).1 = .refused r ∧
        (HttpReply.reply r).IsRefusal := by
  rw [HttpServer.safetyMiddleware_eq, HttpServer.safetyMiddleware_eq]
  unfold HttpServer.isStranger at h
  cases hclass : S.classOf request with
  | early v => simp [hclass] at h
  | exempt => simp [hclass] at h
  | metered => simp [hclass] at h
  | unauthorized body =>
    dsimp only
    rw [hbuckets]
    refine ⟨rfl, rfl, _, rfl, ?_⟩
    split
    · exact .inl rfl
    · exact .inr ⟨body, rfl⟩

namespace Hub.ForStrangers

variable {s s' t : Hub σ} {w : World σ}

/-- Others change nothing for strangers. -/
lemma hidden (h : s.ForStrangers w t) (hm : S.strangerMove m = false)
    (hstep : HttpStep S s m s') : s'.ForStrangers w t := by
  -- the part sees no reply to a request that has a connection
  have hquiet : s'.Part t → s'.limits.authFailureBuckets = s.limits.authFailureBuckets →
      (∀ i c, s'.connections.get? i = some c → i ∉ t.seen) → s'.ForStrangers w t :=
    fun hpart hbuckets hstrangers =>
      ⟨hpart, h.world, h.connections, h.served, h.buckets.trans hbuckets.symm, h.refused,
        hstrangers⟩
  have hset : ∀ {id : ℕ} {c c' : Connection}, s.connections.get? id = some c → ∀ i c₁,
      (s.set id c').connections.get? i = some c₁ → i ∉ t.seen := by
    intro id c c' hget i c₁ hi
    rw [get?_set] at hi
    split at hi
    · next heq => exact heq ▸ h.strangers id c hget
    · exact h.strangers i c₁ hi
  have hdrop : ∀ {id : ℕ} i c₁, (s.drop id).connections.get? i = some c₁ → i ∉ t.seen := by
    intro id i c₁ hi
    rw [get?_drop] at hi
    split at hi
    · cases hi
    · exact h.strangers i c₁ hi
  cases hstep with
  | @answered id request now r hid hr =>
    exact hquiet (h.toPart.hidden hid _ r) (not_stranger (S := S) hm _ now) h.strangers
  | @opened id request now c hid hc =>
    have hnot : id ∉ t.seen := fun hmem => hid (h.seen hmem)
    refine hquiet ⟨?_, h.answered, ?_, ?_⟩ (not_stranger (S := S) hm _ now) ?_
    · exact List.Subset.trans h.seen (List.subset_append_left _ _)
    · exact fun p hp => List.mem_append_left _ (h.replied p hp)
    · exact (h.toPart.opened_both hid _ s.limits c).working
    · intro i c' hi
      rw [get?_set] at hi
      split at hi
      · next heq => exact heq ▸ hnot
      · exact h.strangers i c' hi
  | read hget _ =>
    exact hquiet (h.toPart.keep rfl rfl (mem_of_get?_set h.working hget) rfl rfl) rfl (hset hget)
  | parsed hget _ =>
    exact hquiet (h.toPart.keep rfl rfl (mem_of_get?_set h.working hget) rfl rfl) rfl (hset hget)
  | gone hget =>
    exact hquiet (h.toPart.keep rfl rfl (mem_of_get?_drop h.working) rfl rfl) rfl hdrop
  | overrun hget _ =>
    refine hquiet (h.toPart.reply (h.working _ _ hget) rfl rfl (mem_of_get?_drop h.working) rfl ?_)
      rfl hdrop
    rw [if_neg (h.strangers _ _ hget)]
  | unparsed hget _ =>
    refine hquiet (h.toPart.reply (h.working _ _ hget) rfl rfl (mem_of_get?_drop h.working) rfl ?_)
      rfl hdrop
    rw [if_neg (h.strangers _ _ hget)]
  | called hget _ =>
    refine hquiet (h.toPart.reply (h.working _ _ hget) rfl rfl (mem_of_get?_drop h.working) rfl ?_)
      rfl hdrop
    rw [if_neg (h.strangers _ _ hget)]

/-- A stranger is answered alike. -/
lemma visible (h : s.ForStrangers w t) (hm : S.strangerMove m = true) (hstep : HttpStep S s m s') :
    ∃ t', HttpStep S t m t' ∧ s'.ForStrangers w t' := by
  cases hstep with
  | @answered id request now r hid hr =>
    obtain ⟨hverdict, hbuckets, refusal, hrefused, hrefusal⟩ :=
      stranger_congr (S := S) hm h.buckets now
    have hid' : id ∉ t.seen := fun hmem => hid (h.seen hmem)
    refine ⟨_, .answered hid' (hverdict ▸ hr), h.toPart.answered_both hid _ _ r, h.world,
      h.connections, h.served, hbuckets, ?_, ?_⟩
    · intro p hp
      rcases List.mem_append.mp hp with hp | hp
      · exact h.refused p hp
      · rw [hrefused] at hr
        rw [List.mem_singleton.mp hp, ← Sum.inl.inj hr]
        exact hrefusal
    · intro i c hget hmem
      rcases List.mem_append.mp hmem with hmem | hmem
      · exact h.strangers i c hget hmem
      · rw [List.mem_singleton.mp hmem] at hget
        exact hid (h.working id c hget)
  | opened hid hc =>
    obtain ⟨-, -, refusal, hrefused, -⟩ := stranger_congr (S := S) hm (rfl :
      s.limits.authFailureBuckets = s.limits.authFailureBuckets) _
    rw [(HttpServer.outset_eq_inr hc).1] at hrefused
    cases hrefused
  | read => cases hm
  | overrun => cases hm
  | parsed => cases hm
  | unparsed => cases hm
  | gone => cases hm
  | called => cases hm

end Hub.ForStrangers

/-- What the server has seen are the arrivals. -/
lemma seen_run {w : World σ} {h : Hub σ} (hrun : S.run { world := w } ms = some h) :
    h.seen = arrivals ms := by
  refine PartialRun.historyInvariant (I := fun ms h => h.seen = arrivals ms) rfl ?_ hrun
  intro ms h m h' _ hseen hstep
  have hother : (∀ id request now, m ≠ .arrive id request now) →
      arrivals (ms ++ [m]) = arrivals ms := by
    intro hm
    unfold arrivals
    cases m with
    | arrive id request now => exact absurd rfl (hm id request now)
    | _ => simp
  have harrive : ∀ id request now,
      arrivals (ms ++ [.arrive id request now]) = arrivals ms ++ [id] := by
    intro id request now
    simp [arrivals]
  cases HttpServer.httpStep_of_step hstep with
  | answered => rw [harrive, ← hseen]; rfl
  | opened => rw [harrive, ← hseen]; rfl
  | _ => rw [hother (by simp), ← hseen]; rfl

/-- The unwinding of a run of the server. -/
lemma run_filter {R : Hub σ → Hub σ → Prop} {visible : HttpMove → Bool}
    (hhidden : ∀ s t m s', R s t → visible m = false → HttpStep S s m s' → R s' t)
    (hvisible : ∀ s t m s', R s t → visible m = true → HttpStep S s m s' →
      ∃ t', HttpStep S t m t' ∧ R s' t') {s s' t : Hub σ} (hR : R s t)
    (hrun : S.run s ms = some s') : ∃ t', S.run t (ms.filter visible) = some t' ∧ R s' t' := by
  refine PartialRun.run_filter ?_ ?_ hR hrun
  · intro s t m s' hR hm hstep
    exact hhidden s t m s' hR hm (HttpServer.httpStep_of_step hstep)
  · intro s t m s' hR hm hstep
    obtain ⟨t', ht', hR'⟩ := hvisible s t m s' hR hm (HttpServer.httpStep_of_step hstep)
    exact ⟨t', HttpServer.step_of_httpStep ht', hR'⟩

/-- **Strangers and guests do not meet.** Take any run of the server. Without the requests that are
no guests it is a run as well, in which the gateway is called for the same and comes to the same,
and every guest gets the same answers. And with the strangers only it is a run, in which the gateway
is not called, and every stranger gets the same answers: status 401, or 429. -/
theorem strangers_and_guests_isolated (S : HttpServer σ) {w : World σ} {h : Hub σ}
    (hrun : S.run { world := w } ms = some h) :
    (∃ g, S.run { world := w } (ms.filter S.guestMove) = some g ∧ g.world = h.world ∧
      g.served = h.served ∧ g.connections = h.connections ∧
      g.limits.requestBuckets = h.limits.requestBuckets ∧
      g.answered = h.answered.filter fun p => p.1 ∈ arrivals (ms.filter S.guestMove)) ∧
    ∃ t, S.run { world := w } (ms.filter S.strangerMove) = some t ∧ t.world = w ∧ t.served = [] ∧
      t.limits.authFailureBuckets = h.limits.authFailureBuckets ∧
      (∀ p ∈ t.answered, p.2 = .reply rateLimitExceeded ∨
        ∃ body, p.2 = .reply (.error 401 body)) ∧
      t.answered = h.answered.filter fun p => p.1 ∈ arrivals (ms.filter S.strangerMove) := by
  have hpart : Hub.Part ({ world := w } : Hub σ) { world := w } :=
    ⟨List.Subset.refl _, rfl, by simp, by simp⟩
  constructor
  · have hstart : Hub.ForGuests ({ world := w } : Hub σ) { world := w } :=
      ⟨hpart, rfl, rfl, rfl, rfl, by simp⟩
    obtain ⟨g, hg, hsame⟩ := run_filter (fun s t m s' hR hm hstep => hR.hidden hm hstep)
      (fun s t m s' hR hm hstep => hR.visible hm hstep) hstart hrun
    refine ⟨g, hg, hsame.world, hsame.served, hsame.connections, hsame.buckets, ?_⟩
    rw [hsame.answered, seen_run hg]
  · have hstart : Hub.ForStrangers w ({ world := w } : Hub σ) { world := w } :=
      ⟨hpart, rfl, rfl, rfl, rfl, by simp, by simp⟩
    obtain ⟨t, ht, hsame⟩ := run_filter (fun s t m s' hR hm hstep => hR.hidden hm hstep)
      (fun s t m s' hR hm hstep => hR.visible hm hstep) hstart hrun
    refine ⟨t, ht, hsame.world, hsame.served, hsame.buckets, hsame.refused, ?_⟩
    rw [hsame.answered, seen_run ht]

end Runs

/-- Without the request that has no token, the other two are answered alike. -/
theorem strangers_and_guests_isolated_threeRequests :
    ∃ h g, tokenServer.run { world := failThenAnswer } threeRequests = some h ∧
      tokenServer.run { world := failThenAnswer } (threeRequests.filter tokenServer.guestMove) =
        some g ∧
      threeRequests.filter tokenServer.guestMove = threeRequests.tail ∧ g.world = h.world ∧
      g.answered = h.answered.filter fun p => p.1 ∈ [2, 3] := by
  have hsome : (tokenServer.run { world := failThenAnswer } threeRequests).isSome = true := by
    decide +kernel
  obtain ⟨h, hrun⟩ := Option.isSome_iff_exists.mp hsome
  obtain ⟨⟨g, hg, hworld, -, -, -, hanswered⟩, -⟩ := strangers_and_guests_isolated tokenServer hrun
  exact ⟨h, g, hrun, hg, rfl, hworld, hanswered⟩

end AgentCtl
