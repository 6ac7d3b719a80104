import AgentCtl.Library.Recency
import AgentCtl.Python.Str
import Mathlib.Tactic.Linarith

set_option relaxedAutoImplicit false
set_option autoImplicit false

/-!
# The rate limiter

`server/app.py`: `_rate_limited` keeps a bucket of times for each client, bounded in number, the
client seen last the last to go. A client whose bucket is not dropped between two of its calls is
held to an exact sliding window: it is rejected when as many of its calls as the limit allows were
admitted in the last minute.

## Main definitions

* `AgentCtl.rateLimited` — one call.
* `AgentCtl.rateLimitedRun` — a run of calls, with its history.
* `AgentCtl.admittedIn` — the admitted calls of a client in an interval.

## Main results

* `AgentCtl.InWindow.call` — one more call keeps the bucket of a client in line with its history.
* `AgentCtl.rateLimited_sliding_window` — the sliding window, and the bound on the buckets.
-/

namespace AgentCtl

open OrderedDict

/-- The times of the admitted calls of each client. -/
abbrev Buckets := OrderedDict Str (List ℚ)

/-- `while bucket and now_ts - bucket[0] > 60: bucket.popleft()` -/
def prune (now : ℚ) (bucket : List ℚ) : List ℚ := bucket.dropWhile fun t => 60 < now - t

/-- `_rate_limited`, with the reading of the clock: is the call rejected, and the buckets after
it. -/
def rateLimited (buckets : Buckets) (client : Str) (limit maxClients : ℕ) (now : ℚ) :
    Bool × Buckets :=
  let present := if buckets.has client then buckets else buckets.insert client []
  let seen := present.moveToEnd client
  let bucket := prune now (seen.getD client [])
  if limit ≤ bucket.length then (true, seen.insert client bucket)
  else (false, trim maxClients (seen.insert client (bucket ++ [now])))

/-- A call of a client, at a time. -/
structure LimiterCall where
  client : Str
  time : ℚ

/-- A call of the past, and whether it was rejected. -/
structure LimiterEntry extends LimiterCall where
  rejected : Bool

/-- The clients of a list of calls, oldest first. -/
def clientsOf (calls : List LimiterCall) : List Str := calls.map LimiterCall.client

variable (limit maxClients : ℕ)

/-- A call, and its entry in the history. -/
def rateLimitedStep (s : Buckets × List LimiterEntry) (call : LimiterCall) :
    Buckets × List LimiterEntry :=
  let r := rateLimited s.1 call.client limit maxClients call.time
  (r.2, s.2 ++ [⟨call, r.1⟩])

/-- The buckets after a list of calls, with their history. -/
def rateLimitedRun (calls : List LimiterCall) : Buckets × List LimiterEntry :=
  calls.foldl (rateLimitedStep limit maxClients) ([], [])

/-- The times of the admitted calls of a client, oldest first. -/
def admittedTimes (client : Str) (history : List LimiterEntry) : List ℚ :=
  (history.filter fun e => e.client = client ∧ e.rejected = false).map fun e => e.time

/-- The number of admitted calls of a client in a closed interval. -/
def admittedIn (client : Str) (history : List LimiterEntry) (a b : ℚ) : ℕ :=
  (admittedTimes client history).countP fun t => a ≤ t ∧ t ≤ b

/-- Fewer than so many distinct other clients call between two consecutive calls of a client. -/
def FewBetween (client : Str) (calls : List LimiterCall) : Prop :=
  calls.Between fun a mid b => a.client = client → b.client = client →
    (∀ x ∈ mid, x.client ≠ client) → (clientsOf mid).toFinset.card < maxClients

variable {limit maxClients}

/-! ## One call -/

/-- In an ordered bucket what is left are the times of the last minute. -/
lemma prune_eq_filter {bucket : List ℚ} (h : bucket.Pairwise (· ≤ ·)) (now : ℚ) :
    prune now bucket = bucket.filter fun t => now - 60 ≤ t := by
  induction bucket with
  | nil => rfl
  | cons t bucket ih =>
    obtain ⟨hhead, htail⟩ := List.pairwise_cons.mp h
    by_cases ht : 60 < now - t
    · have hold : ¬ now - 60 ≤ t := by linarith
      have hprune : prune now (t :: bucket) = prune now bucket := by simp [prune, ht]
      rw [hprune, ih htail, List.filter_cons, if_neg (by simpa using hold)]
    · have hprune : prune now (t :: bucket) = t :: bucket := by simp [prune, ht]
      have hall : ∀ x ∈ t :: bucket, now - 60 ≤ x := by
        intro x hx
        rcases List.mem_cons.mp hx with rfl | hx
        · linarith
        · have := hhead x hx
          linarith
      rw [hprune, List.filter_eq_self.mpr (by simpa using hall)]

/-- The buckets after a call, before any of them is dropped: that of the client is the youngest. -/
def touched (buckets : Buckets) (client : Str) (bucket : List ℚ) : Buckets :=
  ((if buckets.has client then buckets else buckets.insert client []).moveToEnd client).insert
    client bucket

/-- What a call sees and does. -/
lemma rateLimited_eq (buckets : Buckets) (client : Str) (now : ℚ) :
    rateLimited buckets client limit maxClients now =
      let bucket := prune now (buckets.getD client [])
      if limit ≤ bucket.length then (true, touched buckets client bucket)
      else (false, trim maxClients (touched buckets client (bucket ++ [now]))) := by
  have hbucket : ((if buckets.has client then buckets else
      buckets.insert client []).moveToEnd client).getD client [] = buckets.getD client [] := by
    unfold getD
    rw [get?_moveToEnd]
    cases hget : buckets.get? client with
    | none => simp [has, hget]
    | some bucket => simp [has, hget]
  unfold rateLimited touched
  dsimp only
  rw [hbucket]

/-- The keys after a call. -/
lemma keys_touched (buckets : Buckets) (client : Str) (bucket : List ℚ) :
    keys (touched buckets client bucket) = (keys buckets).filter (· ≠ client) ++ [client] := by
  have hmem := mem_keys_iff buckets client
  unfold touched
  rw [keys_insert, keys_moveToEnd]
  cases hget : buckets.get? client with
  | none =>
    have hout : client ∉ keys buckets := by simp [hmem, hget]
    simp [has, hget, keys_insert, hout]
  | some old =>
    have hin : client ∈ keys buckets := by simp [hmem, hget]
    simp [has, hget, hin]

/-- A lookup after a call. -/
lemma get?_touched (buckets : Buckets) (client : Str) (bucket : List ℚ) (c : Str) :
    (touched buckets client bucket).get? c =
      if client = c then some bucket else buckets.get? c := by
  unfold touched
  rw [get?_insert, get?_moveToEnd]
  by_cases hc : client = c
  · rw [if_pos hc, if_pos hc]
  · rw [if_neg hc, if_neg hc]
    split
    · rfl
    · rw [get?_insert, if_neg hc]

/-- A call makes its client the youngest. -/
lemma recent_touched {buckets : Buckets} {uses : List Str} (h : Recent buckets uses) (client : Str)
    (bucket : List ℚ) : Recent (touched buckets client bucket) (uses ++ [client]) :=
  h.of_keys client (keys_touched buckets client bucket)

/-- A call keeps the buckets in the order in which their clients were seen last. -/
lemma recent_rateLimited {buckets : Buckets} {uses : List Str} (h : Recent buckets uses)
    (client : Str) (now : ℚ) :
    Recent (rateLimited buckets client limit maxClients now).2 (uses ++ [client]) := by
  rw [rateLimited_eq]
  dsimp only
  split
  · exact recent_touched h client _
  · exact (recent_touched h client _).trim _

/-- A call keeps the number of buckets within its bound. -/
lemma length_rateLimited {buckets : Buckets} (hlimit : 0 < limit)
    (hlength : buckets.length ≤ maxClients) (client : Str) (now : ℚ) :
    (rateLimited buckets client limit maxClients now).2.length ≤ maxClients := by
  rw [rateLimited_eq]
  dsimp only
  split
  · next hfull =>
    -- a rejected client has a bucket already
    have hmem : client ∈ keys buckets := by
      rw [mem_keys_iff]
      unfold getD at hfull
      cases hget : buckets.get? client with
      | some bucket => rfl
      | none =>
        rw [hget] at hfull
        exact absurd (hlimit.trans_le hfull) (lt_irrefl 0)
    have hkeys := congrArg List.length
      (keys_touched buckets client (prune now (buckets.getD client [])))
    have hlt : ((keys buckets).filter (· ≠ client)).length < (keys buckets).length :=
      List.length_filter_lt_length_iff_exists.mpr ⟨client, hmem, by simp⟩
    unfold keys at hkeys hlt
    rw [List.length_append, List.length_singleton, List.length_map] at hkeys
    rw [List.length_map] at hlt
    change (touched _ _ _).length ≤ maxClients
    omega
  · exact length_trim _ _

/-- A call keeps the bucket of another client that was seen not long ago, or never. -/
lemma get?_rateLimited_of_ne {buckets : Buckets} {uses : List Str} (h : Recent buckets uses)
    {client c : Str} (hne : client ≠ c) (now : ℚ)
    (hc : usedSince (uses ++ [client]) c < maxClients ∨ c ∉ uses) :
    (rateLimited buckets client limit maxClients now).2.get? c = buckets.get? c := by
  have htouched : ∀ bucket, (touched buckets client bucket).get? c = buckets.get? c := by
    intro bucket
    rw [get?_touched, if_neg hne]
  rw [rateLimited_eq]
  dsimp only
  split
  · exact htouched _
  · rcases hc with hused | hnever
    · exact ((recent_touched h client _).get?_trim hused).trans (htouched _)
    · have hnone : buckets.get? c = none := by
        have hout : c ∉ keys buckets := fun hmem => hnever (h.used c hmem)
        rw [mem_keys_iff] at hout
        exact Option.not_isSome_iff_eq_none.mp hout
      rw [hnone, ← Option.not_isSome_iff_eq_none, ← mem_keys_iff]
      intro hmem
      have hmem' := ((trim_suffix maxClients _).sublist.map Prod.fst).subset hmem
      have hsome := (mem_keys_iff _ c).mp hmem'
      rw [htouched, hnone] at hsome
      cases hsome

/-! ## Runs -/

/-- One more call. -/
lemma rateLimitedRun_concat (calls : List LimiterCall) (call : LimiterCall) :
    rateLimitedRun limit maxClients (calls ++ [call]) =
      rateLimitedStep limit maxClients (rateLimitedRun limit maxClients calls) call := by
  rw [rateLimitedRun, List.foldl_append]
  rfl

/-- The history is that of the calls. -/
lemma history_rateLimitedRun (calls : List LimiterCall) :
    (rateLimitedRun limit maxClients calls).2.map LimiterEntry.toLimiterCall = calls := by
  induction calls using List.reverseRecOn with
  | nil => rfl
  | append_singleton calls call ih =>
    rw [rateLimitedRun_concat, rateLimitedStep, List.map_append, ih]
    rfl

/-- After a run the buckets are in the order in which their clients were seen last, and within their
bound. -/
lemma recent_rateLimitedRun (maxClients : ℕ) (hlimit : 0 < limit) (calls : List LimiterCall) :
    Recent (rateLimitedRun limit maxClients calls).1 (clientsOf calls) ∧
      (rateLimitedRun limit maxClients calls).1.length ≤ maxClients := by
  induction calls using List.reverseRecOn with
  | nil => exact ⟨Recent.nil _, Nat.zero_le _⟩
  | append_singleton calls call ih =>
    rw [rateLimitedRun_concat, clientsOf, List.map_append]
    exact ⟨recent_rateLimited ih.1 call.client call.time,
      length_rateLimited hlimit ih.2 call.client call.time⟩

/-! ## One client -/

variable {c : Str} {calls : List LimiterCall} {history : List LimiterEntry}

/-- One more call of another client. -/
lemma admittedTimes_concat_of_ne {e : LimiterEntry} (h : e.client ≠ c) :
    admittedTimes c (history ++ [e]) = admittedTimes c history := by
  simp [admittedTimes, List.filter_append, h]

/-- One more call of the client itself. -/
lemma admittedTimes_concat_self (history : List LimiterEntry) {e : LimiterEntry}
    (h : e.client = c) : admittedTimes c (history ++ [e]) =
      if e.rejected then admittedTimes c history else admittedTimes c history ++ [e.time] := by
  cases hr : e.rejected with
  | true => simp [admittedTimes, List.filter_append, hr]
  | false => simp [admittedTimes, List.filter_append, hr, h]

/-- The admitted times are times of calls. -/
lemma admittedTimes_sublist (c : Str) (history : List LimiterEntry) :
    (admittedTimes c history).Sublist
      ((history.map LimiterEntry.toLimiterCall).map LimiterCall.time) := by
  rw [List.map_map]
  exact List.filter_sublist.map _

/-- Where few other clients call between two calls of a client, few were seen since its last call,
if there is one. -/
lemma FewBetween.usedSince_lt {t : ℚ} (h : FewBetween maxClients c (calls ++ [⟨c, t⟩])) :
    usedSince (clientsOf calls) c < maxClients ∨ c ∉ clientsOf calls := by
  by_cases hcalls : ∃ x ∈ calls, decide (x.client = c) = true
  · obtain ⟨pre, a, ha, hsplit⟩ := List.exists_append_since hcalls
    have hmid : ∀ x ∈ calls.since fun x => x.client = c, x.client ≠ c := by
      intro x hx
      simpa using List.not_of_mem_since hx
    have hfew := (List.between_concat.mp h).2 pre a _ hsplit (of_decide_eq_true ha) rfl hmid
    left
    unfold usedSince clientsOf
    rw [List.since_map]
    exact hfew
  · right
    intro hmem
    obtain ⟨x, hx, hxc⟩ := List.mem_map.mp hmem
    exact hcalls ⟨x, hx, decide_eq_true hxc⟩

/-- The bucket of a client next to its history: as long as it is kept it holds the admitted calls of
the last minute; every call was rejected as the sliding window says; and no minute has more admitted
calls than the limit. -/
structure InWindow (limit maxClients : ℕ) (c : Str) (buckets : Buckets) (calls : List LimiterCall)
    (history : List LimiterEntry) : Prop where
  sublist : usedSince (clientsOf calls) c < maxClients ∨ c ∉ clientsOf calls →
    (buckets.getD c []).Sublist (admittedTimes c history)
  recent : usedSince (clientsOf calls) c < maxClients ∨ c ∉ clientsOf calls →
    ∀ now, (∀ x ∈ calls, x.time ≤ now) → (buckets.getD c []).filter (fun t => now - 60 ≤ t) =
      (admittedTimes c history).filter fun t => now - 60 ≤ t
  exact : ∀ pre e post, history = pre ++ e :: post → e.client = c →
    (e.rejected = true ↔ admittedIn c pre (e.time - 60) e.time = limit)
  within : ∀ a, admittedIn c history a (a + 60) ≤ limit

namespace InWindow

variable {buckets : Buckets}

/-- Before the first call. -/
lemma nil (limit maxClients : ℕ) (c : Str) : InWindow limit maxClients c [] [] [] where
  sublist _ := List.Sublist.refl _
  recent _ _ _ := rfl
  exact pre e post h := absurd h (by simp)
  within _ := Nat.zero_le _

variable (h : InWindow limit maxClients c buckets calls history)

include h

/-- One more call of another client. -/
lemma call_of_ne (hrecent : Recent buckets (clientsOf calls)) {client : Str} (hne : client ≠ c)
    (now : ℚ) :
    InWindow limit maxClients c (rateLimited buckets client limit maxClients now).2
      (calls ++ [⟨client, now⟩])
      (history ++ [⟨⟨client, now⟩, (rateLimited buckets client limit maxClients now).1⟩]) := by
  have hclients : clientsOf (calls ++ [⟨client, now⟩]) = clientsOf calls ++ [client] :=
    List.map_append
  have hbefore : usedSince (clientsOf calls ++ [client]) c < maxClients ∨
      c ∉ clientsOf calls ++ [client] →
      usedSince (clientsOf calls) c < maxClients ∨ c ∉ clientsOf calls :=
    Or.imp (lt_of_le_of_lt (usedSince_le_concat hne)) fun hnot hmem =>
      hnot (List.mem_append_left _ hmem)
  have hbucket : usedSince (clientsOf calls ++ [client]) c < maxClients ∨
      c ∉ clientsOf calls ++ [client] →
      (rateLimited buckets client limit maxClients now).2.getD c [] = buckets.getD c [] := by
    intro hc
    unfold getD
    rw [get?_rateLimited_of_ne hrecent hne now
      (hc.imp id fun hnot hmem => hnot (List.mem_append_left _ hmem))]
  constructor
  case sublist =>
    rw [hclients, admittedTimes_concat_of_ne hne]
    intro hc
    rw [hbucket hc]
    exact h.sublist (hbefore hc)
  case recent =>
    rw [hclients, admittedTimes_concat_of_ne hne]
    intro hc now' hnow'
    rw [hbucket hc]
    exact h.recent (hbefore hc) now' fun x hx => hnow' x (List.mem_append_left _ hx)
  case exact =>
    intro pre e post hsplit he
    rcases List.concat_eq_append_cons.mp hsplit with ⟨-, rfl, -⟩ | ⟨post', -, hsplit'⟩
    · exact absurd he hne
    · exact h.exact pre e post' hsplit' he
  case within =>
    intro a
    unfold admittedIn
    rw [admittedTimes_concat_of_ne hne]
    exact h.within a

/-- One more call of the client itself, whose bucket has been kept. -/
lemma call_self (hrecent : Recent buckets (clientsOf calls)) (hmax : 0 < maxClients) {now : ℚ}
    (hkept : usedSince (clientsOf calls) c < maxClients ∨ c ∉ clientsOf calls)
    (hnow : ∀ x ∈ calls, x.time ≤ now) (hsorted : (admittedTimes c history).Pairwise (· ≤ ·))
    (hpast : ∀ t ∈ admittedTimes c history, t ≤ now) :
    InWindow limit maxClients c (rateLimited buckets c limit maxClients now).2
      (calls ++ [⟨c, now⟩])
      (history ++ [⟨⟨c, now⟩, (rateLimited buckets c limit maxClients now).1⟩]) := by
  have hsub := h.sublist hkept
  have hprune := prune_eq_filter (hsorted.sublist hsub) now
  -- the pruned bucket holds the admitted calls of the last minute
  have hcount : (prune now (buckets.getD c [])).length = admittedIn c history (now - 60) now := by
    rw [hprune, h.recent hkept now hnow, ← List.countP_eq_length_filter]
    refine List.countP_congr fun t ht => ?_
    simp [hpast t ht]
  have hwithin := h.within (now - 60)
  rw [sub_add_cancel] at hwithin
  have hanswer : (rateLimited buckets c limit maxClients now).1 =
      decide (limit ≤ admittedIn c history (now - 60) now) := by
    rw [rateLimited_eq, ← hcount]
    dsimp only
    split
    · next hfull => exact (decide_eq_true hfull).symm
    · next hfull => exact (decide_eq_false hfull).symm
  have htimes := admittedTimes_concat_self (c := c) history
    (e := ⟨⟨c, now⟩, (rateLimited buckets c limit maxClients now).1⟩) rfl
  have hbucket : (rateLimited buckets c limit maxClients now).2.getD c [] =
      if limit ≤ admittedIn c history (now - 60) now then prune now (buckets.getD c [])
      else prune now (buckets.getD c []) ++ [now] := by
    unfold getD
    rw [rateLimited_eq, ← hcount]
    dsimp only
    split
    · rw [get?_touched, if_pos rfl]
      rfl
    · rw [(recent_touched hrecent c _).get?_trim (by simpa using hmax), get?_touched,
        if_pos rfl]
      rfl
  have hkeep : ∀ now', now ≤ now' →
      (prune now (buckets.getD c [])).filter (fun t => now' - 60 ≤ t) =
        (buckets.getD c []).filter fun t => now' - 60 ≤ t := by
    intro now' hle
    rw [hprune, List.filter_filter]
    refine List.filter_congr fun t _ => ?_
    by_cases ht : now' - 60 ≤ t
    · have ht' : now - 60 ≤ t := by linarith
      simp [ht, ht']
    · simp [ht]
  rw [hanswer] at htimes ⊢
  simp only [decide_eq_true_eq] at htimes
  constructor
  case sublist =>
    intro _
    have hpruned := (List.dropWhile_sublist (fun t => decide (60 < now - t))).trans hsub
    rw [hbucket, htimes]
    split
    · exact hpruned
    · exact hpruned.append (List.Sublist.refl [now])
  case recent =>
    intro _ now' hnow'
    have hle : now ≤ now' := hnow' _ (List.mem_append_right _ (List.mem_singleton_self _))
    have hold := h.recent hkept now' fun x hx => hnow' x (List.mem_append_left _ hx)
    rw [hbucket, htimes]
    split
    · rw [hkeep now' hle, hold]
    · rw [List.filter_append, List.filter_append, hkeep now' hle, hold]
  case exact =>
    intro pre e post hsplit he
    rcases List.concat_eq_append_cons.mp hsplit with ⟨rfl, rfl, -⟩ | ⟨post', -, hsplit'⟩
    · simp only [decide_eq_true_eq]
      omega
    · exact h.exact pre e post' hsplit' he
  case within =>
    intro a
    have hold := h.within a
    change (admittedTimes c (history ++ _)).countP _ ≤ limit
    rw [htimes]
    split
    · exact hold
    · next hroom =>
      rw [List.countP_append, List.countP_singleton]
      split
      · next hin =>
        -- the admitted calls of the interval so far are calls of the last minute
        have hlast : (admittedTimes c history).countP (fun t => a ≤ t ∧ t ≤ a + 60) ≤
            admittedIn c history (now - 60) now := by
          refine List.countP_mono_left fun t ht hta => ?_
          simp only [decide_eq_true_eq] at hin hta ⊢
          exact ⟨by linarith, hpast t ht⟩
        omega
      · exact hold

end InWindow

/-- After every run, on a clock that does not go back, the bucket of a client between whose calls
few others call is in line with its history. -/
lemma inWindow_rateLimitedRun (hlimit : 0 < limit) (hmax : 0 < maxClients)
    (hclock : calls.Pairwise fun a b => a.time ≤ b.time) (hfew : FewBetween maxClients c calls) :
    InWindow limit maxClients c (rateLimitedRun limit maxClients calls).1 calls
      (rateLimitedRun limit maxClients calls).2 := by
  induction calls using List.reverseRecOn with
  | nil => exact InWindow.nil limit maxClients c
  | append_singleton calls call ih =>
    obtain ⟨client, now⟩ := call
    obtain ⟨hclock', -, hlast⟩ := List.pairwise_append.mp hclock
    have hnow : ∀ x ∈ calls, x.time ≤ now := fun x hx => hlast x hx _ (List.mem_singleton_self _)
    have hih := ih hclock' (List.between_concat.mp hfew).1
    have hrecent := (recent_rateLimitedRun maxClients hlimit calls).1
    rw [rateLimitedRun_concat]
    by_cases hne : client = c
    · subst hne
      have htimes := admittedTimes_sublist client (rateLimitedRun limit maxClients calls).2
      rw [history_rateLimitedRun] at htimes
      refine hih.call_self hrecent hmax hfew.usedSince_lt hnow ?_ ?_
      · exact (List.pairwise_map.mpr hclock').sublist htimes
      · intro t ht
        obtain ⟨x, hx, rfl⟩ := List.mem_map.mp (htimes.subset ht)
        exact hnow x hx
    · exact hih.call_of_ne hrecent hne now

/-- **An exact sliding window, in bounded memory.** After every run of calls on a clock that does
not go back there are no more buckets than allowed; and for a client between whose consecutive calls
fewer other clients call, a call was rejected if and only if as many of its calls as the limit
allows were admitted in the minute before, and no minute has more admitted calls of it. -/
theorem rateLimited_sliding_window (hlimit : 0 < limit) (hmax : 0 < maxClients)
    (calls : List LimiterCall) (hclock : calls.Pairwise fun a b => a.time ≤ b.time) :
    let s := rateLimitedRun limit maxClients calls
    s.1.length ≤ maxClients ∧
    ∀ c, FewBetween maxClients c calls →
      (∀ pre e post, s.2 = pre ++ e :: post → e.client = c →
        (e.rejected = true ↔ admittedIn c pre (e.time - 60) e.time = limit)) ∧
      ∀ a, admittedIn c s.2 a (a + 60) ≤ limit := by
  refine ⟨(recent_rateLimitedRun maxClients hlimit calls).2, fun c hfew => ?_⟩
  have hwindow := inWindow_rateLimitedRun hlimit hmax hclock hfew
  exact ⟨hwindow.exact, hwindow.within⟩

/-- Three calls of a client within a minute, another client in between. -/
def burst : List LimiterCall := [⟨"a", 0⟩, ⟨"b", 10⟩, ⟨"a", 30⟩, ⟨"a", 60⟩]

/-- There is one other client in all. -/
lemma fewBetween_burst : FewBetween 2 "a" burst := by
  intro pre x mid y post hsplit _ _ hmid
  have hsub : (clientsOf mid).toFinset ⊆ {Str.ofString "b"} := by
    intro k hk
    obtain ⟨z, hz, rfl⟩ := List.mem_map.mp (List.mem_toFinset.mp hk)
    have hburst : z ∈ burst := by
      rw [hsplit]
      simp [hz]
    have hne := hmid z hz
    simp only [burst, List.mem_cons, List.not_mem_nil, or_false] at hburst
    rcases hburst with rfl | rfl | rfl | rfl <;> simp_all
  exact (Finset.card_le_card hsub).trans_lt (by simp)

/-- At a limit of two the last one is rejected: the first is just a minute old. -/
theorem rateLimited_sliding_window_burst :
    (rateLimitedRun 2 2 burst).1.length ≤ 2 ∧
      admittedIn "a" (rateLimitedRun 2 2 burst).2 0 (0 + 60) ≤ 2 := by
  obtain ⟨hbounded, hwindow⟩ := @rateLimited_sliding_window 2 2 (by decide) (by decide) burst
    (by decide)
  exact ⟨hbounded, (hwindow "a" fewBetween_burst).2 0⟩

end AgentCtl
