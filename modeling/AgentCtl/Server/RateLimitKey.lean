import AgentCtl.Python.IpAddress
import AgentCtl.Server.App

set_option relaxedAutoImplicit false
set_option autoImplicit false

/-!
# The key of the rate limiter

`server/app.py`: behind a trusted proxy the client of a request is the right-most hop of
`X-Forwarded-For` that is no trusted proxy itself, since what precedes it may be the client's own
text. `_rate_limit_key` looks at the first line of that name only; where the proxy appends a line of
its own instead of extending the client's, the first line is the client's.

## Main definitions

* `AgentCtl.rateLimitKey` — the key of a request.
* `AgentCtl.IsClientHop` — the right-most untrusted one of some hops.
* `AgentCtl.KeyedByClient` — what the key should be.
* `AgentCtl.LaterLinesAgree` — the lines after the first name no other client.

## Main results

* `AgentCtl.hopsOf_intercalate` — the hops of joined lines are those of the lines.
* `AgentCtl.keyOf_injective` — no socket peer has the key of a forwarded client.
* `AgentCtl.rateLimitKey_clientHop_iff` — when the key is that of the client.
-/

namespace AgentCtl

/-- A request as its key sees it: the header lines in their order, under lower-case names, and the
host of the socket peer. -/
structure PeerRequest where
  headers : List (Str × Str)
  client : Option Str

/-- The lines of a header. -/
def headerLines (headers : List (Str × Str)) (name : Str) : List Str :=
  (headers.filter fun h => h.1 = name).map Prod.snd

/-- Starlette's `Headers.get` returns the first line of a header. -/
def FirstLine (headersGet : List (Str × Str) → Str → Option Str) : Prop :=
  ∀ headers name, headersGet headers name = (headerLines headers name).head?

variable (py : Runtime) (headersGet : List (Str × Str) → Str → Option Str)
  (networks : List IpNetwork)

/-! ## The key -/

/-- `_ip_in_networks` -/
def ipInNetworks (value : Str) (networks : List IpNetwork) : Bool :=
  match ipAddress value with
  | none => false
  | some addr => networks.any fun network => network.contains addr

/-- `_client_is_trusted_proxy` -/
def clientIsTrustedProxy (request : PeerRequest) (networks : List IpNetwork) : Bool :=
  match request.client with
  | none => false
  | some host =>
    match ipAddress host with
    | none => false
    | some clientIp => networks.any fun network => network.contains clientIp

/-- `[h.strip() for h in forwarded_for.split(",") if h.strip()]` -/
def hopsOf (forwardedFor : Str) : List Str :=
  ((forwardedFor.splitOn 44).filter fun h => strip py h ≠ []).map (strip py)

/-- `_rate_limit_key` -/
def rateLimitKey (request : PeerRequest) (trustProxyHeaders : Bool) (networks : List IpNetwork) :
    Str :=
  if trustProxyHeaders && clientIsTrustedProxy request networks then
    let forwardedFor := (headersGet request.headers "x-forwarded-for").getD []
    match (hopsOf py forwardedFor).reverse.find? fun hop => !ipInNetworks hop networks with
    | some hop => "xff:" ++ hop
    | none => request.client.getD "unknown"
  else request.client.getD "unknown"

/-! ## What it should be -/

/-- The right-most one of some hops that is not in a trusted network. -/
def IsClientHop (hops : List Str) (hop : Str) : Prop :=
  ∃ before after, hops = before ++ hop :: after ∧ ipInNetworks hop networks = false ∧
    ∀ h ∈ after, ipInNetworks h networks = true

/-- The lines of `X-Forwarded-For`. -/
def forwardedLines (request : PeerRequest) : List Str :=
  headerLines request.headers "x-forwarded-for"

/-- The hops of all the lines of `X-Forwarded-For`, joined by commas. -/
def forwardedHops (request : PeerRequest) : List Str :=
  hopsOf py (List.intercalate [44] (forwardedLines request))

/-- The key is that of the client: the right-most hop that is not trusted, and the socket peer where
all are. -/
structure KeyedByClient (request : PeerRequest) (key : Str) : Prop where
  hop : ∀ hop, IsClientHop networks (forwardedHops py request) hop → key = "xff:" ++ hop
  peer : (∀ h ∈ forwardedHops py request, ipInNetworks h networks = true) →
    request.client = some key

/-- The hops of the first line of `X-Forwarded-For`. -/
def firstHops (request : PeerRequest) : List Str :=
  hopsOf py ((forwardedLines request).head?.getD [])

/-- The hops of the lines after the first. -/
def laterHops (request : PeerRequest) : List Str :=
  (forwardedLines request).tail.flatMap (hopsOf py)

/-- Where the lines after the first name a client, the first line names the same one. -/
def LaterLinesAgree (request : PeerRequest) : Prop :=
  ∀ hop, IsClientHop networks (laterHops py request) hop →
    IsClientHop networks (firstHops py request) hop

/-! ## Hops -/

/-- The hops of a line with a comma are those on either side of it. -/
lemma hopsOf_append (a b : Str) : hopsOf py (a ++ 44 :: b) = hopsOf py a ++ hopsOf py b := by
  unfold hopsOf
  rw [List.splitOn_append_cons_self, List.filter_append, List.map_append]

/-- An empty line has no hops. -/
lemma hopsOf_nil : hopsOf py [] = [] := by
  simp [hopsOf, strip]

/-- The hops of joined lines are those of the lines, one line after the other. -/
lemma hopsOf_intercalate (lines : List Str) :
    hopsOf py (List.intercalate [44] lines) = lines.flatMap (hopsOf py) := by
  induction lines with
  | nil => exact hopsOf_nil py
  | cons line lines ih =>
    cases lines with
    | nil => simp
    | cons next lines =>
      have hjoin : List.intercalate [44] (line :: next :: lines) =
          line ++ 44 :: List.intercalate [44] (next :: lines) := by simp
      rw [hjoin, hopsOf_append, ih]
      exact List.flatMap_cons.symm

/-- The hops of a request are those of its first line, then those of the others. -/
lemma forwardedHops_eq (request : PeerRequest) :
    forwardedHops py request = firstHops py request ++ laterHops py request := by
  unfold forwardedHops firstHops laterHops
  rw [hopsOf_intercalate]
  cases forwardedLines request with
  | nil => simp [hopsOf_nil]
  | cons line lines => simp

/-- The client among some hops, looked for from the right. -/
def clientHop (hops : List Str) : Option Str :=
  hops.reverse.find? fun hop => !ipInNetworks hop networks

/-- What is found from the right is the right-most. -/
lemma clientHop_eq_some_iff {hops : List Str} {hop : Str} :
    clientHop networks hops = some hop ↔ IsClientHop networks hops hop := by
  unfold clientHop IsClientHop
  rw [List.find?_eq_some_iff_append]
  constructor
  · rintro ⟨huntrusted, after, before, hsplit, htrusted⟩
    refine ⟨before.reverse, after.reverse, ?_, by simpa using huntrusted, fun h hh => ?_⟩
    · rw [← List.reverse_reverse hops, hsplit]
      simp
    · simpa using htrusted h (List.mem_reverse.mp hh)
  · rintro ⟨before, after, rfl, huntrusted, htrusted⟩
    refine ⟨by simpa using huntrusted, after.reverse, before.reverse, by simp, fun h hh => ?_⟩
    simpa using htrusted h (List.mem_reverse.mp hh)

/-- Nothing is found where every hop is trusted. -/
lemma clientHop_eq_none_iff {hops : List Str} :
    clientHop networks hops = none ↔ ∀ h ∈ hops, ipInNetworks h networks = true := by
  simp [clientHop]

/-- Among hops that follow others the client is looked for first. -/
lemma clientHop_append (a b : List Str) :
    clientHop networks (a ++ b) = (clientHop networks b).or (clientHop networks a) := by
  unfold clientHop
  rw [List.reverse_append, List.find?_append]

/-! ## Keys -/

/-- The key of a client, and of the socket peer where there is none. -/
def keyOf (host : Str) : Option Str → Str
  | some hop => "xff:" ++ hop
  | none => host

/-- The key of a forwarded client is no address. -/
lemma ipAddress_xff (hop : Str) : ipAddress ("xff:" ++ hop) = none := by
  cases haddr : ipAddress ("xff:" ++ hop) with
  | none => rfl
  | some addr =>
    have hx : (120 : CodePoint) ∈ (Str.partition 37 ("xff:" ++ hop)).1 := by
      have hcons : (Str.ofString "xff:" ++ hop : Str) = 120 :: (Str.ofString "ff:" ++ hop) := rfl
      rw [hcons, Str.partition, if_neg (by decide)]
      exact List.mem_cons_self
    have hchar := ipAddress_chars haddr _ hx
    exact absurd hchar (by decide)

/-- A trusted peer is an address. -/
lemma exists_client {networks : List IpNetwork} {request : PeerRequest}
    (h : clientIsTrustedProxy request networks = true) :
    ∃ host, request.client = some host ∧ (ipAddress host).isSome := by
  unfold clientIsTrustedProxy at h
  split at h
  next => cases h
  next host hclient =>
    refine ⟨host, hclient, ?_⟩
    cases haddr : ipAddress host with
    | none => simp [haddr] at h
    | some addr => rfl

/-- No socket peer has the key of a forwarded client, and different clients have different keys. -/
lemma keyOf_injective {host : Str} (hhost : (ipAddress host).isSome) :
    Function.Injective (keyOf host) := by
  have hne : ∀ hop : Str, host ≠ "xff:" ++ hop := by
    rintro hop rfl
    rw [ipAddress_xff] at hhost
    cases hhost
  rintro (_ | hop) (_ | hop') h
  · rfl
  · exact absurd h (hne hop')
  · exact absurd h.symm (hne hop)
  · exact congrArg some (List.append_cancel_left h)

variable {py headersGet networks}

/-- The key that the code computes is that of the first line. -/
lemma rateLimitKey_eq (hget : FirstLine headersGet) {request : PeerRequest} {host : Str}
    (htrust : clientIsTrustedProxy request networks = true) (hhost : request.client = some host) :
    rateLimitKey py headersGet request true networks =
      keyOf host (clientHop networks (firstHops py request)) := by
  unfold rateLimitKey
  rw [htrust, hhost]
  dsimp only [Bool.and_self, if_true, Option.getD_some]
  rw [hget]
  rfl

/-- The key that the client should have is that of all lines. -/
lemma keyedByClient_iff {request : PeerRequest} {host key : Str}
    (hhost : request.client = some host) :
    KeyedByClient py networks request key ↔
      key = keyOf host (clientHop networks (forwardedHops py request)) := by
  constructor
  · intro h
    cases hclient : clientHop networks (forwardedHops py request) with
    | none =>
      have hpeer := h.peer ((clientHop_eq_none_iff networks).mp hclient)
      exact (Option.some.inj (hhost.symm.trans hpeer)).symm
    | some hop => exact h.hop hop ((clientHop_eq_some_iff networks).mp hclient)
  · rintro rfl
    refine ⟨fun hop hhop => ?_, fun hall => ?_⟩
    · rw [(clientHop_eq_some_iff networks).mpr hhop, keyOf]
    · rw [(clientHop_eq_none_iff networks).mpr hall, keyOf, hhost]

/-- The first line decides the client of all lines exactly where the later ones agree with it. -/
lemma clientHop_forwardedHops_iff (request : PeerRequest) :
    clientHop networks (firstHops py request) = clientHop networks (forwardedHops py request) ↔
      LaterLinesAgree py networks request := by
  rw [forwardedHops_eq, clientHop_append]
  unfold LaterLinesAgree
  simp only [← clientHop_eq_some_iff]
  cases clientHop networks (laterHops py request) with
  | none => simp
  | some hop => simp

/-- A request with one line at most. -/
lemma LaterLinesAgree.of_single {request : PeerRequest}
    (h : (forwardedLines request).tail = []) : LaterLinesAgree py networks request := by
  rintro hop ⟨before, after, hsplit, -⟩
  rw [laterHops, h] at hsplit
  simp at hsplit

/-- The key of a request from a trusted proxy is that of its client, the right-most untrusted hop of
all lines of `X-Forwarded-For` or the peer itself, if and only if the lines after the first name no
client but the one that the first line names. Requests for which that holds have the same key if
they agree from the client's hop rightwards. -/
theorem rateLimitKey_clientHop_iff (hget : FirstLine headersGet) (request : PeerRequest)
    (htrust : clientIsTrustedProxy request networks = true) :
    (KeyedByClient py networks request (rateLimitKey py headersGet request true networks) ↔
      LaterLinesAgree py networks request) ∧
    (LaterLinesAgree py networks request → ∀ other : PeerRequest,
      clientIsTrustedProxy other networks = true → LaterLinesAgree py networks other →
      ∀ before before' hop after, forwardedHops py request = before ++ hop :: after →
        forwardedHops py other = before' ++ hop :: after → ipInNetworks hop networks = false →
        (∀ h ∈ after, ipInNetworks h networks = true) →
        rateLimitKey py headersGet request true networks =
          rateLimitKey py headersGet other true networks) := by
  have hkeyed : ∀ r : PeerRequest, clientIsTrustedProxy r networks = true →
      (KeyedByClient py networks r (rateLimitKey py headersGet r true networks) ↔
        LaterLinesAgree py networks r) := by
    intro r hr
    obtain ⟨host, hhost, haddr⟩ := exists_client hr
    rw [keyedByClient_iff hhost, rateLimitKey_eq hget hr hhost, (keyOf_injective haddr).eq_iff]
    exact clientHop_forwardedHops_iff r
  refine ⟨hkeyed request htrust, ?_⟩
  intro hagree other hother hagree' before before' hop after hhops hhops' huntrusted hafter
  rw [((hkeyed request htrust).mpr hagree).hop hop ⟨before, after, hhops, huntrusted, hafter⟩,
    ((hkeyed other hother).mpr hagree').hop hop ⟨before', after, hhops', huntrusted, hafter⟩]

/-- `Headers.get` -/
def firstLine (headers : List (Str × Str)) (name : Str) : Option Str :=
  (headerLines headers name).head?

/-- `127.0.0.1/32` -/
def loopback : IpNetwork := .ofAddress ⟨.v4, 0x7F000001, by decide⟩ 32 (by decide)

/-- A request of the proxy `127.0.0.1`, with lines of `X-Forwarded-For`. -/
def forwarded (lines : List String) : PeerRequest where
  headers := lines.map fun line => ("x-forwarded-for", Str.ofString line)
  client := some "127.0.0.1"

/-- Two requests of one client behind a proxy that extends the line of the client. -/
theorem rateLimitKey_clientHop_iff_merged :
    KeyedByClient .plain [loopback] (forwarded ["1.1.1.1, 9.9.9.9"])
      (rateLimitKey .plain firstLine (forwarded ["1.1.1.1, 9.9.9.9"]) true [loopback]) ∧
    rateLimitKey .plain firstLine (forwarded ["1.1.1.1, 9.9.9.9"]) true [loopback] =
      rateLimitKey .plain firstLine (forwarded ["spoofed,, 9.9.9.9"]) true [loopback] := by
  have hagree : LaterLinesAgree .plain [loopback] (forwarded ["1.1.1.1, 9.9.9.9"]) :=
    .of_single rfl
  have hget : FirstLine firstLine := fun _ _ => rfl
  have htrust : clientIsTrustedProxy (forwarded ["1.1.1.1, 9.9.9.9"]) [loopback] = true := by
    decide
  obtain ⟨hkeyed, hsame⟩ := rateLimitKey_clientHop_iff hget _ htrust
  refine ⟨hkeyed.mpr hagree, ?_⟩
  exact hsame hagree (forwarded ["spoofed,, 9.9.9.9"]) (by decide) (.of_single rfl)
    ["1.1.1.1"] ["spoofed"] "9.9.9.9" [] (by decide) (by decide) (by decide) (by simp)

/-- Two requests of one client behind a proxy that appends a line of its own: the keys are what the
client wrote. -/
theorem appended_line_not_keyedByClient :
    clientIsTrustedProxy (forwarded ["1.1.1.1", "9.9.9.9"]) [loopback] = true ∧
    forwardedHops .plain (forwarded ["1.1.1.1", "9.9.9.9"]) = ["1.1.1.1", "9.9.9.9"] ∧
    rateLimitKey .plain firstLine (forwarded ["1.1.1.1", "9.9.9.9"]) true [loopback] =
      "xff:1.1.1.1" ∧
    rateLimitKey .plain firstLine (forwarded ["2.2.2.2", "9.9.9.9"]) true [loopback] =
      "xff:2.2.2.2" ∧
    ¬ KeyedByClient .plain [loopback] (forwarded ["1.1.1.1", "9.9.9.9"])
      (rateLimitKey .plain firstLine (forwarded ["1.1.1.1", "9.9.9.9"]) true [loopback]) := by
  refine ⟨by decide, by decide, by decide, by decide, fun h => ?_⟩
  have hhop := h.hop "9.9.9.9" ⟨["1.1.1.1"], [], by decide, by decide, by simp⟩
  exact absurd hhop (by decide)

end AgentCtl
