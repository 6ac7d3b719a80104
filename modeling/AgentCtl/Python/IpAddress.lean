import AgentCtl.Python.JsonInjective
import Mathlib.Data.Nat.Bitwise

set_option relaxedAutoImplicit false
set_option autoImplicit false

/-!
# IP addresses

Python's `ipaddress`: `ip_address` reads an address of either version, and `addr in network`
compares its leading bits. A `ValueError` is `none`. The scope id of an address, which `in` does
not look at, is checked and dropped.

## Main definitions

* `IpAddress`, `IpNetwork` — addresses, and networks without host bits.
* `IpNetwork.contains` — `addr in network`.
* `ipAddress` — `ip_address`.

## Main results

* `IpNetwork.contains_ofAddress` — an address is in the network that `ip_network` makes of it.
* `ipAddress_chars` — what the text of an address is made of.
-/

/-- The version of an address. -/
inductive IpVersion
  | v4
  | v6
  deriving DecidableEq

/-- `_max_prefixlen` -/
def IpVersion.maxPrefixlen : IpVersion → ℕ
  | .v4 => 32
  | .v6 => 128

/-- `_ALL_ONES` -/
def IpVersion.allOnes (version : IpVersion) : ℕ := 2 ^ version.maxPrefixlen - 1

/-- `IPv4Address | IPv6Address` -/
structure IpAddress where
  version : IpVersion
  ip : ℕ
  ip_lt : ip < 2 ^ version.maxPrefixlen

/-- `netmask`: as many leading ones as the prefix is long. -/
def IpVersion.netmask (version : IpVersion) (prefixlen : ℕ) : ℕ :=
  version.allOnes ^^^ (version.allOnes >>> prefixlen)

/-- `IPv4Network | IPv6Network` -/
structure IpNetwork where
  version : IpVersion
  networkAddress : ℕ
  prefixlen : ℕ
  prefixlen_le : prefixlen ≤ version.maxPrefixlen
  /-- A network has no host bits. -/
  masked : networkAddress &&& version.netmask prefixlen = networkAddress

namespace IpNetwork

/-- `addr in network` -/
def contains (network : IpNetwork) (addr : IpAddress) : Bool :=
  network.version = addr.version &&
    addr.ip &&& network.version.netmask network.prefixlen = network.networkAddress

/-- `ip_network(f"{addr}/{prefixlen}", strict=False)`: the host bits are masked out. -/
def ofAddress (addr : IpAddress) (prefixlen : ℕ) (h : prefixlen ≤ addr.version.maxPrefixlen) :
    IpNetwork where
  version := addr.version
  networkAddress := addr.ip &&& addr.version.netmask prefixlen
  prefixlen := prefixlen
  prefixlen_le := h
  masked := by rw [Nat.land_assoc, Nat.and_self]

/-- An address is in its network. -/
lemma contains_ofAddress (addr : IpAddress) (prefixlen : ℕ)
    (h : prefixlen ≤ addr.version.maxPrefixlen) :
    (ofAddress addr prefixlen h).contains addr = true := by
  simp [contains, ofAddress]

end IpNetwork

namespace IpAddress

/-! ## The parser -/

/-- `_parse_octet` -/
def parseOctet (octet : Str) : Option ℕ :=
  if octet = [] then none
  else if ¬ octet.all Str.isDecimal then none
  else if 3 < octet.length then none
  else if octet ≠ Str.ofString "0" ∧ octet.head? = some 48 then none
  else if 255 < Str.natValue octet then none
  else some (Str.natValue octet)

/-- `_HEX_DIGITS` -/
def isHexDigit (c : CodePoint) : Bool :=
  Str.isDecimal c || (65 ≤ c.val && c.val ≤ 70) || (97 ≤ c.val && c.val ≤ 102)

/-- The value of a hexadecimal digit of either case. -/
def hexDigitValue (c : CodePoint) : ℕ :=
  if c.val < 58 then c.val - 48 else if c.val < 71 then c.val - 55 else c.val - 87

/-- `_parse_hextet`; `int(s, 16)` refuses the empty string. -/
def parseHextet (hextet : Str) : Option ℕ :=
  if ¬ hextet.all isHexDigit then none
  else if 4 < hextet.length then none
  else if hextet = [] then none
  else some (Nat.ofDigits 16 (hextet.reverse.map hexDigitValue))

/-- A number read from its parts, the most significant first, each so many bits wide. -/
def readParts (bits : ℕ) (parse : Str → Option ℕ) (n : ℕ) (parts : List Str) : Option ℕ :=
  parts.foldlM (fun n part => (parse part).map fun d => n <<< bits ||| d) n

/-- `IPv4Address(s)._ip` -/
def ipv4Int (s : Str) : Option ℕ :=
  if s.contains "/" then none
  else if s = [] then none
  else if (s.splitOn 46).length ≠ 4 then none
  else readParts 8 parseOctet 0 (s.splitOn 46)

/-- `'%x' % n` -/
def hexText (n : ℕ) : Str :=
  if n = 0 then [48] else ((Nat.digits 16 n).map Str.hexDigit).reverse

/-- `_split_scope_id`, without the scope id. -/
def splitScopeId (s : Str) : Option Str :=
  let r := Str.partition 37 s
  if r.2.1 ∧ (r.2.2 = [] ∨ Str.contains r.2.2 "%") then none else some r.1

/-- An IPv4 address in the place of the last part becomes two parts. -/
def dottedTail (parts : List Str) : Option (List Str) :=
  if Str.contains (parts.getLastD []) "." then
    (ipv4Int (parts.getLastD [])).map fun n =>
      parts.dropLast ++ [hexText (n >>> 16 &&& 0xFFFF), hexText (n &&& 0xFFFF)]
  else some parts

/-- The parts on one side of a `::`. An empty one at the edge of the address must be the only one
there, and is no hextet. -/
def side (edge : Option Str) (parts : List Str) : Option (List Str) :=
  if edge = some [] then if parts.length = 1 then some [] else none else some parts

/-- The indices of the empty parts, the two ends aside. -/
def skipIndices (parts : List Str) : List ℕ :=
  (List.range parts.length).filter fun i =>
    1 ≤ i ∧ i < parts.length - 1 ∧ parts[i]? = some []

/-- The hextets before and after the run of zeros that a `::` stands for, and the length of the
run. Without a `::` all are before it, and it is empty. -/
def layout (parts : List Str) : Option (List Str × ℕ × List Str) :=
  match skipIndices parts with
  | [] =>
    if parts.length ≠ 8 ∨ parts.head? = some [] ∨ parts.getLast? = some [] then none
    else some (parts, 0, [])
  | [i] =>
    (side parts.head? (parts.take i)).bind fun hi =>
      (side parts.getLast? (parts.drop (i + 1))).bind fun lo =>
        if 8 - (hi.length + lo.length) < 1 then none
        else some (hi, 8 - (hi.length + lo.length), lo)
  | _ => none

/-- `IPv6Address(s)._ip` -/
def ipv6Int (s : Str) : Option ℕ :=
  if s.contains "/" then none
  else (splitScopeId s).bind fun addr =>
    if addr = [] then none
    else if (addr.splitOn 58).length < 3 then none
    else (dottedTail (addr.splitOn 58)).bind fun parts =>
      if 9 < parts.length then none
      else (layout parts).bind fun r =>
        (readParts 16 parseHextet 0 r.1).bind fun n =>
          readParts 16 parseHextet (n <<< (16 * r.2.1)) r.2.2

/-! ## Parts -/

variable {bits : ℕ} {parse : Str → Option ℕ}

/-- Reading one more part. -/
lemma readParts_cons (n : ℕ) (part : Str) (parts : List Str) :
    readParts bits parse n (part :: parts) =
      (parse part).bind fun d => readParts bits parse (n <<< bits ||| d) parts := by
  unfold readParts
  rw [List.foldlM_cons]
  cases parse part with
  | none => rfl
  | some d => rfl

/-- Every part that was read could be parsed. -/
lemma parse_of_readParts {parts : List Str} {n m : ℕ}
    (h : readParts bits parse n parts = some m) : ∀ part ∈ parts, ∃ d, parse part = some d := by
  induction parts generalizing n with
  | nil => simp
  | cons part parts ih =>
    rw [readParts_cons] at h
    obtain ⟨d, hd, hrest⟩ := Option.bind_eq_some_iff.mp h
    intro p hp
    rcases List.mem_cons.mp hp with rfl | hp
    · exact ⟨d, hd⟩
    · exact ih hrest p hp

/-- What was read is as wide as its parts. -/
lemma readParts_lt (hparse : ∀ part d, parse part = some d → d < 2 ^ bits) {parts : List Str}
    {n m k : ℕ} (h : readParts bits parse n parts = some m) (hn : n < 2 ^ (bits * k)) :
    m < 2 ^ (bits * (k + parts.length)) := by
  induction parts generalizing n k with
  | nil =>
    obtain rfl : n = m := Option.some.inj h
    simpa using hn
  | cons part parts ih =>
    rw [readParts_cons] at h
    obtain ⟨d, hd, hrest⟩ := Option.bind_eq_some_iff.mp h
    have hshift : n <<< bits < 2 ^ (bits * (k + 1)) := by
      rw [Nat.shiftLeft_eq, Nat.mul_succ, Nat.pow_add]
      exact Nat.mul_lt_mul_of_pos_right hn (Nat.two_pow_pos bits)
    have hwide : d < 2 ^ (bits * (k + 1)) := by
      refine lt_of_lt_of_le (hparse part d hd) (Nat.pow_le_pow_right (by decide) ?_)
      exact Nat.le_mul_of_pos_right bits (Nat.succ_pos k)
    have hlen : k + (part :: parts).length = k + 1 + parts.length := by
      simp only [List.length_cons]
      omega
    rw [hlen]
    exact ih hrest (Nat.or_lt_two_pow hshift hwide)

/-- A character of a string is the separator, or in one of the parts. -/
lemma mem_splitOn (sep : CodePoint) {c : CodePoint} {s : Str} (h : c ∈ s) :
    c = sep ∨ ∃ part ∈ s.splitOn sep, c ∈ part := by
  induction s with
  | nil => cases h
  | cons x xs ih =>
    rw [List.splitOn_cons_eq_if_modifyHead]
    obtain ⟨head, tail, hsplit⟩ := List.exists_cons_of_ne_nil (List.splitOn_ne_nil sep xs)
    rw [hsplit] at ih ⊢
    by_cases hx : x = sep
    · rcases List.mem_cons.mp h with rfl | hc
      · exact .inl hx
      · obtain rfl | ⟨part, hpart, hc⟩ := ih hc
        · exact .inl rfl
        · exact .inr ⟨part, by simp [hx, hpart], hc⟩
    · have hbeq : (x == sep) = false := by simpa using hx
      rw [hbeq]
      rcases List.mem_cons.mp h with rfl | hc
      · exact .inr ⟨c :: head, by simp, by simp⟩
      · obtain rfl | ⟨part, hpart, hc⟩ := ih hc
        · exact .inl rfl
        · rcases List.mem_cons.mp hpart with rfl | hpart
          · exact .inr ⟨x :: part, by simp, by simp [hc]⟩
          · exact .inr ⟨part, by simp [hpart], hc⟩

/-! ## IPv4 -/

/-- An octet is made of digits and fits in a byte. -/
lemma parseOctet_eq_some {octet : Str} {d : ℕ} (h : parseOctet octet = some d) :
    (∀ c ∈ octet, Str.isDecimal c = true) ∧ d < 2 ^ 8 := by
  unfold parseOctet at h
  split_ifs at h with _ hdigits _ _ hbyte
  obtain rfl := Option.some.inj h
  exact ⟨List.all_eq_true.mp (by simpa using hdigits), by omega⟩

/-- What an IPv4 address is read from. -/
lemma readParts_of_ipv4Int {s : Str} {n : ℕ} (h : ipv4Int s = some n) :
    (s.splitOn 46).length = 4 ∧ readParts 8 parseOctet 0 (s.splitOn 46) = some n := by
  unfold ipv4Int at h
  split_ifs at h with _ _ hlen
  exact ⟨not_not.mp hlen, h⟩

/-- An IPv4 address has 32 bits. -/
lemma ipv4Int_lt {s : Str} {n : ℕ} (h : ipv4Int s = some n) : n < 2 ^ 32 := by
  obtain ⟨hlen, hread⟩ := readParts_of_ipv4Int h
  have hlt := readParts_lt (k := 0) (fun _ _ hd => (parseOctet_eq_some hd).2) hread (by decide)
  rwa [hlen] at hlt

/-- An IPv4 address is made of digits and dots. -/
lemma ipv4Int_chars {s : Str} {n : ℕ} (h : ipv4Int s = some n) :
    ∀ c ∈ s, Str.isDecimal c = true ∨ c = 46 := by
  intro c hc
  obtain ⟨-, hread⟩ := readParts_of_ipv4Int h
  rcases mem_splitOn 46 hc with rfl | ⟨part, hpart, hmem⟩
  · exact .inr rfl
  · obtain ⟨d, hd⟩ := parse_of_readParts hread part hpart
    exact .inl ((parseOctet_eq_some hd).1 c hmem)

/-! ## IPv6 -/

/-- The value of a hexadecimal digit. -/
lemma hexDigitValue_lt {c : CodePoint} (h : isHexDigit c = true) : hexDigitValue c < 16 := by
  simp only [isHexDigit, Str.isDecimal, Bool.or_eq_true, Bool.and_eq_true, decide_eq_true_eq] at h
  unfold hexDigitValue
  split_ifs <;> omega

/-- A hextet is made of hexadecimal digits and fits in sixteen bits. -/
lemma parseHextet_eq_some {hextet : Str} {d : ℕ} (h : parseHextet hextet = some d) :
    (∀ c ∈ hextet, isHexDigit c = true) ∧ d < 2 ^ 16 := by
  unfold parseHextet at h
  split_ifs at h with hdigits hlen _
  have hall : ∀ c ∈ hextet, isHexDigit c = true := List.all_eq_true.mp (by simpa using hdigits)
  refine ⟨hall, ?_⟩
  obtain rfl := Option.some.inj h
  have hlt : Nat.ofDigits 16 (hextet.reverse.map hexDigitValue) <
      16 ^ (hextet.reverse.map hexDigitValue).length := by
    refine Nat.ofDigits_lt_base_pow_length (by decide) fun x hx => ?_
    obtain ⟨c, hc, rfl⟩ := List.mem_map.mp hx
    exact hexDigitValue_lt (hall c (List.mem_reverse.mp hc))
  refine lt_of_lt_of_le hlt ?_
  calc 16 ^ (hextet.reverse.map hexDigitValue).length
      ≤ 16 ^ 4 := Nat.pow_le_pow_right (by decide) (by simpa using hlen)
    _ = 2 ^ 16 := by decide

/-- One side of a `::` keeps its parts, unless it is empty. -/
lemma side_eq_some {edge : Option Str} {parts ps : List Str} (h : side edge parts = some ps)
    (hedge : ∀ part, edge = some part → part ∈ parts) : ∀ part ∈ parts, part = [] ∨ part ∈ ps := by
  unfold side at h
  split_ifs at h with hempty hlen
  · obtain ⟨p, rfl⟩ := List.length_eq_one_iff.mp hlen
    obtain rfl : [] = p := List.mem_singleton.mp (hedge [] hempty)
    intro part hpart
    exact .inl (List.mem_singleton.mp hpart)
  · obtain rfl := Option.some.inj h
    exact fun part hpart => .inr hpart

/-- The inner index of a single empty part. -/
lemma skipIndices_eq_singleton {parts : List Str} {i : ℕ} (h : skipIndices parts = [i]) :
    1 ≤ i ∧ i < parts.length - 1 ∧ parts[i]? = some [] := by
  have hmem : i ∈ skipIndices parts := by rw [h]; exact List.mem_singleton.mpr rfl
  simpa using (List.mem_filter.mp hmem).2

/-- The hextets and the zeros between them are eight, and every part that is not empty is one of
the hextets. -/
lemma layout_eq_some {parts hi lo : List Str} {skipped : ℕ}
    (h : layout parts = some (hi, skipped, lo)) :
    hi.length + skipped + lo.length = 8 ∧ ∀ part ∈ parts, part = [] ∨ part ∈ hi ∨ part ∈ lo := by
  unfold layout at h
  split at h
  next =>
    split_ifs at h with hbad
    obtain ⟨rfl, rfl, rfl⟩ : parts = hi ∧ 0 = skipped ∧ [] = lo := by simpa using h
    rw [not_or, not_not] at hbad
    exact ⟨by simpa using hbad.1, fun part hpart => .inr (.inl hpart)⟩
  next i hskip =>
    obtain ⟨hfirst, hlast, hget⟩ := skipIndices_eq_singleton hskip
    obtain ⟨hi', hhi, h⟩ := Option.bind_eq_some_iff.mp h
    obtain ⟨lo', hlo, h⟩ := Option.bind_eq_some_iff.mp h
    split_ifs at h with hroom
    obtain ⟨rfl, rfl, rfl⟩ : hi' = hi ∧ 8 - (hi'.length + lo'.length) = skipped ∧ lo' = lo := by
      simpa using h
    refine ⟨by omega, fun part hpart => ?_⟩
    -- the parts before the empty one, that part itself, and the parts after it
    have hparts : parts = parts.take i ++ [] :: parts.drop (i + 1) := by
      obtain ⟨hlt, hval⟩ := List.getElem?_eq_some_iff.mp hget
      rw [← hval, List.cons_getElem_drop_succ, List.take_append_drop]
    have hhead : ∀ p, parts.head? = some p → p ∈ parts.take i := by
      intro p hp
      have htake : (parts.take i).head? = some p := by rw [List.head?_take, if_neg (by omega), hp]
      exact List.mem_of_mem_head? htake
    have hend : ∀ p, parts.getLast? = some p → p ∈ parts.drop (i + 1) := by
      intro p hp
      have hdrop : (parts.drop (i + 1)).getLast? = some p := by
        rw [List.getLast?_drop, if_neg (by omega), hp]
      exact List.mem_of_getLast? hdrop
    rw [hparts] at hpart
    rcases List.mem_append.mp hpart with hpart | hpart
    · exact (side_eq_some hhi hhead part hpart).imp_right .inl
    · rcases List.mem_cons.mp hpart with rfl | hpart
      · exact .inl rfl
      · exact (side_eq_some hlo hend part hpart).imp_right .inr
  next => cases h

/-- What an IPv6 address is read from. -/
lemma readParts_of_ipv6Int {s : Str} {n : ℕ} (h : ipv6Int s = some n) :
    ∃ parts hi skipped lo m, dottedTail ((Str.partition 37 s).1.splitOn 58) = some parts ∧
      layout parts = some (hi, skipped, lo) ∧ readParts 16 parseHextet 0 hi = some m ∧
      readParts 16 parseHextet (m <<< (16 * skipped)) lo = some n := by
  unfold ipv6Int at h
  split_ifs at h
  obtain ⟨addr, haddr, h⟩ := Option.bind_eq_some_iff.mp h
  split_ifs at h
  obtain ⟨parts, hparts, h⟩ := Option.bind_eq_some_iff.mp h
  split_ifs at h
  obtain ⟨⟨hi, skipped, lo⟩, hlayout, h⟩ := Option.bind_eq_some_iff.mp h
  obtain ⟨m, hm, hn⟩ := Option.bind_eq_some_iff.mp h
  obtain rfl : (Str.partition 37 s).1 = addr := by
    unfold splitScopeId at haddr
    dsimp only at haddr
    split_ifs at haddr
    exact Option.some.inj haddr
  exact ⟨parts, hi, skipped, lo, m, hparts, hlayout, hm, hn⟩

/-- An IPv6 address has 128 bits. -/
lemma ipv6Int_lt {s : Str} {n : ℕ} (h : ipv6Int s = some n) : n < 2 ^ 128 := by
  obtain ⟨parts, hi, skipped, lo, m, -, hlayout, hm, hn⟩ := readParts_of_ipv6Int h
  have hhextet : ∀ part d, parseHextet part = some d → d < 2 ^ 16 :=
    fun _ _ hd => (parseHextet_eq_some hd).2
  have hmlt : m < 2 ^ (16 * hi.length) := by
    simpa using readParts_lt (k := 0) hhextet hm (by decide)
  have hshift : m <<< (16 * skipped) < 2 ^ (16 * (hi.length + skipped)) := by
    rw [Nat.shiftLeft_eq, Nat.mul_add, Nat.pow_add]
    exact Nat.mul_lt_mul_of_pos_right hmlt (Nat.two_pow_pos _)
  have hlt := readParts_lt hhextet hn hshift
  rwa [(layout_eq_some hlayout).1] at hlt

/-- What the text of an address is made of, up to its scope id. -/
def isAddressChar (c : CodePoint) : Bool := isHexDigit c || c = 46 || c = 58

/-- A part of a dotted address is a hextet, or the IPv4 address at the end. -/
lemma mem_of_dottedTail {parts ps : List Str} (h : dottedTail parts = some ps) :
    ∀ part ∈ parts, part ∈ ps ∨ ∃ n, ipv4Int part = some n := by
  unfold dottedTail at h
  split_ifs at h with hdot
  · obtain ⟨n, hn, rfl⟩ := Option.map_eq_some_iff.mp h
    intro part hpart
    have hne : parts ≠ [] := List.ne_nil_of_mem hpart
    rw [← List.dropLast_append_getLast hne] at hpart
    rcases List.mem_append.mp hpart with hpart | hpart
    · exact .inl (List.mem_append_left _ hpart)
    · obtain rfl := List.mem_singleton.mp hpart
      rw [List.getLastD_eq_getLast?, List.getLast?_eq_some_getLast hne] at hn
      exact .inr ⟨n, hn⟩
  · obtain rfl := Option.some.inj h
    exact fun part hpart => .inl hpart

/-- An IPv6 address is made of hexadecimal digits, colons and dots. -/
lemma ipv6Int_chars {s : Str} {n : ℕ} (h : ipv6Int s = some n) :
    ∀ c ∈ (Str.partition 37 s).1, isAddressChar c = true := by
  obtain ⟨parts, hi, skipped, lo, m, hparts, hlayout, hm, hn⟩ := readParts_of_ipv6Int h
  have hhextets : ∀ part, part ∈ hi ∨ part ∈ lo → ∀ c ∈ part, isHexDigit c = true := by
    rintro part (hpart | hpart)
    · obtain ⟨d, hd⟩ := parse_of_readParts hm part hpart
      exact (parseHextet_eq_some hd).1
    · obtain ⟨d, hd⟩ := parse_of_readParts hn part hpart
      exact (parseHextet_eq_some hd).1
  intro c hc
  rcases mem_splitOn 58 hc with rfl | ⟨part, hpart, hmem⟩
  · rfl
  · rcases mem_of_dottedTail hparts part hpart with hpart | ⟨k, hk⟩
    · rcases (layout_eq_some hlayout).2 part hpart with rfl | hpart
      · cases hmem
      · simp [isAddressChar, hhextets part hpart c hmem]
    · rcases ipv4Int_chars hk c hmem with hdigit | rfl
      · simp [isAddressChar, isHexDigit, hdigit]
      · rfl

end IpAddress

open IpAddress

/-- `ip_address(s)` -/
def ipAddress (s : Str) : Option IpAddress :=
  ((ipv4Int s).pmap (fun n hn => ⟨.v4, n, hn⟩) fun _ h => ipv4Int_lt h).or
    ((ipv6Int s).pmap (fun n hn => ⟨.v6, n, hn⟩) fun _ h => ipv6Int_lt h)

/-- The text of an address is made of hexadecimal digits, colons and dots, up to its scope id. -/
lemma ipAddress_chars {s : Str} {addr : IpAddress} (h : ipAddress s = some addr) :
    ∀ c ∈ (Str.partition 37 s).1, isAddressChar c = true := by
  unfold ipAddress at h
  rcases Option.or_eq_some_iff.mp h with hv4 | ⟨-, hv6⟩
  · obtain ⟨n, -, hn, -⟩ := Option.pmap_eq_some_iff.mp hv4
    intro c hc
    have hmem : c ∈ s := by
      rw [Str.partition_join 37 s]
      exact List.mem_append_left _ hc
    rcases ipv4Int_chars hn c hmem with hdigit | rfl
    · simp [isAddressChar, isHexDigit, hdigit]
    · rfl
  · obtain ⟨n, -, hn, -⟩ := Option.pmap_eq_some_iff.mp hv6
    exact ipv6Int_chars hn

example : (ipAddress "127.0.0.1").map IpAddress.ip = some 0x7F000001 := by decide

example : (ipAddress "::ffff:10.0.0.1%eth0").map IpAddress.ip = some 0xFFFF0A000001 := by decide

example : (ipAddress "1:2:3:4:5:6:7").isNone = true := by decide
