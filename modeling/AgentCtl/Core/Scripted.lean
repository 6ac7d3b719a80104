import AgentCtl.Core.Host

set_option relaxedAutoImplicit false
set_option autoImplicit false

/-!
# Scripted worlds

A world for concrete runs: time passes in provider calls and sleeps only, and every provider
answers from one script.

## Main definitions

* `AgentCtl.Scripted` — the time, and the outcomes of the calls to come.
* `AgentCtl.scriptedProvider` — a provider that takes its outcomes from the script.
* `AgentCtl.scriptedGateway` — a gateway over such a world, with two targets under one name.
-/

namespace AgentCtl

/-- The time, and the outcomes of the calls to come, with the seconds they take. -/
structure Scripted where
  now : ℚ := 0
  outcomes : List (ℚ × Except Exc NormalizedResponse) := []
  deriving Inhabited

/-- Clock and sleep of a scripted world; its randomness always gives the middle. -/
def scriptedOutside : Outside Scripted where
  monotonic s := (s.now, s)
  sleep d s := { s with now := s.now + d }
  uniform a b s := ((a + b) / 2, s)

/-- A provider that takes its outcomes from the script, within the timeout it is given; a negative
time counts as none. -/
def scriptedProvider : Provider Scripted where
  invoke _ _ timeout s :=
    match s.outcomes with
    | [] => (.error (.retriable "the script is over"), s)
    | (d, out) :: rest => (out, ⟨s.now + min (max 0 d) timeout, rest⟩)

/-- A gateway over a scripted world: the model `m` is served by two targets. -/
def scriptedGateway : Gateway Scripted where
  py := Runtime.plain
  outside := scriptedOutside
  router := ⟨[("m", [⟨"p", "a"⟩, ⟨"q", "b"⟩])], []⟩
  providers := [("p", scriptedProvider), ("q", scriptedProvider)]
  costMeter := ⟨[], false⟩

/-- Every provider of the scripted gateway answers from the script. -/
lemma scriptedProvider_of_get? {name : Str} {p : Provider Scripted}
    (h : scriptedGateway.providers.get? name = some p) : p = scriptedProvider := by
  have hmem : (name, p) ∈ scriptedGateway.providers := OrderedDict.mem_of_get? h
  rcases List.mem_cons.mp hmem with hp | hq
  · exact congrArg Prod.snd hp
  · exact congrArg Prod.snd (List.mem_singleton.mp hq)

/-- A request for the model `m`. -/
def plainRequest : NormalizedRequest :=
  { model := "m", messages := [[("role", .str "user"), ("content", .str "hi")]] }

end AgentCtl
