import AgentCtl.Models

set_option relaxedAutoImplicit false
set_option autoImplicit false

/-!
# Costs

`core/cost.py`: prices are USD per million tokens, by model; a name with a provider prefix falls
back to its bare model. The model computes in exact arithmetic where the source uses floats, but it
keeps their range where an exception depends on it: the division of a token count by a million
raises an `OverflowError` when no float is as large as the quotient.

## Main definitions

* `AgentCtl.roundHalfEven`, `AgentCtl.round6` — `round(x)` and `round(x, 6)`.
* `AgentCtl.millionthOverflows` — the range of floats.
* `AgentCtl.CostMeter`, `CostMeter.ensurePrice`, `CostMeter.cost`.
* `AgentCtl.CostMeter.exactCost` — the cost in exact arithmetic.
-/

namespace AgentCtl

/-- `round(x)`: to the nearest integer, ties to the even one. -/
def roundHalfEven (x : ℚ) : ℤ :=
  let f := x.floor
  let r := x - f
  if r < 1 / 2 then f
  else if 1 / 2 < r then f + 1
  else if f % 2 = 0 then f else f + 1

/-- `round(x, 6)`. -/
def round6 (x : ℚ) : ℚ := (roundHalfEven (x * 1000000) : ℚ) / 1000000

/-- `f"{x:.6f}"`. -/
def fixed6 (x : ℚ) : Str :=
  let n := (roundHalfEven (x * 1000000)).natAbs
  let frac := Str.ofNat (n % 1000000)
  let sign : Str := if roundHalfEven (x * 1000000) < 0 then "-" else []
  let point : Str := "."
  sign ++ Str.ofNat (n / 1000000) ++ point ++ List.replicate (6 - frac.length) 48 ++ frac

/-- Is a millionth of the integer too large for a float? -/
@[irreducible] def millionthOverflows (n : ℤ) : Bool :=
  1000000 * (2 ^ 1024 - 2 ^ 970) ≤ n.natAbs

/-- The price table; with `failUnknown` a model without a price is refused. -/
structure CostMeter where
  prices : OrderedDict Str (ℚ × ℚ)
  failUnknown : Bool := false

namespace CostMeter

/-- `_price_for`: the model's own entry, else the one of the name after its first slash. -/
def priceFor (c : CostMeter) (model : Str) : Option (ℚ × ℚ) :=
  match c.prices.get? model with
  | some p => some p
  | none => if List.elem 47 model then c.prices.get? (Str.partition 47 model).2.2 else none

/-- The exception of a model without a price. -/
def unknownPrice (model : Str) : Exc :=
  ⟨.unknownPriceError, "unknown model for pricing: " ++ model, none⟩

/-- `ensure_price`. -/
def ensurePrice (c : CostMeter) (model : Str) : Except Exc Unit :=
  if c.failUnknown && (c.priceFor model).isNone then .error (unknownPrice model) else .ok ()

/-- `cost` in exact arithmetic: the rounded cost of a call, `None` for a model without a price. -/
def exactCost (c : CostMeter) (model : Str) (inputTokens outputTokens : ℤ) :
    Except Exc (Option ℚ) :=
  match c.priceFor model with
  | none => if c.failUnknown then .error (unknownPrice model) else .ok none
  | some (inPrice, outPrice) =>
    .ok (some (round6 (inputTokens / 1000000 * inPrice + outputTokens / 1000000 * outPrice)))

/-- `cost`: for a model with a price the counts are divided by a million first, if floats reach so
far. -/
def cost (c : CostMeter) (model : Str) (inputTokens outputTokens : ℤ) :
    Except Exc (Option ℚ) :=
  if (c.priceFor model).isSome &&
      (millionthOverflows inputTokens || millionthOverflows outputTokens)
  then .error (.overflow "integer division result too large for a float")
  else c.exactCost model inputTokens outputTokens

end CostMeter

end AgentCtl
