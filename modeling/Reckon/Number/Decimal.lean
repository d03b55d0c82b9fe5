import Reckon.Number.Magnitude

/-!
Decimal numerals as numbers, and the double nearest to each.
-/

namespace Reckon.Number

-- Powers of natural numbers are those of the core library, whatever else is imported.
attribute [local instance (high)] instPowNat

/-- The number `digits · 10 ^ exponent`. -/
structure Decimal where
  digits : Nat
  exponent : Int
deriving DecidableEq

namespace Decimal

/-- The exponent beyond which every decimal is too large or too small for a
double. -/
def farExponent : Int :=
  400

/-- The magnitude nearest to a decimal; a half goes to the even mantissa.
Decimals far outside the range of doubles are answered without their powers
of ten: a positive integer times `10 ^ 401` is infinite, and a number below
`10 ^ (-400)` is zero. -/
def magnitude (decimal : Decimal) : Nat :=
  if decimal.digits = 0 then
    0
  else if farExponent < decimal.exponent then
    infinite
  else if decimal.exponent + decimal.digits.log2 + 1 < -farExponent then
    0
  else
    nearestMagnitude
      (decimal.digits * 10 ^ decimal.exponent.toNat)
      (10 ^ (-decimal.exponent).toNat)

def toFloat (negative : Bool) (decimal : Decimal) : Float :=
  signed negative decimal.magnitude

/-- The decimal equal to a dyadic number: a negative power of two is a power of
five over a power of ten. -/
def ofDyadic (number : Dyadic) : Decimal :=
  ⟨number.mantissa * 2 ^ number.exponent.toNat * 5 ^ (-number.exponent).toNat,
    min number.exponent 0⟩

/-- The same number without trailing zeros among its digits. -/
def normalized (decimal : Decimal) : Decimal :=
  if decimal.digits ≠ 0 ∧ decimal.digits % 10 = 0 then
    normalized ⟨decimal.digits / 10, decimal.exponent + 1⟩
  else
    decimal
termination_by decimal.digits
decreasing_by omega

end Decimal

end Reckon.Number
