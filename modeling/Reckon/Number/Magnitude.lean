/-!
Magnitudes of doubles: what the bits of a double below its sign stand for, and
which magnitude lies nearest to a quotient of two natural numbers.

Magnitudes are written as natural numbers, the bits below the sign, so that a
larger magnitude is a larger number and the infinite one is the largest.
-/

namespace Reckon.Number

-- Powers of natural numbers are those of the core library, whatever else is imported.
attribute [local instance (high)] instPowNat

/-- The number `mantissa · 2 ^ exponent`. -/
structure Dyadic where
  mantissa : Nat
  exponent : Int
deriving DecidableEq

def infinite : Nat :=
  2047 * 2 ^ (52 : Nat)

/-- The lowest exponent of a double whose mantissa is an integer. -/
def lowestExponent : Int :=
  -1074

/-- The number for which a finite magnitude stands. -/
def Dyadic.ofMagnitude (magnitude : Nat) : Dyadic :=
  if magnitude < 2 ^ (52 : Nat) then
    ⟨magnitude, lowestExponent⟩
  else
    ⟨magnitude % 2 ^ (52 : Nat) + 2 ^ (52 : Nat),
      (magnitude / 2 ^ (52 : Nat) : Nat) + lowestExponent - 1⟩

/-- The magnitude for which a mantissa above the lowest exponent stands. A
mantissa of `2 ^ 53` carries into the exponent, and what is too large for a
double is infinite. -/
def magnitudeOf (number : Dyadic) : Nat :=
  min infinite
    ((number.exponent - lowestExponent).toNat * 2 ^ (52 : Nat) + number.mantissa)

/-- The integer nearest to a quotient; a half goes to the even neighbour. -/
def roundQuotient (numerator denominator : Nat) : Nat :=
  let quotient := numerator / denominator
  let twice := 2 * (numerator % denominator)
  if denominator < twice ∨ denominator = twice ∧ quotient % 2 = 1 then
    quotient + 1
  else
    quotient

/-- The numerator and the denominator of a quotient divided by a power of two. -/
def scaleDown (numerator denominator : Nat) (exponent : Int) : Nat × Nat :=
  (numerator * 2 ^ (-exponent).toNat, denominator * 2 ^ exponent.toNat)

/-- The largest exponent whose power of two does not exceed the quotient. -/
def binaryOrder (numerator denominator : Nat) : Int :=
  let guess : Int := (numerator.log2 : Int) - (denominator.log2 : Int)
  let scaled := scaleDown numerator denominator guess
  if scaled.1 < scaled.2 then
    guess - 1
  else
    guess

/-- The magnitude nearest to a quotient; a half goes to the even mantissa. -/
def nearestMagnitude (numerator denominator : Nat) : Nat :=
  let exponent := max (binaryOrder numerator denominator - 52) lowestExponent
  let scaled := scaleDown numerator denominator exponent
  magnitudeOf ⟨roundQuotient scaled.1 scaled.2, exponent⟩

/-! ## Doubles and their magnitudes -/

def signed (negative : Bool) (magnitude : Nat) : Float :=
  Float.ofBits (UInt64.ofNat ((if negative then 2 ^ (63 : Nat) else 0) + magnitude))

def isNegative (value : Float) : Bool :=
  2 ^ (63 : Nat) ≤ value.toBits.toNat

def magnitude (value : Float) : Nat :=
  value.toBits.toNat % 2 ^ (63 : Nat)

/-! ## Laws -/

/-- A quotient without a remainder is not rounded. -/
theorem roundQuotient_mul_self
    {denominator : Nat} (positive : 0 < denominator) (quotient : Nat) :
    roundQuotient (quotient * denominator) denominator = quotient := by
  have different : denominator ≠ 0 := Nat.ne_of_gt positive
  simp [roundQuotient, Nat.mul_div_cancel _ positive, different]

/-- What a finite magnitude stands for has that magnitude. -/
theorem magnitudeOf_ofMagnitude
    {magnitude : Nat} (finite : magnitude ≤ infinite) :
    magnitudeOf (Dyadic.ofMagnitude magnitude) = magnitude := by
  unfold magnitudeOf Dyadic.ofMagnitude lowestExponent
  unfold infinite at *
  split
  · simp only [Int.sub_self, Int.toNat_zero]
    omega
  · simp only
    omega

end Reckon.Number
