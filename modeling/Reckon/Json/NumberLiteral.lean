import Reckon.Number.Numeral

/-!
Number literals of JSON, and the doubles that they are read as.

A literal is read quickly rather than to the nearest double. Its digits are
gathered into a number of 64 bits for as long as they fit, and that number is then
scaled in floating point by a power of ten. What is too large for a double is
refused, and what is too small becomes zero.
-/

namespace Reckon.Json

-- Powers of natural numbers are those of the core library, whatever else is imported.
attribute [local instance (high)] instPowNat

open Reckon.Number

/-- A number literal: an optional minus sign and a numeral. -/
structure NumberLiteral where
  negative : Bool
  numeral : Numeral
deriving DecidableEq

/-- The natural number that a literal is, if it has neither a sign nor a point nor
an exponent. -/
def NumberLiteral.natural? (literal : NumberLiteral) : Option Nat :=
  match literal.negative, literal.numeral with
  | false, ⟨whole, none, none⟩ => some (Nat.ofDigitChars 10 whole 0)
  | _, _ => none

/-- A numeral that JSON allows: it has digits before the point, without a needless
zero in front, and after the point if there is one. -/
def allowedNumeral (numeral : Numeral) : Bool :=
  (match numeral.whole with
  | [] => false
  | ['0'] => true
  | first :: _ => first ≠ '0') &&
    numeral.fraction ≠ some []

/-- Digits and the power of ten by which they are to be multiplied. -/
structure Scaled where
  digits : Nat
  exponent : Int
deriving DecidableEq

namespace Scaled

def digitValue (digit : Char) : Nat :=
  digit.toNat - '0'.toNat

/-- Whether one more digit fits into 64 bits. -/
def fits (digits : Nat) (digit : Char) : Bool :=
  digits * 10 + digitValue digit < 2 ^ (64 : Nat)

/-- Digits before the point are gathered for as long as they fit; each of the
others counts as a factor of ten. -/
def gatherWhole (digits : Nat) : List Char → Scaled
  | [] => ⟨digits, 0⟩
  | digit :: rest =>
      if fits digits digit then
        gatherWhole (digits * 10 + digitValue digit) rest
      else
        ⟨digits, (digit :: rest).length⟩

/-- Digits after the point are gathered for as long as they fit, and the others
are dropped. -/
def gatherFraction (scaled : Scaled) : List Char → Scaled
  | [] => scaled
  | digit :: rest =>
      if fits scaled.digits digit then
        gatherFraction
          ⟨scaled.digits * 10 + digitValue digit, scaled.exponent - 1⟩ rest
      else
        scaled

/-- The largest exponent for which a power of ten is a double. -/
def largestPower : Nat :=
  308

def powerOfTen (exponent : Nat) : Float :=
  (Decimal.mk 1 exponent).toFloat false

/-- The product of a double and a power of ten, taken in floating point. There is
none where it is too large. -/
def scale (value : Float) (exponent : Int) : Option Float :=
  if exponent < -(largestPower : Int) then
    if value == 0 then
      some value
    else
      scale (value / powerOfTen largestPower) (exponent + largestPower)
  else if exponent < 0 then
    some (value / powerOfTen exponent.natAbs)
  else if exponent ≤ largestPower then
    let product := value * powerOfTen exponent.natAbs
    if magnitude product < infinite then
      some product
    else
      none
  else if value == 0 then
    some value
  else
    none
termination_by exponent.natAbs
decreasing_by
  simp only [largestPower] at *
  omega

end Scaled

/-- The double that a number literal is read as, unless it is too large. -/
def NumberLiteral.value? (number : NumberLiteral) : Option Float :=
  let whole := Scaled.gatherWhole 0 number.numeral.whole
  let scaled := whole.gatherFraction number.numeral.fractionDigits
  (Scaled.scale scaled.digits.toUInt64.toFloat
      (scaled.exponent + number.numeral.exponentValue)).map fun value =>
    if number.negative then -value else value

end Reckon.Json
