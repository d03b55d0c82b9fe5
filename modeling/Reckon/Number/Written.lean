import Reckon.Number.Numeral
import Reckon.Number.Shortest

/-!
The two written forms of doubles: plain notation, which never has an exponent,
and notation with an exponent for very large and very small numbers. Both show
the shortest digits that read back.
-/

namespace Reckon.Number

def digitChars (number : Nat) : List Char :=
  Nat.toDigits 10 number

namespace Decimal

/-- A decimal in plain notation: zeros fill the places up to the point, and the
point has a digit on both sides. -/
def plain (decimal : Decimal) : List Char :=
  let digits := digitChars decimal.digits
  if 0 ≤ decimal.exponent then
    digits ++ List.replicate decimal.exponent.toNat '0'
  else
    let places := (-decimal.exponent).toNat
    if places < digits.length then
      digits.take (digits.length - places) ++
        '.' :: digits.drop (digits.length - places)
    else
      '0' :: '.' :: List.replicate (places - digits.length) '0' ++ digits

/-- The exponent of a decimal whose point stands after the first digit. -/
def leadingExponent (decimal : Decimal) : Int :=
  decimal.exponent + (digitChars decimal.digits).length - 1

/-- A decimal with its point after the first digit and an exponent that always
shows its sign. -/
def withExponent (decimal : Decimal) : List Char :=
  let mantissa :=
    match digitChars decimal.digits with
    | first :: second :: rest => first :: '.' :: second :: rest
    | single => single
  let exponent := decimal.leadingExponent
  mantissa ++ 'e' :: (if exponent < 0 then '-' else '+') ::
    digitChars exponent.natAbs

/-- A decimal that shows that it need not be an integer: integers end in a zero
after the point, and exponents are written below `-5` and from `16` on. -/
def marked (decimal : Decimal) : List Char :=
  let exponent := decimal.leadingExponent
  if exponent < -5 ∨ 16 ≤ exponent then
    decimal.withExponent
  else if 0 ≤ decimal.exponent then
    decimal.plain ++ ['.', '0']
  else
    decimal.plain

end Decimal

/-- The text of a double with its sign, where finite magnitudes are written by
`write`. The sign of a number that is none is not shown. -/
def writeWith (write : Nat → List Char) (value : Float) : List Char :=
  let magnitude := magnitude value
  if infinite < magnitude then
    "NaN".toList
  else
    (if isNegative value then ['-'] else []) ++
      (if magnitude = infinite then "inf".toList else write magnitude)

/-- A double in plain notation; a tie between two shortest decimals goes up. -/
def plainText (value : Float) : String :=
  String.ofList (writeWith (fun magnitude => (Decimal.shortest .up magnitude).plain) value)

/-- A finite double as a number that shows that it need not be an integer; a tie
between two shortest decimals goes to the even one. -/
def markedText (value : Float) : String :=
  String.ofList (writeWith (fun magnitude => (Decimal.shortest .even magnitude).marked) value)

end Reckon.Number
