/-!
Digits in base sixteen: how a value is written and how a digit is read.
-/

namespace Reckon.Text

def hexDigit (value : Nat) : Char :=
  Nat.digitChar value

/-- The value of a digit in base sixteen, in either case. -/
def hexValue? (character : Char) : Option Nat :=
  if '0' ≤ character ∧ character ≤ '9' then
    some (character.toNat - '0'.toNat)
  else if 'a' ≤ character ∧ character ≤ 'f' then
    some (character.toNat - 'a'.toNat + 10)
  else if 'A' ≤ character ∧ character ≤ 'F' then
    some (character.toNat - 'A'.toNat + 10)
  else
    none

end Reckon.Text
