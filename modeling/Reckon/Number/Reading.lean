import Reckon.Number.Numeral

/-!
Reading doubles from text: an optional sign, then a numeral or one of the words
for what no numeral denotes.
-/

namespace Reckon.Number

-- Powers of natural numbers are those of the core library, whatever else is imported.
attribute [local instance (high)] instPowNat

/-- The ASCII letters of a text in lower case. -/
def foldCase (text : List Char) : List Char :=
  text.map Char.toLower

/-- The double that an unsigned text denotes, with the sign that stood before. -/
def readUnsigned (negative : Bool) (text : List Char) : Option Float :=
  let word := foldCase text
  if word = "inf".toList ∨ word = "infinity".toList then
    some (signed negative infinite)
  else if word = "nan".toList then
    some (signed false (infinite + 2 ^ (51 : Nat)))
  else
    match Numeral.scan text with
    | some (numeral, []) => some (numeral.decimal.toFloat negative)
    | _ => none

/-- The double that a text denotes, where it denotes one. -/
def read? (text : List Char) : Option Float :=
  match text with
  | '+' :: rest => readUnsigned false rest
  | '-' :: rest => readUnsigned true rest
  | unsigned => readUnsigned false unsigned

end Reckon.Number
