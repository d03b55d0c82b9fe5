import Reckon.Text.CaseTable

/-!
The upper case of whole texts, character by character: a character may become
several, as the sharp s becomes two letters.
-/

namespace Reckon.Text

/-- The code point that a run gives to a code point of it. -/
def CaseRun.image? (run : CaseRun) (code : Nat) : Option Nat :=
  if run.first ≤ code ∧ code ≤ run.last ∧ (code - run.first) % run.step = 0 then
    some ((code : Int) + run.distance).toNat
  else
    none

/-- The characters that a character becomes under case runs and expansions;
one that neither mentions stays as it is. -/
def recase
    (runs : List CaseRun) (expansions : List (Nat × List Nat))
    (character : Char) : List Char :=
  match expansions.lookup character.toNat with
  | some codes => codes.map Char.ofNat
  | none =>
      match runs.findSome? (·.image? character.toNat) with
      | some code => [Char.ofNat code]
      | none => [character]

def upperChar (character : Char) : List Char :=
  if character.toNat < 0x80 then
    [character.toUpper]
  else
    recase upperRuns upperExpansions character

def upper (text : String) : String :=
  String.ofList (text.toList.flatMap upperChar)

end Reckon.Text
