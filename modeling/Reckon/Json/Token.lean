import Reckon.Json.NumberLiteral
import Reckon.Json.StringLiteral

/-!
The tokens of JSON texts, read from left to right.
-/

namespace Reckon.Json

/-- A token of a JSON text. A string token holds the text of its literal, if the
literal denotes one. -/
inductive Token where
  | openArray
  | closeArray
  | openObject
  | closeObject
  | colon
  | comma
  | null
  | bool (value : Bool)
  | number (literal : NumberLiteral)
  | string (text : Option String)
deriving DecidableEq

namespace Token

def isSpace (character : Char) : Bool :=
  character = ' ' || character = '\t' || character = '\n' || character = '\r'

def ofMark? : Char → Option Token
  | '[' => some .openArray
  | ']' => some .closeArray
  | '\x7b' => some .openObject
  | '\x7d' => some .closeObject
  | ':' => some .colon
  | ',' => some .comma
  | _ => none

/-- The number token at the start of a text, after its sign, and what follows. -/
def scanNumber (negative : Bool) (text : List Char) :
    Option (Token × List Char) :=
  match Number.Numeral.scan text with
  | some (numeral, rest) =>
      if allowedNumeral numeral then
        some (.number ⟨negative, numeral⟩, rest)
      else
        none
  | none => none

/-- The token that starts with a character, and what follows it. -/
def scanOne (first : Char) (rest : List Char) : Option (Token × List Char) :=
  match ofMark? first with
  | some token => some (token, rest)
  | none =>
      match first, rest with
      | '"', rest =>
          (readCodes rest).map fun (codes, after) =>
            (.string ((textOfCodes? codes).map String.ofList), after)
      | '-', rest => scanNumber true rest
      | 'n', 'u' :: 'l' :: 'l' :: after => some (.null, after)
      | 't', 'r' :: 'u' :: 'e' :: after => some (.bool true, after)
      | 'f', 'a' :: 'l' :: 's' :: 'e' :: after => some (.bool false, after)
      | first, rest => scanNumber false (first :: rest)

private theorem length_scanNumber_lt
    {negative : Bool} {text rest : List Char} {token : Token}
    (scanned : scanNumber negative text = some (token, rest)) :
    rest.length < text.length := by
  unfold scanNumber at scanned
  split at scanned
  · next numeral remaining found =>
      split at scanned
      · injection scanned with equality
        injection equality with _ restEquality
        subst restEquality
        exact Number.Numeral.length_scan_lt found
      · simp at scanned
  · simp at scanned

private theorem length_scanOne_le
    {first : Char} {remaining rest : List Char} {token : Token}
    (scanned : scanOne first remaining = some (token, rest)) :
    rest.length ≤ remaining.length := by
  unfold scanOne at scanned
  split at scanned
  · injection scanned with equality
    injection equality with _ restEquality
    subst restEquality
    exact Nat.le_refl _
  · split at scanned
    · obtain ⟨⟨codes, after⟩, read, equality⟩ := Option.map_eq_some_iff.1 scanned
      injection equality with _ restEquality
      subst restEquality
      exact Nat.le_of_lt (length_readCodes_lt read)
    · exact Nat.le_of_lt (length_scanNumber_lt scanned)
    · injection scanned with equality
      injection equality with _ restEquality
      subst restEquality
      simp only [List.length_cons]
      omega
    · injection scanned with equality
      injection equality with _ restEquality
      subst restEquality
      simp only [List.length_cons]
      omega
    · injection scanned with equality
      injection equality with _ restEquality
      subst restEquality
      simp only [List.length_cons]
      omega
    · exact Nat.le_of_lt_succ (length_scanNumber_lt scanned)

set_option linter.unusedVariables false in
/-- The tokens of a text, if it has only tokens and spaces. -/
def scan : List Char → Option (List Token)
  | [] => some []
  | first :: remaining =>
      if isSpace first then
        scan remaining
      else
        match scanned : scanOne first remaining with
        | none => none
        | some (token, rest) => (scan rest).map (token :: ·)
termination_by text => text.length
decreasing_by
  · simp
  · exact Nat.lt_succ_of_le (length_scanOne_le scanned)

end Token

end Reckon.Json
