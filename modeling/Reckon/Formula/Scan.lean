import Reckon.Formula.Error
import Reckon.Formula.Token
import Reckon.Name
import Reckon.Number.Reading
import Reckon.Text.Blank

/-!
Scanning: the tokens of a text, read from left to right. Blanks only separate
tokens, and each token is the longest that starts where it stands.
-/

namespace Reckon

namespace Token

/-- Blanks, parentheses and operators end a run that is no token. -/
def endsRun (character : Char) : Bool :=
  Text.isBlank character || "()+-*/".toList.contains character

/-- The text to report where no token starts: everything up to a blank, a
parenthesis or an operator. -/
def strayRun (text : List Char) : List Char :=
  text.takeWhile fun character => !endsRun character

/-- The number at the start of a text and what follows it, or the text to report
where there is none or where it is too large. -/
def scanNumber (text : List Char) : Except (List Char) (Token × List Char) :=
  match Number.Numeral.scan text with
  | some (numeral, rest) =>
      if numeral.decimal.magnitude < Number.infinite then
        .ok (.number (numeral.decimal.toFloat false), rest)
      else
        .error numeral.text
  | none => .error (strayRun text)

/-- The token that a parenthesis or an operator is by itself. -/
def ofMark? : Char → Option Token
  | '(' => some .leftParen
  | ')' => some .rightParen
  | '+' => some (.operator .add)
  | '-' => some (.operator .sub)
  | '*' => some (.operator .mul)
  | '/' => some (.operator .div)
  | _ => none

/-- The token that starts with a character, the text after the token, or the
text to report where no token starts. -/
def scanOne (first : Char) (rest : List Char) :
    Except (List Char) (Token × List Char) :=
  match ofMark? first with
  | some token => .ok (token, rest)
  | none =>
      if isNameStart first then
        .ok (.name (String.ofList (first :: rest.takeWhile isNamePart)),
          rest.dropWhile isNamePart)
      else
        scanNumber (first :: rest)

private theorem length_scanNumber_lt
    {text rest : List Char} {token : Token}
    (scanned : scanNumber text = .ok (token, rest)) :
    rest.length < text.length := by
  unfold scanNumber at scanned
  split at scanned
  · next numeral remaining found =>
      split at scanned
      · injection scanned with equality
        injection equality with _ restEquality
        subst restEquality
        exact Number.Numeral.length_scan_lt found
      · simp at scanned
  · simp at scanned

private theorem length_scanOne_le
    {first : Char} {remaining rest : List Char} {token : Token}
    (scanned : scanOne first remaining = .ok (token, rest)) :
    rest.length ≤ remaining.length := by
  unfold scanOne at scanned
  split at scanned
  · injection scanned with equality
    injection equality with _ restEquality
    subst restEquality
    exact Nat.le_refl _
  · split at scanned
    · injection scanned with equality
      injection equality with _ restEquality
      subst restEquality
      exact (List.dropWhile_sublist _).length_le
    · exact Nat.le_of_lt_succ (length_scanNumber_lt scanned)

/-- The tokens of a text, when `count` tokens stand before it. -/
def scanFrom (count : Nat) : List Char → Except FormatError (List Token)
  | [] => .ok []
  | first :: remaining =>
      if Text.isBlank first then
        scanFrom count remaining
      else
        match scanned : scanOne first remaining with
        | .error stray =>
            .error (.invalidToken (String.ofList stray) (count + 1))
        | .ok (token, rest) =>
            (scanFrom (count + 1) rest).map (token :: ·)
termination_by text => text.length
decreasing_by
  · simp
  · exact Nat.lt_succ_of_le (length_scanOne_le scanned)

def scan (text : String) : Except FormatError (List Token) :=
  scanFrom 0 text.toList

end Token

end Reckon
