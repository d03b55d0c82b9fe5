import Reckon.Text.Blank
import Reckon.Text.HexDigit

/-!
The smallest pieces of patterns: characters, named classes of characters and
places in a text, and how a backslash writes them.

A pattern describes what a text may look like. What it finds does not matter
here, only which texts are patterns. Patterns are searched for byte by byte, and
what they find must be whole characters; this rules out some pieces.
-/

namespace Reckon.Pattern

/-! ## Flags -/

/-- How a part of a pattern is to be read. -/
structure Flags where
  /-- Classes and edges of words are those of all scripts, and not of bytes. -/
  unicode : Bool
  /-- Blanks mean nothing, nor do comments from a number sign to the end of the
  line. -/
  spaced : Bool
deriving DecidableEq

namespace Flags

/-- The flags with which a pattern begins. -/
def initial : Flags :=
  ⟨true, false⟩

/-- The flags after one of them, named by its letter, is set or cleared. The
other letters are flags that do not change which texts are patterns. -/
def set (flags : Flags) (letter : Char) (value : Bool) : Flags :=
  match letter with
  | 'u' => { flags with unicode := value }
  | 'x' => { flags with spaced := value }
  | _ => flags

end Flags

/-! ## Blanks and comments -/

/-- A text without the blanks and comments at its front, where the front may lie
in a comment. -/
def dropLoose (inComment : Bool) : List Char → List Char
  | [] => []
  | character :: rest =>
      if inComment then
        dropLoose (character ≠ '\n') rest
      else if Text.isBlank character then
        dropLoose false rest
      else if character = '#' then
        dropLoose true rest
      else
        character :: rest

/-- A text without what means nothing at its front. -/
def skip (flags : Flags) (text : List Char) : List Char :=
  if flags.spaced then
    dropLoose false text
  else
    text

private theorem length_dropLoose_le (inComment : Bool) (text : List Char) :
    (dropLoose inComment text).length ≤ text.length := by
  induction text generalizing inComment with
  | nil => simp [dropLoose]
  | cons character rest inductionHypothesis =>
      unfold dropLoose
      split
      · exact Nat.le_succ_of_le (inductionHypothesis _)
      · split
        · exact Nat.le_succ_of_le (inductionHypothesis _)
        · split
          · exact Nat.le_succ_of_le (inductionHypothesis _)
          · exact Nat.le_refl _

theorem length_skip_le (flags : Flags) (text : List Char) :
    (skip flags text).length ≤ text.length := by
  unfold skip
  split
  · exact length_dropLoose_le false text
  · exact Nat.le_refl _

/-! ## Pieces -/

/-- A piece of a pattern that has no parts. -/
inductive Piece where
  /-- A character by its code point, which may have been given as a byte. -/
  | character (code : Nat) (isByte : Bool)
  | anyCharacter
  /-- The digits, the blanks or the parts of words, or all other characters. -/
  | namedClass (negated : Bool)
  /-- The characters of a general category. -/
  | category
  /-- A place at an end of the text or of a line. -/
  | edge
  /-- A place at an end of a word, or off all of them. -/
  | wordEdge
deriving DecidableEq

namespace Piece

/-- Whether a piece may stand in a pattern. Ends of words can be told byte by byte
only where words are those of ASCII; and where classes are those of bytes, they
may not hold a part of a character. -/
def fits (flags : Flags) : Piece → Bool
  | .character code isByte => flags.unicode || !isByte || code < 0x80
  | .anyCharacter => flags.unicode
  | .namedClass negated => flags.unicode || !negated
  | .category => flags.unicode
  | .edge => true
  | .wordEdge => !flags.unicode

/-- Whether a piece may stand between brackets, where only characters can. -/
def fitsBrackets (flags : Flags) : Piece → Bool
  | .character code _ => flags.unicode || code < 0x80
  | .namedClass negated => flags.unicode || !negated
  | .category => flags.unicode
  | _ => false

end Piece

/-! ## Escapes -/

/-- The piece that a backslash makes of a character by itself. Other letters and
digits are kept for later use. -/
def escapedPiece? : Char → Option Piece
  | 'd' | 's' | 'w' => some (.namedClass false)
  | 'D' | 'S' | 'W' => some (.namedClass true)
  | 'A' | 'z' => some .edge
  | 'b' | 'B' | '<' | '>' => some .wordEdge
  | 'a' => some (.character 0x07 false)
  | 't' => some (.character 0x09 false)
  | 'n' => some (.character 0x0A false)
  | 'v' => some (.character 0x0B false)
  | 'f' => some (.character 0x0C false)
  | 'r' => some (.character 0x0D false)
  | other =>
      if other.toNat < 0x80 && !other.isAlphanum then
        some (.character other.toNat false)
      else
        none

/-- The number that the next `count` digits in base sixteen continue, and what
follows them. -/
def readDigits (flags : Flags) :
    Nat → Nat → List Char → Option (Nat × List Char)
  | 0, value, text => some (value, text)
  | count + 1, value, text =>
      match skip flags text with
      | [] => none
      | first :: rest => do
          readDigits flags count (16 * value + (← Text.hexValue? first)) rest

/-- The character whose code point has a fixed number of digits, and what follows
them. -/
def readCode (flags : Flags) (isByte : Bool) (count : Nat) (text : List Char) :
    Option (Piece × List Char) := do
  let (code, rest) ← readDigits flags count 0 text
  if code < 0xD800 ∨ 0xE000 ≤ code ∧ code < 0x110000 then
    some (.character code isByte, rest)
  else
    none

/-- The general categories that have a name of one letter. -/
def categoryLetters : List Char :=
  "clmnpsz".toList

/-- The category named by the next letter, in either case, and what follows. -/
def readCategory (flags : Flags) (text : List Char) :
    Option (Piece × List Char) :=
  match skip flags text with
  | [] => none
  | letter :: rest =>
      if categoryLetters.contains letter.toLower then
        some (.category, rest)
      else
        none

/-- The piece that a backslash and the given text write, and what follows. -/
def readEscape (flags : Flags) : List Char → Option (Piece × List Char)
  | [] => none
  | first :: rest =>
      match first with
      | 'x' => readCode flags true 2 rest
      | 'u' => readCode flags false 4 rest
      | 'U' => readCode flags false 8 rest
      | 'p' | 'P' => readCategory flags rest
      | other => (escapedPiece? other).map fun piece => (piece, rest)

private theorem length_readDigits_le
    {flags : Flags} {count value code : Nat} {text rest : List Char}
    (read : readDigits flags count value text = some (code, rest)) :
    rest.length ≤ text.length := by
  induction count generalizing value text with
  | zero =>
      injection read with equality
      injection equality with _ restEquality
      exact Nat.le_of_eq (congrArg List.length restEquality.symm)
  | succ count inductionHypothesis =>
      unfold readDigits at read
      split at read
      · simp at read
      · next first remaining equality =>
          obtain ⟨digit, _, continued⟩ := Option.bind_eq_some_iff.1 read
          have skipped := length_skip_le flags text
          have shorter := inductionHypothesis continued
          rw [equality, List.length_cons] at skipped
          omega

private theorem length_readCode_le
    {flags : Flags} {isByte : Bool} {count : Nat}
    {text rest : List Char} {piece : Piece}
    (read : readCode flags isByte count text = some (piece, rest)) :
    rest.length ≤ text.length := by
  obtain ⟨⟨code, remaining⟩, digits, chosen⟩ := Option.bind_eq_some_iff.1 read
  dsimp only at chosen
  split at chosen
  · injection chosen with equality
    injection equality with _ restEquality
    subst restEquality
    exact length_readDigits_le digits
  · simp at chosen

private theorem length_readCategory_le
    {flags : Flags} {text rest : List Char} {piece : Piece}
    (read : readCategory flags text = some (piece, rest)) :
    rest.length ≤ text.length := by
  unfold readCategory at read
  split at read
  · simp at read
  · next letter remaining equality =>
      split at read
      · injection read with pairEquality
        injection pairEquality with _ restEquality
        subst restEquality
        have skipped := length_skip_le flags text
        rw [equality, List.length_cons] at skipped
        omega
      · simp at read

theorem length_readEscape_lt
    {flags : Flags} {text rest : List Char} {piece : Piece}
    (read : readEscape flags text = some (piece, rest)) :
    rest.length < text.length := by
  cases text with
  | nil => simp [readEscape] at read
  | cons first remaining =>
      apply Nat.lt_succ_of_le
      simp only [readEscape] at read
      split at read
      · exact length_readCode_le read
      · exact length_readCode_le read
      · exact length_readCode_le read
      · exact length_readCategory_le read
      · exact length_readCategory_le read
      · obtain ⟨piece, _, equality⟩ := Option.map_eq_some_iff.1 read
        injection equality with _ restEquality
        exact Nat.le_of_eq (congrArg List.length restEquality.symm)

end Reckon.Pattern
