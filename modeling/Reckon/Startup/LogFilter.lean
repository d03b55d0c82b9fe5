import Reckon.Number.Reading
import Reckon.Pattern.Basic
import Reckon.Text.Slice

/-!
Log filters: lists of directives between commas, each of which says at which
level a part of the program is logged. Only their form is of interest here.

A directive is a level, or the name of a part, which a span between brackets and
a level after an equals sign may follow. A span may hold a field between braces,
with a number or a pattern after an equals sign.

Blanks may stand around a directive. Its parts are found in the text without
these blanks, but cut at the same positions from the text with them: blanks in
front shift what is cut. A cut may fall inside a character; then nothing can be
said of the filter.
-/

namespace Reckon.LogFilter

/-- Why a text is not taken for a log filter. -/
inductive Flaw where
  | malformed
  /-- A cut falls inside a character. -/
  | insideCharacter
deriving DecidableEq

/-! ## Levels and fields -/

def levelNames : List String :=
  ["off", "error", "warn", "info", "debug", "trace"]

/-- A level is one of the six names, in either case, or a number up to five. It
may be missing after its equals sign. -/
def isLevel (written : List Char) : Bool :=
  let digits :=
    match written with
    | '+' :: rest => rest
    | other => other
  written.isEmpty ||
    levelNames.contains (String.ofList (written.map Char.toLower)) ||
    (!digits.isEmpty && digits.all Char.isDigit &&
      Nat.ofDigitChars 10 digits 0 ≤ 5)

/-- What stands after the first equals sign, up to the second. -/
def fieldValue? (field : List Char) : Option (List Char) :=
  match field.dropWhile fun character => character ≠ '=' with
  | [] => none
  | _ :: rest => some (rest.takeWhile fun character => character ≠ '=')

/-- A field is not empty, and its value, if it has one, is a number or a
pattern. -/
def isField (field : List Char) : Bool :=
  !field.isEmpty &&
    (fieldValue? field).all fun value =>
      (Number.read? value).isSome || Pattern.isPattern value

/-! ## Directives -/

/-- Where in a directive the next character stands. Where a part began that is to
be cut, its first position is kept. -/
inductive Place where
  | start
  | name
  | span (first : Nat)
  | field (first : Nat)
  | afterField
  | afterSpan
  | level (first : Nat)
deriving DecidableEq

def cut (text : List Char) (first last : Nat) : Except Flaw (List Char) :=
  match Text.sliceBytes? first last text with
  | some part => .ok part
  | none => .error .insideCharacter

/-- The place after the character at a position, if that may stand there, where
parts are cut from `text`. -/
def Place.next (text : List Char) (position : Nat) (place : Place) (character : Char) :
    Except Flaw Place :=
  match place, character with
  | .start, '[' => .ok (.span (position + 1))
  | .start, first =>
      if Text.isAlphanumeric first || first = '-' || first = ':' || first = '_' then
        .ok .name
      else
        .error .malformed
  | .name, '=' => do
      let _ ← cut text 0 position
      return .level (position + 1)
  | .name, '[' => do
      let _ ← cut text 0 position
      return .span (position + 1)
  | .name, _ => .ok .name
  | .span first, ']' => do
      let _ ← cut text first position
      return .afterSpan
  | .span first, '\x7b' => do
      let _ ← cut text first position
      return .field (position + 1)
  | .span first, _ => .ok (.span first)
  | .field first, '\x7d' => do
      if isField (← cut text first position) then
        return .afterField
      else
        .error .malformed
  | .field first, _ => .ok (.field first)
  | .afterField, ']' => .ok .afterSpan
  | .afterSpan, '=' => .ok (.level (position + 1))
  | .level first, _ => .ok (.level first)
  | _, _ => .error .malformed

/-- The place after the characters from a position on. -/
def Place.after (text : List Char) (position : Nat) (place : Place) :
    List Char → Except Flaw Place
  | [] => .ok place
  | character :: rest => do
      let next ← place.next text position character
      next.after text (position + character.utf8Size) rest

/-- Whether a directive may end at a place, where its level is cut from `text`. -/
def Place.finish (text : List Char) : Place → Except Flaw Unit
  | .name => .ok ()
  | .afterSpan => .ok ()
  | .level first =>
      match Text.fromByte? first text with
      | none => .error .insideCharacter
      | some written =>
          if isLevel written then
            .ok ()
          else
            .error .malformed
  | _ => .error .malformed

def checkDirective (text : List Char) : Except Flaw Unit := do
  let place ← Place.start.after text 0 (Text.trimBlank text)
  place.finish text

/-! ## Lists of directives -/

def pieces : List Char → List (List Char)
  | [] => [[]]
  | character :: rest =>
      if character = ',' then
        [] :: pieces rest
      else
        match pieces rest with
        | [] => [[character]]
        | first :: others => (character :: first) :: others

/-- A text is a log filter when each piece of it is empty or a directive; the
first one that is neither is reported. -/
def check (text : String) : Except Flaw Unit :=
  ((pieces text.toList).filter fun piece => !piece.isEmpty).forM checkDirective

end Reckon.LogFilter
