import Reckon.Text.Unshown

/-!
Quoted texts in messages: a text between quotation marks in which every
character can be told apart. Quotes, backslashes and the common controls have
short escapes; other characters that leave no mark are given by code point.
-/

namespace Reckon.Text

def hexDigits (number : Nat) : List Char :=
  Nat.toDigits 16 number

def codePointEscape (character : Char) : List Char :=
  "\\u\x7b".toList ++ hexDigits character.toNat ++ ['\x7d']

/-- A character as it stands between quotation marks. -/
def quotedChar (character : Char) : List Char :=
  match character with
  | '"' => ['\\', '"']
  | '\\' => ['\\', '\\']
  | '\n' => ['\\', 'n']
  | '\r' => ['\\', 'r']
  | '\t' => ['\\', 't']
  | '\x00' => ['\\', '0']
  | other =>
      if isUnshown other then
        codePointEscape other
      else
        [other]

def quote (text : String) : String :=
  String.ofList ('"' :: text.toList.flatMap quotedChar ++ ['"'])

end Reckon.Text
