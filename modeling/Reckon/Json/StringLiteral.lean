import Reckon.Text.HexDigit

/-!
String literals of JSON: how a text is written between quotation marks, and
which text a literal denotes.

A literal may escape half of a surrogate pair without the other half. Such a
literal is well formed, and can be skipped, but denotes no text.
-/

namespace Reckon.Json

/-! ## Writing -/

/-- A character as it stands in a literal: quotation marks, backslashes and
controls are escaped, all else stands for itself. -/
def escaped (character : Char) : List Char :=
  match character with
  | '"' => ['\\', '"']
  | '\\' => ['\\', '\\']
  | '\x08' => ['\\', 'b']
  | '\x0c' => ['\\', 'f']
  | '\n' => ['\\', 'n']
  | '\r' => ['\\', 'r']
  | '\t' => ['\\', 't']
  | other =>
      if other.toNat < 0x20 then
        ['\\', 'u', '0', '0', Text.hexDigit (other.toNat / 16), Text.hexDigit (other.toNat % 16)]
      else
        [other]

def literal (text : String) : List Char :=
  '"' :: text.toList.flatMap escaped ++ ['"']

/-! ## Reading -/

def shortEscape? : Char → Option Char
  | '"' => some '"'
  | '\\' => some '\\'
  | '/' => some '/'
  | 'b' => some '\x08'
  | 'f' => some '\x0c'
  | 'n' => some '\n'
  | 'r' => some '\r'
  | 't' => some '\t'
  | _ => none

def codeUnit? (first second third fourth : Char) : Option Nat := do
  let high ← Text.hexValue? first
  let middle ← Text.hexValue? second
  let low ← Text.hexValue? third
  let last ← Text.hexValue? fourth
  return ((high * 16 + middle) * 16 + low) * 16 + last

/-- The codes in a literal up to its closing quotation mark, after the opening
one, and what follows. A code is that of a character, or half of a pair. -/
def readCodes : List Char → Option (List Nat × List Char)
  | '"' :: rest => some ([], rest)
  | '\\' :: 'u' :: first :: second :: third :: fourth :: rest => do
      let unit ← codeUnit? first second third fourth
      let (codes, after) ← readCodes rest
      return (unit :: codes, after)
  | '\\' :: short :: rest => do
      let character ← shortEscape? short
      let (codes, after) ← readCodes rest
      return (character.toNat :: codes, after)
  | character :: rest =>
      if 0x20 ≤ character.toNat ∧ character ≠ '\\' then do
        let (codes, after) ← readCodes rest
        return (character.toNat :: codes, after)
      else
        none
  | [] => none

/-- The text of a list of codes, in which halves of pairs are joined. There is
none where a half stands alone. -/
def textOfCodes? : List Nat → Option (List Char)
  | [] => some []
  | first :: rest =>
      if 0xD800 ≤ first ∧ first < 0xDC00 then
        match rest with
        | second :: others =>
            if 0xDC00 ≤ second ∧ second < 0xE000 then
              (textOfCodes? others).map
                (Char.ofNat (0x10000 + (first - 0xD800) * 0x400 + (second - 0xDC00)) :: ·)
            else
              none
        | [] => none
      else if 0xDC00 ≤ first ∧ first < 0xE000 then
        none
      else
        (textOfCodes? rest).map (Char.ofNat first :: ·)

theorem length_readCodes_lt
    {text rest : List Char} {codes : List Nat}
    (read : readCodes text = some (codes, rest)) :
    rest.length < text.length := by
  fun_induction readCodes text generalizing codes rest with
  | case1 remaining =>
      injection read with equality
      injection equality with _ restEquality
      subst restEquality
      exact Nat.lt_succ_self _
  | case2 first second third fourth remaining inductionHypothesis =>
      simp only [Option.bind_eq_bind, Option.bind_eq_some_iff] at read
      obtain ⟨unit, _, ⟨inner, after⟩, found, equality⟩ := read
      injection equality with pairEquality
      injection pairEquality with _ restEquality
      subst restEquality
      have := inductionHypothesis found
      simp only [List.length_cons]
      omega
  | case3 short remaining _ inductionHypothesis =>
      simp only [Option.bind_eq_bind, Option.bind_eq_some_iff] at read
      obtain ⟨character, _, ⟨inner, after⟩, found, equality⟩ := read
      injection equality with pairEquality
      injection pairEquality with _ restEquality
      subst restEquality
      have := inductionHypothesis found
      simp only [List.length_cons]
      omega
  | case4 character remaining _ _ _ _ inductionHypothesis =>
      simp only [Option.bind_eq_bind, Option.bind_eq_some_iff] at read
      obtain ⟨⟨inner, after⟩, found, equality⟩ := read
      injection equality with pairEquality
      injection pairEquality with _ restEquality
      subst restEquality
      have := inductionHypothesis found
      simp only [List.length_cons]
      omega
  | case5 => cases read
  | case6 => cases read

end Reckon.Json
