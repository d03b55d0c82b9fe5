import Reckon.Pattern.Piece
import Reckon.Text.Alphanumeric

/-!
What a parenthesis opens in a pattern: a group, which may have a name or flags of
its own, or a change of flags for the rest of the group around it.
-/

namespace Reckon.Pattern

inductive Opening where
  | group (flags : Flags) (name : Option (List Char))
  | change (flags : Flags)

/-! ## Flags -/

def flagLetters : List Char :=
  "imsUuRx".toList

/-- The opening whose flags a text continues, and what follows. A hyphen clears
the flags after it, and each flag and the hyphen may stand only once. -/
def readFlags (flags : Flags) (seen : List Char) : List Char → Option (Opening × List Char)
  | [] => none
  | first :: rest =>
      let cleared := seen.contains '-'
      let dangling := seen.head? = some '-'
      if first = ':' then
        if dangling then none else some (.group flags none, rest)
      else if first = ')' then
        if dangling || seen.isEmpty then none else some (.change flags, rest)
      else if seen.contains first then
        none
      else if first = '-' then
        readFlags flags (first :: seen) rest
      else if flagLetters.contains first then
        readFlags (flags.set first !cleared) (first :: seen) rest
      else
        none

/-! ## Names -/

def startsName (character : Char) : Bool :=
  character = '_' || Text.isAlphabetic character

/-- A name goes on with letters, digits and some marks. -/
def continuesName (character : Char) : Bool :=
  Text.isAlphanumeric character || "_.[]".toList.contains character

/-- The group whose name a text begins with, and what follows. -/
def readName (flags : Flags) (text : List Char) : Option (Opening × List Char) :=
  match text.takeWhile fun character => character ≠ '>' with
  | [] => none
  | first :: others =>
      match text.dropWhile fun character => character ≠ '>' with
      | [] => none
      | _ :: rest =>
          if startsName first && others.all continuesName then
            some (.group flags (some (first :: others)), rest)
          else
            none

/-! ## Openings -/

/-- What a parenthesis opens before the given text, and what follows. A group may
not look ahead or behind. -/
def readOpening (flags : Flags) (text : List Char) : Option (Opening × List Char) :=
  match skip flags text with
  | '?' :: rest =>
      match rest with
      | '=' :: _ => none
      | '!' :: _ => none
      | '<' :: '=' :: _ => none
      | '<' :: '!' :: _ => none
      | '<' :: name => readName flags name
      | 'P' :: '<' :: name => readName flags name
      | _ => readFlags flags [] rest
  | rest => some (.group flags none, rest)

/-! ### What is read is no longer -/

private theorem length_readFlags_le
    {flags : Flags} {seen text rest : List Char} {opening : Opening}
    (read : readFlags flags seen text = some (opening, rest)) :
    rest.length ≤ text.length := by
  fun_induction readFlags flags seen text with
  | case1 => simp at read
  | case2 => simp at read
  | case3 => grind
  | case4 => simp at read
  | case5 => grind
  | case6 => simp at read
  | case7 => grind
  | case8 => grind
  | case9 => simp at read

private theorem length_readName_le
    {flags : Flags} {text rest : List Char} {opening : Opening}
    (read : readName flags text = some (opening, rest)) :
    rest.length ≤ text.length := by
  have dropped := (List.dropWhile_sublist
    (fun character : Char => decide (character ≠ '>')) (l := text)).length_le
  unfold readName at read
  split at read
  · simp at read
  · split at read
    · simp at read
    · next remaining equality =>
        rw [equality, List.length_cons] at dropped
        split at read
        · injection read with pairEquality
          injection pairEquality with _ restEquality
          subst restEquality
          omega
        · simp at read

theorem length_readOpening_le
    {flags : Flags} {text rest : List Char} {opening : Opening}
    (read : readOpening flags text = some (opening, rest)) :
    rest.length ≤ text.length := by
  refine Nat.le_trans ?_ (length_skip_le flags text)
  unfold readOpening at read
  split at read
  · next remaining equality =>
      rw [equality]
      split at read
      · simp at read
      · simp at read
      · simp at read
      · simp at read
      · have shorter := length_readName_le read
        simp only [List.length_cons]
        omega
      · have shorter := length_readName_le read
        simp only [List.length_cons]
        omega
      · exact Nat.le_succ_of_le (length_readFlags_le read)
  · injection read with equality
    injection equality with _ restEquality
    exact Nat.le_of_eq (congrArg List.length restEquality.symm)

end Reckon.Pattern
