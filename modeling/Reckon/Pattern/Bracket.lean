import Reckon.Pattern.Nesting
import Reckon.Pattern.Piece

/-!
Sets of characters between brackets: single characters, ranges, named classes and
sets inside, which operators may join.
-/

namespace Reckon.Pattern

/-! ## Members -/

/-- A member of a set, which a backslash or any one character may write, and what
follows it. -/
def readMember (flags : Flags) : List Char → Option (Piece × List Char)
  | [] => none
  | '\\' :: rest => readEscape flags rest
  | first :: rest => some (.character first.toNat false, rest)

/-- The character that seems to come next where blanks mean nothing: a comment
counts as its number sign alone. -/
def upcoming (flags : Flags) (text : List Char) : Option Char :=
  if flags.spaced then
    match Text.dropBlank text with
    | '#' :: rest => (Text.dropBlank rest).head?
    | solid => solid.head?
  else
    text.head?

/-- A hyphen makes a range, unless the set ends after it or another hyphen comes. -/
def makesRange (flags : Flags) (afterHyphen : List Char) : Bool :=
  upcoming flags afterHyphen ≠ some ']' && upcoming flags afterHyphen ≠ some '-'

/-- What follows a member alone, or a range of characters whose ends are in
order. -/
def readRange (flags : Flags) (text : List Char) : Option (List Char) := do
  let (low, rest) ← readMember flags text
  match skip flags rest with
  | [] => none
  | next :: after =>
      if next = '-' ∧ makesRange flags after then
        let (high, remaining) ← readMember flags (skip flags after)
        match low, high with
        | .character lowCode _, .character highCode _ =>
            if low.fitsBrackets flags ∧ high.fitsBrackets flags ∧ lowCode ≤ highCode then
              some remaining
            else
              none
        | _, _ => none
      else if low.fitsBrackets flags then
        some (next :: after)
      else
        none

def asciiClassNames : List String :=
  ["alnum", "alpha", "ascii", "blank", "cntrl", "digit", "graph", "lower", "print",
    "punct", "space", "upper", "word", "xdigit"]

/-- What follows the name of such a class with a colon and a bracket after it,
where the text has one at its front. -/
def afterClassName? (text : List Char) : Option (List Char) :=
  match text.dropWhile fun character => character ≠ ':' with
  | ':' :: ']' :: after =>
      let name := text.takeWhile fun character => character ≠ ':'
      if asciiClassNames.contains (String.ofList name) then
        some after
      else
        none
  | _ => none

/-- A named class after its opening bracket, where there is one: whether a caret
negates it, and what follows. -/
def asciiClass? : List Char → Option (Bool × List Char)
  | ':' :: '^' :: rest => (afterClassName? rest).map fun after => (true, after)
  | ':' :: rest => (afterClassName? rest).map fun after => (false, after)
  | _ => none

/-! ## Sets -/

/-- How far the start of a set has been read. -/
inductive SetStart where
  /-- A caret may come, which negates the set. -/
  | caret
  /-- Hyphens may come, which are members there, or else a bracket. -/
  | hyphens
  | inside
deriving DecidableEq

structure OpenSet where
  start : SetStart
  /-- The height of what stands left of the latest operator. -/
  left : Option Nat
  /-- The heights of the members since then. -/
  members : List Nat

namespace OpenSet

def empty : OpenSet :=
  ⟨.caret, none, []⟩

def height (set : OpenSet) : Nat :=
  match set.left with
  | none => heightOf set.members
  | some left => 1 + max left (heightOf set.members)

def add (set : OpenSet) (start : SetStart) (height : Nat) : OpenSet :=
  { set with start := start, members := height :: set.members }

/-- The set after an operator, which takes all before it as its left side. -/
def operate (set : OpenSet) : OpenSet :=
  ⟨.inside, some set.height, []⟩

end OpenSet

inductive SetToken where
  | negation
  /-- A hyphen that is a member since it stands at the start. -/
  | hyphen
  | member
  | operator
  | opening
  | closing
deriving DecidableEq

/-- What comes next in a set after its start, and what follows. Where classes are
those of bytes, no class may be negated. -/
def readInside (flags : Flags) (first : Char) (rest : List Char) :
    Option (SetToken × List Char) :=
  match first, rest with
  | '[', rest =>
      match asciiClass? rest with
      | some (negated, after) =>
          if flags.unicode || !negated then
            some (.member, after)
          else
            none
      | none => some (.opening, rest)
  | ']', rest => some (.closing, rest)
  | '&', '&' :: after => some (.operator, after)
  | '-', '-' :: after => some (.operator, after)
  | '~', '~' :: after => some (.operator, after)
  | first, rest => (readRange flags (first :: rest)).map fun after => (.member, after)

/-- What comes next in a set, and what follows. A bracket that would end a set
without members is a member. -/
def readToken (flags : Flags) (set : OpenSet) (text : List Char) :
    Option (SetToken × List Char) :=
  match skip flags text with
  | [] => none
  | first :: rest =>
      if set.start = .caret ∧ first = '^' then
        if flags.unicode then
          some (.negation, rest)
        else
          none
      else if set.start ≠ .inside ∧ first = '-' then
        some (.hyphen, rest)
      else if set.start ≠ .inside ∧ set.members.isEmpty ∧ first = ']' then
        some (.member, rest)
      else
        readInside flags first rest

/-! ### What is read is shorter -/

private theorem length_readMember_lt
    {flags : Flags} {text rest : List Char} {piece : Piece}
    (read : readMember flags text = some (piece, rest)) :
    rest.length < text.length := by
  unfold readMember at read
  split at read
  · simp at read
  · exact Nat.lt_succ_of_lt (length_readEscape_lt read)
  · injection read with equality
    injection equality with _ restEquality
    subst restEquality
    exact Nat.lt_succ_self _

private theorem length_readRange_lt
    {flags : Flags} {text rest : List Char}
    (read : readRange flags text = some rest) :
    rest.length < text.length := by
  obtain ⟨⟨low, afterLow⟩, member, continued⟩ := Option.bind_eq_some_iff.1 read
  have first := length_readMember_lt member
  have skipped := length_skip_le flags afterLow
  dsimp only at continued
  split at continued
  · simp at continued
  · next next after equality =>
      rw [equality, List.length_cons] at skipped
      split at continued
      · obtain ⟨⟨high, remaining⟩, member, chosen⟩ := Option.bind_eq_some_iff.1 continued
        have second := length_readMember_lt member
        have between := length_skip_le flags after
        dsimp only at chosen
        split at chosen
        · split at chosen
          · injection chosen with restEquality
            subst restEquality
            omega
          · simp at chosen
        · simp at chosen
      · split at continued
        · injection continued with restEquality
          subst restEquality
          rw [List.length_cons]
          omega
        · simp at continued

private theorem length_afterClassName?_le
    {text rest : List Char} (found : afterClassName? text = some rest) :
    rest.length ≤ text.length := by
  have dropped := (List.dropWhile_sublist
    (fun character : Char => decide (character ≠ ':')) (l := text)).length_le
  unfold afterClassName? at found
  split at found
  · next after equality =>
      rw [equality] at dropped
      simp only [List.length_cons] at dropped
      dsimp only at found
      split at found
      · injection found with restEquality
        subst restEquality
        omega
      · simp at found
  · simp at found

private theorem length_asciiClass?_le
    {text rest : List Char} {negated : Bool}
    (found : asciiClass? text = some (negated, rest)) :
    rest.length ≤ text.length := by
  unfold asciiClass? at found
  split at found
  · obtain ⟨after, name, equality⟩ := Option.map_eq_some_iff.1 found
    injection equality with _ restEquality
    subst restEquality
    have shorter := length_afterClassName?_le name
    simp only [List.length_cons]
    omega
  · obtain ⟨after, name, equality⟩ := Option.map_eq_some_iff.1 found
    injection equality with _ restEquality
    subst restEquality
    exact Nat.le_succ_of_le (length_afterClassName?_le name)
  · simp at found

private theorem length_readInside_le
    {flags : Flags} {first : Char} {remaining rest : List Char} {token : SetToken}
    (read : readInside flags first remaining = some (token, rest)) :
    rest.length ≤ remaining.length := by
  unfold readInside at read
  split at read
  · split at read
    · next found =>
        split at read
        · injection read with equality
          injection equality with _ restEquality
          subst restEquality
          exact length_asciiClass?_le found
        · simp at read
    · injection read with equality
      injection equality with _ restEquality
      exact Nat.le_of_eq (congrArg List.length restEquality.symm)
  · injection read with equality
    injection equality with _ restEquality
    exact Nat.le_of_eq (congrArg List.length restEquality.symm)
  · injection read with equality
    injection equality with _ restEquality
    subst restEquality
    exact Nat.le_succ _
  · injection read with equality
    injection equality with _ restEquality
    subst restEquality
    exact Nat.le_succ _
  · injection read with equality
    injection equality with _ restEquality
    subst restEquality
    exact Nat.le_succ _
  · obtain ⟨after, range, equality⟩ := Option.map_eq_some_iff.1 read
    injection equality with _ restEquality
    subst restEquality
    exact Nat.le_of_lt_succ (length_readRange_lt range)

private theorem length_readToken_lt
    {flags : Flags} {set : OpenSet} {text rest : List Char} {token : SetToken}
    (read : readToken flags set text = some (token, rest)) :
    rest.length < text.length := by
  have skipped := length_skip_le flags text
  have single : ∀ {made : SetToken} {remaining : List Char},
      some (made, remaining) = some (token, rest) → rest.length ≤ remaining.length := by
    intro made remaining equality
    injection equality with pairEquality
    injection pairEquality with _ restEquality
    exact Nat.le_of_eq (congrArg List.length restEquality.symm)
  unfold readToken at read
  split at read
  · simp at read
  · next first remaining equality =>
      rw [equality, List.length_cons] at skipped
      apply Nat.lt_of_lt_of_le (Nat.lt_succ_of_le _) skipped
      split at read
      · split at read
        · exact single read
        · simp at read
      · split at read
        · exact single read
        · split at read
          · exact single read
          · exact length_readInside_le read

/-! ### Reading -/

set_option linter.unusedVariables false in
/-- The height of the set that a text continues, and what follows it, where the
sets around it that are still open are given from the inside out. -/
def readSet (flags : Flags) (around : List OpenSet) (set : OpenSet) (text : List Char) :
    Option (Nat × List Char) :=
  match read : readToken flags set text with
  | none => none
  | some (.negation, rest) => readSet flags around { set with start := .hyphens } rest
  | some (.hyphen, rest) => readSet flags around (set.add .hyphens 0) rest
  | some (.member, rest) => readSet flags around (set.add .inside 0) rest
  | some (.operator, rest) => readSet flags around set.operate rest
  | some (.opening, rest) => readSet flags (set :: around) .empty rest
  | some (.closing, rest) =>
      match around with
      | [] => some (1 + set.height, rest)
      | next :: others => readSet flags others (next.add .inside (1 + set.height)) rest
termination_by text.length
decreasing_by all_goals exact length_readToken_lt read

theorem length_readSet_lt
    {flags : Flags} {around : List OpenSet} {set : OpenSet}
    {text rest : List Char} {height : Nat}
    (read : readSet flags around set text = some (height, rest)) :
    rest.length < text.length := by
  fun_induction readSet flags around set text with
  | case1 => simp at read
  | case2 around set text remaining token inductionHypothesis =>
      exact Nat.lt_trans (inductionHypothesis read) (length_readToken_lt token)
  | case3 around set text remaining token inductionHypothesis =>
      exact Nat.lt_trans (inductionHypothesis read) (length_readToken_lt token)
  | case4 around set text remaining token inductionHypothesis =>
      exact Nat.lt_trans (inductionHypothesis read) (length_readToken_lt token)
  | case5 around set text remaining token inductionHypothesis =>
      exact Nat.lt_trans (inductionHypothesis read) (length_readToken_lt token)
  | case6 around set text remaining token inductionHypothesis =>
      exact Nat.lt_trans (inductionHypothesis read) (length_readToken_lt token)
  | case7 set text remaining token =>
      injection read with equality
      injection equality with _ restEquality
      subst restEquality
      exact length_readToken_lt token
  | case8 set text remaining token next others inductionHypothesis =>
      exact Nat.lt_trans (inductionHypothesis read) (length_readToken_lt token)

end Reckon.Pattern
