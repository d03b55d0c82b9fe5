import Reckon.Pattern.Bracket
import Reckon.Pattern.Group

/-!
Patterns: alternatives, each a row of items, which are pieces, sets between
brackets and groups between parentheses, with signs of repetition after them.

Only one thing is asked of a text here: whether it is a pattern. So what is kept
of the parts that were read is their height and whether they can be repeated.
-/

namespace Reckon.Pattern

/-! ## Groups that are open -/

structure Item where
  height : Nat
  /-- A change of flags is an item that cannot be repeated. -/
  repeatable : Bool
deriving DecidableEq

/-- A group that is still open, or the whole pattern. -/
structure Scope where
  /-- The flags for what comes next. -/
  flags : Flags
  /-- The heights of the alternatives that are complete. -/
  alternatives : List Nat
  /-- The items of the latest alternative, the latest item first. -/
  row : List Item

namespace Scope

def empty (flags : Flags) : Scope :=
  ⟨flags, [], []⟩

def heights (scope : Scope) : List Nat :=
  heightOf (scope.row.map Item.height) :: scope.alternatives

def height (scope : Scope) : Nat :=
  heightOf scope.heights

def add (scope : Scope) (item : Item) : Scope :=
  { scope with row := item :: scope.row }

/-- The group with one more piece, if that may stand in it. -/
def addPiece? (scope : Scope) (piece : Piece) : Option Scope :=
  if piece.fits scope.flags then
    some (scope.add ⟨0, true⟩)
  else
    none

/-- The group after its latest item is repeated, if it can be. -/
def repeatLatest? (scope : Scope) : Option Scope :=
  match scope.row with
  | ⟨height, true⟩ :: others => some { scope with row := ⟨1 + height, true⟩ :: others }
  | _ => none

/-- The group when its next alternative begins. -/
def nextAlternative (scope : Scope) : Scope :=
  ⟨scope.flags, scope.heights, []⟩

end Scope

/-- How far a pattern has been read. -/
structure Progress where
  scope : Scope
  /-- The groups around the innermost one, from the inside out. -/
  around : List Scope
  /-- The names of groups. -/
  names : List (List Char)

namespace Progress

def start : Progress :=
  ⟨.empty .initial, [], []⟩

/-- A parenthesis opens. No two groups have the same name. -/
def open? (progress : Progress) : Opening → Option Progress
  | .change flags =>
      some { progress with scope := { progress.scope.add ⟨0, false⟩ with flags := flags } }
  | .group flags none =>
      some { progress with scope := .empty flags, around := progress.scope :: progress.around }
  | .group flags (some name) =>
      if progress.names.contains name then
        none
      else
        some ⟨.empty flags, progress.scope :: progress.around, name :: progress.names⟩

/-- The innermost group closes, if there is one. The flags are again those of the
group around it. -/
def close? (progress : Progress) : Option Progress :=
  match progress.around with
  | [] => none
  | next :: others =>
      some ⟨next.add ⟨1 + progress.scope.height, true⟩, others, progress.names⟩

/-- What is read at a character is added to the innermost group. A brace would
count repetitions, which no pattern here does. -/
def step (progress : Progress) (first : Char) (rest : List Char) :
    Option (Progress × List Char) :=
  let scope := progress.scope
  let inScope (changed : Scope) : Progress := { progress with scope := changed }
  match first with
  | '(' => do
      let (opening, after) ← readOpening scope.flags rest
      return (← progress.open? opening, after)
  | ')' => progress.close?.map fun next => (next, rest)
  | '|' => some (inScope scope.nextAlternative, rest)
  | '[' =>
      (readSet scope.flags [] .empty rest).map fun (height, after) =>
        (inScope (scope.add ⟨height, true⟩), after)
  | '?' | '*' | '+' =>
      scope.repeatLatest?.map fun changed =>
        (inScope changed, if rest.head? = some '?' then rest.drop 1 else rest)
  | '\x7b' => none
  | '\\' => do
      let (piece, after) ← readEscape scope.flags rest
      return (inScope (← scope.addPiece? piece), after)
  | '.' => (scope.addPiece? .anyCharacter).map fun changed => (inScope changed, rest)
  | '^' | '$' => (scope.addPiece? .edge).map fun changed => (inScope changed, rest)
  | other =>
      (scope.addPiece? (.character other.toNat false)).map fun changed =>
        (inScope changed, rest)

private theorem length_step_le
    {progress next : Progress} {first : Char} {text rest : List Char}
    (stepped : progress.step first text = some (next, rest)) :
    rest.length ≤ text.length := by
  have same : ∀ {α : Type} {found : Option α} {make : α → Progress},
      (found.map fun made => (make made, text)) = some (next, rest) →
      rest.length ≤ text.length := by
    intro α found make equality
    obtain ⟨_, _, pairEquality⟩ := Option.map_eq_some_iff.1 equality
    injection pairEquality with _ restEquality
    exact Nat.le_of_eq (congrArg List.length restEquality.symm)
  have lazily : ∀ {found : Option Scope} {make : Scope → Progress},
      (found.map fun made =>
        (make made, if text.head? = some '?' then text.drop 1 else text)) =
        some (next, rest) →
      rest.length ≤ text.length := by
    intro found make equality
    obtain ⟨_, _, pairEquality⟩ := Option.map_eq_some_iff.1 equality
    injection pairEquality with _ restEquality
    subst restEquality
    split
    · simp
    · exact Nat.le_refl _
  simp only [step] at stepped
  split at stepped
  · obtain ⟨⟨opening, after⟩, read, continued⟩ := Option.bind_eq_some_iff.1 stepped
    obtain ⟨opened, _, equality⟩ := Option.bind_eq_some_iff.1 continued
    injection equality with pairEquality
    injection pairEquality with _ restEquality
    subst restEquality
    exact length_readOpening_le read
  · exact same stepped
  · injection stepped with equality
    injection equality with _ restEquality
    exact Nat.le_of_eq (congrArg List.length restEquality.symm)
  · obtain ⟨⟨height, after⟩, read, equality⟩ := Option.map_eq_some_iff.1 stepped
    injection equality with _ restEquality
    subst restEquality
    exact Nat.le_of_lt (length_readSet_lt read)
  · exact lazily stepped
  · exact lazily stepped
  · exact lazily stepped
  · simp at stepped
  · obtain ⟨⟨piece, after⟩, read, continued⟩ := Option.bind_eq_some_iff.1 stepped
    obtain ⟨changed, _, equality⟩ := Option.bind_eq_some_iff.1 continued
    injection equality with pairEquality
    injection pairEquality with _ restEquality
    subst restEquality
    exact Nat.le_of_lt (length_readEscape_lt read)
  · exact same stepped
  · exact same stepped
  · exact same stepped
  · exact same stepped

set_option linter.unusedVariables false in
/-- The height of the pattern that a text continues, if all of it is one. -/
def finish? (progress : Progress) (text : List Char) : Option Nat :=
  match seen : skip progress.scope.flags text with
  | [] => if progress.around.isEmpty then some progress.scope.height else none
  | first :: rest =>
      match stepped : progress.step first rest with
      | none => none
      | some (next, after) => next.finish? after
termination_by text.length
decreasing_by
  have skipped := length_skip_le progress.scope.flags text
  rw [seen, List.length_cons] at skipped
  exact Nat.lt_of_le_of_lt (length_step_le stepped) skipped

end Progress

/-- A text is a pattern when all of it can be read and nests no deeper than
allowed. -/
def isPattern (text : List Char) : Bool :=
  (Progress.start.finish? text).any fun height => height ≤ greatestHeight

end Reckon.Pattern
