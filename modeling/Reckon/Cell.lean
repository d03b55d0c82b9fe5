import Reckon.Formula.Evaluation

/-!
Cells: what the user put into a cell, the value computed from it, and how the
text that the user enters is understood.
-/

namespace Reckon

/-- What the user put into a cell. -/
inductive Contents where
  | number (entered : Float)
  | text (written : String)
  | formula (parsed : Formula)
deriving DecidableEq

/-- The computed value of a cell. -/
inductive CellValue where
  | number (computed : Float)
  | text (written : String)
  | error (cause : EvalError)
deriving DecidableEq

namespace CellValue

/-- The value of a cell that is empty or not computed yet. -/
def empty : CellValue :=
  .text ""

def number? : CellValue → Option Float
  | .number computed => some computed
  | _ => none

def isError : CellValue → Bool
  | .error _ => true
  | _ => false

/-- The text that a cell with this value shows. -/
def shown : CellValue → String
  | .number computed => Number.plainText computed
  | .text written => written
  | .error cause => cause.code

end CellValue

namespace Contents

/-- The contents of a cell that is not stored. -/
def empty : Contents :=
  .text ""

/-- Empty text leaves a cell empty. -/
def isEmpty : Contents → Bool
  | .text written => written.isEmpty
  | _ => false

/-- The names that a formula mentions; numbers and texts mention none. -/
def names : Contents → List String
  | .formula parsed => parsed.names
  | _ => []

/-- The text that, entered into a cell, gives these contents again. -/
def inputText : Contents → String
  | .number entered => Number.plainText entered
  | .text written => written
  | .formula parsed => "=" ++ parsed.text

/-- The number that an entered text is: blanks around it do not matter, and it
must be finite. -/
def number? (input : String) : Option Float :=
  (Number.read? (Text.trimBlank input.toList)).filter fun value =>
    Number.magnitude value < Number.infinite

/-- The contents that an entered text gives: a number where it reads as one, a
formula after an equals sign, and otherwise the text itself. -/
def ofInput (rules : NameRules) (input : String) : Except FormatError Contents :=
  match number? input with
  | some value => .ok (.number value)
  | none =>
      match input.toList with
      | '=' :: expression =>
          (Formula.ofText rules (String.ofList expression)).map .formula
      | _ => .ok (.text input)

/-- The value of contents, where `lookup` knows the numbers in other cells. -/
def value (contents : Contents) (lookup : String → Option Float) : CellValue :=
  match contents with
  | .number entered => .number entered
  | .text written => .text written
  | .formula parsed =>
      match parsed.evaluate lookup with
      | .ok computed => .number computed
      | .error cause => .error cause

end Contents

structure Cell where
  name : String
  contents : Contents
  value : CellValue
deriving DecidableEq

namespace Cell

def new (name : String) (contents : Contents) : Cell :=
  ⟨name, contents, .empty⟩

end Cell

end Reckon
