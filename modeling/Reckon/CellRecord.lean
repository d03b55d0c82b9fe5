import Reckon.Cell
import Reckon.Json.Record

/-!
Cell values as JSON: a value has its kind under `type` and what it holds under
`value`; an error inside has its kind under `type` and the name of a variable,
where there is one, under `name`.
-/

namespace Reckon

open Reckon.Json

/-! ## Writing -/

/-- An object of one or two members, written without spaces. -/
def writeTagged (contentKey tag : String) (content : Option (List Char)) : List Char :=
  "\x7b\"type\":".toList ++ literal tag ++
    (match content with
    | some written => ',' :: literal contentKey ++ ':' :: written
    | none => []) ++
    ['\x7d']

def EvalError.toJson : EvalError → List Char
  | .divisionByZero => writeTagged "name" "DivisionByZero" none
  | .undefinedVariable name =>
      writeTagged "name" "UndefinedVariable" (some (literal name))

def CellValue.toJson (value : CellValue) : String :=
  String.ofList <|
    match value with
    | .number computed =>
        writeTagged "value" "Number" (some (Number.markedText computed).toList)
    | .text written => writeTagged "value" "Text" (some (literal written))
    | .error cause => writeTagged "value" "Error" (some cause.toJson)

/-! ## Reading -/

/-- The evaluation error that a JSON value is, read in the given manner at the
given depth. -/
def EvalError.ofJson? (manner : Manner) (depth : Nat) (json : Json) : Option EvalError := do
  let tagged ←
    json.tagged? "name" ["DivisionByZero", "UndefinedVariable"] manner depth
  match tagged.tag, tagged.content with
  | "DivisionByZero", none => return .divisionByZero
  | "DivisionByZero", some .null => return .divisionByZero
  | "UndefinedVariable", some content =>
      return .undefinedVariable (← content.string?)
  | _, _ => none

def CellValue.ofJson? (json : Json) : Option CellValue := do
  let tagged ← json.tagged? "value" ["Number", "Text", "Error"] .passing Json.deepest
  match tagged.tag, tagged.content with
  | "Number", some (.number written) => return .number (← written.value?)
  | "Text", some content => return .text (← content.string?)
  | "Error", some content =>
      return .error (← EvalError.ofJson? tagged.manner (Json.deepest - 1) content)
  | _, _ => none

def CellValue.ofText? (text : String) : Option CellValue :=
  (Json.ofText? text).bind CellValue.ofJson?

end Reckon
