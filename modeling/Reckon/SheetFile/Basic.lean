import Reckon.Json.Record

/-!
Files of sheets: a version and the cells in order, each with its name and the
text that was entered into it. Files are written as JSON, indented by two
spaces for each level.
-/

namespace Reckon

/-- A cell in a file. A file may lack the contents of a cell. -/
structure CellEntry where
  name : String
  contents : Option String
deriving DecidableEq

structure SheetFile where
  version : String
  cells : List CellEntry
deriving DecidableEq

open Reckon.Json

/-! ## Writing -/

def writeOptional : Option String → List Char
  | some text => literal text
  | none => "null".toList

def CellEntry.write (entry : CellEntry) : List Char :=
  "    \x7b\n      \"name\": ".toList ++ literal entry.name ++
    ",\n      \"contents\": ".toList ++ writeOptional entry.contents ++
    "\n    \x7d".toList

def writeCells : List CellEntry → List Char
  | [] => "[]".toList
  | first :: rest =>
      "[\n".toList ++ first.write ++
        rest.flatMap (fun entry => ",\n".toList ++ entry.write) ++
        "\n  ]".toList

namespace SheetFile

def write (file : SheetFile) : String :=
  String.ofList <|
    "\x7b\n  \"version\": ".toList ++ literal file.version ++
      ",\n  \"cells\": ".toList ++ writeCells file.cells ++ "\n\x7d".toList

end SheetFile

/-! ## Reading -/

def CellEntry.ofJson? (json : Json) : Option CellEntry := do
  match ← json.record? false ["name", "contents"] with
  | [some name, none] => return ⟨← name.string?, none⟩
  | [some name, some .null] => return ⟨← name.string?, none⟩
  | [some name, some contents] => return ⟨← name.string?, some (← contents.string?)⟩
  | _ => none

def cellsOfJson? : Json → Option (List CellEntry)
  | .array items => items.mapM CellEntry.ofJson?
  | _ => none

namespace SheetFile

/-- The file that a JSON value is. Only the cells may be missing. -/
def ofJson? (json : Json) : Option SheetFile := do
  match ← json.record? false ["version", "cells"] with
  | [some version, none] => return ⟨← version.string?, []⟩
  | [some version, some cells] => return ⟨← version.string?, ← cellsOfJson? cells⟩
  | _ => none

def ofText? (text : String) : Option SheetFile :=
  (Json.ofText? text).bind ofJson?

/-- The version in a text, whatever else stands with it. -/
def versionOf? (text : String) : Option String := do
  match ← (← Json.ofText? text).record? true ["version"] with
  | [some version] => version.string?
  | _ => none

end SheetFile

end Reckon
