import Reckon.Text.Blank

/-!
The commands of the shell, one to a line: a word, and after a blank what the
word asks for.
-/

namespace Reckon

inductive Command where
  | set (cell contents : String)
  | get (cell : String)
  | contents (cell : String)
  | cells
  | dependents (cell : String)
  | save (path : Option String)
  | version (path : String)
  | help
  | quit
deriving DecidableEq

inductive CommandError where
  | needsArgument (word : String)
  | needsCell
  | unknown (word : String)
deriving DecidableEq

def CommandError.message : CommandError → String
  | .needsArgument word => s!"'{word}' needs an argument"
  | .needsCell => "'set' needs a cell name"
  | .unknown word => s!"unknown command '{word}', try 'help'"

namespace Command

open Text

def isLineEnd (character : Char) : Bool :=
  character = '\r' || character = '\n'

/-- The first word of a line, and what follows the blanks after it. -/
def splitWord (line : List Char) : List Char × List Char :=
  match cutAtBlank (dropBlank line) with
  | some (word, rest) => (word, dropBlank rest)
  | none => (dropBlank line, [])

/-- The argument after a word: all that follows, without the blanks around it. -/
def argument (word : String) (rest : List Char) : Except CommandError String :=
  let argument := trimBlank rest
  if argument = [] then
    .error (.needsArgument word)
  else
    .ok (String.ofList argument)

/-- The cell and the contents to be set. The contents follow the blank after the
cell, and keep every other blank except line ends at their end. -/
def setArguments (rest : List Char) : Except CommandError Command :=
  let (name, entered) :=
    match cutAtBlank rest with
    | some (name, after) => (name, dropTrailing isLineEnd after)
    | none => (dropTrailing isBlank rest, [])
  if name = [] then
    .error .needsCell
  else
    .ok (.set (String.ofList name) (String.ofList entered))

def savePath (rest : List Char) : Option String :=
  let path := trimBlank rest
  if path = [] then
    none
  else
    some (String.ofList path)

def ofLine (line : String) : Except CommandError Command :=
  let (letters, rest) := splitWord line.toList
  let word := String.ofList letters
  match word with
  | "set" => setArguments rest
  | "get" => (argument word rest).map .get
  | "contents" => (argument word rest).map .contents
  | "cells" => .ok .cells
  | "deps" => (argument word rest).map .dependents
  | "save" => .ok (.save (savePath rest))
  | "version" => (argument word rest).map .version
  | "help" => .ok .help
  | "?" => .ok .help
  | "quit" => .ok .quit
  | "exit" => .ok .quit
  | _ => .error (.unknown word)

end Command

end Reckon
