import Reckon.Shell.Command
import Reckon.Sheet.Storage

/-!
The shell: a sheet, the path it was last saved to, and what each command does
with them.
-/

namespace Reckon

/-- A sheet and the path under which it is saved when no other is given. -/
structure Shell where
  sheet : Sheet
  path : Option String

/-- Why the shell refuses a line. -/
inductive ShellError where
  | command (error : CommandError)
  | sheet (error : SheetError)
  | storage (error : StorageError)
  | noPath
deriving DecidableEq

def ShellError.message : ShellError → String
  | .command error => error.message
  | .sheet error => error.message
  | .storage error => error.message
  | .noPath => "no file to save to; use 'save <path>'"

/-- What a command asks the user's side to do. -/
inductive Outcome where
  | print (text : String)
  | quit
deriving DecidableEq

namespace Shell

def help : String :=
  "\n".intercalate
    ["commands:",
      "  set <cell> [contents]   set a cell (number, text, or =formula); no contents clears it",
      "  get <cell>              show a cell's value",
      "  contents <cell>         show a cell's contents",
      "  cells                   list non-empty cells with their values",
      "  deps <cell>             list cells that reference <cell> directly",
      "  save [path]             save to path, or to the file given at startup",
      "  version <path>          show the version tag of a saved file",
      "  help                    show this message",
      "  quit                    leave the shell"]

def describe (sheet : Sheet) (name : String) : Except SheetError String :=
  (sheet.value name).map fun value => name ++ " = " ++ value.shown

def describeAll (sheet : Sheet) (names : List String) : Except SheetError String :=
  (names.mapM (describe sheet)).map ("\n".intercalate ·)

def showContents (contents : Contents) : String :=
  if contents.isEmpty then "(empty)" else contents.inputText

/-- A text to print, or the refusal of the sheet. -/
def printed : Except SheetError String → Except ShellError Outcome
  | .ok text => .ok (.print text)
  | .error error => .error (.sheet error)

/-- The shell after a cell is set, and the values of all cells that this changed.
The cell stays set even if one of the values can not be shown. -/
def executeSet (shell : Shell) (cell contents : String) :
    Shell × Except ShellError Outcome :=
  match (Sheet.edit cell (some contents)).run shell.sheet with
  | .error refusal sheet => ({ shell with sheet := sheet }, .error (.sheet refusal))
  | .ok order sheet =>
      ({ shell with sheet := sheet }, printed (describeAll sheet order))

variable {m : Type → Type} [Monad m] [FileAccess m]

/-- The shell after its sheet is saved, which makes it remember the path. -/
def executeSave (shell : Shell) (path : Option String) :
    m (Shell × Except ShellError Outcome) := do
  match path <|> shell.path with
  | none => return (shell, .error .noPath)
  | some path =>
      match ← shell.sheet.save path with
      | .ok sheet => return (⟨sheet, some path⟩, .ok (.print ("saved " ++ path)))
      | .error error => return (shell, .error (.storage error))

/-- The shell after a command, and what the command asks for or why it is
refused. -/
def execute (shell : Shell) (command : Command) :
    m (Shell × Except ShellError Outcome) := do
  match command with
  | .set cell contents => return shell.executeSet cell contents
  | .get cell =>
      return (shell, printed ((shell.sheet.value cell).map CellValue.shown))
  | .contents cell =>
      return (shell, printed ((shell.sheet.contents cell).map showContents))
  | .cells => return (shell, printed (describeAll shell.sheet shell.sheet.names))
  | .dependents cell =>
      return (shell, printed ((shell.sheet.dependents cell).map (" ".intercalate ·)))
  | .save path => shell.executeSave path
  | .version path =>
      match ← Sheet.savedVersion path with
      | .ok version => return (shell, .ok (.print version))
      | .error error => return (shell, .error (.storage error))
  | .help => return (shell, .ok (.print help))
  | .quit => return (shell, .ok .quit)

/-- The shell after a line, and what the line asks for or why it is refused. -/
def runLine (shell : Shell) (line : String) :
    m (Shell × Except ShellError Outcome) :=
  match Command.ofLine line with
  | .ok command => shell.execute command
  | .error error => return (shell, .error (.command error))

end Shell

end Reckon
