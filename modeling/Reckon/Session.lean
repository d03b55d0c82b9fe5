import Reckon.Shell.Basic
import Reckon.Startup.LogFilter
import Reckon.Startup.Options

/-!
Sessions: how the program starts, how it answers each line that it reads, and how
it ends.
-/

namespace Reckon

/-- Why a session ends before the first line is read. -/
inductive StartError where
  | options (error : OptionsError)
  | logFilter (flaw : LogFilter.Flaw)
  | cannotOpen (path : String) (error : StorageError)
deriving DecidableEq

/-- What the program has written, and the status with which it ends. -/
structure Transcript where
  output : String
  complaints : List String
  status : Nat
deriving DecidableEq

namespace Transcript

def empty : Transcript :=
  ⟨"", [], 0⟩

/-- The transcript with a line of output before it; empty text is not shown. -/
def withOutput (text : String) (transcript : Transcript) : Transcript :=
  if text.isEmpty then
    transcript
  else
    { transcript with output := text ++ "\n" ++ transcript.output }

def withComplaint (text : String) (transcript : Transcript) : Transcript :=
  { transcript with complaints := text :: transcript.complaints }

def failed (message : String) : Transcript :=
  ⟨"", ["Error: " ++ message], 1⟩

end Transcript

namespace Session

/-! ## Starting -/

/-- The name of the variable whose log filter, if it is one, wins over the one
in the options. -/
def logVariable : String :=
  "RUST_LOG"

/-- Whether a log filter is given. The one in the environment is looked at first,
and the one in the options only where there is none or it is malformed. -/
def checkLogFilter (options : Options) (environment : String → Option String) :
    Except LogFilter.Flaw Unit :=
  match (environment logVariable).map LogFilter.check with
  | some (.ok ()) => .ok ()
  | some (.error .insideCharacter) => .error .insideCharacter
  | _ => LogFilter.check options.log

variable {m : Type → Type} [Monad m] [FileAccess m]

/-- The sheet that the options name: the one in the file, where the file is
there, and otherwise an empty one. -/
def openSheet (options : Options) : m (Except StartError Sheet) := do
  let rules := options.normalization.rules
  match options.file with
  | none => return .ok (.empty rules options.version)
  | some path =>
      if ← FileAccess.isPresent path then
        return (← Sheet.load path rules options.version).mapError (.cannotOpen path)
      else
        return .ok (.empty rules options.version)

def start (arguments : List String) (environment : String → Option String) :
    m (Except StartError Shell) := do
  match Options.read arguments environment with
  | .error error => return .error (.options error)
  | .ok options =>
      match checkLogFilter options environment with
      | .error flaw => return .error (.logFilter flaw)
      | .ok () => return (← openSheet options).map fun sheet => ⟨sheet, options.file⟩

def versionText : String :=
  "sheetflow 0.1.0"

def helpText : String :=
  "\n".intercalate
    ["Interactive recalculating spreadsheet shell",
      "",
      "Usage: sheetflow [OPTIONS]",
      "",
      "Options:",
      "  -f, --file <FILE>                    file to open, if it exists, and to save to",
      "      --sheet-version <SHEET_VERSION>  version written to and expected in files",
      "      --normalize <NORMALIZE>          how cell names are normalized: none or upper",
      "      --log <LOG>                      log filter",
      "  -h, --help                           show this message",
      "  -V, --version                        show the version"]

def ending : StartError → Transcript
  | .options .helpWanted => Transcript.empty.withOutput helpText
  | .options .versionWanted => Transcript.empty.withOutput versionText
  | .options _ => ⟨"", [], 2⟩
  | .logFilter .malformed => .failed "invalid log filter"
  | .logFilter .insideCharacter => ⟨"", [], 101⟩
  | .cannotOpen path _ => .failed ("failed to open " ++ path)

/-! ## Answering lines -/

/-- A line is skipped when it is blank or its first character that is not blank
is a number sign. -/
def isSkipped (line : String) : Bool :=
  match Text.dropBlank line.toList with
  | [] => true
  | first :: _ => first = '#'

/-- What the program does about a line. -/
inductive Reply where
  | silent
  | output (text : String)
  | complaint (text : String)
  | finished
deriving DecidableEq

/-- The shell after a line, and what the program does about it. -/
def step (shell : Shell) (line : String) : m (Shell × Reply) := do
  if isSkipped line then
    return (shell, .silent)
  else
    let (next, result) ← shell.runLine line
    match result with
    | .ok (.print text) => return (next, .output text)
    | .ok .quit => return (next, .finished)
    | .error error => return (next, .complaint ("error: " ++ error.message))

/-- The transcript that a line which is no text brings about. -/
def unreadable : Transcript :=
  .failed "failed to read input"

/-- The shell after all lines, and what was written. A line that is no text ends
the session with a failure. -/
def play (shell : Shell) : List (Option String) → m (Shell × Transcript)
  | [] => return (shell, .empty)
  | none :: _ => return (shell, unreadable)
  | some line :: rest => do
      let (next, reply) ← step shell line
      match reply with
      | .finished => return (next, .empty)
      | .silent => play next rest
      | .output text =>
          let (final, transcript) ← play next rest
          return (final, transcript.withOutput text)
      | .complaint text =>
          let (final, transcript) ← play next rest
          return (final, transcript.withComplaint text)

/-! ## Lines of input -/

/-- The lines in a list of bytes: each ends at a line feed, which belongs to
none, together with a carriage return before it. -/
def splitLines : List UInt8 → List (List UInt8)
  | [] => []
  | 0x0A :: rest => [] :: splitLines rest
  | 0x0D :: 0x0A :: rest => [] :: splitLines rest
  | byte :: rest =>
      match splitLines rest with
      | [] => [[byte]]
      | first :: others => (byte :: first) :: others

/-- The lines of an input, where those are missing that are no text. -/
def inputLines (input : ByteArray) : List (Option String) :=
  (splitLines input.toList).map fun line => String.fromUTF8? ⟨line.toArray⟩

/-- The whole run of the program: its arguments, environment and input, and what
it wrote. -/
def run (arguments : List String) (environment : String → Option String)
    (input : ByteArray) : m Transcript := do
  match ← start arguments environment with
  | .error error => return ending error
  | .ok shell => return (← play shell (inputLines input)).2

end Session

end Reckon
