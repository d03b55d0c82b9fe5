import Reckon.Files.Access
import Reckon.Sheet.Basic
import Reckon.SheetFile.Basic

/-!
Sheets in files. A sheet is saved as its version and the texts that recreate its
cells; it is loaded by entering these texts again, one after the other.
-/

namespace Reckon

/-- Why a file can not be used as that of a sheet. -/
inductive StorageFault where
  | file (fault : FileFault)
  | malformed
  | versionMismatch (expected found : String)
  | badCell (error : SheetError)
deriving DecidableEq

def StorageFault.message : StorageFault → String
  | .file fault => "I/O error: " ++ fault.message
  | .malformed => "malformed spreadsheet file: "
  | .versionMismatch expected found =>
      "version mismatch: expected " ++ Text.quote expected ++ ", found " ++ Text.quote found
  | .badCell error => "bad cell in file: " ++ error.message

structure StorageError where
  path : String
  fault : StorageFault
deriving DecidableEq

def StorageError.message (error : StorageError) : String :=
  s!"unable to access spreadsheet file {error.path}: " ++ error.fault.message

/-! ## Files and sheets -/

/-- The file of a sheet: every stored cell, in the order of the names. -/
def SheetFile.ofSheet (sheet : Sheet) : SheetFile :=
  ⟨sheet.version, sheet.storedCells.map fun cell =>
    ⟨cell.name, some cell.contents.inputText⟩⟩

namespace Sheet

/-- The sheet in which the cells of a file are entered, one after the other. -/
def enter (sheet : Sheet) (cells : List CellEntry) : Except SheetError Sheet :=
  cells.foldlM (fun current entry =>
    (current.set entry.name entry.contents).map Prod.fst) sheet

/-- The sheet of a file that is expected to have a version. -/
def ofFile (rules : NameRules) (expected : String) (file : SheetFile) :
    Except StorageFault Sheet :=
  if file.version = expected then
    (((empty rules file.version).enter file.cells).map markSaved).mapError .badCell
  else
    .error (.versionMismatch expected file.version)

def ofText (rules : NameRules) (expected text : String) :
    Except StorageFault Sheet :=
  match SheetFile.ofText? text with
  | some file => ofFile rules expected file
  | none => .error .malformed

def savedText (sheet : Sheet) : String :=
  (SheetFile.ofSheet sheet).write

/-! ## Access to files -/

variable {m : Type → Type} [Monad m] [FileAccess m]

/-- What a text under a path is understood as. -/
def readAs {α : Type} (path : String) (understand : String → Except StorageFault α) :
    m (Except StorageError α) := do
  match ← FileAccess.read path with
  | .ok text => return (understand text).mapError fun fault => ⟨path, fault⟩
  | .error fault => return .error ⟨path, .file fault⟩

/-- The sheet in the file under a path, where the file is expected to have a
version. -/
def load (path : String) (rules : NameRules) (expected : String) :
    m (Except StorageError Sheet) :=
  readAs path (ofText rules expected)

/-- The version in the file under a path, whatever its cells are. -/
def savedVersion (path : String) : m (Except StorageError String) :=
  readAs path fun text =>
    match SheetFile.versionOf? text with
    | some version => .ok version
    | none => .error .malformed

/-- The sheet after its text is written to the file under a path; only then no
change is left to be saved. -/
def save (sheet : Sheet) (path : String) : m (Except StorageError Sheet) := do
  match ← FileAccess.write path sheet.savedText with
  | .ok () => return .ok sheet.markSaved
  | .error fault => return .error ⟨path, .file fault⟩

end Sheet

end Reckon
