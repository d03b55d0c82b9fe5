import Reckon.Files.Disk
import Reckon.Session

/-!
The program: a session whose files are those of the system, and whose lines come
from the standard input one by one.
-/

namespace Reckon

-- Powers of natural numbers are those of the core library, whatever else is imported.
attribute [local instance (high)] instPowNat

/-- The number that the system gives to an error; errors may count it downwards
from zero. -/
def systemCode (code : UInt32) : Nat :=
  if code.toNat < 2 ^ (31 : Nat) then
    code.toNat
  else
    2 ^ (32 : Nat) - code.toNat

/-- The fault for which a numbered error of the system stands. -/
def faultOfCode (code : UInt32) (details : String) : FileFault :=
  match systemCode code with
  | 2 => .notFound
  | 20 => .notAFolder
  | 21 => .isAFolder
  | 36 => .nameTooLong
  | number => .other s!"{details} (os error {number})"

/-- The fault for which an error of the system stands. -/
def faultOf : IO.Error → FileFault
  | .noFileOrDirectory _ code details => faultOfCode code details
  | .noSuchThing _ code details => faultOfCode code details
  | .inappropriateType _ code details => faultOfCode code details
  | .invalidArgument _ code details => faultOfCode code details
  | .permissionDenied _ code details => faultOfCode code details
  | .resourceExhausted _ code details => faultOfCode code details
  | .resourceBusy code details => faultOfCode code details
  | .otherError code details => faultOfCode code details
  | error => .other (toString error)

/-- What is done with the file under a path, if the path can be one. -/
def withFile {α : Type} (path : String) (act : IO (Except FileFault α)) :
    IO (Except FileFault α) := do
  match Disk.Path.check path with
  | .error fault => return .error fault
  | .ok _ => try act catch error => return .error (faultOf error)

instance : FileAccess IO where
  read path := withFile path do
    match String.fromUTF8? (← IO.FS.readBinFile path) with
    | some text => return .ok text
    | none => return .error .notUtf8
  write path text := withFile path do
    IO.FS.writeBinFile path text.toUTF8
    return .ok ()
  isPresent path := do
    match ← withFile path (return .ok (← IO.FS.realPath path)) with
    | .ok _ => return true
    | .error _ => return false

/-- The environment variables that a session asks for, with their values. -/
def readEnvironment : IO (List (String × String)) := do
  let names := Session.logVariable ::
    [Setting.file, .version, .normalization, .log].map Setting.environmentName
  names.filterMapM fun name =>
    return (← IO.getEnv name).map fun value => (name, value)

/-- The bytes of the next line with its end, and none at the end of the input. -/
partial def readLine (input : IO.FS.Stream) (line : ByteArray) : IO ByteArray := do
  let byte ← input.read 1
  if byte.isEmpty || byte.data[0]? = some 0x0A then
    return line ++ byte
  else
    readLine input (line ++ byte)

def writeOut (transcript : Transcript) : IO UInt32 := do
  (← IO.getStdout).putStr transcript.output
  (← IO.getStdout).flush
  for complaint in transcript.complaints do
    (← IO.getStderr).putStrLn complaint
  return transcript.status.toUInt32

/-- Lines are read and answered until there is none or the session is over. -/
partial def converse (shell : Shell) : IO UInt32 := do
  match Session.inputLines (← readLine (← IO.getStdin) .empty) with
  | some line :: _ =>
      let (next, reply) ← Session.step shell line
      match reply with
      | .finished => return 0
      | .silent => converse next
      | .output text =>
          let _ ← writeOut (Transcript.empty.withOutput text)
          converse next
      | .complaint text =>
          let _ ← writeOut (Transcript.empty.withComplaint text)
          converse next
  | none :: _ => writeOut Session.unreadable
  | [] => return 0

end Reckon

/-- The program with its arguments; the result is its exit status. -/
def main (arguments : List String) : IO UInt32 := do
  let environment ← Reckon.readEnvironment
  match ← Reckon.Session.start arguments (fun name => environment.lookup name) with
  | .error error => Reckon.writeOut (Reckon.Session.ending error)
  | .ok shell => Reckon.converse shell
