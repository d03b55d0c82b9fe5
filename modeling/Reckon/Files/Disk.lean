import Std.Data.ExtTreeMap
import Reckon.Files.Access

/-!
Disks: trees of folders and files that are held in memory, with paths that are
followed name by name.
-/

namespace Reckon

-- Bytes are compared as in the core library, whatever else is imported.
attribute [local instance (high)] ByteArray.instDecidableEq

inductive DiskEntry where
  | folder
  | file (bytes : ByteArray)
deriving DecidableEq

/-- A tree of folders and files, by the names on the way from its root. The root
itself is a folder. -/
structure Disk where
  entries : Std.ExtTreeMap (List String) DiskEntry
deriving DecidableEq

namespace Disk

def empty : Disk :=
  ⟨∅⟩

def entry? (disk : Disk) (location : List String) : Option DiskEntry :=
  match location with
  | [] => some .folder
  | location => disk.entries[location]?

/-- The disk on which something stands under the names, with all folders on the
way there. -/
def place (disk : Disk) (location : List String) (entry : DiskEntry) : Disk :=
  let folders := (List.range location.length).filterMap fun length =>
    if length = 0 then none else some (location.take length)
  ⟨(folders.foldl (fun entries folder => entries.insert folder .folder) disk.entries).insert
    location entry⟩

def files (disk : Disk) : List (List String × ByteArray) :=
  disk.entries.toList.filterMap fun (location, entry) =>
    match entry with
    | .file bytes => some (location, bytes)
    | .folder => none

/-! ## Paths -/

def pieces : List Char → List (List Char)
  | [] => [[]]
  | character :: rest =>
      if character = '/' then
        [] :: pieces rest
      else
        match pieces rest with
        | [] => [[character]]
        | first :: others => (character :: first) :: others

/-- A path: the names in it, and whether a slash stands at its end. -/
structure Path where
  names : List String
  endsInSlash : Bool
deriving DecidableEq

/-- The path that a text spells. Slashes in a row count as one, and a slash at
the start does not matter. -/
def Path.ofText (text : String) : Path :=
  let parts := pieces text.toList
  ⟨(parts.filter fun part => !part.isEmpty).map String.ofList,
    parts.getLast?.any List.isEmpty⟩

/-- The number of bytes from which a path is too long. -/
def pathLimit : Nat :=
  4096

/-- The number of bytes that a name may have. -/
def nameLimit : Nat :=
  255

/-- The path that a text spells, if the text can be a path at all. -/
def Path.check (text : String) : Except FileFault Path :=
  if text.toList.contains '\x00' then
    .error .nulInPath
  else if text.isEmpty then
    .error .notFound
  else if pathLimit ≤ text.utf8ByteSize then
    .error .nameTooLong
  else
    .ok (Path.ofText text)

/-- Where a name leads from a place, which must be a folder. -/
def enter (disk : Disk) (location : List String) (name : String) :
    Except FileFault (List String) :=
  match disk.entry? location with
  | none => .error .notFound
  | some (.file _) => .error .notAFolder
  | some .folder =>
      if name = "." then
        .ok location
      else if name = ".." then
        .ok location.dropLast
      else if nameLimit < name.utf8ByteSize then
        .error .nameTooLong
      else
        .ok (location ++ [name])

/-- Where names lead from the root. -/
def follow (disk : Disk) (names : List String) : Except FileFault (List String) :=
  names.foldlM disk.enter []

/-- What stands under a path; a slash at the end asks for a folder. -/
def find (disk : Disk) (path : Path) : Except FileFault DiskEntry := do
  let location ← disk.follow path.names
  match disk.entry? location with
  | none => .error .notFound
  | some .folder => .ok .folder
  | some (.file bytes) =>
      if path.endsInSlash then
        .error .notAFolder
      else
        .ok (.file bytes)

/-! ## Reading and writing -/

def read (disk : Disk) (path : String) : Except FileFault String := do
  match ← disk.find (← Path.check path) with
  | .folder => .error .isAFolder
  | .file bytes =>
      match String.fromUTF8? bytes with
      | some text => .ok text
      | none => .error .notUtf8

/-- Where a file under a path is to be written: in a folder that is there, and
not in place of a folder. -/
def target (disk : Disk) (path : Path) : Except FileFault (List String) := do
  match path.names.getLast? with
  | none => .error .isAFolder
  | some name =>
      let folder ← disk.follow path.names.dropLast
      match disk.entry? folder with
      | none => .error .notFound
      | some (.file _) => .error .notAFolder
      | some .folder =>
          if path.endsInSlash || name = "." || name = ".." then
            .error .isAFolder
          else
            let location ← disk.enter folder name
            if disk.entry? location = some .folder then
              .error .isAFolder
            else
              .ok location

/-- The disk with a text in the file under a path. -/
def write (disk : Disk) (path text : String) : Except FileFault Disk := do
  let location ← disk.target (← Path.check path)
  return ⟨disk.entries.insert location (.file text.toUTF8)⟩

def isPresent (disk : Disk) (path : String) : Bool :=
  match (Path.check path).bind disk.find with
  | .ok _ => true
  | .error _ => false

/-- A computation that keeps a disk has access to its files. A write that fails
leaves the disk as it was. -/
instance : FileAccess (StateM Disk) where
  read path := return (← get).read path
  write path text := do
    match (← get).write path text with
    | .ok disk =>
        set disk
        return .ok ()
    | .error fault => return .error fault
  isPresent path := return (← get).isPresent path

end Disk

end Reckon
