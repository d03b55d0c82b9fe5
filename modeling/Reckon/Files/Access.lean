/-!
Access to files: what can go wrong with a file, and the three things that the
rest of the library does with files, whatever holds them.
-/

namespace Reckon

/-- Why a file can not be read or written. -/
inductive FileFault where
  | notFound
  | notAFolder
  | isAFolder
  | nameTooLong
  | nulInPath
  | notUtf8
  | other (message : String)
deriving DecidableEq

def FileFault.message : FileFault → String
  | .notFound => "No such file or directory (os error 2)"
  | .notAFolder => "Not a directory (os error 20)"
  | .isAFolder => "Is a directory (os error 21)"
  | .nameTooLong => "File name too long (os error 36)"
  | .nulInPath => "file name contained an unexpected NUL byte"
  | .notUtf8 => "stream did not contain valid UTF-8"
  | .other message => message

/-- A place that holds files: the text of a file can be read, a file can be
written in place of what its path held, and a path can be asked whether anything
is there. -/
class FileAccess (m : Type → Type) where
  read : String → m (Except FileFault String)
  write : String → String → m (Except FileFault Unit)
  isPresent : String → m Bool

end Reckon
