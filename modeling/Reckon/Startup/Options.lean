import Reckon.Name
import Reckon.Sheet.Basic
import Reckon.Text.Casing

/-!
Options: what the arguments of the program and its environment say about the
sheet to open. An argument wins over the environment, and the environment over
the default.
-/

namespace Reckon

/-- How names are brought to their canonical form. -/
inductive Normalization where
  | none
  | upper
deriving DecidableEq

namespace Normalization

def word : Normalization → String
  | .none => "none"
  | .upper => "upper"

def ofWord? : String → Option Normalization
  | "none" => some .none
  | "upper" => some .upper
  | _ => Option.none

/-- The rules for names: all of them are accepted, as they are or in upper
case. -/
def rules : Normalization → NameRules
  | .none => .free
  | .upper => ⟨Text.upper, fun _ => true⟩

end Normalization

/-- What the user wants the program to work with. -/
structure Options where
  file : Option String
  version : String
  normalization : Normalization
  log : String
deriving DecidableEq

/-- Why the program does not start with the options that were asked for. -/
inductive OptionsError where
  | invalidValue
  | unneededValue
  | unknownArgument
  | repeatedOption
  | helpWanted
  | versionWanted
deriving DecidableEq

inductive Setting where
  | file
  | version
  | normalization
  | log
deriving DecidableEq

namespace Setting

def ofLongName? (name : List Char) : Option Setting :=
  match String.ofList name with
  | "file" => some .file
  | "sheet-version" => some .version
  | "normalize" => some .normalization
  | "log" => some .log
  | _ => none

def environmentName : Setting → String
  | .file => "SHEETFLOW_FILE"
  | .version => "SHEETFLOW_VERSION"
  | .normalization => "SHEETFLOW_NORMALIZE"
  | .log => "SHEETFLOW_LOG"

/-- Whether a setting can have a value: a path is not empty, and a normalization
is one of the known words. -/
def admits (setting : Setting) (value : String) : Bool :=
  match setting with
  | .file => !value.isEmpty
  | .normalization => (Normalization.ofWord? value).isSome
  | _ => true

end Setting

namespace Options

/-- The values that were set, each setting at most once. -/
abbrev Values := List (Setting × String)

/-- What the arguments read so far say: the values set, and the latest option
that is not settled, with its value where that has come. -/
structure Reading where
  settled : Values
  pending : Option (Setting × Option String)

namespace Reading

/-- One more value is settled. It must be there, its setting must not have one
yet, and the setting must admit it; what fails first is reported. -/
def settle (settled : Values) (setting : Setting) (value : Option String) :
    Except OptionsError Values :=
  match value with
  | none => .error .invalidValue
  | some value =>
      if (settled.lookup setting).isSome then
        .error .repeatedOption
      else if setting.admits value then
        .ok ((setting, value) :: settled)
      else
        .error .invalidValue

/-- The values set, once the latest option is settled as well. -/
def resolve (reading : Reading) : Except OptionsError Values :=
  match reading.pending with
  | none => .ok reading.settled
  | some (setting, value) => settle reading.settled setting value

/-- An option begins: what was pending is settled, and so is the new option if
its value came with it. -/
def begin (reading : Reading) (setting : Setting) (value : Option String) :
    Except OptionsError Reading := do
  let settled ← reading.resolve
  match value with
  | none => return ⟨settled, some (setting, none)⟩
  | some value => return ⟨← settle settled setting (some value), none⟩

/-- A request that ends the reading, once what was pending is settled. -/
def request (reading : Reading) (wanted : OptionsError) :
    Except OptionsError Reading := do
  let _ ← reading.resolve
  .error wanted

/-- A long option that ends the reading and has no value. -/
def flag (reading : Reading) (value : Option String) (wanted : OptionsError) :
    Except OptionsError Reading :=
  if value.isSome then
    .error .unneededValue
  else
    reading.request wanted

/-- An argument that begins with two hyphens: a name, and after an equals sign a
value. -/
def long (reading : Reading) (argument : List Char) :
    Except OptionsError Reading :=
  let name := argument.takeWhile fun character => character ≠ '='
  let value :=
    match argument.dropWhile fun character => character ≠ '=' with
    | [] => none
    | _ :: rest => some (String.ofList rest)
  match Setting.ofLongName? name with
  | some setting => reading.begin setting value
  | none =>
      if name = "help".toList then
        reading.flag value .helpWanted
      else if name = "version".toList then
        reading.flag value .versionWanted
      else
        .error .unknownArgument

/-- The value that stands directly after the letter of an option, with or without
an equals sign between them. -/
def attached : List Char → Option String
  | [] => none
  | '=' :: rest => some (String.ofList rest)
  | rest => some (String.ofList rest)

/-- An argument that begins with one hyphen: a letter, and perhaps a value. -/
def short (reading : Reading) (argument : List Char) :
    Except OptionsError Reading :=
  match argument with
  | 'f' :: rest => reading.begin .file (attached rest)
  | 'h' :: _ => reading.request .helpWanted
  | 'V' :: _ => reading.request .versionWanted
  | _ => .error .unknownArgument

/-- An argument that is no option: the value for which an option waits. -/
def plain (reading : Reading) (argument : List Char) :
    Except OptionsError Reading :=
  match reading.pending with
  | some (setting, none) =>
      .ok ⟨reading.settled, some (setting, some (String.ofList argument))⟩
  | _ => .error .unknownArgument

/-- The values that arguments set. After two hyphens alone nothing may come. -/
def arguments (reading : Reading) : List (List Char) → Except OptionsError Values
  | [] => reading.resolve
  | ['-', '-'] :: [] => reading.resolve
  | ['-', '-'] :: _ => .error .unknownArgument
  | ('-' :: '-' :: argument) :: rest => do
      arguments (← reading.long argument) rest
  | ['-'] :: rest => do
      arguments (← reading.plain ['-']) rest
  | ('-' :: argument) :: rest => do
      arguments (← reading.short argument) rest
  | argument :: rest => do
      arguments (← reading.plain argument) rest

end Reading

/-- The value of a setting, from the arguments or else the environment. -/
def valueOf (settled : Values) (environment : String → Option String)
    (setting : Setting) : Except OptionsError (Option String) :=
  match settled.lookup setting with
  | some value => .ok (some value)
  | none =>
      match environment setting.environmentName with
      | none => .ok none
      | some value =>
          if setting.admits value then
            .ok (some value)
          else
            .error .invalidValue

def defaultLog : String :=
  "warn"

def read (arguments : List String) (environment : String → Option String) :
    Except OptionsError Options := do
  let settled ← Reading.arguments ⟨[], none⟩ (arguments.map String.toList)
  let file ← valueOf settled environment .file
  let version ← valueOf settled environment .version
  let normalization ← valueOf settled environment .normalization
  let log ← valueOf settled environment .log
  return ⟨file, version.getD Sheet.defaultVersion,
    (normalization.bind Normalization.ofWord?).getD .none, log.getD defaultLog⟩

end Options

end Reckon
