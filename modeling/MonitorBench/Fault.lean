import MonitorBench.Text.Decimal

/-!
# What can go wrong

Faults are causes, each with the data that its text mentions. A line of input can be
malformed, a file can be out of reach, the tool can fail, and settings can be missing,
unreadable or unfit. The wording of every cause stands in `message`; `source` is the
deeper cause that a fault wraps, and `chain` the text of both.
-/

set_option autoImplicit false

namespace MonitorBench

/-- A field of a record line that may not be empty. -/
inductive RecordField where
  | pattern
  | formula
  deriving DecidableEq

/-- The name of the field in messages. -/
def RecordField.name : RecordField → String
  | .pattern => "pattern"
  | .formula => "formula"

/-- Why a line of a corpus or of a work list is refused. -/
inductive LineFault where
  /-- A property that no header governs. -/
  | propertyWithoutHeader (line : UInt64)
  /-- A record line that has not exactly three fields. -/
  | fieldCount (line : UInt64) (found : Nat)
  /-- A record line with a blank field. -/
  | emptyField (line : UInt64) (field : RecordField)
  /-- A record line whose second field is no number of 64 bits. -/
  | badLineNumber (line : UInt64) (value : String)
  /-- A work list line without a formula. -/
  | emptyFormula (line : UInt64)
  deriving DecidableEq

/-- The wording of a line fault. -/
def LineFault.message : LineFault → String
  | .propertyWithoutHeader line =>
    "property on line " ++ Text.decimal line ++ " has no active pattern header"
  | .fieldCount line found =>
    "line " ++ Text.decimal line ++ ": expected 3 comma-separated fields, found " ++ Text.natural found
  | .emptyField line field =>
    "line " ++ Text.decimal line ++ ": field '" ++ field.name ++ "' is empty"
  | .badLineNumber line value =>
    "line " ++ Text.decimal line ++ ": '" ++ value ++ "' is not a valid source line number"
  | .emptyFormula line => "line " ++ Text.decimal line ++ ": formula is empty"

/-- Why a file or an output device cannot be used. -/
inductive FileFault where
  /-- Nothing is there. -/
  | notFound
  /-- A directory is there, and a file is needed. -/
  | isDirectory
  /-- A file is there, and a directory is needed. -/
  | notDirectory
  /-- Something is there, and it may not be replaced. -/
  | alreadyExists
  /-- The content is not UTF-8 text. -/
  | notText
  /-- The device takes no more bytes. -/
  | deviceFull
  /-- The path holds a character that no path may hold. -/
  | invalidPath
  /-- A name in the path is too long. -/
  | nameTooLong
  /-- A cause given by its own text. -/
  | other (reason : String)
  deriving DecidableEq

/-- The wording of a file fault. -/
def FileFault.message : FileFault → String
  | .notFound => "No such file or directory (os error 2)"
  | .isDirectory => "Is a directory (os error 21)"
  | .notDirectory => "Not a directory (os error 20)"
  | .alreadyExists => "File exists (os error 17)"
  | .notText => "stream did not contain valid UTF-8"
  | .deviceFull => "No space left on device (os error 28)"
  | .invalidPath => "file name contained an unexpected NUL byte"
  | .nameTooLong => "File name too long (os error 36)"
  | .other reason => reason

/-- Why an operation of the bench fails. -/
inductive Fault where
  /-- A line of input is malformed. -/
  | line (fault : LineFault)
  /-- The tool could not be started. -/
  | toolNotStarted (program reason : String)
  /-- The tool did not exit with zero; no code means that a signal ended it. -/
  | toolFailed (formula : String) (code : Option Int)
  /-- There are statistics already, and they may not be touched. -/
  | statisticsExist (path : String)
  /-- A settings file cannot be read. -/
  | settingsUnreadable (path reason : String)
  /-- There is no settings file. -/
  | settingsMissing (path : String)
  /-- A setting has a value that the bench cannot work with. -/
  | settingsRejected (field reason : String)
  /-- Settings cannot be written in a format. -/
  | settingsUnwritable (format reason : String)
  /-- A settings file does not follow its format. -/
  | settingsMalformed (format reason : String)
  /-- A file or device cannot be used. -/
  | file (fault : FileFault)
  /-- A JSON text cannot be read or written. -/
  | json (reason : String)
  /-- A TOML text cannot be read. -/
  | toml (reason : String)
  deriving DecidableEq

namespace Fault

/-- Whether malformed input is the cause, and not the surroundings. -/
def isLineFault : Fault → Bool
  | .line _ => true
  | _ => false

/-- The wording of a fault. -/
def message : Fault → String
  | .line fault => "Invalid input format: " ++ fault.message
  | .toolNotStarted program reason =>
    "Failed to start external tool '" ++ program ++ "': " ++ reason
  | .toolFailed formula (some code) =>
    "External tool exited with code " ++ Text.integer code ++ " for formula '" ++ formula ++ "'"
  | .toolFailed formula none =>
    "External tool was terminated by a signal for formula '" ++ formula ++ "'"
  | .statisticsExist path => "Statistics file '" ++ path ++ "' already exists"
  | .settingsUnreadable path reason => "Failed to load config from '" ++ path ++ "': " ++ reason
  | .settingsMissing path => "Configuration file '" ++ path ++ "' not found"
  | .settingsRejected field reason =>
    "Configuration validation failed for '" ++ field ++ "': " ++ reason
  | .settingsUnwritable format reason =>
    "Failed to serialize config as " ++ format ++ ": " ++ reason
  | .settingsMalformed format reason => "Failed to parse " ++ format ++ " config: " ++ reason
  | .file fault => "I/O error: " ++ fault.message
  | .json reason => "Serialization error: " ++ reason
  | .toml reason => "TOML parsing error: " ++ reason

/-- The text of the cause that a fault wraps. -/
def source : Fault → Option String
  | .line fault => some fault.message
  | .file fault => some fault.message
  | .json reason => some reason
  | .toml reason => some reason
  | _ => none

/-- The text of a fault followed by the text of the cause it wraps. -/
def chain (fault : Fault) : String :=
  match fault.source with
  | some reason => fault.message ++ ": " ++ reason
  | none => fault.message

end Fault

end MonitorBench
