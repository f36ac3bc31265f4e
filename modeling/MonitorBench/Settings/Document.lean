import MonitorBench.Settings.Basic
import MonitorBench.Settings.Format

/-!
# Settings as documents

The document of settings is a table of three tables, one for each section. A section or a
field that is not there has its default, and fields of other names do not matter. A
section may also be a list of its fields in order, of which the last may be missing, or a
date or time, which leaves all of them out. A choice is a text, or a table whose one field
is named for it and holds nothing.
-/

set_option autoImplicit false

namespace MonitorBench.Settings

open MonitorBench.Document (Value)

/-- The values of named fields, in the order of the names. -/
abbrev Found := List (Option Value)

/-- The fields of a section by name, where fields of other names do not matter: in JSON no name may
be there twice, and in TOML the numbers in the others have to be storable. -/
def namedFields (format : SettingsFormat) (names : List String) (fields : List (String × Value)) :
    Except Document.Fault Found :=
  let found := names.map fun name => fields.lookup name
  match format with
  | .json =>
    match names.find? fun name => 1 < fields.countP fun field => field.1 == name with
    | some name => .error (.repeated name)
    | none => .ok found
  | .toml =>
    match fields.find? fun (name, value) => !names.contains name && !Document.Toml.isSound value with
    | some (name, _) => .error (.unfit name)
    | none => .ok found

/-- The fields of a section in order; JSON refuses more values than there are fields. -/
def listedFields (format : SettingsFormat) (place : String) (names : List String)
    (items : List Value) : Except Document.Fault Found :=
  if format = .json ∧ names.length < items.length then
    .error (.unfit place)
  else
    .ok ((List.range names.length).map fun index => items[index]?)

/-- The fields of a section; a date or a time has none. -/
def fieldsOf (format : SettingsFormat) (place : String) (names : List String) :
    Value → Except Document.Fault Found
  | .table fields => namedFields format names fields
  | .list items => listedFields format place names items
  | .moment _ => namedFields format names []
  | _ => .error (.unfit place)

/-- A field that was found, read by `read`, or the default. -/
def fieldOr {α : Type} (default : α) (read : Value → Except Document.Fault α) :
    Option Value → Except Document.Fault α
  | none => .ok default
  | some value => read value

/-- Reads a text. -/
def readText (place : String) : Value → Except Document.Fault String
  | .text s => .ok s
  | _ => .error (.unfit place)

/-- Reads a text that may be nothing. -/
def readOptional (place : String) : Value → Except Document.Fault (Option String)
  | .null => .ok none
  | .text s => .ok (some s)
  | _ => .error (.unfit place)

/-- Reads a list of texts. -/
def readTexts (place : String) : Value → Except Document.Fault (List String)
  | .list items => items.mapM (readText place)
  | _ => .error (.unfit place)

/-- Reads a truth value. -/
def readBool (place : String) : Value → Except Document.Fault Bool
  | .bool b => .ok b
  | _ => .error (.unfit place)

/-- Reads an integer of 64 bits without a sign. -/
def readWord (place : String) : Value → Except Document.Fault UInt64
  | .integer n => if 0 ≤ n ∧ n < UInt64.size then .ok (UInt64.ofNat n.toNat) else .error (.unfit place)
  | _ => .error (.unfit place)

/-- Whether a value can stand behind a choice that is written as a table. -/
def isHollow : SettingsFormat → Value → Bool
  | .json, .null => true
  | .toml, .list items => items.isEmpty
  | .toml, .table fields => fields.isEmpty
  | _, _ => false

/-- Reads a choice. -/
def readChoice {α : Type} [Keyword α] (format : SettingsFormat) (place : String) (value : Value) :
    Except Document.Fault α :=
  let word? := match value with
    | .text word => some word
    | .table [(word, hollow)] => if isHollow format hollow then some word else none
    | _ => none
  match word?.bind Keyword.ofName? with
  | some choice => .ok choice
  | none => .error (.unfit place)

/-- Reads the section of the tool. -/
def readTool (format : SettingsFormat) (value : Value) : Except Document.Fault ToolSettings := do
  let default : ToolSettings := {}
  match ← fieldsOf format "tool" ["program", "args", "mode", "working_directory", "on_failure"] value with
  | [program, args, mode, workingDirectory, onFailure] =>
    return {
      program := ← fieldOr default.program (readText "program") program
      args := ← fieldOr default.args (readTexts "args") args
      mode := ← fieldOr default.mode (readChoice format "mode") mode
      workingDirectory :=
        ← fieldOr default.workingDirectory (readOptional "working_directory") workingDirectory
      onFailure := ← fieldOr default.onFailure (readChoice format "on_failure") onFailure }
  | _ => throw (.unfit "tool")

/-- Reads the section of the extraction. -/
def readExtraction (format : SettingsFormat) (value : Value) :
    Except Document.Fault ExtractionSettings := do
  let default : ExtractionSettings := {}
  match ← fieldsOf format "translator" ["format", "header_binding", "tt_placeholder"] value with
  | [corpusFormat, headerBinding, placeholder] =>
    return {
      format := ← fieldOr default.format (readChoice format "format") corpusFormat
      headerBinding :=
        ← fieldOr default.headerBinding (readChoice format "header_binding") headerBinding
      placeholder := ← fieldOr default.placeholder (readText "tt_placeholder") placeholder }
  | _ => throw (.unfit "translator")

/-- Reads the section of the batch. -/
def readBatch (format : SettingsFormat) (value : Value) : Except Document.Fault BatchSettings := do
  let default : BatchSettings := {}
  match ← fieldsOf format "driver" ["progress_interval", "input_mode", "existing_stats", "resume"] value with
  | [progressInterval, inputMode, existingStatistics, resume] =>
    return {
      progressInterval :=
        ← fieldOr default.progressInterval (readWord "progress_interval") progressInterval
      inputMode := ← fieldOr default.inputMode (readChoice format "input_mode") inputMode
      existingStatistics :=
        ← fieldOr default.existingStatistics (readChoice format "existing_stats") existingStatistics
      resume := ← fieldOr default.resume (readBool "resume") resume }
  | _ => throw (.unfit "driver")

/-- The settings that a document holds. -/
def ofDocument (format : SettingsFormat) (value : Value) : Except Document.Fault Settings := do
  match ← fieldsOf format "document" ["tool", "translator", "driver"] value with
  | [tool, extraction, batch] =>
    return {
      tool := ← fieldOr {} (readTool format) tool
      extraction := ← fieldOr {} (readExtraction format) extraction
      batch := ← fieldOr {} (readBatch format) batch }
  | _ => throw (.unfit "document")

/-- The fields of the tool's section. -/
def toolFields (settings : ToolSettings) : List (String × Value) :=
  [("program", .text settings.program),
    ("args", .list (settings.args.map .text)),
    ("mode", .text (Keyword.name settings.mode)),
    ("working_directory", match settings.workingDirectory with
      | some path => .text path
      | none => .null),
    ("on_failure", .text (Keyword.name settings.onFailure))]

/-- The fields of the extraction's section. -/
def extractionFields (settings : ExtractionSettings) : List (String × Value) :=
  [("format", .text (Keyword.name settings.format)),
    ("header_binding", .text (Keyword.name settings.headerBinding)),
    ("tt_placeholder", .text settings.placeholder)]

/-- The fields of the batch's section. -/
def batchFields (settings : BatchSettings) : List (String × Value) :=
  [("progress_interval", .integer settings.progressInterval.toNat),
    ("input_mode", .text (Keyword.name settings.inputMode)),
    ("existing_stats", .text (Keyword.name settings.existingStatistics)),
    ("resume", .bool settings.resume)]

/-- The document that holds settings. -/
def toDocument (settings : Settings) : Value :=
  .table
    [("tool", .table (toolFields settings.tool)),
      ("translator", .table (extractionFields settings.extraction)),
      ("driver", .table (batchFields settings.batch))]

/-- The settings that a text in a format holds. -/
def parse (format : SettingsFormat) (text : String) (library : Library := .own) :
    Except Document.Fault Settings :=
  library.read format text >>= ofDocument format

/-- The text of settings in a format. -/
def print (format : SettingsFormat) (settings : Settings) (library : Library := .own) : String :=
  library.print format settings.toDocument

end MonitorBench.Settings
