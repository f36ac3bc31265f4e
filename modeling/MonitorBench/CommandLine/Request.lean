import MonitorBench.Settings.Basic

/-!
# Requests on the command line

A request names what is done, the file that it is done to, and choices that take the
place of settings. Which switches a request may have depends on what is done; the switches
for the settings file and for debugging go with everything.
-/

set_option autoImplicit false

namespace MonitorBench

/-- What a request asks for. -/
inductive Verb where
  /-- Extracts the records of a corpus into a record file. -/
  | translate
  /-- Runs the tool over a work list. -/
  | run
  /-- Extracts the records of a corpus and runs the tool over them. -/
  | pipeline
  /-- Writes the default settings to a file. -/
  | initConfig
  deriving DecidableEq

/-- A switch of the command line. -/
inductive Switch where
  | config
  | debug
  | output
  | headerBinding
  | statistics
  | raw
  | resume
  | onExisting
  | mode
  | abortOnFailure
  | progressEvery
  | help
  | version
  deriving DecidableEq

namespace Switch

/-- The name of a switch, which stands behind two dashes. -/
def name : Switch → String
  | .config => "config"
  | .debug => "debug"
  | .output => "output"
  | .headerBinding => "header-binding"
  | .statistics => "stats"
  | .raw => "raw"
  | .resume => "resume"
  | .onExisting => "on-existing"
  | .mode => "mode"
  | .abortOnFailure => "abort-on-failure"
  | .progressEvery => "progress-every"
  | .help => "help"
  | .version => "version"

/-- The letter of a switch, which stands behind one dash. -/
def letter : Switch → Option Char
  | .config => some 'c'
  | .debug => some 'd'
  | .output => some 'o'
  | .statistics => some 's'
  | .help => some 'h'
  | .version => some 'V'
  | _ => none

/-- Whether a value goes with the switch. -/
def takesValue : Switch → Bool
  | .config => true
  | .output => true
  | .headerBinding => true
  | .statistics => true
  | .onExisting => true
  | .mode => true
  | .progressEvery => true
  | _ => false

/-- The switches that may stand in front of the verb. -/
def leading : List Switch :=
  [.config, .debug, .help, .version]

/-- The switches that may stand behind every verb. -/
def common : List Switch :=
  [.config, .debug, .help]

/-- The switches of an extraction. -/
def ofExtraction : List Switch :=
  [.output, .headerBinding]

/-- The switches of a run. -/
def ofRun : List Switch :=
  [.statistics, .raw, .resume, .onExisting, .mode, .abortOnFailure, .progressEvery]

end Switch

namespace Verb

/-- The word for a verb. -/
def name : Verb → String
  | .translate => "translate"
  | .run => "run"
  | .pipeline => "pipeline"
  | .initConfig => "init-config"

/-- All verbs. -/
def all : List Verb := [.translate, .run, .pipeline, .initConfig]

/-- The verb of a given name. -/
def ofName? (word : String) : Option Verb :=
  all.find? fun verb => verb.name == word

/-- The switches that may stand behind a verb. -/
def switches : Verb → List Switch
  | .translate => Switch.ofExtraction ++ Switch.common
  | .run => Switch.ofRun ++ Switch.common
  | .pipeline => Switch.ofExtraction ++ Switch.ofRun ++ Switch.common
  | .initConfig => Switch.common

end Verb

/-- What the switches of a request choose. -/
structure Choices where
  /-- The settings file. -/
  config : Option String := none
  /-- Whether more is logged. -/
  debug : Bool := false
  /-- The record file that is written. -/
  output : String := "specs.ltl"
  /-- How far a header reaches. -/
  headerBinding : Option HeaderBinding := none
  /-- The statistics file. -/
  statistics : String := "statistics.csv"
  /-- Whether each line of the work list is a formula. -/
  raw : Bool := false
  /-- Whether items with a finished row are skipped. -/
  resume : Bool := false
  /-- What is done with statistics that are there already. -/
  onExisting : Option ExistingStatistics := none
  /-- The analysis mode. -/
  mode : Option AnalysisMode := none
  /-- Whether a run ends when the tool does not exit with zero. -/
  abortOnFailure : Bool := false
  /-- How many items lie between two progress reports. -/
  progressEvery : Option UInt64 := none
  deriving DecidableEq

namespace Choices

/-- A path that is given on the command line; it may not be empty. -/
def path? (text : String) : Option String :=
  if text = "" then none else some text

/-- The choices with that of a switch put in, unless its value is unfit. -/
def set (choices : Choices) (switch : Switch) (value : String) : Option Choices :=
  match switch with
  | .config => (path? value).map fun path => { choices with config := some path }
  | .debug => some { choices with debug := true }
  | .output => (path? value).map fun path => { choices with output := path }
  | .headerBinding =>
    (Keyword.parse value).toOption.map fun binding => { choices with headerBinding := some binding }
  | .statistics => (path? value).map fun path => { choices with statistics := path }
  | .raw => some { choices with raw := true }
  | .resume => some { choices with resume := true }
  | .onExisting =>
    (Keyword.parse value).toOption.map fun policy => { choices with onExisting := some policy }
  | .mode => (Keyword.parse value).toOption.map fun mode => { choices with mode := some mode }
  | .abortOnFailure => some { choices with abortOnFailure := true }
  | .progressEvery =>
    (Text.readDecimal? value.toList).map fun interval =>
      { choices with progressEvery := some interval }
  | .help => none
  | .version => none

/-- The settings with the choices put in. -/
def refine (choices : Choices) (settings : Settings) : Settings :=
  { tool :=
      { settings.tool with
        mode := choices.mode.getD settings.tool.mode
        onFailure := if choices.abortOnFailure then .abort else settings.tool.onFailure }
    extraction :=
      { settings.extraction with
        headerBinding := choices.headerBinding.getD settings.extraction.headerBinding }
    batch :=
      { progressInterval := choices.progressEvery.getD settings.batch.progressInterval
        inputMode := if choices.raw then .raw else settings.batch.inputMode
        existingStatistics := choices.onExisting.getD settings.batch.existingStatistics
        resume := choices.resume || settings.batch.resume } }

end Choices

/-- A request. -/
structure Request where
  /-- What is done. -/
  verb : Verb
  /-- The file that it is done to. -/
  subject : String
  /-- What the switches choose. -/
  choices : Choices := {}
  deriving DecidableEq

end MonitorBench
