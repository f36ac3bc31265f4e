import MonitorBench.CommandLine.Reader
import MonitorBench.Settings.Loader
import MonitorBench.Workflow

/-!
# Carrying out requests

A request is carried out with the settings that are found, refined by its choices, and
only if they are fit for use; otherwise nothing is touched. The first step that fails ends
it. What was printed until then stays printed, and a diagnosis tells what was attempted
and why it failed.
-/

set_option autoImplicit false

namespace MonitorBench

/-- Why a request failed. -/
structure Diagnosis where
  /-- What was attempted. -/
  attempt : Option String := none
  /-- What went wrong. -/
  fault : Fault
  deriving DecidableEq

/-- The name that the program goes by. -/
def programName : String := "patternbench"

/-- The version of the program. -/
def programVersion : String := "0.3.0"

/-- The text of a diagnosis. -/
def Diagnosis.message (diagnosis : Diagnosis) : String :=
  let attempt := match diagnosis.attempt with
    | some attempt => attempt ++ ": "
    | none => ""
  programName ++ ": " ++ attempt ++ diagnosis.fault.chain

/-- The settings that a request is carried out with. Writing default settings takes no choices; the
records that a pipeline writes are read as records. -/
def Request.settings (request : Request) (environment : Environment) (disk : Disk) :
    Except Fault Settings :=
  match Settings.init environment disk request.choices.config with
  | .error fault => .error fault
  | .ok found =>
    let refined := request.choices.refine found
    let fitted := match request.verb with
      | .pipeline => { refined with batch := { refined.batch with inputMode := .records } }
      | _ => refined
    if request.verb = .initConfig then
      .ok found
    else
      fitted.validate.map fun _ => fitted

/-- The paths that a request can touch, other than through the tool. -/
def Request.paths (request : Request) (environment : Environment) : List String :=
  let settingsFiles := request.choices.config.toList ++ environment.configFile.toList
    ++ ((Loader.standard environment).candidates.map fun candidate => candidate.1)
  settingsFiles ++ [request.subject, request.choices.output, request.choices.statistics]

/-- What an execution has done. -/
structure Execution where
  /-- The disk. -/
  disk : Disk
  /-- What was printed. -/
  out : Device := {}

namespace Execution

/-- Prints a text. -/
def say (execution : Execution) (text : String) : Execution :=
  { execution with out := (execution.out.write (Text.bytes text)).1 }

/-- Extracts the records of a corpus into a record file. -/
def translate (settings : ExtractionSettings) (corpus output : String) (execution : Execution) :
    Execution × Option Diagnosis :=
  match Workflow.extractFile settings execution.disk corpus output with
  | (disk, .error fault) =>
    ({ execution with disk }, some ⟨some ("translating " ++ corpus), fault⟩)
  | (disk, .ok summary) =>
    ({ execution with disk }.say
      ("Translated " ++ Text.natural summary.recordsEmitted ++ " properties into " ++ output
        ++ ".\n"), none)

/-- Runs the tool that settings describe over a work list; `machine` gives the tool. -/
def run {σ : Type} (machine : ToolSettings → Tool σ) (tool : σ) (settings : ToolSettings)
    (batch : BatchSettings) (input statistics : String) (execution : Execution) :
    Execution × Option Diagnosis :=
  let begun := execution.say ("Reading LTL formulas from " ++ input ++ ".\n")
  let outcome := Workflow.runFile (machine settings) settings.onFailure batch input statistics
    begun.disk tool begun.out
  let after : Execution := { disk := outcome.state.disk, out := outcome.state.out }
  match outcome.result with
  | .error fault => (after, some ⟨some ("running the tool over " ++ input), fault⟩)
  | .ok _ => (after.say "All formulas processed. Good bye!\n", none)

/-- Writes the default settings. -/
def initConfig (path : String) (execution : Execution) : Execution × Option Diagnosis :=
  match Settings.save {} execution.disk path with
  | (disk, .error fault) => ({ execution with disk }, some ⟨some ("writing " ++ path), fault⟩)
  | (disk, .ok _) =>
    ({ execution with disk }.say ("Default configuration written to " ++ path ++ ".\n"), none)

/-- Carries out a request with settings. -/
def perform {σ : Type} (machine : ToolSettings → Tool σ) (tool : σ) (settings : Settings)
    (request : Request) (execution : Execution) : Execution × Option Diagnosis :=
  let choices := request.choices
  match request.verb with
  | .translate => execution.translate settings.extraction request.subject choices.output
  | .run =>
    execution.run machine tool settings.tool settings.batch request.subject choices.statistics
  | .pipeline =>
    match execution.translate settings.extraction request.subject choices.output with
    | (after, some diagnosis) => (after, some diagnosis)
    | (after, none) =>
      after.run machine tool settings.tool settings.batch choices.output choices.statistics
  | .initConfig => execution.initConfig request.subject

end Execution

/-- Carries out a request. -/
def Request.execute {σ : Type} (machine : ToolSettings → Tool σ) (tool : σ)
    (environment : Environment) (disk : Disk) (request : Request) :
    Execution × Option Diagnosis :=
  match request.settings environment disk with
  | .error fault => ({ disk }, some ⟨none, fault⟩)
  | .ok settings => Execution.perform machine tool settings request { disk }

/-- What an invocation of the program leaves. -/
structure Report where
  /-- The exit code. -/
  exitCode : Nat
  /-- What was printed. -/
  output : Bytes
  /-- The text of the diagnosis, if there is one. -/
  errors : Option String
  /-- The disk. -/
  disk : Disk

/-- How the program is used. -/
def usage : String :=
  "Usage: " ++ programName ++ " [OPTIONS] <translate|run|pipeline|init-config> <PATH>\n"

/-- Answers an invocation with arguments. -/
def respond {σ : Type} (machine : ToolSettings → Tool σ) (tool : σ) (environment : Environment)
    (disk : Disk) (arguments : List String) : Report :=
  match CommandLine.read arguments with
  | .error .misuse => ⟨2, [], some usage, disk⟩
  | .error .help => ⟨0, Text.bytes usage, none, disk⟩
  | .error .version =>
    ⟨0, Text.bytes (programName ++ " " ++ programVersion ++ "\n"), none, disk⟩
  | .ok request =>
    match request.execute machine tool environment disk with
    | (execution, none) => ⟨0, execution.out.taken, none, execution.disk⟩
    | (execution, some diagnosis) =>
      ⟨1, execution.out.taken, some diagnosis.message, execution.disk⟩

end MonitorBench
