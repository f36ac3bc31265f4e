import MonitorBench.Progress
import MonitorBench.Statistics.File
import MonitorBench.Tool.Basic
import MonitorBench.Tool.Settings

/-!
# Running the tool over a work list

A run takes the items of a work list in order. Every item is read from its line; it is
skipped when the statistics hold a finished row of its key that no earlier item has used
up; otherwise its row is started, progress is reported, and the tool is started. A line at
fault, a file that cannot be written, a full progress output, a tool that does not start
and, if the policy says so, a tool that does not exit with zero end the run. What was done
before stays done, and the run tells about it either way.
-/

set_option autoImplicit false

namespace MonitorBench

/-- How a work list is run. -/
structure BatchSettings where
  /-- How many items lie between two progress reports. -/
  progressInterval : UInt64 := 1
  /-- How the lines of the work list are read. -/
  inputMode : InputMode := .records
  /-- What is done with statistics that are there already. -/
  existingStatistics : ExistingStatistics := .append
  /-- Whether items with a finished row are skipped. -/
  resume : Bool := false
  deriving DecidableEq

namespace Batch

/-- One start of the tool. -/
structure Call where
  /-- The formula it was given. -/
  formula : String
  /-- The path of the statistics file it was given. -/
  statistics : String
  /-- What the statistics file held at that moment. -/
  seen : Bytes
  /-- How it ended. -/
  status : ExitStatus
  /-- What the statistics file held when it had ended. -/
  left : Bytes
  deriving DecidableEq

/-- What happened to the items of a finished run. -/
structure Summary where
  /-- How many items there were. -/
  total : Nat
  /-- How many times the tool ran. -/
  invoked : Nat
  /-- How many items had a finished row. -/
  skipped : Nat
  /-- How many times the tool did not exit with zero. -/
  nonzeroExits : Nat
  deriving DecidableEq

/-- What stays the same during a run. -/
structure Plan (σ : Type) where
  /-- The tool. -/
  tool : Tool σ
  /-- What is done when the tool does not exit with zero. -/
  onFailure : FailurePolicy
  /-- The path of the statistics file. -/
  statistics : String
  /-- How the lines are read. -/
  mode : InputMode
  /-- When progress is reported. -/
  progress : ProgressPlan

/-- How far a run has come. -/
structure State (σ : Type) where
  /-- The disk. -/
  disk : Disk
  /-- The state of the tool. -/
  tool : σ
  /-- The progress output. -/
  out : Device
  /-- The keys of finished rows that no item has used up. -/
  finished : List String := []
  /-- The starts of the tool, in order. -/
  calls : List Call := []
  /-- How many items were skipped. -/
  skipped : Nat := 0
  /-- How many times the tool did not exit with zero. -/
  nonzeroExits : Nat := 0

variable {σ : Type}

/-- The state after the tool ran for an item. -/
def State.ran (state : State σ) (call : Call) (tool : σ) (disk : Disk) : State σ :=
  { state with
    disk
    tool
    calls := state.calls ++ [call]
    nonzeroExits := if call.status.isSuccess then state.nonzeroExits else state.nonzeroExits + 1 }

/-- Starts the tool on an item whose row is started. -/
def launch (plan : Plan σ) (item : Item) (state : State σ) : State σ × Option Fault :=
  match plan.tool.start state.tool state.disk item.formula plan.statistics with
  | .failed program reason => (state, some (.toolNotStarted program reason))
  | .ended status tool disk =>
    let call : Call :=
      { formula := item.formula
        statistics := plan.statistics
        seen := Statistics.content state.disk plan.statistics
        status
        left := Statistics.content disk plan.statistics }
    let after := state.ran call tool disk
    if status.isSuccess ∨ plan.onFailure = .ignore then
      (after, none)
    else
      (after, some (.toolFailed item.formula status.code))

/-- Processes an item that has no finished row. -/
def process (plan : Plan σ) (index : Nat) (item : Item) (state : State σ) :
    State σ × Option Fault :=
  match Statistics.startRow state.disk plan.statistics item with
  | .error fault => (state, some (.file fault))
  | .ok disk =>
    match plan.progress.beforeItem state.out index with
    | (out, some fault) => ({ state with disk, out }, some (.file fault))
    | (out, none) => launch plan item { state with disk, out }

/-- Takes the line at an index. -/
def takeLine (plan : Plan σ) (index : Nat) (line : String) (state : State σ) :
    State σ × Option Fault :=
  match Item.parse plan.mode (Text.lineNumber index) line with
  | .error fault => (state, some (.line fault))
  | .ok item =>
    if item.key ∈ state.finished then
      ({ state with
          finished := state.finished.erase item.key
          skipped := state.skipped + 1 }, none)
    else
      process plan index item state

/-- Takes lines in order, from an index on, up to the first fault. -/
def takeLines (plan : Plan σ) : Nat → List String → State σ → State σ × Option Fault
  | _, [], state => (state, none)
  | index, line :: lines, state =>
    match takeLine plan index line state with
    | (after, some fault) => (after, some fault)
    | (after, none) => takeLines plan (index + 1) lines after

/-- What a run leaves: its last state, and its summary or the fault that ended it. -/
structure Outcome (σ : Type) where
  /-- The last state. -/
  state : State σ
  /-- The summary, or why the run ended early. -/
  result : Except Fault Summary

/-- The summary of a run that took every line. -/
def State.summary (state : State σ) (total : Nat) : Summary :=
  { total
    invoked := state.calls.length
    skipped := state.skipped
    nonzeroExits := state.nonzeroExits }

/-- Makes the statistics ready, and finds the keys of the rows that count as finished. -/
def makeReady (settings : BatchSettings) (statistics : String) (mode : InputMode) (disk : Disk) :
    Disk × Except Fault (List String) :=
  match Statistics.prepare disk statistics settings.existingStatistics with
  | .error fault => (disk, .error fault)
  | .ok ready =>
    if settings.resume then
      (ready, (Statistics.finishedIn ready statistics mode).mapError .file)
    else
      (ready, .ok [])

/-- The plan for a work list. -/
def Plan.make (tool : Tool σ) (onFailure : FailurePolicy) (settings : BatchSettings)
    (statistics : String) (list : WorkList) : Plan σ :=
  { tool
    onFailure
    statistics
    mode := list.mode
    progress := ⟨settings.progressInterval, list.total⟩ }

/-- Runs a tool in state `tool` over a work list, and reports progress to `out`. -/
def run (machine : Tool σ) (onFailure : FailurePolicy) (settings : BatchSettings)
    (statistics : String) (list : WorkList) (disk : Disk) (tool : σ) (out : Device) : Outcome σ :=
  match makeReady settings statistics list.mode disk with
  | (disk, .error fault) => ⟨{ disk, tool, out }, .error fault⟩
  | (disk, .ok finished) =>
    let plan := Plan.make machine onFailure settings statistics list
    match takeLines plan 0 list.lines { disk, tool, out, finished } with
    | (state, some fault) => ⟨state, .error fault⟩
    | (state, none) => ⟨state, .ok (state.summary list.total)⟩

end Batch

end MonitorBench
