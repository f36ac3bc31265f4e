import MonitorBench.CommandLine.Execution
import MonitorBench.Proofs.Settings.Fitness

/-!
# The stages of a request

A request that works on files does so in stages: it extracts the records of a corpus, or it runs
the tool over a work list, or it does the one and then the other. A stage has the settings that it
works with, and no others: `Execution.translate` hands its own to `Workflow.extractFile`, and
`Execution.run` its own to `Workflow.runFile`. Which parts of the settings in use reach them is
said by `stages`, and carrying out a request is carrying out its stages one after the other, up to
the first that fails (`perform_eq_carryOutAll`). Where the settings in use are fit for use, so is
what each stage has of them (`fit_of_mem_stages`).
-/

set_option autoImplicit false

namespace MonitorBench.Request

/-- A stage of a request, with the settings that it works with. -/
inductive Stage where
  /-- The records of a corpus are extracted into a record file. -/
  | extraction (settings : ExtractionSettings) (corpus output : String)
  /-- The tool that settings describe is run over a work list. -/
  | run (settings : ToolSettings) (batch : BatchSettings) (input statistics : String)

/-- The stages of a request that is carried out with settings. -/
def stages (request : Request) (settings : Settings) : List Stage :=
  let choices := request.choices
  let extraction := Stage.extraction settings.extraction request.subject choices.output
  let run (input : String) := Stage.run settings.tool settings.batch input choices.statistics
  match request.verb with
  | .translate => [extraction]
  | .run => [run request.subject]
  | .pipeline => [extraction, run choices.output]
  | .initConfig => []

/-- The settings of a stage meet the conditions that are about them. -/
def Stage.Fit : Stage → Prop
  | .extraction settings _ _ =>
    Text.isBlankText settings.placeholder = false ∧
      Text.holds "tt".toList settings.placeholder.toList = false
  | .run settings batch _ _ =>
    Text.isBlankText settings.program = false ∧ batch.progressInterval ≠ 0

/-- With settings that are fit for use, every stage of a request has settings that are. -/
theorem fit_of_mem_stages {request : Request} {settings : Settings} {stage : Stage}
    (fit : settings.validate = .ok ()) (mem : stage ∈ request.stages settings) : stage.Fit := by
  obtain ⟨program, placeholder, constant, interval⟩ := Settings.validate_eq_ok_iff.mp fit
  have extraction (corpus output : String) :
      (Stage.extraction settings.extraction corpus output).Fit := ⟨placeholder, constant⟩
  have run (input statistics : String) :
      (Stage.run settings.tool settings.batch input statistics).Fit := ⟨program, interval⟩
  rw [stages] at mem
  cases verb : request.verb with
  | translate =>
    rw [verb] at mem
    obtain rfl := List.mem_singleton.mp mem
    exact extraction _ _
  | run =>
    rw [verb] at mem
    obtain rfl := List.mem_singleton.mp mem
    exact run _ _
  | pipeline =>
    rw [verb] at mem
    simp only [List.mem_cons, List.not_mem_nil, or_false] at mem
    rcases mem with rfl | rfl
    · exact extraction _ _
    · exact run _ _
  | initConfig =>
    rw [verb] at mem
    exact absurd mem List.not_mem_nil

section CarryOut

variable {σ : Type} (machine : ToolSettings → Tool σ) (tool : σ)

/-- Carries out a stage. -/
def Stage.carryOut : Stage → Execution → Execution × Option Diagnosis
  | .extraction settings corpus output => Execution.translate settings corpus output
  | .run settings batch input statistics =>
    Execution.run machine tool settings batch input statistics

/-- Carries out stages one after the other, up to the first that fails. -/
def Stage.carryOutAll : List Stage → Execution → Execution × Option Diagnosis
  | [], execution => (execution, none)
  | stage :: later, execution =>
    match stage.carryOut machine tool execution with
    | (after, some diagnosis) => (after, some diagnosis)
    | (after, none) => carryOutAll later after

/-- A stage with none behind it leaves what it leaves by itself. -/
theorem Stage.carryOutAll_singleton (stage : Stage) (execution : Execution) :
    carryOutAll machine tool [stage] execution = stage.carryOut machine tool execution := by
  rw [carryOutAll]
  rcases stage.carryOut machine tool execution with ⟨after, _ | diagnosis⟩
  · rfl
  · rfl

/-- A request that works on files is carried out by its stages. -/
theorem perform_eq_carryOutAll {request : Request} (works : request.verb ≠ .initConfig)
    (settings : Settings) (execution : Execution) :
    Execution.perform machine tool settings request execution =
      Stage.carryOutAll machine tool (request.stages settings) execution := by
  rw [Execution.perform, stages]
  cases verb : request.verb with
  | translate =>
    dsimp only
    rw [Stage.carryOutAll_singleton, Stage.carryOut]
  | run =>
    dsimp only
    rw [Stage.carryOutAll_singleton, Stage.carryOut]
  | pipeline =>
    dsimp only
    rw [Stage.carryOutAll, Stage.carryOut]
    rcases execution.translate settings.extraction request.subject request.choices.output with
      ⟨after, _ | diagnosis⟩
    · let last := Stage.run settings.tool settings.batch request.choices.output
        request.choices.statistics
      exact (last.carryOutAll_singleton machine tool after).symm
    · rfl
  | initConfig => exact absurd verb works

end CarryOut

end MonitorBench.Request
