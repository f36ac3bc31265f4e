import Mathlib.Data.List.Basic
import MonitorBench.Proofs.CommandLine.Stages
import MonitorBench.Proofs.Settings.Loading
import MonitorBench.Tool.Planned

/-!
# The settings that requests are carried out with

A request is answered in one of four ways (`Answered`): there are no settings for it, its own
choices make the settings unfit, it is carried out, or it only writes the defaults. The settings
that were found are fit for use, and of the choices only a progress interval of zero can make them
unfit again (`inUse_validate`). Where a request is refused nothing is touched and no tool is
started; where it is carried out, its stages have their parts of the settings in use and no other
settings. `settings_in_use_fit` puts this together with the settings for a run.
-/

set_option autoImplicit false

namespace MonitorBench

/-- The settings for a request when `found` are those that were found: its choices are put in, and a
pipeline reads records whatever is chosen. -/
def Request.inUse (request : Request) (found : Settings) : Settings :=
  let refined := request.choices.refine found
  match request.verb with
  | .pipeline => { refined with batch := { refined.batch with inputMode := .records } }
  | _ => refined

section InUse

variable (request : Request) (found : Settings)

/-- No choice sets the program. -/
theorem Request.inUse_program : (request.inUse found).tool.program = found.tool.program := by
  rw [inUse]
  cases request.verb <;> rfl

/-- No choice sets the placeholder. -/
theorem Request.inUse_placeholder :
    (request.inUse found).extraction.placeholder = found.extraction.placeholder := by
  rw [inUse]
  cases request.verb <;> rfl

/-- The progress interval is the chosen one, if one was chosen. -/
theorem Request.inUse_progressInterval : (request.inUse found).batch.progressInterval =
    request.choices.progressEvery.getD found.batch.progressInterval := by
  rw [inUse]
  cases request.verb <;> rfl

/-- Choices make fit settings unfit exactly when they set the progress interval to zero. -/
theorem Request.inUse_validate {found : Settings} (fit : found.validate = .ok ()) :
    (request.inUse found).validate =
      if request.choices.progressEvery = some 0 then .error Settings.Flaw.zeroInterval.fault
      else .ok () := by
  obtain ⟨program, placeholder, constant, interval⟩ := Settings.validate_eq_ok_iff.mp fit
  by_cases zero : request.choices.progressEvery = some 0
  · have flaw : (request.inUse found).flaw? = some .zeroInterval := by
      rw [Settings.flaw?, inUse_program, inUse_placeholder, inUse_progressInterval, program,
        placeholder, constant, zero]
      rfl
    rw [if_pos zero, Settings.validate, flaw]
  · rw [if_neg zero, Settings.validate_eq_ok_iff, inUse_program, inUse_placeholder,
      inUse_progressInterval]
    refine ⟨program, placeholder, constant, ?_⟩
    cases chosen : request.choices.progressEvery with
    | none => exact interval
    | some every =>
      rintro rfl
      exact zero chosen

end InUse

/-- The report on an execution. -/
def Report.ofExecution : Execution × Option Diagnosis → Report
  | (execution, none) => ⟨0, execution.out.taken, none, execution.disk⟩
  | (execution, some diagnosis) => ⟨1, execution.out.taken, some diagnosis.message, execution.disk⟩

/-- The report on a request for which nothing was done. -/
def Report.refused (fault : Fault) (disk : Disk) : Report :=
  ⟨1, [], some (Diagnosis.mk none fault).message, disk⟩

section Answers

variable {σ : Type} (machine : ToolSettings → Tool σ) (tool : σ) (environment : Environment)
  (disk : Disk)

/-- The report on stages that are carried out on a disk. -/
def Report.ofStages (stages : List Request.Stage) : Report :=
  .ofExecution (Request.Stage.carryOutAll machine tool stages { disk })

/-- How arguments are answered. -/
inductive Answered (arguments : List String) : Report → Prop where
  /-- They amount to no request, and nothing is done. -/
  | unread {refusal : Refusal} {exitCode : Nat} {output : Bytes} {errors : Option String}
      (read : CommandLine.read arguments = .error refusal) :
      Answered arguments ⟨exitCode, output, errors, disk⟩
  /-- There are no settings, because a file was named that does not hold any. -/
  | unloaded {request : Request} {fault : Fault}
      (read : CommandLine.read arguments = .ok request)
      (lacking : Settings.init environment disk request.choices.config = .error fault)
      (named : (request.choices.config.or environment.configFile).isSome = true) :
      Answered arguments (.refused fault disk)
  /-- The choices of the request make the settings unfit. -/
  | unfit {request : Request} {found : Settings} {fault : Fault}
      (read : CommandLine.read arguments = .ok request)
      (loaded : Settings.init environment disk request.choices.config = .ok found)
      (works : request.verb ≠ .initConfig)
      (rejected : (request.inUse found).validate = .error fault)
      (zero : request.choices.progressEvery = some 0) :
      Answered arguments (.refused fault disk)
  /-- The stages of the request are carried out, with settings that are fit for use as a whole, and
  so in the parts that reach the stages. -/
  | worked {request : Request} {found : Settings}
      (read : CommandLine.read arguments = .ok request)
      (loaded : Settings.init environment disk request.choices.config = .ok found)
      (works : request.verb ≠ .initConfig)
      (fit : (request.inUse found).validate = .ok ())
      (interval : request.choices.progressEvery ≠ some 0)
      (reached : ∀ stage ∈ request.stages (request.inUse found), stage.Fit) :
      Answered arguments (.ofStages machine tool disk (request.stages (request.inUse found)))
  /-- The default settings are written. -/
  | defaults {request : Request} {found : Settings}
      (read : CommandLine.read arguments = .ok request)
      (loaded : Settings.init environment disk request.choices.config = .ok found)
      (writes : request.verb = .initConfig) :
      Answered arguments (.ofExecution (Execution.initConfig request.subject { disk }))

/-- A request is carried out with the settings in use if these are fit; the defaults are written
whatever was found. -/
theorem Request.settings_of_init {request : Request} {found : Settings}
    (loaded : Settings.init environment disk request.choices.config = .ok found) :
    request.settings environment disk =
      if request.verb = .initConfig then .ok found
      else (request.inUse found).validate.map fun _ => request.inUse found := by
  rw [settings, loaded]
  rfl

/-- A request without settings is refused. -/
theorem respond_refused {arguments : List String} {request : Request} {fault : Fault}
    (read : CommandLine.read arguments = .ok request)
    (lacking : request.settings environment disk = .error fault) :
    respond machine tool environment disk arguments = .refused fault disk := by
  simp only [respond, read, Request.execute, lacking]
  rfl

/-- A request with settings is carried out with them. -/
theorem respond_performed {arguments : List String} {request : Request} {settings : Settings}
    (read : CommandLine.read arguments = .ok request)
    (given : request.settings environment disk = .ok settings) :
    respond machine tool environment disk arguments =
      .ofExecution (Execution.perform machine tool settings request { disk }) := by
  simp only [respond, read, Request.execute, given]
  rcases Execution.perform machine tool settings request { disk } with ⟨execution, _ | diagnosis⟩
  · rfl
  · rfl

/-- Arguments are answered in one of these ways. -/
theorem respond_cases (arguments : List String) :
    Answered machine tool environment disk arguments
      (respond machine tool environment disk arguments) := by
  cases read : CommandLine.read arguments with
  | error refusal =>
    rw [respond, read]
    cases refusal with
    | misuse => exact .unread read
    | help => exact .unread read
    | version => exact .unread read
  | ok request =>
    have init := Settings.init_cases environment disk request.choices.config
    cases loaded : Settings.init environment disk request.choices.config with
    | error fault =>
      rw [loaded] at init
      have lacking : request.settings environment disk = .error fault := by
        simp only [Request.settings, loaded]
      rw [respond_refused machine tool environment disk read lacking]
      exact .unloaded read loaded init
    | ok found =>
      rw [loaded] at init
      have given := Request.settings_of_init environment disk loaded
      by_cases writes : request.verb = .initConfig
      · rw [if_pos writes] at given
        rw [respond_performed machine tool environment disk read given, Execution.perform, writes]
        exact .defaults read loaded writes
      · -- what was found is fit, so only an interval of zero among the choices can be refused
        rw [if_neg writes] at given
        have verdict := request.inUse_validate init
        by_cases zero : request.choices.progressEvery = some 0
        · rw [if_pos zero] at verdict
          rw [verdict] at given
          rw [respond_refused machine tool environment disk read given]
          exact .unfit read loaded writes verdict zero
        · rw [if_neg zero] at verdict
          rw [verdict] at given
          rw [respond_performed machine tool environment disk read given,
            Request.perform_eq_carryOutAll machine tool writes]
          exact .worked read loaded writes verdict zero fun _ =>
            Request.fit_of_mem_stages verdict

/-- Where settings are found for a request that works on files, their fitness with its choices
decides whether it is refused or its stages are carried out. -/
theorem Answered.eq_of_found {arguments : List String} {report : Report} {request : Request}
    {found : Settings} (answered : Answered machine tool environment disk arguments report)
    (read : CommandLine.read arguments = .ok request)
    (loaded : Settings.init environment disk request.choices.config = .ok found)
    (works : request.verb ≠ .initConfig) :
    report = match (request.inUse found).validate with
      | .error fault => .refused fault disk
      | .ok _ => .ofStages machine tool disk (request.stages (request.inUse found)) := by
  cases answered with
  | unread unread =>
    rw [read] at unread
    cases unread
  | unloaded same lacking =>
    obtain rfl := Except.ok.inj (read.symm.trans same)
    rw [loaded] at lacking
    cases lacking
  | unfit same again _ rejected =>
    obtain rfl := Except.ok.inj (read.symm.trans same)
    obtain rfl := Except.ok.inj (loaded.symm.trans again)
    rw [rejected]
  | worked same again _ fit =>
    obtain rfl := Except.ok.inj (read.symm.trans same)
    obtain rfl := Except.ok.inj (loaded.symm.trans again)
    rw [fit]
  | defaults same _ writes =>
    obtain rfl := Except.ok.inj (read.symm.trans same)
    exact absurd writes works

/-- All settings in use are fit for use, whatever the environment and the files are. The settings
for a run are fit, and a fault is possible only where a file was named; and however arguments are
answered, what they ask for is carried out only with fit settings, its own choices included, of
which the extraction and the run get their parts, while a request whose settings are rejected is
refused with exit code 1, and leaves every file as it was whatever tool could have been started. -/
theorem settings_in_use_fit :
    (∀ path, match Settings.init environment disk path with
      | .ok settings => settings.validate = .ok ()
      | .error _ => (path.or environment.configFile).isSome = true) ∧
    ∀ arguments, Answered machine tool environment disk arguments
      (respond machine tool environment disk arguments) :=
  ⟨Settings.init_cases environment disk, respond_cases machine tool environment disk⟩

/-- A file that the environment names sets the program. With a progress interval of zero the request
is refused and the files stay as they are; with another one, the run gets that interval and the
policy that were chosen, and the program from the file. -/
theorem settings_in_use_fit_progress_interval :
    let machine (_ : ToolSettings) := (ToolPlan.mk [] (.append "1\n" (.exited 0))).tool
    let environment : Environment := ⟨[("PATTERNBENCH_CONFIG", "b.toml")], none, none⟩
    let disk : Disk :=
      ⟨[(["b.toml"], .file (Text.bytes "[tool]\nprogram = \"t\"\n")),
        (["c"], .file (Text.bytes "G p\n"))], [], []⟩
    let answer := respond machine [] environment disk
    let begin : List String := ["run", "c", "--raw", "--abort-on-failure", "--progress-every"]
    answer (begin ++ ["0"]) = .refused Settings.Flaw.zeroInterval.fault disk ∧
      answer (begin ++ ["2"]) = .ofStages machine [] disk
        [.run { program := "t", onFailure := .abort } { progressInterval := 2, inputMode := .raw }
          "c" "statistics.csv"] := by
  intro machine environment disk answer begin
  let request (every : UInt64) : Request :=
    ⟨.run, "c", { raw := true, abortOnFailure := true, progressEvery := some every }⟩
  have read_zero : CommandLine.read (begin ++ ["0"]) = .ok (request 0) := by decide +kernel
  have read_two : CommandLine.read (begin ++ ["2"]) = .ok (request 2) := by decide +kernel
  let found : Settings := { tool := { program := "t" } }
  have loaded : Settings.init environment disk none = .ok found := by decide +kernel
  have unfit : ((request 0).inUse found).validate = .error Settings.Flaw.zeroInterval.fault := by
    decide +kernel
  have fit : ((request 2).inUse found).validate = .ok () := by decide +kernel
  obtain ⟨-, answered⟩ := settings_in_use_fit machine [] environment disk
  have zero := (answered _).eq_of_found machine [] environment disk read_zero loaded (by decide)
  have two := (answered _).eq_of_found machine [] environment disk read_two loaded (by decide)
  rw [unfit] at zero
  rw [fit] at two
  exact ⟨zero, two⟩

end Answers

end MonitorBench
