import MonitorBench.Batch.Run
import MonitorBench.Proofs.Statistics.File

/-!
# What a run does at a line

A line either lets the run go on or stops it. `Passes` says the two ways of going on: the item
has a finished row and is skipped, or its row is started, progress is reported, and the tool is
started and ends. `Stops` says the five reasons to stop, each with the state it leaves.
`takeLine_cases` and its converse `Taken.eq` are the only places where `takeLine` is unfolded.

`Course plan start done state` then says that a run from `start` gets past the lines `done` and
is in `state`; an invariant of runs is proved by induction over it, one case per way of going
on. `run_finish` is how a whole run ends: past its last line, or at a line that stops it.
-/

set_option autoImplicit false

namespace MonitorBench.Batch

variable {σ : Type}

/-- The row of an item is started: the statistics file then ends in the start of the row, on a line
of its own. -/
structure RowStarted (statistics : String) (before : Disk) (item : Item) (after : Disk) : Prop where
  started : Statistics.startRow before statistics item = .ok after
  content : Statistics.content after statistics =
    Statistics.withRow (Statistics.content before statistics) item

/-- Where starting a row succeeds, the row is started. -/
theorem RowStarted.of_startRow {statistics : String} {before after : Disk} {item : Item}
    (h : Statistics.startRow before statistics item = .ok after) :
    RowStarted statistics before item after :=
  ⟨h, (Statistics.opens_of_startRow h).2.content_eq⟩

/-- The record of a start of the tool that ended: `ready` is the disk it was started on, `after`
the disk it left. -/
def Call.of (statistics : String) (item : Item) (ready : Disk) (status : ExitStatus)
    (after : Disk) : Call :=
  { formula := item.formula
    statistics
    seen := Statistics.content ready statistics
    status
    left := Statistics.content after statistics }

/-- The run takes the line at `index` and goes on. -/
inductive Passes (plan : Plan σ) (index : Nat) (line : String) (state : State σ) :
    State σ → Prop where
  /-- The item has a finished row, and uses it up. -/
  | skipped {item : Item}
      (read : Item.parse plan.mode (Text.lineNumber index) line = .ok item)
      (finished : item.key ∈ state.finished) :
      Passes plan index line state
        { state with
          finished := state.finished.erase item.key
          skipped := state.skipped + 1 }
  /-- The tool runs for the item. -/
  | served {item : Item} {ready after : Disk} {out : Device} {status : ExitStatus} {tool : σ}
      (read : Item.parse plan.mode (Text.lineNumber index) line = .ok item)
      (fresh : item.key ∉ state.finished)
      (opened : RowStarted plan.statistics state.disk item ready)
      (reported : plan.progress.beforeItem state.out index = (out, none))
      (ended : plan.tool.start state.tool ready item.formula plan.statistics =
        .ended status tool after)
      (kept : status.isSuccess = true ∨ plan.onFailure = .ignore) :
      Passes plan index line state
        ({ state with disk := ready, out }.ran
          (Call.of plan.statistics item ready status after) tool after)

/-- The run stops at the line at `index`, in a state and with a fault. -/
inductive Stops (plan : Plan σ) (index : Nat) (line : String) (state : State σ) :
    State σ → Fault → Prop where
  /-- The line is malformed: nothing is done for it. -/
  | malformed {fault : LineFault}
      (refused : Item.parse plan.mode (Text.lineNumber index) line = .error fault) :
      Stops plan index line state state (.line fault)
  /-- The row of the item cannot be started: nothing is done for it. -/
  | noRow {item : Item} {fault : FileFault}
      (read : Item.parse plan.mode (Text.lineNumber index) line = .ok item)
      (fresh : item.key ∉ state.finished)
      (refused : Statistics.startRow state.disk plan.statistics item = .error fault) :
      Stops plan index line state state (.file fault)
  /-- Progress cannot be reported: the row is started, and the tool is not. -/
  | noReport {item : Item} {ready : Disk} {out : Device} {fault : FileFault}
      (read : Item.parse plan.mode (Text.lineNumber index) line = .ok item)
      (fresh : item.key ∉ state.finished)
      (opened : RowStarted plan.statistics state.disk item ready)
      (refused : plan.progress.beforeItem state.out index = (out, some fault)) :
      Stops plan index line state { state with disk := ready, out } (.file fault)
  /-- The tool does not start: the row is started, and progress was reported. -/
  | noStart {item : Item} {ready : Disk} {out : Device} {program reason : String}
      (read : Item.parse plan.mode (Text.lineNumber index) line = .ok item)
      (fresh : item.key ∉ state.finished)
      (opened : RowStarted plan.statistics state.disk item ready)
      (reported : plan.progress.beforeItem state.out index = (out, none))
      (failed : plan.tool.start state.tool ready item.formula plan.statistics =
        .failed program reason) :
      Stops plan index line state { state with disk := ready, out }
        (.toolNotStarted program reason)
  /-- The tool ran and did not exit with zero, and the policy is to abort. -/
  | aborted {item : Item} {ready after : Disk} {out : Device} {status : ExitStatus} {tool : σ}
      (read : Item.parse plan.mode (Text.lineNumber index) line = .ok item)
      (fresh : item.key ∉ state.finished)
      (opened : RowStarted plan.statistics state.disk item ready)
      (reported : plan.progress.beforeItem state.out index = (out, none))
      (ended : plan.tool.start state.tool ready item.formula plan.statistics =
        .ended status tool after)
      (unsuccessful : status.isSuccess = false) (abort : plan.onFailure = .abort) :
      Stops plan index line state
        ({ state with disk := ready, out }.ran
          (Call.of plan.statistics item ready status after) tool after)
        (.toolFailed item.formula status.code)

/-- How a line is taken: the run goes on or stops. -/
inductive Taken (plan : Plan σ) (index : Nat) (line : String) (state : State σ) :
    State σ × Option Fault → Prop where
  | passed {after : State σ} (pass : Passes plan index line state after) :
      Taken plan index line state (after, none)
  | stopped {after : State σ} {fault : Fault} (stop : Stops plan index line state after fault) :
      Taken plan index line state (after, some fault)

/-- A line is taken in one of these ways. -/
theorem takeLine_cases (plan : Plan σ) (index : Nat) (line : String) (state : State σ) :
    Taken plan index line state (takeLine plan index line state) := by
  rw [takeLine]
  cases read : Item.parse plan.mode (Text.lineNumber index) line with
  | error fault => exact .stopped (.malformed read)
  | ok item =>
    by_cases finished : item.key ∈ state.finished
    · simp only [if_pos finished]
      exact .passed (.skipped read finished)
    · simp only [if_neg finished, process]
      cases start : Statistics.startRow state.disk plan.statistics item with
      | error fault => exact .stopped (.noRow read finished start)
      | ok ready =>
        have opened := RowStarted.of_startRow start
        rcases report : plan.progress.beforeItem state.out index with ⟨out, _ | fault⟩
        · simp only [launch]
          cases run : plan.tool.start state.tool ready item.formula plan.statistics with
          | failed program reason =>
            exact .stopped (.noStart read finished opened report run)
          | ended status tool after =>
            by_cases kept : status.isSuccess = true ∨ plan.onFailure = .ignore
            · simp only [if_pos kept]
              exact .passed (.served read finished opened report run kept)
            · simp only [if_neg kept]
              rw [not_or] at kept
              have abort : plan.onFailure = .abort := by
                cases policy : plan.onFailure with
                | ignore => exact absurd policy kept.2
                | abort => rfl
              have unsuccessful : status.isSuccess = false := by simpa using kept.1
              exact .stopped (.aborted read finished opened report run unsuccessful abort)
        · exact .stopped (.noReport read finished opened report)

/-- A line that can be taken in one of these ways is taken so. -/
theorem Taken.eq {plan : Plan σ} {index : Nat} {line : String} {state : State σ}
    {result : State σ × Option Fault} (h : Taken plan index line state result) :
    takeLine plan index line state = result := by
  cases h with
  | passed pass =>
    cases pass with
    | skipped read finished => simp only [takeLine, read, if_pos finished]
    | served read fresh opened reported ended kept =>
      simp only [takeLine, read, if_neg fresh, process, opened.started, reported, launch, ended,
        if_pos kept]
      rfl
  | stopped stop =>
    cases stop with
    | malformed refused => simp only [takeLine, refused]
    | noRow read fresh refused => simp only [takeLine, read, if_neg fresh, process, refused]
    | noReport read fresh opened refused =>
      simp only [takeLine, read, if_neg fresh, process, opened.started, refused]
    | noStart read fresh opened reported failed =>
      simp only [takeLine, read, if_neg fresh, process, opened.started, reported, launch, failed]
    | @aborted item ready after out status tool read fresh opened reported ended unsuccessful
        abort =>
      have ends : ¬ (status.isSuccess = true ∨ plan.onFailure = .ignore) := by
        simp [unsuccessful, abort]
      simp only [takeLine, read, if_neg fresh, process, opened.started, reported, launch, ended,
        if_neg ends]
      rfl

/-- A run does not stop at a well-formed line that is skipped. -/
theorem Stops.not_skipped {plan : Plan σ} {index : Nat} {line : String} {item : Item}
    {state after : State σ} {fault : Fault} (stop : Stops plan index line state after fault)
    (well_formed : Item.parse plan.mode (Text.lineNumber index) line = .ok item) :
    item.key ∉ state.finished := by
  cases stop with
  | malformed refused =>
    rw [well_formed] at refused
    cases refused
  | noRow read fresh | noReport read fresh | noStart read fresh | aborted read fresh =>
    rw [well_formed] at read
    cases read
    exact fresh

/-! ## Courses -/

/-- A run from `start` gets past the lines `done`, and is then in a state. -/
inductive Course (plan : Plan σ) (start : State σ) : List String → State σ → Prop where
  | nil : Course plan start [] start
  | snoc {done : List String} {line : String} {before after : State σ}
      (course : Course plan start done before)
      (pass : Passes plan done.length line before after) :
      Course plan start (done ++ [line]) after

/-- Once a run got past some lines, it takes those that are left from there. -/
theorem Course.takeLines_append {plan : Plan σ} {start state : State σ} {done : List String}
    (course : Course plan start done state) (rest : List String) :
    takeLines plan 0 (done ++ rest) start = takeLines plan done.length rest state := by
  induction course generalizing rest with
  | nil => rfl
  | @snoc done line before after course pass ih =>
    rw [List.append_assoc, List.singleton_append, ih, takeLines, (Taken.passed pass).eq,
      List.length_append, List.length_singleton]

/-- How a run over `lines` ends: past the last of them, or at one that stops it. -/
inductive Finish (plan : Plan σ) (start : State σ) (lines : List String) :
    State σ × Option Fault → Prop where
  | through {last : State σ} (course : Course plan start lines last) :
      Finish plan start lines (last, none)
  | stopped {done rest : List String} {line : String} {before after : State σ} {fault : Fault}
      (split : lines = done ++ line :: rest) (course : Course plan start done before)
      (stop : Stops plan done.length line before after fault) :
      Finish plan start lines (after, some fault)

/-- A run that got past `done` ends in one of these ways. -/
theorem Course.finish {plan : Plan σ} {start : State σ} (rest : List String) {done : List String}
    {state : State σ} (course : Course plan start done state) :
    Finish plan start (done ++ rest) (takeLines plan done.length rest state) := by
  induction rest generalizing done state with
  | nil =>
    rw [List.append_nil]
    exact .through course
  | cons line rest ih =>
    rw [takeLines]
    cases taken : takeLine plan done.length line state with
    | mk after fault? =>
      have step := takeLine_cases plan done.length line state
      rw [taken] at step
      cases step with
      | stopped stop => exact .stopped rfl course stop
      | passed pass =>
        have tail := ih (course.snoc pass)
        rw [List.append_assoc, List.singleton_append, List.length_append,
          List.length_singleton] at tail
        exact tail

/-- What a run leaves that took its lines with this result. -/
def Outcome.ofTaken (total : Nat) : State σ × Option Fault → Outcome σ
  | (state, none) => ⟨state, .ok (state.summary total)⟩
  | (state, some fault) => ⟨state, .error fault⟩

/-- Once the statistics are ready, a run takes its lines and ends in one of these ways. -/
theorem run_finish (machine : Tool σ) (onFailure : FailurePolicy) {settings : BatchSettings}
    {statistics : String} {list : WorkList} {disk ready : Disk} {finished : List String}
    (prepared : makeReady settings statistics list.mode disk = (ready, .ok finished)) (tool : σ)
    (out : Device) :
    ∃ taken, Finish (Plan.make machine onFailure settings statistics list)
        { disk := ready, tool, out, finished } list.lines taken ∧
      run machine onFailure settings statistics list disk tool out =
        Outcome.ofTaken list.total taken := by
  refine ⟨_, Course.finish list.lines .nil, ?_⟩
  simp only [run, prepared, List.length_nil]
  rcases takeLines (Plan.make machine onFailure settings statistics list) 0 list.lines
    { disk := ready, tool, out, finished } with ⟨state, _ | fault⟩ <;> rfl

end MonitorBench.Batch
