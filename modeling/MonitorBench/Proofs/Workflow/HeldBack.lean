import MonitorBench.Proofs.Batch.Step
import MonitorBench.Tool.Planned
import MonitorBench.Workflow

/-!
# Runs that do not get to their first item

Before a run starts the row of an item it reads the work list, looks at the statistics that are
there, counts their finished rows if it resumes, and reads the first line, in this order.
`HeldBack` says what can be in the way, and with what fault the run then ends. Nothing has been
done by then: the run leaves every file, the tool and the progress output as they were
(`HeldBack.untouched`). Only clearing old statistics comes before a line is read and changes a
file, so a first line that is malformed is harmless under the other policies
(`runFile_held_back`).
-/

set_option autoImplicit false

namespace MonitorBench.Workflow

open Batch

/-- What holds a run back from its first item, and the fault that it ends with. Each cause stands
behind those that are looked for before it. -/
inductive HeldBack (settings : BatchSettings) (input statistics : String) (disk : Disk) :
    Fault → Prop where
  /-- The work list is no text, or cannot be read at all. -/
  | noInput {fault : FileFault} (unread : disk.readText input = .error fault) :
      HeldBack settings input statistics disk (.file fault)
  /-- There are statistics, and they may not be touched. -/
  | refused {text : String} (read : disk.readText input = .ok text)
      (there : disk.holds statistics = true) (policy : settings.existingStatistics = .fail) :
      HeldBack settings input statistics disk (.statisticsExist statistics)
  /-- The statistics are kept, and the rows that are finished cannot be read. -/
  | uncounted {text : String} {fault : FileFault} (read : disk.readText input = .ok text)
      (there : disk.holds statistics = true) (policy : settings.existingStatistics = .append)
      (resumes : settings.resume = true) (unread : disk.readText statistics = .error fault) :
      HeldBack settings input statistics disk (.file fault)
  /-- The statistics are ready as they are, and the first line is malformed. -/
  | malformed {text line : String} {rest finished : List String} {fault : LineFault}
      (read : disk.readText input = .ok text) (lines : Text.lines text = line :: rest)
      (ready : makeReady settings statistics settings.inputMode disk = (disk, .ok finished))
      (bad : Item.parse settings.inputMode 1 line = .error fault) :
      HeldBack settings input statistics disk (.line fault)

/-- A run ended with a fault, and left everything as it was. -/
structure Untouched {σ : Type} (disk : Disk) (tool : σ) (out : Device) (fault : Fault)
    (outcome : Outcome σ) : Prop where
  result : outcome.result = .error fault
  /-- Every file is as it was. -/
  disk : outcome.state.disk = disk
  /-- The tool was not started. -/
  tool : outcome.state.tool = tool
  calls : outcome.state.calls = []
  /-- Nothing was reported. -/
  out : outcome.state.out = out

section Run

variable {settings : BatchSettings} {input statistics : String} {disk : Disk}

/-- The finished rows of a file that cannot be read are not found. -/
theorem finishedIn_of_unread {fault : FileFault} (there : disk.holds statistics = true)
    (unread : disk.readText statistics = .error fault) (mode : InputMode) :
    Statistics.finishedIn disk statistics mode = .error fault := by
  rw [Statistics.finishedIn, if_pos there, unread]
  rfl

/-- A run that is held back ends with that fault and has done nothing, whatever the tool is. -/
theorem HeldBack.untouched {fault : Fault} (h : HeldBack settings input statistics disk fault)
    {σ : Type} (machine : Tool σ) (onFailure : FailurePolicy) (tool : σ) (out : Device) :
    Untouched disk tool out fault
      (runFile machine onFailure settings input statistics disk tool out) := by
  cases h with
  | noInput unread =>
    rw [runFile, unread]
    exact ⟨rfl, rfl, rfl, rfl, rfl⟩
  | refused read there policy =>
    have stopped (mode : InputMode) : makeReady settings statistics mode disk =
        (disk, .error (.statisticsExist statistics)) := by
      simp only [makeReady, Statistics.prepare, if_pos there, policy]
    simp only [runFile, read, run, stopped]
    exact ⟨rfl, rfl, rfl, rfl, rfl⟩
  | @uncounted text fault read there policy resumes unread =>
    have stopped (mode : InputMode) : makeReady settings statistics mode disk =
        (disk, .error (.file fault)) := by
      simp only [makeReady, policy, Statistics.prepare_append, if_pos resumes,
        finishedIn_of_unread there unread]
      rfl
    simp only [runFile, read, run, stopped]
    exact ⟨rfl, rfl, rfl, rfl, rfl⟩
  | @malformed text line rest finished fault read lines ready bad =>
    -- the state before the first line is the one that the run ends in
    have stops (plan : Plan σ) (mode : plan.mode = settings.inputMode) (state : State σ) :
        takeLines plan 0 (line :: rest) state = (state, some (.line fault)) := by
      have refused : Item.parse plan.mode (Text.lineNumber 0) line = .error fault := by
        rw [mode]
        exact bad
      rw [takeLines, (Taken.stopped (.malformed refused)).eq]
    have list : WorkList.ofText settings.inputMode text = ⟨settings.inputMode, line :: rest⟩ := by
      rw [WorkList.ofText, lines]
    simp only [runFile, read, list, run, ready]
    rw [stops _ rfl]
    exact ⟨rfl, rfl, rfl, rfl, rfl⟩

/-- Where old statistics are not cleared, a run is held back by them, or they are ready as they
are. -/
theorem heldBack_or_ready (kept : settings.existingStatistics ≠ .clear) {text : String}
    (read : disk.readText input = .ok text) :
    (∃ fault, HeldBack settings input statistics disk fault) ∨
      ∃ finished, makeReady settings statistics settings.inputMode disk =
        (disk, .ok finished) := by
  by_cases there : disk.holds statistics = true
  · cases policy : settings.existingStatistics with
    | clear => exact absurd policy kept
    | fail => exact Or.inl ⟨_, .refused read there policy⟩
    | append =>
      by_cases resumes : settings.resume = true
      · cases unread : disk.readText statistics with
        | error fault => exact Or.inl ⟨_, .uncounted read there policy resumes unread⟩
        | ok held =>
          right
          refine ⟨Statistics.finishedKeys settings.inputMode held, ?_⟩
          simp only [makeReady, policy, Statistics.prepare_append, if_pos resumes,
            Statistics.finishedIn, if_pos there, unread]
          rfl
      · right
        refine ⟨[], ?_⟩
        simp only [makeReady, policy, Statistics.prepare_append, if_neg resumes]
  · right
    refine ⟨[], ?_⟩
    simp [makeReady, Statistics.prepare, Statistics.finishedIn, there, Except.mapError]

/-- Whatever the other settings are, a run ends with a fault that does not depend on the tool, and
leaves every file, the tool and the progress output as they were: if its work list is no text that
can be read; if there are statistics and the policy is to fail; if they are kept and counted and
are no text; or if the first line is malformed and the policy is not to clear. -/
theorem runFile_held_back (settings : BatchSettings) (input statistics : String) (disk : Disk)
    (h : (∀ text, disk.readText input ≠ .ok text) ∨
      (disk.holds statistics = true ∧ settings.existingStatistics = .fail) ∨
      (settings.existingStatistics = .append ∧ settings.resume = true ∧
        ∃ held, disk.read statistics = .ok held ∧ ∀ text, held ≠ Text.bytes text) ∨
      (settings.existingStatistics ≠ .clear ∧ ∃ text line fault,
        disk.readText input = .ok text ∧ (Text.lines text).head? = some line ∧
          Item.parse settings.inputMode 1 line = .error fault)) :
    ∃ fault, HeldBack settings input statistics disk fault ∧
      ∀ {σ : Type} (machine : Tool σ) (onFailure : FailurePolicy) (tool : σ) (out : Device),
        Untouched disk tool out fault
          (runFile machine onFailure settings input statistics disk tool out) := by
  suffices held_back : ∃ fault, HeldBack settings input statistics disk fault by
    obtain ⟨fault, because⟩ := held_back
    refine ⟨fault, because, ?_⟩
    intro σ machine onFailure tool out
    exact because.untouched machine onFailure tool out
  cases read : disk.readText input with
  | error fault => exact ⟨_, .noInput read⟩
  | ok text =>
    rcases h with unread | ⟨there, policy⟩ | ⟨policy, resumes, held, there, no_text⟩ |
      ⟨kept, other, line, fault, same, first, bad⟩
    · exact absurd read (unread text)
    · exact ⟨_, .refused read there policy⟩
    · have unread : disk.readText statistics = .error .notText := by
        have undecoded : Text.ofBytes? held = none := Text.ofBytes?_eq_none_iff.mpr no_text
        simp only [Disk.readText, there, undecoded]
      exact ⟨_, .uncounted read (Disk.holds_of_read there) policy resumes unread⟩
    · rw [read] at same
      cases same
      obtain ⟨rest, lines⟩ := List.head?_eq_some_iff.mp first
      rcases heldBack_or_ready kept read with before | ⟨finished, ready⟩
      · exact before
      · exact ⟨_, .malformed read lines ready bad⟩

/-- A resumed run over statistics that end in a byte of no text does not get to the line of its work
list, which is malformed as well. -/
theorem runFile_held_back_broken_statistics :
    let disk : Disk :=
      ⟨[(["i"], .file (Text.bytes "A, 1\n")), (["s"], .file [65, 10, 255])], [], []⟩
    let plan := ToolPlan.mk [] (.append "2\n" (.exited 0))
    ∃ fault, HeldBack { resume := true } "i" "s" disk fault ∧
      Untouched disk [] {} fault
        (runFile plan.tool .ignore { resume := true } "i" "s" disk [] {}) := by
  intro disk plan
  have no_text : ∀ text, ([65, 10, 255] : Bytes) ≠ Text.bytes text :=
    Text.ofBytes?_eq_none_iff.mp (by decide +kernel)
  have broken : ∃ held, disk.read "s" = .ok held ∧ ∀ text, held ≠ Text.bytes text :=
    ⟨_, rfl, no_text⟩
  obtain ⟨fault, because, untouched⟩ :=
    runFile_held_back { resume := true } "i" "s" disk (.inr (.inr (.inl ⟨rfl, rfl, broken⟩)))
  exact ⟨fault, because, untouched plan.tool .ignore [] {}⟩

end Run

end MonitorBench.Workflow
