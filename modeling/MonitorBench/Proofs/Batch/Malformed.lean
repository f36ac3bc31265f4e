import MonitorBench.Proofs.Batch.Written

/-!
# Runs and malformed lines

Getting the statistics ready never finds a line malformed, and of the five reasons to stop only
one does. So a run that reports a malformed line has come to a line that cannot be read
(`malformed_of_run`); and a run that nothing else can stop comes to such a line, if there is one
(`run_malformed`).
-/

set_option autoImplicit false

namespace MonitorBench.Batch

variable {σ : Type} {machine : Tool σ} {states : σ → Prop} {fits : String → Prop}
  {onFailure : FailurePolicy} {settings : BatchSettings} {statistics : String} {list : WorkList}
  {disk ready : Disk} {tool : σ} {out : Device}

/-- No fault of making statistics ready is one of a line. -/
theorem prepare_fault {policy : ExistingStatistics} {fault : Fault}
    (h : Statistics.prepare disk statistics policy = .error fault) : fault.isLineFault = false := by
  unfold Statistics.prepare at h
  split at h
  · cases policy with
    | append => cases h
    | clear =>
      cases written : disk.write statistics [] with
      | ok cleared =>
        rw [written] at h
        cases h
      | error refused =>
        rw [written] at h
        cases h
        rfl
    | fail =>
      cases h
      rfl
  · cases h

/-- What keeps the statistics from being made ready is never a malformed line. -/
theorem makeReady_fault {mode : InputMode} {fault : Fault}
    (h : makeReady settings statistics mode disk = (ready, .error fault)) :
    fault.isLineFault = false := by
  rw [makeReady] at h
  split at h
  next refused prepared =>
    cases h
    exact prepare_fault prepared
  next kept prepared =>
    split at h
    next =>
      cases read : Statistics.finishedIn kept statistics mode with
      | ok keys =>
        rw [read] at h
        cases h
      | error refused =>
        rw [read] at h
        cases h
        rfl
    next => cases h

/-- A run that reports a malformed line has come to a line that cannot be read, for that reason. -/
theorem malformed_of_run {fault : LineFault}
    (h : (run machine onFailure settings statistics list disk tool out).result =
      .error (.line fault)) :
    ∃ index line, list.lines[index]? = some line ∧
      Item.parse list.mode (Text.lineNumber index) line = .error fault := by
  rcases prepared : makeReady settings statistics list.mode disk with ⟨ready, refused | finished⟩
  · rw [run, prepared] at h
    cases h
    have surroundings := makeReady_fault prepared
    cases surroundings
  · obtain ⟨taken, finish, ran⟩ := run_finish machine onFailure prepared tool out
    rw [ran] at h
    cases finish with
    | through course => cases h
    | @stopped done rest line before after fault split course stop =>
      cases h
      cases stop with
      | malformed unreadable =>
        refine ⟨done.length, line, ?_, unreadable⟩
        rw [split, List.getElem?_append_right (Nat.le_refl _), Nat.sub_self]
        rfl

/-- When the file can be opened, the output has no limit, and the tool always starts and appends, a
run that ignores exit codes stops at a malformed line if there is one. -/
theorem run_malformed {finished : List String} {held : Bytes}
    (prepared : makeReady settings statistics list.mode disk = (ready, .ok finished))
    (opens : Statistics.Opens ready statistics held) (unlimited : out.capacity = none)
    (known : states tool) (starts : machine.Starts statistics states)
    (appends : machine.Appends statistics states fits) {index : Nat} {line : String}
    {fault : LineFault} (at_index : list.lines[index]? = some line)
    (unreadable : Item.parse list.mode (Text.lineNumber index) line = .error fault) :
    ∃ reported, (run machine .ignore settings statistics list disk tool out).result =
      .error (.line reported) := by
  obtain ⟨taken, finish, ran⟩ := run_finish machine .ignore prepared tool out
  rw [ran]
  cases finish with
  | @through last course =>
    -- a run past the last line has read all of them
    obtain ⟨items, stood⟩ := course.standing
    obtain ⟨item, well_formed⟩ := stood.reads.parse_of_getElem? at_index
    have contradiction := unreadable.symm.trans well_formed
    cases contradiction
  | @stopped done rest here before after reported split course stop =>
    cases read : Item.parse list.mode (Text.lineNumber done.length) here with
    | error refused =>
      cases stop with
      | malformed => exact ⟨_, rfl⟩
      | noRow well_formed | noReport well_formed | noStart well_formed | aborted well_formed =>
        have contradiction := read.symm.trans well_formed
        cases contradiction
    | ok item =>
      obtain ⟨items, stood⟩ := course.standing
      obtain ⟨stays, outputs, -, grown⟩ := stood.served.wrote appends known opens
      exact absurd stop (not_stops read grown (course.unlimited unlimited) stays starts rfl)

end MonitorBench.Batch
