import MonitorBench.Proofs.Batch.Written
import MonitorBench.Proofs.Statistics.Dangling

/-!
# Interruptions do not show

A chain of runs goes over the same work list, each run but the last cut short because progress
could not be reported or the tool did not start. Between two runs the file holds the finished
rows of the first items, and one dangling row for each run that was cut short (`Kept`). A run
that finds such a file takes up where the last one stopped, and leaves such a file again
(`Attempt.goes`): that carries the chain (`Chain.keeps`). So the runs of a chain together start
the tool once for each item, in order, and but for the dangling rows the file is the one that a
single run writes (`interruptions_transparent`).
-/

set_option autoImplicit false

namespace MonitorBench.Batch

variable {σ : Type}

/-! ## Chains of runs -/

/-- What goes into one run of a chain. Whenever the tool ends, it has written one line that is not
blank, and ended it. -/
structure Attempt (σ : Type) (statistics : String) where
  /-- The tool. -/
  machine : Tool σ
  /-- The states that the tool can get into. -/
  states : σ → Prop
  /-- What the tool does to the statistics file. -/
  appends : machine.Appends statistics states Statistics.IsEndedLine
  /-- The state of the tool at first. -/
  tool : σ
  /-- The tool can get into its first state. -/
  known : states tool
  /-- What is done when the tool does not exit with zero. -/
  onFailure : FailurePolicy
  /-- How the work list is run. -/
  settings : BatchSettings
  /-- The run goes on from the statistics that are there. -/
  resuming : settings.Resuming
  /-- The progress output. -/
  out : Device

/-- What the run leaves that starts on a disk. -/
def Attempt.outcome {statistics : String} (attempt : Attempt σ statistics) (list : WorkList)
    (disk : Disk) : Outcome σ :=
  run attempt.machine attempt.onFailure attempt.settings statistics list disk attempt.tool
    attempt.out

/-- The faults that cut a run short between the start of a row and the end of the tool. -/
inductive CutsShort : Fault → Prop where
  /-- Progress cannot be reported. -/
  | noReport : CutsShort (.file .deviceFull)
  /-- The tool does not start. -/
  | noStart {program reason : String} : CutsShort (.toolNotStarted program reason)

/-- The run was not cut short, nor aborted for what the tool exited with. -/
def Outcome.Undisturbed (outcome : Outcome σ) : Prop :=
  ∀ fault, outcome.result = .error fault →
    ¬ CutsShort fault ∧ ∀ formula code, fault ≠ .toolFailed formula code

/-- Runs over one work list, each on the disk that the one before left: those in the list were cut
short, the last one was not. -/
inductive Chain (σ : Type) (statistics : String) (list : WorkList) :
    Disk → List (Outcome σ) → Outcome σ → Prop where
  | last {disk : Disk} (attempt : Attempt σ statistics)
      (undisturbed : (attempt.outcome list disk).Undisturbed) :
      Chain σ statistics list disk [] (attempt.outcome list disk)
  | cut {disk : Disk} {cuts : List (Outcome σ)} {final : Outcome σ} {fault : Fault}
      (attempt : Attempt σ statistics)
      (ended : (attempt.outcome list disk).result = .error fault) (reason : CutsShort fault)
      (rest : Chain σ statistics list (attempt.outcome list disk).state.disk cuts final) :
      Chain σ statistics list disk (attempt.outcome list disk :: cuts) final

/-! ## Between two runs -/

/-- The file holds the finished rows of the items `done`, with their `payloads` in order, and as
many dangling rows as `dangling` says; `rest` are the items that are left. If none are, the file
is empty or ends in a line feed. -/
structure Kept (statistics : String) (items done rest : List Item) (payloads : List String)
    (dangling : Nat) (disk : Disk) : Prop where
  /-- The items that are done are the first ones. -/
  split : items = done ++ rest
  /-- The text that the file holds has such lines, but for the end of the last one. -/
  stored : ∃ lines text, Statistics.Logged items done payloads lines dangling ∧
    Statistics.Opens disk statistics (Text.bytes text) ∧
    Statistics.ended text = Text.ofLines lines ∧ (rest = [] → text = Text.ofLines lines)

section Kept

variable {machine : Tool σ} {states : σ → Prop} {statistics : String}
  {items done rest block behind : List Item} {item : Item} {payloads : List String}
  {dangling : Nat} {tool next : σ} {disk ready after : Disk} {calls : List Call}

/-- Without a file, no item is done. -/
theorem Kept.start (items : List Item) (opens : Statistics.Opens disk statistics []) :
    Kept statistics items [] items [] 0 disk :=
  ⟨rfl, [], "", .nil items, opens, rfl, fun _ => rfl⟩

/-- Starting the tool for the next items makes these done as well. -/
theorem Kept.serve (h : Kept statistics items done (block ++ behind) payloads dangling disk)
    (readable : ∀ item ∈ items, item.mode = .records ∧ item.Readable)
    (one_line : ∀ item ∈ items, '\n' ∉ item.key.toList)
    (served : Served machine statistics tool disk block calls next after)
    (appends : machine.Appends statistics states Statistics.IsEndedLine) (known : states tool) :
    ∃ new : List String,
      calls.map Call.written = new.map (fun payload => Text.bytes (payload ++ "\n")) ∧
      Kept statistics items (done ++ block) behind (payloads ++ new) dangling after := by
  obtain ⟨lines, text, logged, opens, same, whole⟩ := h.stored
  obtain ⟨-, outputs, wrote, grown⟩ := served.wrote appends known opens
  obtain ⟨new, rfl, filled⟩ := Statistics.exists_payloads wrote.fit
  have lengths : new.length = block.length := by simpa using wrote.length_eq
  obtain ⟨later, held, later_ended, later_whole⟩ := Statistics.grown_ended (block.zip new) same
  have of_items : ∀ item ∈ block, item ∈ items := by
    intro item mem
    rw [h.split]
    simp [mem]
  refine ⟨new, ?_, ?_, lines ++ Statistics.filledRows (block.zip new), later,
    logged.fill readable one_line of_items lengths filled, ?_, later_ended, ?_⟩
  · rw [wrote.written, List.map_map]
    rfl
  · rw [h.split, List.append_assoc]
  · rw [← held]
    rwa [List.zip_map_right] at grown
  · intro none_left
    refine later_whole ?_
    by_cases nothing : block = []
    · exact Or.inl (whole (by rw [nothing, none_left, List.nil_append]))
    · refine Or.inr fun empty => nothing ?_
      rw [← List.map_fst_zip (Nat.le_of_eq lengths.symm), empty, List.map_nil]

/-- Starting the row of the next item without the tool leaves a dangling row. -/
theorem Kept.dangle (h : Kept statistics items done (item :: behind) payloads dangling disk)
    (one_line : ∀ item ∈ items, '\n' ∉ item.key.toList)
    (opened : RowStarted statistics disk item ready) :
    Kept statistics items done (item :: behind) payloads (dangling + 1) ready := by
  obtain ⟨lines, text, logged, opens, same, -⟩ := h.stored
  have of_items : item ∈ items := by
    rw [h.split]
    simp
  have started := opened.opens opens
  rw [Statistics.withRow_bytes, same] at started
  exact ⟨h.split, lines ++ [item.rowStart], _, logged.dangle (one_line item of_items) of_items,
    started, Statistics.ended_ofLines_rowStart lines item, by simp⟩

end Kept

/-! ## One run of a chain -/

/-- What stops a run at a well-formed line, when the file can be opened: an exit that aborts, or
something that cuts the run short, with the row of the item started and nothing else done. -/
theorem Stops.aborted_or_cut {plan : Plan σ} {index : Nat} {line : String} {item : Item}
    {state after : State σ} {fault : Fault} {held : Bytes}
    (stop : Stops plan index line state after fault)
    (well_formed : Item.parse plan.mode (Text.lineNumber index) line = .ok item)
    (opens : Statistics.Opens state.disk plan.statistics held) :
    (∃ formula code, fault = .toolFailed formula code) ∨
      CutsShort fault ∧ after.calls = state.calls ∧
        RowStarted plan.statistics state.disk item after.disk := by
  cases stop with
  | malformed refused =>
    rw [well_formed] at refused
    cases refused
  | @noRow item _ read fresh refused =>
    obtain ⟨opened, started, -⟩ := opens.startRow item
    rw [started] at refused
    cases refused
  | noReport read fresh opened refused =>
    rw [well_formed] at read
    cases read
    rw [ProgressPlan.fault_of_beforeItem refused]
    exact Or.inr ⟨.noReport, rfl, opened⟩
  | noStart read fresh opened reported failed =>
    rw [well_formed] at read
    cases read
    exact Or.inr ⟨.noStart, rfl, opened⟩
  | @aborted item _ _ _ status => exact Or.inl ⟨item.formula, status.code, rfl⟩

/-- How a run goes that finds a kept file. -/
inductive Goes (statistics : String) (items done rest : List Item) (payloads : List String)
    (dangling : Nat) (outcome : Outcome σ) : Prop where
  /-- It gets to the end: all items that were left are done. -/
  | through {summary : Summary} {new : List String} (result : outcome.result = .ok summary)
      (formulas : outcome.state.calls.map Call.formula = rest.map Item.formula)
      (written : outcome.state.calls.map Call.written =
        new.map fun payload => Text.bytes (payload ++ "\n"))
      (kept : Kept statistics items items [] (payloads ++ new) dangling outcome.state.disk)
  /-- It is cut short: some of the items that were left are done, and one row more dangles. -/
  | cut {fault : Fault} {block behind : List Item} {new : List String}
      (result : outcome.result = .error fault) (reason : CutsShort fault)
      (split : rest = block ++ behind)
      (formulas : outcome.state.calls.map Call.formula = block.map Item.formula)
      (written : outcome.state.calls.map Call.written =
        new.map fun payload => Text.bytes (payload ++ "\n"))
      (kept : Kept statistics items (done ++ block) behind (payloads ++ new) (dangling + 1)
        outcome.state.disk)
  /-- What the tool exited with aborts it. -/
  | aborted {formula : String} {code : Option Int}
      (result : outcome.result = .error (.toolFailed formula code))

/-- A run takes up where a kept file ends. -/
theorem Attempt.goes {statistics : String} {list : WorkList} {items done rest : List Item}
    {payloads : List String} {dangling : Nat} {disk : Disk} (attempt : Attempt σ statistics)
    (records : list.mode = .records) (reads : Reads list.mode list.lines items)
    (one_line : ∀ line ∈ list.lines, '\n' ∉ line.toList)
    (kept : Kept statistics items done rest payloads dangling disk) :
    Goes statistics items done rest payloads dangling (attempt.outcome list disk) := by
  have readable : ∀ item ∈ items, item.mode = .records ∧ item.Readable := by
    intro item mem
    rw [← records]
    exact reads.readable (by simp [records]) mem
  have one_line_key : ∀ item ∈ items, '\n' ∉ item.key.toList := fun item mem =>
    reads.newline_not_mem_key one_line mem
  obtain ⟨lines, text, logged, opens, same, -⟩ := kept.stored
  have finished : Statistics.finishedKeys list.mode text = keys done := by
    rw [records]
    refine logged.finishedKeys readable (fun item mem => ?_) same
    rw [kept.split]
    exact List.mem_append_left _ mem
  have prepared := makeReady_resuming attempt.resuming opens list.mode
  rw [finished] at prepared
  obtain ⟨taken, finish, ran⟩ :=
    run_finish attempt.machine attempt.onFailure prepared attempt.tool attempt.out
  rw [Attempt.outcome, ran]
  cases finish with
  | @through last course =>
    obtain ⟨others, stood⟩ := course.standing
    have served := stood.served
    rw [reads.unique stood.reads, kept.split, unfinished_keys_append] at served
    rw [← List.append_nil rest] at kept
    obtain ⟨new, written, kept_after⟩ :=
      kept.serve readable one_line_key served attempt.appends attempt.known
    have all_done : items = done ++ rest := by simpa using kept.split
    rw [← all_done] at kept_after
    exact .through rfl served.formulas written kept_after
  | @stopped lines_done rest_lines line before after fault split course stop =>
    obtain ⟨others, stood⟩ := course.standing
    rw [split] at reads
    obtain ⟨first, item, behind, same_items, reads_first, well_formed⟩ := reads.split
    rw [reads_first.unique stood.reads] at stood
    have no_row := mt (stood.mem_finished_iff item.key).mpr (stop.not_skipped well_formed)
    obtain ⟨block, rfl, left⟩ :=
      append_of_count_le (kept.split.symm.trans same_items) (Nat.not_lt.mp no_row)
    have served := stood.served
    rw [unfinished_keys_append] at served
    rw [left] at kept
    obtain ⟨new, written, kept_before⟩ :=
      kept.serve readable one_line_key served attempt.appends attempt.known
    obtain ⟨-, current, -, opens_before, -⟩ := kept_before.stored
    rcases stop.aborted_or_cut well_formed opens_before with ⟨formula, code, rfl⟩ |
      ⟨reason, same_calls, opened⟩
    · exact .aborted rfl
    · have formulas := served.formulas
      rw [← same_calls] at formulas written
      exact .cut rfl reason left formulas written (kept_before.dangle one_line_key opened)

/-! ## Whole chains -/

/-- The starts of the tool in all runs of a chain, in order. -/
def allCalls (cuts : List (Outcome σ)) (final : Outcome σ) : List Call :=
  (cuts ++ [final]).flatMap fun outcome => outcome.state.calls

/-- Without interruptions the starts are those of the last run. -/
@[simp] theorem allCalls_nil (final : Outcome σ) : allCalls [] final = final.state.calls :=
  List.flatMap_singleton _ _

/-- A chain gets past all items that were left, and leaves one dangling row for each run that was
cut short. -/
theorem Chain.keeps {statistics : String} {list : WorkList} {items done rest : List Item}
    {payloads : List String} {dangling : Nat} {disk : Disk} {cuts : List (Outcome σ)}
    {final : Outcome σ} (chain : Chain σ statistics list disk cuts final)
    (records : list.mode = .records) (reads : Reads list.mode list.lines items)
    (one_line : ∀ line ∈ list.lines, '\n' ∉ line.toList)
    (kept : Kept statistics items done rest payloads dangling disk) :
    (allCalls cuts final).map Call.formula = rest.map Item.formula ∧
      (∃ summary, final.result = .ok summary) ∧
      ∃ new : List String,
        (allCalls cuts final).map Call.written =
          new.map (fun payload => Text.bytes (payload ++ "\n")) ∧
        Kept statistics items items [] (payloads ++ new) (dangling + cuts.length)
          final.state.disk := by
  induction chain generalizing done rest payloads dangling with
  | last attempt undisturbed =>
    cases attempt.goes records reads one_line kept with
    | @through summary new result formulas written kept_after =>
      rw [allCalls_nil]
      exact ⟨formulas, ⟨summary, result⟩, new, written, kept_after⟩
    | cut result reason => exact absurd reason (undisturbed _ result).1
    | aborted result => exact absurd rfl ((undisturbed _ result).2 _ _)
  | @cut disk cuts final fault attempt ended reason others ih =>
    cases attempt.goes records reads one_line kept with
    | through result =>
      rw [ended] at result
      cases result
    | aborted result =>
      rw [ended] at result
      cases result
      cases reason
    | @cut _ block behind first _ _ split formulas written kept_after =>
      obtain ⟨later_formulas, summary, later, later_written, kept_last⟩ := ih kept_after
      have calls : allCalls (attempt.outcome list disk :: cuts) final =
          (attempt.outcome list disk).state.calls ++ allCalls cuts final := by
        rw [allCalls, allCalls, List.cons_append, List.flatMap_cons]
      refine ⟨?_, summary, first ++ later, ?_, ?_⟩
      · rw [calls, List.map_append, formulas, later_formulas, split, List.map_append]
      · rw [calls, List.map_append, written, later_written, List.map_append]
      · rw [← List.append_assoc, List.length_cons, Nat.add_comm cuts.length, ← Nat.add_assoc]
        exact kept_last

/-! ## The run that a chain stands for -/

/-- A tool that follows a script writes the texts of the script, one after the other. -/
theorem Served.of_script {statistics : String} {otherwise : PlannedAction} {status : ExitStatus}
    {texts : List String} {disk after : Disk} {held : Bytes} {items : List Item}
    {calls : List Call} {next : List PlannedAction}
    (served : Served (ToolPlan.mk [] otherwise).tool statistics
      (texts.map fun text => .append text status) disk items calls next after)
    (opens : Statistics.Opens disk statistics held) (enough : items.length ≤ texts.length) :
    next = (texts.drop items.length).map (fun text => .append text status) ∧
      calls.map Call.written = (texts.take items.length).map Text.bytes ∧
      ∃ left, Statistics.Opens after statistics left := by
  induction served with
  | nil => exact ⟨rfl, rfl, held, opens⟩
  | @snoc items calls between next left ready after item ended_with served opened ended ih =>
    rw [List.length_append, List.length_singleton] at enough ⊢
    obtain ⟨rfl, written, before, opens_before⟩ := ih (by omega)
    have started := opened.opens opens_before
    have at_index : texts.drop items.length =
        texts[items.length] :: texts.drop (items.length + 1) := List.drop_eq_getElem_cons (by omega)
    have chosen : (ToolPlan.mk [] otherwise).choose item.formula
        ((texts.drop items.length).map fun text => .append text status) =
        (.append texts[items.length] status,
          (texts.drop (items.length + 1)).map fun text => .append text status) := by
      rw [at_index]
      rfl
    obtain ⟨grown, does, opens_after⟩ := ToolPlan.start_append started chosen
    rw [does] at ended
    cases ended
    refine ⟨rfl, ?_, _, opens_after⟩
    rw [List.take_add_one, List.getElem?_eq_getElem (by omega), Option.toList_some, List.map_append,
      List.map_append, written, List.map_singleton, List.map_singleton,
      Call.written_of started opens_after]

/-- A hyphen on a line of its own is an ended line. -/
theorem fitting_hyphen : ToolPlan.Fitting Statistics.IsEndedLine (.append "-\n" (.exited 0)) :=
  ⟨"-\n", .exited 0, rfl, "-", rfl, by decide, by decide⟩

/-- The run that nothing cuts short, with a tool that writes these payloads one after the other. -/
def Attempt.scripted (statistics : String) (payloads : List String)
    (filled : ∀ payload ∈ payloads, Statistics.IsPayload payload) :
    Attempt (List PlannedAction) statistics where
  machine := (ToolPlan.mk [] (.append "-\n" (.exited 0))).tool
  states script := ∀ action ∈ script, ToolPlan.Fitting Statistics.IsEndedLine action
  appends := (ToolPlan.starts_and_appends fitting_hyphen statistics).2
  tool := (payloads.map fun payload => payload ++ "\n").map fun text => .append text (.exited 0)
  known := by
    intro action mem
    rw [List.map_map] at mem
    obtain ⟨payload, of_payloads, rfl⟩ := List.mem_map.mp mem
    exact ⟨payload ++ "\n", .exited 0, rfl, payload, rfl, filled payload of_payloads⟩
  onFailure := .ignore
  settings := { resume := true }
  resuming := ⟨rfl, rfl⟩
  out := {}

/-- Without a file, the run gets to the end, and its tool writes all payloads. -/
theorem Attempt.scripted_writes {statistics : String} {payloads : List String} {list : WorkList}
    {items : List Item} {disk : Disk}
    (filled : ∀ payload ∈ payloads, Statistics.IsPayload payload)
    (reads : Reads list.mode list.lines items) (lengths : payloads.length = items.length)
    (opens : Statistics.Opens disk statistics []) :
    ((scripted statistics payloads filled).outcome list disk).Undisturbed ∧
      ((scripted statistics payloads filled).outcome list disk).state.calls.map Call.written =
        payloads.map fun payload => Text.bytes (payload ++ "\n") := by
  have empty : Statistics.Opens disk statistics (Text.bytes "") := opens
  have prepared : makeReady (scripted statistics payloads filled).settings statistics list.mode
      disk = (disk, .ok []) :=
    makeReady_resuming (scripted statistics payloads filled).resuming empty list.mode
  have contract := ToolPlan.starts_and_appends fitting_hyphen statistics
  have unlimited : (scripted statistics payloads filled).out.capacity = none := rfl
  obtain ⟨state, ran, stood⟩ := run_through reads prepared opens unlimited
    (scripted statistics payloads filled).known contract.1 contract.2
  have outcome : (scripted statistics payloads filled).outcome list disk =
      ⟨state, .ok (state.summary list.total)⟩ := ran
  have served := stood.served
  rw [unfinished_nil] at served
  obtain ⟨-, written, -⟩ := served.of_script opens (by simp [lengths])
  rw [outcome]
  constructor
  · intro fault result
    cases result
  · rw [written, ← lengths, List.take_of_length_le (by simp), List.map_map]
    rfl

/-- A chain of interrupted runs over well-formed records, from no file on, starts the tool once for
each item, in order, and its last run gets to the end. The file then has one dangling row for
each run that was cut short, and without these it is byte for byte the file of any one run that
is not cut short and whose tool writes the same; and there is such a run. -/
theorem interruptions_transparent {statistics : String} {list : WorkList} {items : List Item}
    {disk : Disk} {cuts : List (Outcome σ)} {final : Outcome σ}
    (records : list.mode = .records) (reads : Reads list.mode list.lines items)
    (one_line : ∀ line ∈ list.lines, '\n' ∉ line.toList)
    (nothing : Statistics.Opens disk statistics [])
    (chain : Chain σ statistics list disk cuts final) :
    (allCalls cuts final).map Call.formula = items.map Item.formula ∧
      (∃ summary, final.result = .ok summary) ∧
      ∃ lines : List String,
        (∀ line ∈ lines, '\n' ∉ line.toList) ∧
        Statistics.content final.state.disk statistics = Text.bytes (Text.ofLines lines) ∧
        lines.countP (fun line => line ∈ items.map Item.rowStart) = cuts.length ∧
        (∀ {τ : Type} (whole : Attempt τ statistics),
          (whole.outcome list disk).Undisturbed →
          (whole.outcome list disk).state.calls.map Call.written =
            (allCalls cuts final).map Call.written →
          Statistics.content (whole.outcome list disk).state.disk statistics =
            Text.bytes (Text.ofLines (lines.filter fun line => line ∉ items.map Item.rowStart))) ∧
        ∃ whole : Attempt (List PlannedAction) statistics,
          (whole.outcome list disk).Undisturbed ∧
          (whole.outcome list disk).state.calls.map Call.written =
            (allCalls cuts final).map Call.written := by
  obtain ⟨formulas, finished, payloads, written, kept⟩ :=
    chain.keeps records reads one_line (.start items nothing)
  obtain ⟨lines, text, logged, opens, -, whole_text⟩ := kept.stored
  rw [List.nil_append, Nat.zero_add] at logged
  rw [whole_text rfl] at opens
  refine ⟨formulas, finished, lines, logged.one_line, opens.content_eq, logged.counted, ?_, ?_⟩
  · intro τ whole undisturbed same
    obtain ⟨-, -, others, written_alone, kept_alone⟩ :=
      (Chain.last whole undisturbed).keeps records reads one_line (.start items nothing)
    obtain ⟨lines_alone, text_alone, logged_alone, opens_alone, -, whole_alone⟩ := kept_alone.stored
    rw [List.nil_append, List.length_nil] at logged_alone
    rw [whole_alone rfl] at opens_alone
    -- the same was written, so the finished rows are the same
    rw [allCalls_nil, same, written] at written_alone
    have same_payloads : payloads = others :=
      (List.map_injective_iff.mpr Statistics.ended_bytes_injective) written_alone
    rw [opens_alone.content_eq, logged_alone.eq_filledRows, logged.kept, same_payloads]
  · refine ⟨.scripted statistics payloads logged.filled, ?_⟩
    rw [written]
    exact Attempt.scripted_writes logged.filled reads logged.lengths nothing

/-- A full progress output cuts a run short at the second of two equal records, and another run
starts the tool for that one. -/
theorem interruptions_transparent_repeated_record :
    ∃ cuts final, Chain (List PlannedAction) "s" ⟨.records, ["A, 1, G p", "A, 1, G p"]⟩
        ⟨[], [], []⟩ cuts final ∧
      cuts.length = 1 ∧ (allCalls cuts final).map Call.formula = ["G p", "G p"] := by
  have filled : ∀ payload ∈ ["1", "2"], Statistics.IsPayload payload := by
    intro payload mem
    simp only [List.mem_cons, List.not_mem_nil, or_false] at mem
    rcases mem with rfl | rfl
    · exact ⟨by decide, by decide⟩
    · exact ⟨by decide, by decide⟩
  obtain ⟨first, first_run⟩ : ∃ first : Attempt (List PlannedAction) "s", ∀ list disk,
      first.outcome list disk = run (ToolPlan.mk [] (.append "-\n" (.exited 0))).tool .ignore
        { resume := true } "s" list disk
        [.append "1\n" (.exited 0), .append "2\n" (.exited 0)] { capacity := some 0 } :=
    ⟨{ Attempt.scripted "s" ["1", "2"] filled with out := { capacity := some 0 } },
      fun _ _ => rfl⟩
  obtain ⟨second, second_run⟩ : ∃ second : Attempt (List PlannedAction) "s", ∀ list disk,
      second.outcome list disk = run (ToolPlan.mk [] (.append "-\n" (.exited 0))).tool .ignore
        { resume := true } "s" list disk
        [.append "1\n" (.exited 0), .append "2\n" (.exited 0)] {} :=
    ⟨Attempt.scripted "s" ["1", "2"] filled, fun _ _ => rfl⟩
  have ended : (first.outcome ⟨.records, ["A, 1, G p", "A, 1, G p"]⟩ ⟨[], [], []⟩).result =
      .error (.file .deviceFull) := by
    rw [first_run]
    rfl
  have undisturbed : (second.outcome ⟨.records, ["A, 1, G p", "A, 1, G p"]⟩
      (first.outcome ⟨.records, ["A, 1, G p", "A, 1, G p"]⟩
        ⟨[], [], []⟩).state.disk).Undisturbed := by
    have finished : (second.outcome ⟨.records, ["A, 1, G p", "A, 1, G p"]⟩
        (first.outcome ⟨.records, ["A, 1, G p", "A, 1, G p"]⟩ ⟨[], [], []⟩).state.disk).result =
        .ok ⟨2, 1, 1, 0⟩ := by
      rw [second_run, first_run]
      rfl
    intro fault result
    rw [finished] at result
    cases result
  have reads : Reads .records ["A, 1, G p", "A, 1, G p"]
      [.record ⟨"A", 1, "G p"⟩, .record ⟨"A", 1, "G p"⟩] := by rfl
  have chain := Chain.cut first ended .noReport (.last second undisturbed)
  have transparent := interruptions_transparent rfl reads (by decide) ⟨["s"], by rfl⟩ chain
  exact ⟨_, _, chain, rfl, transparent.1⟩

end MonitorBench.Batch
