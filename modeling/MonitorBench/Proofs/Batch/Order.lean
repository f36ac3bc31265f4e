import MonitorBench.Proofs.Batch.Items
import MonitorBench.Proofs.Batch.Step
import MonitorBench.Tool.Planned

/-!
# Order and stopping of a run

A run takes the lines of its work list in order up to a line that stops it. `Served` is the
history of the tool in a run: for the items one after the other, the row of the item is started
on the disk that the tool left before, and the tool is started on that. `Standing` says how a
run stands after some lines: which items they hold, that the tool was started for exactly those
that no finished row covers, and what is left of the finished rows. It holds along every course
(`Course.standing`), and `run_in_order` reads off what a whole run has done when it stops.
-/

set_option autoImplicit false

namespace MonitorBench.Batch

variable {σ : Type}

/-- The tool in state `tool` on `disk` is started for the items in order and ends each time, with
`calls` to show for it. -/
inductive Served (machine : Tool σ) (statistics : String) (tool : σ) (disk : Disk) :
    List Item → List Call → σ → Disk → Prop where
  | nil : Served machine statistics tool disk [] [] tool disk
  | snoc {items : List Item} {calls : List Call} {between next : σ} {left ready after : Disk}
      {item : Item} {status : ExitStatus}
      (served : Served machine statistics tool disk items calls between left)
      (opened : RowStarted statistics left item ready)
      (ended : machine.start between ready item.formula statistics = .ended status next after) :
      Served machine statistics tool disk (items ++ [item])
        (calls ++ [Call.of statistics item ready status after]) next after

section Served

variable {machine : Tool σ} {statistics : String} {tool next : σ} {disk after : Disk}
  {items : List Item} {calls : List Call}

/-- Each start is for its item's formula. -/
theorem Served.formulas (h : Served machine statistics tool disk items calls next after) :
    calls.map Call.formula = items.map Item.formula := by
  induction h with
  | nil => rfl
  | snoc _ _ _ ih => simp [ih, Call.of]

/-- For no items, no tool is started and nothing changes. -/
theorem Served.eq_of_nil (h : Served machine statistics tool disk [] calls next after) :
    calls = [] ∧ after = disk := by
  generalize none_left : ([] : List Item) = items at h
  cases h with
  | nil => exact ⟨rfl, rfl⟩
  | snoc => simp at none_left

/-- The tool was started once for each item. -/
theorem Served.length_eq (h : Served machine statistics tool disk items calls next after) :
    calls.length = items.length := by
  simpa using congrArg List.length h.formulas

/-- After the last start the file holds what that start left. -/
theorem Served.content_eq (h : Served machine statistics tool disk items calls next after) :
    Statistics.content after statistics =
      (calls.map Call.left).getLast?.getD (Statistics.content disk statistics) := by
  cases h with
  | nil => rfl
  | snoc _ _ _ => simp [Call.of]

/-- Each start sees what the start before it left, with the row of its item started. -/
theorem Served.contents (h : Served machine statistics tool disk items calls next after) :
    calls.map Call.seen =
      List.zipWith Statistics.withRow
        (Statistics.content disk statistics :: calls.map Call.left) items := by
  induction h with
  | nil => rfl
  | @snoc items calls between next left ready after item status served opened ended ih =>
    -- what the earlier starts left ends in what is there now
    obtain ⟨init, split⟩ : ∃ init, Statistics.content disk statistics :: calls.map Call.left =
        init ++ [Statistics.content left statistics] := by
      rw [← List.getLast?_eq_some_iff, List.getLast?_cons, served.content_eq]
    have lengths : init.length = items.length := by
      have total := congrArg List.length split
      have started := served.length_eq
      simp only [List.length_cons, List.length_map, List.length_append, List.length_nil] at total
      omega
    have earlier : List.zipWith Statistics.withRow
        (init ++ [Statistics.content left statistics]) items =
        List.zipWith Statistics.withRow init items := by
      rw [← List.append_nil items, List.zipWith_append (by simpa using lengths)]
      simp
    rw [List.map_append, List.map_append, ih, ← List.cons_append, split, earlier,
      List.append_assoc, List.zipWith_append lengths]
    simp [Call.of, opened.content, Statistics.withRow]

end Served

/-- How a run stands after the lines `done`, which hold `items`: `finished` were the keys of the
finished rows, and the run began with the tool in state `tool` on `disk`. -/
structure Standing (plan : Plan σ) (finished : List String) (tool : σ) (disk : Disk)
    (done : List String) (items : List Item) (state : State σ) : Prop where
  /-- Every line is well-formed. -/
  reads : Reads plan.mode done items
  /-- The tool was started for the items that no finished row covers, in order. -/
  served : Served plan.tool plan.statistics tool disk (unfinished finished items) state.calls
    state.tool state.disk
  /-- The other items were skipped. -/
  skipped : state.skipped + state.calls.length = items.length
  /-- No start ended in a way that the policy forbids. -/
  kept : ∀ call ∈ state.calls, call.status.isSuccess = true ∨ plan.onFailure = .ignore
  /-- The starts that did not end with zero are counted. -/
  nonzero : state.nonzeroExits = state.calls.countP fun call => !call.status.isSuccess
  /-- Each item has used up one finished row of its key, as long as there was one. -/
  remaining : ∀ key, state.finished.count key = finished.count key - (keys items).count key

/-- A key has a finished row left exactly when fewer items had it than there were rows. -/
theorem Standing.mem_finished_iff {plan : Plan σ} {finished done : List String} {tool : σ}
    {disk : Disk} {items : List Item} {state : State σ}
    (h : Standing plan finished tool disk done items state) (key : String) :
    key ∈ state.finished ↔ (keys items).count key < finished.count key := by
  have left := h.remaining key
  rw [← List.count_pos_iff]
  omega

/-- A run stands like this along its whole course. -/
theorem Course.standing {plan : Plan σ} {finished done : List String} {tool : σ} {disk : Disk}
    {out : Device} {state : State σ}
    (course : Course plan { disk, tool, out, finished } done state) :
    ∃ items, Standing plan finished tool disk done items state := by
  induction course with
  | nil => exact ⟨[], .nil _, .nil, rfl, by simp, rfl, by simp [keys]⟩
  | @snoc done line before after _ pass ih =>
    obtain ⟨items, stood⟩ := ih
    cases pass with
    | @skipped item read covered =>
      have rows_left := (stood.mem_finished_iff item.key).mp covered
      refine ⟨items ++ [item], stood.reads.snoc read, ?_, ?_, stood.kept, stood.nonzero, ?_⟩
      · rw [unfinished_snoc, if_neg (Nat.not_le.mpr rows_left), List.append_nil]
        exact stood.served
      · have total := stood.skipped
        simp only [List.length_append, List.length_singleton]
        omega
      · intro key
        have left := stood.remaining key
        rw [keys_append, List.count_append, List.count_erase, left]
        by_cases same : item.key = key
        · subst same
          simp [keys, Nat.sub_sub]
        · simp [keys, same]
    | @served item ready after out status tool read fresh opened reported ended kept =>
      have no_row := mt (stood.mem_finished_iff item.key).mpr fresh
      refine ⟨items ++ [item], stood.reads.snoc read, ?_, ?_, ?_, ?_, ?_⟩
      · rw [unfinished_snoc, if_pos (Nat.not_lt.mp no_row)]
        exact stood.served.snoc opened ended
      · have total := stood.skipped
        simp only [State.ran, List.length_append, List.length_singleton]
        omega
      · intro call mem
        rcases List.mem_append.mp mem with earlier | last
        · exact stood.kept call earlier
        · rw [List.mem_singleton.mp last]
          exact kept
      · have counted := stood.nonzero
        simp only [State.ran, List.countP_append, List.countP_singleton, Call.of, ← counted]
        by_cases success : status.isSuccess = true <;> simp [success]
      · intro key
        have left := stood.remaining key
        rw [keys_append, List.count_append]
        by_cases same : item.key = key
        · subst same
          have none_left := Nat.not_lt.mp no_row
          simp only [State.ran, left]
          omega
        · simp [State.ran, left, keys, same]

/-! ## Whole runs -/

/-- What a run over `lines` has done when it stops: `items` are those of the lines before the line
that stops it, `state` is the state before that line, and `outcome` is what the run leaves. -/
structure Halted (plan : Plan σ) (finished : List String) (tool : σ) (ready : Disk) (out : Device)
    (lines : List String) (items : List Item) (state : State σ) (outcome : Outcome σ) : Prop
    extends Standing plan finished tool ready (lines.take items.length) items state where
  /-- Every line before it let the run go on. -/
  course : Course plan { disk := ready, tool, out, finished } (lines.take items.length) state
  /-- The tool was started once for each item that no finished row covers, with its formula. -/
  formulas : state.calls.map Call.formula = (unfinished finished items).map Item.formula
  /-- Each start saw what the one before it left, with the row of its own item started. -/
  contents : state.calls.map Call.seen =
    List.zipWith Statistics.withRow
      (Statistics.content ready plan.statistics :: state.calls.map Call.left)
      (unfinished finished items)
  /-- The file is as the last start left it. -/
  current : Statistics.content state.disk plan.statistics =
    (state.calls.map Call.left).getLast?.getD (Statistics.content ready plan.statistics)
  /-- The next line stops the run, or there is none. -/
  stop : match lines[items.length]? with
    | none => outcome = ⟨state, .ok (state.summary lines.length)⟩
    | some line => ∃ after fault, Stops plan items.length line state after fault ∧
        outcome = ⟨after, .error fault⟩

/-- Once the statistics are ready, a run takes its lines in order up to the first one that stops
it: it starts the tool for exactly the items that no finished row covers, and what comes of the
line that stops it is all that follows. -/
theorem run_in_order (machine : Tool σ) (onFailure : FailurePolicy) (settings : BatchSettings)
    (statistics : String) (list : WorkList) (disk : Disk) (tool : σ) (out : Device) {ready : Disk}
    {finished : List String}
    (prepared : makeReady settings statistics list.mode disk = (ready, .ok finished)) :
    ∃ items state,
      Halted (Plan.make machine onFailure settings statistics list) finished tool ready out
        list.lines items state (run machine onFailure settings statistics list disk tool out) := by
  obtain ⟨taken, finish, ran⟩ := run_finish machine onFailure prepared tool out
  rw [ran]
  cases finish with
  | @through last course =>
    obtain ⟨items, stood⟩ := course.standing
    have all := stood.reads.length_eq
    refine ⟨items, last, ?_, ?_, stood.served.formulas, stood.served.contents,
      stood.served.content_eq, ?_⟩
    · rwa [all, List.take_length]
    · rwa [all, List.take_length]
    · rw [all, List.getElem?_eq_none (Nat.le_refl _)]
      rfl
  | @stopped done rest line before after fault split course stop =>
    obtain ⟨items, stood⟩ := course.standing
    have passed := stood.reads.length_eq
    refine ⟨items, before, ?_, ?_, stood.served.formulas, stood.served.contents,
      stood.served.content_eq, ?_⟩
    · rwa [passed, split, List.take_left]
    · rwa [passed, split, List.take_left]
    · rw [passed, split, List.getElem?_append_right (Nat.le_refl _), Nat.sub_self]
      exact ⟨after, fault, stop, rfl⟩

/-- A resumed run over a file whose row was never ended: the first item is covered by that row, the
tool runs for the second on a line of its own, and what it exits with ends the run before the
third. -/
theorem run_in_order_open_row :
    let machine := (ToolPlan.mk [] (.append "2\n" (.exited 1))).tool
    let settings : BatchSettings := { resume := true }
    let list : WorkList := ⟨.raw, ["G p", "F q", "X r"]⟩
    let disk : Disk := ⟨[(["s"], .file (Text.bytes "G p, 1"))], [], []⟩
    let outcome := run machine .abort settings "s" list disk [] {}
    let call : Call :=
      ⟨"F q", "s", Text.bytes "G p, 1\nF q, ", .exited 1, Text.bytes "G p, 1\nF q, 2\n"⟩
    (∃ before, Halted (Plan.make machine .abort settings "s" list) ["G p"] [] disk {} list.lines
        [.raw "G p"] before outcome ∧ before.calls = [] ∧ before.skipped = 1) ∧
      outcome.state.calls = [call] ∧ outcome.result = .error (.toolFailed "F q" (some 1)) := by
  intro machine settings list disk outcome call
  have started : outcome.state.calls = [call] := by decide +kernel
  have skipped : outcome.state.skipped = 1 := by decide +kernel
  have failed : outcome.result = .error (.toolFailed "F q" (some 1)) := by decide +kernel
  have prepared : makeReady settings "s" .raw disk = (disk, .ok ["G p"]) := by rfl
  obtain ⟨items, before, halted⟩ :=
    run_in_order machine .abort settings "s" list disk [] {} prepared
  refine ⟨⟨before, ?_⟩, started, failed⟩
  have stop := halted.stop
  split at stop
  next =>
    have ended : outcome = ⟨before, .ok (before.summary list.lines.length)⟩ := stop
    rw [ended] at failed
    cases failed
  next =>
    obtain ⟨after, fault, stops, ended⟩ := stop
    have ended : outcome = ⟨after, .error fault⟩ := ended
    rw [ended] at started skipped failed
    -- only a start that the policy forbids ends a run with this fault
    cases stops with
    | malformed => cases failed
    | noRow => cases failed
    | noReport => cases failed
    | noStart => cases failed
    | aborted =>
      have calls : before.calls = [] := by simpa [State.ran] using congrArg List.length started
      have items_length : items.length = 1 := by
        rw [← halted.skipped, calls]
        exact skipped
      have read := halted.reads
      rw [items_length] at read
      obtain rfl : [.raw "G p"] = items := read.unique rfl
      exact ⟨halted, calls, skipped⟩

end MonitorBench.Batch
