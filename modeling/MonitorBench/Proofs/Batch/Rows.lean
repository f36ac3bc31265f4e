import Mathlib.Data.List.Chain
import Mathlib.Data.List.Infix
import MonitorBench.Proofs.Batch.Written

/-!
# The rows that a run adds

The statistics file may hold any bytes, end in the middle of a row, and be filled by a tool that
ends its rows or does not. What a run makes of it is told by the rows that it has started,
`rowsStarted`, each with the start of the tool for it if there was one. `Grew` says how two states
of a run differ: nothing that the file held is taken away or changed, and its rows are the old
ones and a line for each row that was started. One line of the work list makes the state grow
like this (`takeLine_grew`), so a whole run does, however it ends (`run_adds_rows`).
-/

set_option autoImplicit false

namespace MonitorBench.Batch

variable {σ : Type}

/-! ## Rows that are started -/

/-- A row that was started. -/
structure StartedRow where
  /-- The item that it is for. -/
  item : Item
  /-- The start of the tool for the item, if the tool was started. -/
  call? : Option Call
  deriving DecidableEq

/-- The line that the row is in the end: its start, and what the tool has written up to a line
feed. -/
def StartedRow.line (row : StartedRow) : Bytes :=
  Text.bytes row.item.rowStart ++ Text.firstRow 10 (row.call?.elim [] Call.written)

/-- The row that is started at the line at an index, if there is one: the start of the tool is the
one that the run has after the line and not before it. -/
def rowsAt (plan : Plan σ) (index : Nat) (line : String) (state : State σ) : List StartedRow :=
  match Item.parse plan.mode (Text.lineNumber index) line with
  | .error _ => []
  | .ok item =>
    if item.key ∈ state.finished then
      []
    else
      match Statistics.startRow state.disk plan.statistics item with
      | .error _ => []
      | .ok _ => [⟨item, ((takeLine plan index line state).1.calls.drop state.calls.length).head?⟩]

/-- The rows that are started from an index on, up to the first fault. -/
def rowsFrom (plan : Plan σ) : Nat → List String → State σ → List StartedRow
  | _, [], _ => []
  | index, line :: lines, state =>
    rowsAt plan index line state ++
      match takeLine plan index line state with
      | (_, some _) => []
      | (after, none) => rowsFrom plan (index + 1) lines after

/-- The rows that a run starts. -/
def rowsStarted (machine : Tool σ) (onFailure : FailurePolicy) (settings : BatchSettings)
    (statistics : String) (list : WorkList) (disk : Disk) (tool : σ) (out : Device) :
    List StartedRow :=
  match makeReady settings statistics list.mode disk with
  | (_, .error _) => []
  | (ready, .ok finished) =>
    rowsFrom (Plan.make machine onFailure settings statistics list) 0 list.lines
      { disk := ready, tool, out, finished }

section Line

variable {plan : Plan σ} {index : Nat} {line : String} {state : State σ} {item : Item}

/-- No row is started for a malformed line. -/
theorem rowsAt_malformed {fault : LineFault}
    (refused : Item.parse plan.mode (Text.lineNumber index) line = .error fault) :
    rowsAt plan index line state = [] := by
  simp only [rowsAt, refused]

/-- No row is started for an item that has a finished row. -/
theorem rowsAt_finished (read : Item.parse plan.mode (Text.lineNumber index) line = .ok item)
    (finished : item.key ∈ state.finished) : rowsAt plan index line state = [] := by
  simp only [rowsAt, read, if_pos finished]

/-- No row is started where the file cannot be written. -/
theorem rowsAt_refused (read : Item.parse plan.mode (Text.lineNumber index) line = .ok item)
    {fault : FileFault}
    (refused : Statistics.startRow state.disk plan.statistics item = .error fault) :
    rowsAt plan index line state = [] := by
  simp only [rowsAt, read, refused, ite_self]

/-- A row is started for any other item, with the start of the tool that there was for it. -/
theorem rowsAt_started (read : Item.parse plan.mode (Text.lineNumber index) line = .ok item)
    (fresh : item.key ∉ state.finished) {ready : Disk}
    (opened : RowStarted plan.statistics state.disk item ready) {calls : List Call}
    (made : (takeLine plan index line state).1.calls = state.calls ++ calls) :
    rowsAt plan index line state = [⟨item, calls.head?⟩] := by
  simp only [rowsAt, read, if_neg fresh, opened.started, made, List.drop_left]

end Line

/-! ## How the file grows -/

/-- What the file held at the starts of the tool and after them. -/
def moments (calls : List Call) : List Bytes :=
  calls.flatMap fun call => [call.seen, call.left]

/-- The tool was started for the item of the row, and has at most filled the row and ended it. -/
def StartedRow.Filled (row : StartedRow) : Prop :=
  ∀ call ∈ row.call?, call.formula = row.item.formula ∧
    call.left = call.seen ++ call.written ∧ Text.InOneRow 10 call.written

/-- What happened to the file between two states of a run. -/
structure Grew (statistics : String) (before : State σ) (rows : List StartedRow)
    (after : State σ) : Prop where
  /-- The tool was started for these rows only. -/
  calls : after.calls = before.calls ++ rows.filterMap StartedRow.call?
  /-- At each moment the file began with what it had held before. -/
  kept : (Statistics.content before.disk statistics ::
    moments (rows.filterMap StartedRow.call?) ++
      [Statistics.content after.disk statistics]).Pairwise (· <+: ·)
  /-- The tool has filled the rows. -/
  filled : ∀ row ∈ rows, row.Filled
  /-- The new rows come after the old ones. -/
  added : Text.rows 10 (Statistics.content after.disk statistics) =
    Text.rows 10 (Statistics.content before.disk statistics) ++ rows.map StartedRow.line

section Grew

variable {statistics : String} {before between after : State σ} {rows more : List StartedRow}
  {item : Item}

/-- Nothing has grown where neither the starts nor the content changed. -/
theorem Grew.idle (same_calls : after.calls = before.calls)
    (same : Statistics.content after.disk statistics =
      Statistics.content before.disk statistics) : Grew statistics before [] after where
  calls := by rw [same_calls]; exact (List.append_nil _).symm
  kept := by simp [moments, same]
  filled := by simp
  added := by rw [same]; exact (List.append_nil _).symm

/-- A row is started, and the tool is not. -/
theorem Grew.begun (opened : RowStarted statistics before.disk item after.disk)
    (same_calls : after.calls = before.calls) (one_line : '\n' ∉ item.key.toList) :
    Grew statistics before [⟨item, none⟩] after where
  calls := by rw [same_calls]; exact (List.append_nil _).symm
  kept := by
    rw [opened.content]
    simpa [moments] using Statistics.prefix_withRow _ item
  filled := by simp [StartedRow.Filled]
  added := by
    have nothing : Text.InOneRow (10 : UInt8) [] := ⟨[], [], rfl, by simp, Or.inl rfl⟩
    have row := Statistics.rows_withRow one_line nothing
      (Statistics.content before.disk statistics)
    rw [List.append_nil] at row
    rw [opened.content, row]
    rfl

/-- A row is started, and the tool fills it. -/
theorem Grew.served {machine : Tool σ} {states : σ → Prop} {ready left : Disk}
    {status : ExitStatus} {tool : σ}
    (writes : machine.Writes statistics states (Text.InOneRow 10)) (known : states before.tool)
    (opened : RowStarted statistics before.disk item ready)
    (ended : machine.start before.tool ready item.formula statistics = .ended status tool left)
    (one_line : '\n' ∉ item.key.toList) (out : Device) :
    states tool ∧
      Grew statistics before [⟨item, some (Call.of statistics item ready status left)⟩]
        ({ before with disk := ready, out }.ran (Call.of statistics item ready status left) tool
          left) := by
  have seen := (Statistics.opens_of_startRow opened.started).2
  obtain ⟨stays, written, one, opens⟩ := writes known seen ended
  have wrote : (Call.of statistics item ready status left).written = written :=
    Call.written_of seen opens
  rw [← opened.content] at seen opens
  have begins : Statistics.content before.disk statistics <+:
      Statistics.content ready statistics := by
    rw [opened.content]
    exact Statistics.prefix_withRow _ item
  have goes_on : Statistics.content ready statistics <+: Statistics.content left statistics := by
    rw [opens.content_eq]
    exact List.prefix_append _ _
  refine ⟨stays, rfl, ?_, ?_, ?_⟩
  · simp only [State.ran, List.filterMap_cons, List.filterMap_nil, moments, List.flatMap_cons,
      List.flatMap_nil, Call.of]
    simp [begins, goes_on, begins.trans goes_on]
  · intro row mem call of_row
    rw [List.mem_singleton] at mem
    subst mem
    cases of_row
    rw [wrote]
    exact ⟨rfl, opens.content_eq, one⟩
  · rw [State.ran, opens.content_eq, opened.content, Statistics.rows_withRow one_line one,
      List.map_singleton, StartedRow.line]
    simp only [Option.elim, wrote]

/-- Growing goes on where it has stopped. -/
theorem Grew.trans (first : Grew statistics before rows between)
    (rest : Grew statistics between more after) :
    Grew statistics before (rows ++ more) after where
  calls := by rw [rest.calls, first.calls, List.append_assoc, List.filterMap_append]
  kept := by
    -- both in one, with the state between them, which is then left out
    have both := List.IsChain.append_overlap first.kept.isChain rest.kept.isChain (by simp)
    refine (List.isChain_iff_pairwise.mp both).sublist ?_
    simp [moments]
  filled := by
    intro row mem
    exact (List.mem_append.mp mem).elim (first.filled row) (rest.filled row)
  added := by rw [rest.added, first.added, List.append_assoc, List.map_append]

end Grew

/-! ## Along a run -/

section Run

variable {states : σ → Prop}

/-- At a line the file grows by the row that is started, if there is one. -/
theorem takeLine_grew (plan : Plan σ)
    (writes : plan.tool.Writes plan.statistics states (Text.InOneRow 10)) (index : Nat)
    {line : String} (one_line : '\n' ∉ line.toList) {state : State σ} (known : states state.tool) :
    states (takeLine plan index line state).1.tool ∧
      Grew plan.statistics state (rowsAt plan index line state)
        (takeLine plan index line state).1 := by
  have taken := takeLine_cases plan index line state
  have started_row := @rowsAt_started σ plan index line state
  generalize takeLine plan index line state = result at taken started_row
  cases taken with
  | passed pass =>
    cases pass with
    | skipped read finished =>
      rw [rowsAt_finished read finished]
      exact ⟨known, .idle rfl rfl⟩
    | served read fresh opened reported ended kept =>
      rw [started_row read fresh opened rfl]
      exact Grew.served writes known opened ended (Item.newline_not_mem_key read one_line) _
  | stopped stop =>
    cases stop with
    | malformed refused =>
      rw [rowsAt_malformed refused]
      exact ⟨known, .idle rfl rfl⟩
    | noRow read fresh refused =>
      rw [rowsAt_refused read refused]
      exact ⟨known, .idle rfl rfl⟩
    | noReport read fresh opened | noStart read fresh opened =>
      rw [started_row read fresh opened (List.append_nil _).symm]
      exact ⟨known, .begun opened rfl (Item.newline_not_mem_key read one_line)⟩
    | aborted read fresh opened reported ended =>
      rw [started_row read fresh opened rfl]
      exact Grew.served writes known opened ended (Item.newline_not_mem_key read one_line) _

/-- Along the lines the file grows by the rows that are started. -/
theorem takeLines_grew (plan : Plan σ)
    (writes : plan.tool.Writes plan.statistics states (Text.InOneRow 10)) (lines : List String)
    (one_line : ∀ line ∈ lines, '\n' ∉ line.toList) (index : Nat) {state : State σ}
    (known : states state.tool) :
    Grew plan.statistics state (rowsFrom plan index lines state)
      (takeLines plan index lines state).1 := by
  induction lines generalizing index state with
  | nil => exact .idle rfl rfl
  | cons line lines ih =>
    obtain ⟨stays, here⟩ := takeLine_grew plan writes index (one_line line List.mem_cons_self) known
    rw [takeLines, rowsFrom]
    rcases taken : takeLine plan index line state with ⟨after, _ | fault⟩
    · rw [taken] at stays here
      exact here.trans (ih (fun line mem => one_line line (List.mem_cons_of_mem _ mem)) _ stays)
    · rw [taken] at here
      rwa [List.append_nil]

/-- Statistics whose rows are kept are not touched before the first row is started. -/
theorem makeReady_keeps {settings : BatchSettings}
    (keeps : settings.existingStatistics = .append) (statistics : String) (mode : InputMode)
    (disk : Disk) : (makeReady settings statistics mode disk).1 = disk := by
  simp only [makeReady, keeps, Statistics.prepare_append]
  split <;> rfl

/-- In a whole run the file grows by the rows that are started. -/
theorem run_grew {machine : Tool σ} (onFailure : FailurePolicy) {settings : BatchSettings}
    (keeps : settings.existingStatistics = .append) {statistics : String} {list : WorkList}
    (one_line : ∀ line ∈ list.lines, '\n' ∉ line.toList) (disk : Disk) {tool : σ}
    (known : states tool) (writes : machine.Writes statistics states (Text.InOneRow 10))
    (out : Device) :
    ∃ start : State σ, start.disk = disk ∧ start.calls = [] ∧
      Grew statistics start (rowsStarted machine onFailure settings statistics list disk tool out)
        (run machine onFailure settings statistics list disk tool out).state := by
  have untouched := makeReady_keeps keeps statistics list.mode disk
  rcases prepared : makeReady settings statistics list.mode disk with ⟨ready, fault | finished⟩
  · rw [prepared] at untouched
    cases untouched
    refine ⟨{ disk := ready, tool, out }, rfl, rfl, ?_⟩
    simp only [run, rowsStarted, prepared]
    exact .idle rfl rfl
  · rw [prepared] at untouched
    cases untouched
    refine ⟨{ disk := ready, tool, out, finished }, rfl, rfl, ?_⟩
    simp only [run, rowsStarted, prepared]
    have first : states ({ disk := ready, tool, out, finished } : State σ).tool := known
    have grew := takeLines_grew (Plan.make machine onFailure settings statistics list) writes
      list.lines one_line 0 first
    rcases taken : takeLines (Plan.make machine onFailure settings statistics list) 0 list.lines
      { disk := ready, tool, out, finished } with ⟨state, _ | fault⟩
    · rwa [taken] at grew
    · rwa [taken] at grew

/-- Whatever bytes the statistics file holds, and however the run ends: at each moment the file
begins with all that it has held before, and in the end its rows are those that it had, and then
one line for each row that the run has started, in order. The line is the start of the row and
what the tool has written before a line feed; where the tool was not started, that is nothing. -/
theorem run_adds_rows (machine : Tool σ) (onFailure : FailurePolicy) {settings : BatchSettings}
    (keeps : settings.existingStatistics = .append) (statistics : String) (list : WorkList)
    (one_line : ∀ line ∈ list.lines, '\n' ∉ line.toList) (disk : Disk) {tool : σ}
    (known : states tool) (writes : machine.Writes statistics states (Text.InOneRow 10))
    (out : Device) :
    let held := Statistics.content disk statistics
    let rows := rowsStarted machine onFailure settings statistics list disk tool out
    let outcome := run machine onFailure settings statistics list disk tool out
    let final := Statistics.content outcome.state.disk statistics
    rows.filterMap StartedRow.call? = outcome.state.calls ∧
      (∀ row ∈ rows, row.call? = none → row.line = Text.bytes row.item.rowStart) ∧
      (∀ row ∈ rows, ∀ call ∈ row.call?, call.formula = row.item.formula ∧
        ∃ written ending, call.left = call.seen ++ (written ++ ending) ∧
          10 ∉ written ∧ (ending = [] ∨ ending = [10]) ∧
          row.line = Text.bytes row.item.rowStart ++ written) ∧
      (held :: moments outcome.state.calls ++ [final]).Pairwise (· <+: ·) ∧
      Text.rows 10 final = Text.rows 10 held ++ rows.map StartedRow.line := by
  intro held rows outcome final
  obtain ⟨start, at_disk, no_calls, grew⟩ :=
    run_grew onFailure keeps one_line disk known writes out
  have calls : rows.filterMap StartedRow.call? = outcome.state.calls := by
    rw [grew.calls, no_calls, List.nil_append]
  refine ⟨calls, ?_, ?_, ?_, ?_⟩
  · intro row mem unserved
    rw [StartedRow.line, unserved]
    exact List.append_nil _
  · intro row mem call of_row
    obtain ⟨formula, left, written, ending, split, free, kind⟩ := grew.filled row mem call of_row
    refine ⟨formula, written, ending, split ▸ left, free, kind, ?_⟩
    rw [StartedRow.line, Option.mem_def.mp of_row]
    simp only [Option.elim, split, Text.firstRow_append free kind]
  · have kept := grew.kept
    rw [at_disk] at kept
    rw [← calls]
    exact kept
  · have added := grew.added
    rwa [at_disk] at added

/-- The file ends in the middle of a row that is no text; the tool leaves one row open, ends the
next, writes nothing to the third, and does not start for the fourth, which ends the run. -/
theorem run_adds_rows_cut_short :
    (∀ line ∈ ["p", "q", "r", "t", "u"], '\n' ∉ line.toList) ∧
      (∀ action ∈ [.append "1" (.exited 0), .append "2\n" .killed, .append "" (.exited 1)],
        ToolPlan.Harmless (Text.InOneRow 10) action) ∧
      (ToolPlan.mk [] (.refuse "tool" "gone")).tool.Writes "s"
        (fun script => ∀ action ∈ script, ToolPlan.Harmless (Text.InOneRow 10) action)
        (Text.InOneRow 10) ∧
      ∃ outcome,
        run (ToolPlan.mk [] (.refuse "tool" "gone")).tool .ignore {} "s"
          ⟨.raw, ["p", "q", "r", "t", "u"]⟩ ⟨[(["s"], .file [65, 10, 255])], [], []⟩
          [.append "1" (.exited 0), .append "2\n" .killed, .append "" (.exited 1)] {} = outcome ∧
        outcome.result = .error (.toolNotStarted "tool" "gone") ∧
        Text.rows 10 (Statistics.content outcome.state.disk "s") =
          [[65], [255], Text.bytes "p, 1", Text.bytes "q, 2", Text.bytes "r, ",
            Text.bytes "t, "] := by
  have one_line : ∀ line ∈ ["p", "q", "r", "t", "u"], '\n' ∉ line.toList := by decide
  have harmless : ∀ action ∈ [PlannedAction.append "1" (.exited 0), .append "2\n" .killed,
      .append "" (.exited 1)], ToolPlan.Harmless (Text.InOneRow 10) action := by
    simp only [List.forall_mem_cons, ToolPlan.Harmless, PlannedAction.append.injEq]
    refine ⟨?_, ?_, ?_, by simp⟩
    · rintro text status ⟨rfl, -⟩
      exact ⟨[49], [], by decide, by decide, Or.inl rfl⟩
    · rintro text status ⟨rfl, -⟩
      exact ⟨[50], [10], by decide, by decide, Or.inr rfl⟩
    · rintro text status ⟨rfl, -⟩
      exact ⟨[], [], by decide, by decide, Or.inl rfl⟩
  have refuses : ToolPlan.Harmless (Text.InOneRow 10) (.refuse "tool" "gone") := by
    rintro text status ⟨⟩
  have writes := @ToolPlan.writes_of_harmless (Text.InOneRow 10) _ refuses "s"
  have keeps : ({} : BatchSettings).existingStatistics = .append := rfl
  obtain ⟨-, -, -, -, rows⟩ := run_adds_rows (ToolPlan.mk [] (.refuse "tool" "gone")).tool .ignore
    keeps "s" ⟨.raw, ["p", "q", "r", "t", "u"]⟩ one_line
    ⟨[(["s"], .file [65, 10, 255])], [], []⟩ harmless writes {}
  exact ⟨one_line, harmless, writes, _, rfl, by decide +kernel, rows.trans (by decide +kernel)⟩

end Run

end MonitorBench.Batch
