import MonitorBench.Proofs.Batch.Order
import MonitorBench.Proofs.Progress
import MonitorBench.Proofs.Statistics.Growth
import MonitorBench.Proofs.Tool.Appends

/-!
# Runs of a tool that appends

When every start of the tool appends a text to the statistics file, the content of the file is
known all along a run: it is `grown` by one row for each start (`Served.wrote`). When what it
appends is bytes that end the row, a new file consists of the rows of the items
(`Served.ended_rows`). Either way the file can always be opened, so of the five reasons to stop
only those are left that lie with the progress output and the tool. If they are ruled out as well,
a run over well-formed lines gets to its end (`run_to_end`, `run_through`).
-/

set_option autoImplicit false

namespace MonitorBench

/-- Settings under which a run goes on from the statistics that are there. -/
structure BatchSettings.Resuming (settings : BatchSettings) : Prop where
  /-- The rows that are there are kept. -/
  keeps : settings.existingStatistics = .append
  /-- Items with a finished row are skipped. -/
  resumes : settings.resume = true

namespace Batch

variable {σ : Type} {machine : Tool σ} {states : σ → Prop} {fits : String → Prop}
  {fit : Bytes → Prop} {statistics : String} {items : List Item} {calls : List Call} {tool next : σ}
  {disk after : Disk} {held : Bytes}

/-- A resuming run leaves the disk as it is, and counts the finished rows that are there. -/
theorem makeReady_resuming {settings : BatchSettings} (h : settings.Resuming) {text : String}
    (opens : Statistics.Opens disk statistics (Text.bytes text)) (mode : InputMode) :
    makeReady settings statistics mode disk =
      (disk, .ok (Statistics.finishedKeys mode text)) := by
  simp only [makeReady, h.keeps, Statistics.prepare_append, h.resumes, if_true, opens.finishedIn]
  rfl

/-! ## What the tool wrote -/

/-- What the tool appended to the file. -/
def Call.written (call : Call) : Bytes :=
  call.left.drop call.seen.length

/-- What a start wrote is what was appended between its beginning and its end. -/
theorem Call.written_of {item : Item} {ready : Disk} {status : ExitStatus} {appended : Bytes}
    (started : Statistics.Opens ready statistics held)
    (ended : Statistics.Opens after statistics (held ++ appended)) :
    (Call.of statistics item ready status after).written = appended := by
  simp [written, Call.of, started.content_eq, ended.content_eq]

/-- The texts that the tool appended for the items, one for each start. -/
structure Wrote (fits : String → Prop) (items : List Item) (calls : List Call)
    (outputs : List String) : Prop where
  /-- There is one text for each item. -/
  length_eq : outputs.length = items.length
  /-- Each text is of the kind that the tool writes. -/
  fit : ∀ output ∈ outputs, fits output
  /-- Each text is what one start appended. -/
  written : calls.map Call.written = outputs.map Text.bytes

/-- When the row of an item is started, the file is grown by the start of the row. -/
theorem RowStarted.opens {item : Item} (h : RowStarted statistics disk item after)
    (opens : Statistics.Opens disk statistics held) :
    Statistics.Opens after statistics (Statistics.withRow held item) := by
  rw [← opens.content_eq]
  exact (Statistics.opens_of_startRow h.started).2

/-- A tool that appends leaves a file that is grown by one row for each item. -/
theorem Served.wrote (served : Served machine statistics tool disk items calls next after)
    (appends : machine.Appends statistics states fits) (ready : states tool)
    (opens : Statistics.Opens disk statistics held) :
    states next ∧ ∃ outputs, Wrote fits items calls outputs ∧
      Statistics.Opens after statistics (Statistics.grown held (items.zip outputs)) := by
  induction served with
  | nil => exact ⟨ready, [], ⟨rfl, by simp, rfl⟩, opens⟩
  | @snoc items calls between next left before after item status served opened ended ih =>
    obtain ⟨known, outputs, wrote, grown⟩ := ih
    have started := opened.opens grown
    obtain ⟨stays, output, fit, opens_after⟩ := appends known started ended
    refine ⟨stays, outputs ++ [output], ⟨?_, ?_, ?_⟩, ?_⟩
    · simp [wrote.length_eq]
    · intro text mem
      rcases List.mem_append.mp mem with earlier | last
      · exact wrote.fit text earlier
      · rwa [List.mem_singleton.mp last]
    · simp only [List.map_append, List.map_singleton, wrote.written,
        Call.written_of started opens_after]
    · rw [List.zip_append wrote.length_eq.symm, List.zip_cons_cons, List.zip_nil_left,
        Statistics.grown_snoc]
      exact opens_after

/-- Whatever bytes the tool writes, the file can be opened when it has ended. -/
theorem Served.opens (served : Served machine statistics tool disk items calls next after)
    (writes : machine.Writes statistics states fit) (ready : states tool)
    (opens : Statistics.Opens disk statistics held) :
    states next ∧ ∃ later, Statistics.Opens after statistics later := by
  induction served with
  | nil => exact ⟨ready, held, opens⟩
  | snoc _ opened ended ih =>
    obtain ⟨known, before, stood⟩ := ih
    obtain ⟨stays, added, -, left⟩ := writes known (opened.opens stood) ended
    exact ⟨stays, _, left⟩

/-- The bytes of rows of items that payloads were written to and ended. -/
def endedRows (rows : List (Item × Bytes)) : Bytes :=
  rows.flatMap fun row => Text.bytes row.1.rowStart ++ row.2 ++ [10]

/-- A tool that ends each row leaves in an empty file the rows of the items, and nothing else. -/
theorem Served.ended_rows (served : Served machine statistics tool disk items calls next after)
    (writes : machine.Writes statistics states (Text.EndedRow 10)) (ready : states tool)
    (opens : Statistics.Opens disk statistics []) :
    states next ∧ ∃ payloads : List Bytes,
      payloads.length = items.length ∧
      (∀ payload ∈ payloads, 10 ∉ payload) ∧
      calls.map Call.written = payloads.map (· ++ [10]) ∧
      Text.atRowStart 10 (endedRows (items.zip payloads)) = true ∧
      Statistics.Opens after statistics (endedRows (items.zip payloads)) := by
  induction served with
  | nil => exact ⟨ready, [], rfl, by simp, rfl, rfl, opens⟩
  | @snoc items calls between next left before after item status served opened ended ih =>
    obtain ⟨known, payloads, lengths, one_line, written, at_start, stood⟩ := ih
    have started := opened.opens stood
    obtain ⟨stays, added, ⟨payload, rfl, free⟩, opens_after⟩ := writes known started ended
    have grown : endedRows ((items ++ [item]).zip (payloads ++ [payload])) =
        Statistics.withRow (endedRows (items.zip payloads)) item ++ (payload ++ [10]) := by
      rw [List.zip_append lengths.symm, Statistics.withRow,
        if_pos (Text.atRowStart_iff.mp at_start), List.append_nil]
      simp [endedRows]
    refine ⟨stays, payloads ++ [payload], ?_, ?_, ?_, ?_, ?_⟩
    · simp [lengths]
    · intro other mem
      rcases List.mem_append.mp mem with earlier | last
      · exact one_line other earlier
      · rwa [List.mem_singleton.mp last]
    · simp only [List.map_append, List.map_singleton, written,
        Call.written_of started opens_after]
    · rw [grown, ← List.append_assoc]
      exact Text.atRowStart_append_separator 10 _
    · rwa [grown]

/-! ## Runs that nothing stops -/

/-- A run never makes an output limited. -/
theorem Course.unlimited {plan : Plan σ} {start state : State σ} {done : List String}
    (course : Course plan start done state) (h : start.out.capacity = none) :
    state.out.capacity = none := by
  induction course with
  | nil => exact h
  | @snoc done line before after course pass ih =>
    cases pass with
    | skipped => exact ih
    | served read fresh opened reported ended kept =>
      have still := (plan.progress.beforeItem_unlimited ih done.length).2
      rwa [reported] at still

/-- Nothing stops a run at a well-formed line when the file can be opened, the output has no limit,
the tool always starts, and its exit code is ignored. -/
theorem not_stops {plan : Plan σ} {index : Nat} {line : String} {item : Item} {state last : State σ}
    {fault : Fault} (well_formed : Item.parse plan.mode (Text.lineNumber index) line = .ok item)
    (opens : Statistics.Opens state.disk plan.statistics held)
    (unlimited : state.out.capacity = none) (known : states state.tool)
    (starts : plan.tool.Starts plan.statistics states) (ignore : plan.onFailure = .ignore) :
    ¬ Stops plan index line state last fault := by
  intro stop
  cases stop with
  | malformed refused =>
    rw [well_formed] at refused
    cases refused
  | @noRow item _ read fresh refused =>
    obtain ⟨opened, started, -⟩ := opens.startRow item
    rw [started] at refused
    cases refused
  | noReport read fresh opened refused =>
    have reported := (plan.progress.beforeItem_unlimited unlimited index).1
    rw [refused] at reported
    cases reported
  | @noStart item _ _ _ _ read fresh opened reported failed =>
    obtain ⟨status, next, left, started⟩ := starts item.formula known (opened.opens opens)
    rw [started] at failed
    cases failed
  | aborted read fresh opened reported ended unsuccessful abort =>
    rw [ignore] at abort
    cases abort

/-- Over well-formed lines, with statistics that can be opened, an output without a limit and a tool
that always starts and writes to the file, a run that ignores exit codes gets past the last
line. -/
theorem run_to_end {settings : BatchSettings} (list : WorkList) {finished : List String}
    {out : Device} {ready : Disk} (reads : Reads list.mode list.lines items)
    (prepared : makeReady settings statistics list.mode disk = (ready, .ok finished))
    (opens : Statistics.Opens ready statistics held) (unlimited : out.capacity = none)
    (known : states tool) (starts : machine.Starts statistics states)
    (writes : machine.Writes statistics states fit) :
    ∃ state, run machine .ignore settings statistics list disk tool out =
        ⟨state, .ok (state.summary list.total)⟩ ∧
      Standing (Plan.make machine .ignore settings statistics list) finished tool ready list.lines
        items state := by
  obtain ⟨taken, finish, ran⟩ := run_finish machine .ignore prepared tool out
  cases finish with
  | @through last course =>
    obtain ⟨others, stood⟩ := course.standing
    rw [reads.unique stood.reads] at stood
    exact ⟨last, ran, stood⟩
  | @stopped done rest line before after fault split course stop =>
    obtain ⟨others, stood⟩ := course.standing
    obtain ⟨stays, later, left⟩ := stood.served.opens writes known opens
    rw [split] at reads
    obtain ⟨-, item, -, -, -, well_formed⟩ := reads.split
    exact absurd stop
      (not_stops well_formed left (course.unlimited unlimited) stays starts rfl)

/-- So does a run of a tool that appends texts. -/
theorem run_through {settings : BatchSettings} {list : WorkList} {finished : List String}
    {out : Device} {ready : Disk} (reads : Reads list.mode list.lines items)
    (prepared : makeReady settings statistics list.mode disk = (ready, .ok finished))
    (opens : Statistics.Opens ready statistics held) (unlimited : out.capacity = none)
    (known : states tool) (starts : machine.Starts statistics states)
    (appends : machine.Appends statistics states fits) :
    ∃ state, run machine .ignore settings statistics list disk tool out =
        ⟨state, .ok (state.summary list.total)⟩ ∧
      Standing (Plan.make machine .ignore settings statistics list) finished tool ready list.lines
        items state := by
  have writes : machine.Writes statistics states fun _ => True := appends.writes fun _ _ => trivial
  exact run_to_end list reads prepared opens unlimited known starts writes

end Batch

end MonitorBench
