import MonitorBench.Proofs.Batch.Rows
import MonitorBench.Proofs.Tool.Oblivious

/-!
# Old statistics are not looked at

Without resuming, and when statistics are cleared, a run learns nothing from the rows that are
there before it. Two runs are compared that differ in nothing but the old content of the
statistics file: the one finds no file, the other some bytes. `Abreast` relates their states: what
the runs have done is the same, and either both files are as they were found or the same was
written on both, on the one to an empty file, on the other behind the old content. One line keeps
two states abreast (`Abreast.takeLine`), so all lines do, and `old_statistics_unseen` is what
remains to be seen of it from outside.
-/

set_option autoImplicit false

namespace MonitorBench

/-! ## Behind the old content -/

namespace Statistics

/-- What the first new row is started behind: the old content, with its last row ended. -/
def lead (held : Bytes) : Bytes :=
  held ++ rowBreak held

/-- A row is started behind the old content with its last row ended. -/
theorem withRow_eq_lead (held : Bytes) (item : Item) :
    withRow held item = lead held ++ Text.bytes item.rowStart := by
  rw [lead, withRow, rowBreak_eq]

/-- In an empty file a row stands at the start. -/
theorem withRow_nil (item : Item) : withRow [] item = Text.bytes item.rowStart :=
  withRow_eq_lead [] item

/-- With a row started a file is not empty. -/
theorem withRow_ne_nil (held : Bytes) (item : Item) : withRow held item ≠ [] := by
  have begun : Text.bytes item.rowStart ≠ [] := by
    rw [Text.bytes, Ne, Text.encode_eq_nil_iff]
    simp [Item.rowStart, fieldSeparator]
  rw [withRow_eq_lead]
  exact List.append_ne_nil_of_right_ne_nil _ begun

/-- Whether a row has to be ended is read off the last byte; what comes before does not matter. -/
theorem withRow_append {written : Bytes} (some_row : written ≠ []) (before : Bytes) (item : Item) :
    withRow (before ++ written) item = before ++ withRow written item := by
  have last : rowBreak (before ++ written) = rowBreak written := by
    rw [rowBreak, rowBreak, List.getLast?_append_of_ne_nil _ some_row]
  rw [withRow_eq_lead, withRow_eq_lead, lead, lead, last]
  simp only [List.append_assoc]

/-- Something was written, and the same on both disks: to an empty file, and behind the old
content. -/
def WrittenBehind (statistics : String) (held : Bytes) (disk other : Disk) : Prop :=
  ∃ written, written ≠ [] ∧ Twins statistics disk other written (lead held ++ written)

end Statistics

namespace Batch

variable {σ : Type}

/-! ## Two states -/

/-- The run that found no file and the run that found `held` on an otherwise equal disk have come
equally far, and have started the rows of the items. -/
structure Abreast (statistics : String) (alike : σ → σ → Prop) (bare disk : Disk) (held : Bytes)
    (items : List Item) (new old : State σ) : Prop where
  tool : alike new.tool old.tool
  out : old.out = new.out
  none_finished : new.finished = [] ∧ old.finished = []
  formulas : old.calls.map Call.formula = new.calls.map Call.formula
  skipped : old.skipped = new.skipped
  nonzeroExits : old.nonzeroExits = new.nonzeroExits
  files : items = [] ∧ new.disk = bare ∧ old.disk = disk ∨
    items ≠ [] ∧ Statistics.WrittenBehind statistics held new.disk old.disk

section Abreast

variable {statistics : String} {alike : σ → σ → Prop} {bare disk : Disk} {held : Bytes}
  {items : List Item} {new old : State σ} {item : Item}

/-- Once a row is started, the same was written on both disks. -/
theorem Abreast.written (h : Abreast statistics alike bare disk held items new old)
    (begun : items ≠ []) : Statistics.WrittenBehind statistics held new.disk old.disk := by
  rcases h.files with ⟨nothing, -, -⟩ | ⟨-, written⟩
  · exact absurd nothing begun
  · exact written

/-- Until a row is started, the disk with the old content is as it was found. -/
theorem Abreast.untouched (h : Abreast statistics alike bare disk held items new old)
    (none_begun : items = []) : old.disk = disk := by
  rcases h.files with ⟨-, -, as_found⟩ | ⟨begun, -⟩
  · exact as_found
  · exact absurd none_begun begun

/-- The summaries of runs that have come equally far are the same. -/
theorem Abreast.summary (h : Abreast statistics alike bare disk held items new old) (total : Nat) :
    old.summary total = new.summary total := by
  have invoked : old.calls.length = new.calls.length := by
    simpa only [List.length_map] using congrArg List.length h.formulas
  rw [State.summary, State.summary, invoked, h.skipped, h.nonzeroExits]

/-- A row can be started on both disks: the first one starts the writing, the others go on with
it. -/
theorem Abreast.bothStart (h : Abreast statistics alike bare disk held items new old)
    (twins : Statistics.Twins statistics bare disk [] held) (item : Item) :
    ∃ ready ready', Statistics.startRow new.disk statistics item = .ok ready ∧
      Statistics.startRow old.disk statistics item = .ok ready' ∧
      Statistics.WrittenBehind statistics held ready ready' := by
  rcases h.files with ⟨-, as_found, as_found'⟩ | ⟨-, written, some_row, twins⟩
  · obtain ⟨ready, ready', started, started', grown⟩ := twins.startRow item
    rw [Statistics.withRow_eq_lead held, ← Statistics.withRow_nil] at grown
    rw [as_found, as_found']
    exact ⟨ready, ready', started, started', _, Statistics.withRow_ne_nil [] item, grown⟩
  · obtain ⟨ready, ready', started, started', grown⟩ := twins.startRow item
    rw [Statistics.withRow_append some_row] at grown
    exact ⟨ready, ready', started, started', _, Statistics.withRow_ne_nil written item, grown⟩

/-- A row that is started in the one run is started in the other. -/
theorem Abreast.startRow (h : Abreast statistics alike bare disk held items new old)
    (twins : Statistics.Twins statistics bare disk [] held) {ready : Disk}
    (opened : RowStarted statistics new.disk item ready) (out : Device) :
    ∃ ready', RowStarted statistics old.disk item ready' ∧
      Abreast statistics alike bare disk held (items ++ [item])
        { new with disk := ready, out } { old with disk := ready', out } := by
  obtain ⟨same, ready', started, started', written⟩ := h.bothStart twins item
  rw [opened.started] at started
  cases started
  exact ⟨ready', .of_startRow started', { h with
    out := rfl
    files := Or.inr ⟨by simp, written⟩ }⟩

/-- Started on the new row, the tool goes alike in both runs. -/
theorem Abreast.launch {machine : Tool σ} (oblivious : machine.Oblivious statistics alike)
    (h : Abreast statistics alike bare disk held items new old) (begun : items ≠ [])
    (formula : String) :
    ∃ written, Launch.Alike statistics alike written (Statistics.lead held ++ written)
      (machine.start new.tool new.disk formula statistics)
      (machine.start old.tool old.disk formula statistics) ∧ written ≠ [] := by
  obtain ⟨written, some_row, twins⟩ := h.written begun
  have behind := List.append_ne_nil_of_right_ne_nil (Statistics.lead held) some_row
  exact ⟨written, oblivious formula h.tool twins some_row behind, some_row⟩

/-- If the tool does not start in the one run, it does not in the other. -/
theorem Abreast.noStart {machine : Tool σ} (oblivious : machine.Oblivious statistics alike)
    (h : Abreast statistics alike bare disk held items new old) (begun : items ≠ [])
    {program reason : String}
    (failed : machine.start new.tool new.disk item.formula statistics = .failed program reason) :
    machine.start old.tool old.disk item.formula statistics = .failed program reason := by
  obtain ⟨written, went, -⟩ := h.launch oblivious begun item.formula
  rw [failed] at went
  generalize machine.start old.tool old.disk item.formula statistics = launched at went
  cases went
  rfl

/-- If the tool ends in the one run, it does in the other, and has done the same. -/
theorem Abreast.ran {machine : Tool σ} (oblivious : machine.Oblivious statistics alike)
    (h : Abreast statistics alike bare disk held items new old) (begun : items ≠ [])
    {status : ExitStatus} {tool : σ} {after : Disk}
    (ended : machine.start new.tool new.disk item.formula statistics = .ended status tool after) :
    ∃ tool' after',
      machine.start old.tool old.disk item.formula statistics = .ended status tool' after' ∧
      Abreast statistics alike bare disk held items
        (new.ran (Call.of statistics item new.disk status after) tool after)
        (old.ran (Call.of statistics item old.disk status after') tool' after') := by
  obtain ⟨written, went, some_row⟩ := h.launch oblivious begun item.formula
  rw [ended] at went
  generalize machine.start old.tool old.disk item.formula statistics = launched at went
  cases went with
  | @ended _ _ tool' _ after' added stay twins =>
    refine ⟨tool', after', rfl, ?_⟩
    exact {
      tool := stay
      out := h.out
      none_finished := h.none_finished
      formulas := by simp only [State.ran, List.map_append, h.formulas]; rfl
      skipped := h.skipped
      nonzeroExits := by simp only [State.ran, Call.of, h.nonzeroExits]; rfl
      files := by
        rw [List.append_assoc] at twins
        exact Or.inr ⟨begun, _, List.append_ne_nil_of_left_ne_nil some_row added, twins⟩ }

/-! ## Two runs -/

/-- A row is started at a line whose item is not finished and whose row can be started. -/
theorem items_rowsAt {plan : Plan σ} {index : Nat} {line : String} {state : State σ} {ready : Disk}
    (read : Item.parse plan.mode (Text.lineNumber index) line = .ok item)
    (fresh : item.key ∉ state.finished)
    (opened : RowStarted plan.statistics state.disk item ready) :
    (rowsAt plan index line state).map StartedRow.item = [item] := by
  simp only [rowsAt, read, if_neg fresh, opened.started, List.map_cons, List.map_nil]

/-- A line is taken alike in both runs. -/
theorem Abreast.takeLine {plan : Plan σ} (oblivious : plan.tool.Oblivious plan.statistics alike)
    (twins : Statistics.Twins plan.statistics bare disk [] held)
    (h : Abreast plan.statistics alike bare disk held items new old) (index : Nat)
    (line : String) :
    (Batch.takeLine plan index line old).2 = (Batch.takeLine plan index line new).2 ∧
      (rowsAt plan index line old).map StartedRow.item =
        (rowsAt plan index line new).map StartedRow.item ∧
      Abreast plan.statistics alike bare disk held
        (items ++ (rowsAt plan index line new).map StartedRow.item)
        (Batch.takeLine plan index line new).1 (Batch.takeLine plan index line old).1 := by
  have fresh_old : ∀ item : Item, item.key ∉ old.finished := by
    simp [h.none_finished.2]
  have started (item : Item) : items ++ [item] ≠ [] := by simp
  -- the one run takes the line in one of the ways, and the other is shown to take it in the same
  have taken := takeLine_cases plan index line new
  generalize Batch.takeLine plan index line new = result at taken ⊢
  cases taken with
  | passed pass =>
    cases pass with
    | skipped read finished => simp [h.none_finished.1] at finished
    | @served item ready after out status tool read fresh opened reported ended kept =>
      obtain ⟨ready', opened', both⟩ := h.startRow twins opened out
      obtain ⟨tool', after', ended', both⟩ := both.ran oblivious (started item) ended
      rw [← h.out] at reported
      rw [(Taken.passed (.served read (fresh_old item) opened' reported ended' kept)).eq,
        items_rowsAt read fresh opened, items_rowsAt read (fresh_old item) opened']
      exact ⟨rfl, rfl, both⟩
  | stopped stop =>
    cases stop with
    | malformed refused =>
      rw [(Taken.stopped (.malformed refused)).eq, rowsAt_malformed refused,
        rowsAt_malformed refused, List.map_nil, List.append_nil]
      exact ⟨rfl, rfl, h⟩
    | @noRow item fault read fresh refused =>
      obtain ⟨ready, -, started, -, -⟩ := h.bothStart twins item
      rw [refused] at started
      cases started
    | @noReport item ready out fault read fresh opened refused =>
      obtain ⟨ready', opened', both⟩ := h.startRow twins opened out
      rw [← h.out] at refused
      rw [(Taken.stopped (.noReport read (fresh_old item) opened' refused)).eq,
        items_rowsAt read fresh opened, items_rowsAt read (fresh_old item) opened']
      exact ⟨rfl, rfl, both⟩
    | @noStart item ready out program reason read fresh opened reported failed =>
      obtain ⟨ready', opened', both⟩ := h.startRow twins opened out
      have failed' := both.noStart oblivious (started item) failed
      rw [← h.out] at reported
      rw [(Taken.stopped (.noStart read (fresh_old item) opened' reported failed')).eq,
        items_rowsAt read fresh opened, items_rowsAt read (fresh_old item) opened']
      exact ⟨rfl, rfl, both⟩
    | @aborted item ready after out status tool read fresh opened reported ended unsuccessful
        abort =>
      obtain ⟨ready', opened', both⟩ := h.startRow twins opened out
      obtain ⟨tool', after', ended', both⟩ := both.ran oblivious (started item) ended
      rw [← h.out] at reported
      rw [(Taken.stopped (.aborted read (fresh_old item) opened' reported ended' unsuccessful
          abort)).eq,
        items_rowsAt read fresh opened, items_rowsAt read (fresh_old item) opened']
      exact ⟨rfl, rfl, both⟩

/-- All lines are taken alike in both runs. -/
theorem Abreast.takeLines {plan : Plan σ} (oblivious : plan.tool.Oblivious plan.statistics alike)
    (twins : Statistics.Twins plan.statistics bare disk [] held)
    (h : Abreast plan.statistics alike bare disk held items new old) (lines : List String)
    (index : Nat) :
    (Batch.takeLines plan index lines old).2 = (Batch.takeLines plan index lines new).2 ∧
      (rowsFrom plan index lines old).map StartedRow.item =
        (rowsFrom plan index lines new).map StartedRow.item ∧
      Abreast plan.statistics alike bare disk held
        (items ++ (rowsFrom plan index lines new).map StartedRow.item)
        (Batch.takeLines plan index lines new).1 (Batch.takeLines plan index lines old).1 := by
  induction lines generalizing items new old index with
  | nil => exact ⟨rfl, rfl, (List.append_nil items).symm ▸ h⟩
  | cons line lines ih =>
    obtain ⟨same_end, same_row, both⟩ := h.takeLine oblivious twins index line
    rw [Batch.takeLines, Batch.takeLines, rowsFrom, rowsFrom]
    rcases taken : Batch.takeLine plan index line new with ⟨after, _ | fault⟩
    · rcases taken' : Batch.takeLine plan index line old with ⟨after', fault?⟩
      rw [taken, taken'] at same_end both
      cases same_end
      obtain ⟨same_ends, same_rows, both⟩ := ih both (index + 1)
      refine ⟨same_ends, ?_, ?_⟩
      · simp only [List.map_append, same_row, same_rows]
      · simpa only [List.map_append, List.append_assoc] using both
    · rcases taken' : Batch.takeLine plan index line old with ⟨after', fault?⟩
      rw [taken, taken'] at same_end both
      cases same_end
      refine ⟨rfl, ?_, ?_⟩
      · simpa only [List.append_nil] using same_row
      · simpa only [List.append_nil] using both

/-- What the file holds in the end is what it held, until a row is started; then it is what it holds
in the run without old content, behind the old content. -/
theorem Abreast.content (h : Abreast statistics alike bare disk held items new old)
    (twins : Statistics.Twins statistics bare disk [] held) :
    Statistics.content old.disk statistics =
      if items = [] then held
      else Statistics.lead held ++ Statistics.content new.disk statistics := by
  rcases h.files with ⟨nothing, -, as_found⟩ | ⟨begun, written, -, grown⟩
  · rw [if_pos nothing, as_found, twins.right.content_eq]
  · rw [if_neg begun, grown.right.content_eq, grown.left.content_eq]

end Abreast

/-! ## Getting ready -/

section Ready

variable {settings : BatchSettings} {statistics : String} {bare disk : Disk}

/-- Statistics that are not there are ready as they are, and have no finished rows. -/
theorem makeReady_missing (missing : disk.holds statistics = false) (settings : BatchSettings)
    (mode : InputMode) : makeReady settings statistics mode disk = (disk, .ok []) := by
  simp [makeReady, Statistics.prepare, missing, Statistics.finishedIn, Except.mapError]

/-- Without resuming, no row that is kept counts as finished. -/
theorem makeReady_kept (keeps : settings.existingStatistics = .append)
    (off : settings.resume = false) (statistics : String) (mode : InputMode) (disk : Disk) :
    makeReady settings statistics mode disk = (disk, .ok []) := by
  simp [makeReady, keeps, Statistics.prepare_append, off]

/-- Statistics that are cleared hold nothing, and have no finished rows; they are there after that
if they were before. -/
theorem makeReady_cleared (clears : settings.existingStatistics = .clear) {held others : Bytes}
    (twins : Statistics.Twins statistics bare disk held others) (mode : InputMode) :
    ∃ ready, makeReady settings statistics mode disk = (ready, .ok []) ∧
      Statistics.Twins statistics bare ready held [] ∧
      ready.holds statistics = disk.holds statistics := by
  by_cases there : disk.holds statistics = true
  · obtain ⟨ready, written, stands, cleared⟩ := twins.clear
    have nothing : Statistics.finishedIn ready statistics mode = .ok [] := by
      have empty : Statistics.Opens ready statistics (Text.bytes "") := cleared.right
      rw [empty.finishedIn, Statistics.finishedKeys_eq_rows]
      rfl
    refine ⟨ready, ?_, cleared, stands.trans there.symm⟩
    simp [makeReady, Statistics.prepare, there, clears, written, nothing, Except.mapError]
  · rw [Bool.not_eq_true] at there
    have empty : others = [] := by
      rcases twins.right.read with ⟨holds, -⟩ | ⟨-, nothing⟩
      · rw [there] at holds
        cases holds
      · exact nothing
    subst empty
    exact ⟨disk, makeReady_missing there settings mode, twins, rfl⟩

end Ready

/-! ## Whole runs -/

section Run

variable {machine : Tool σ} {alike : σ → σ → Prop} {statistics : String}

/-- Runs that find no finished rows, on disks that are ready and differ in the statistics only, come
equally far. -/
theorem run_abreast (oblivious : machine.Oblivious statistics alike) (onFailure : FailurePolicy)
    {settings : BatchSettings} {list : WorkList} {bare disk ready : Disk}
    (prepared : makeReady settings statistics list.mode bare = (bare, .ok []))
    (prepared' : makeReady settings statistics list.mode disk = (ready, .ok [])) {held : Bytes}
    (twins : Statistics.Twins statistics bare ready [] held) {tool tool' : σ}
    (same : alike tool tool') (out : Device) :
    let new := run machine onFailure settings statistics list bare tool out
    let old := run machine onFailure settings statistics list disk tool' out
    let rows := rowsStarted machine onFailure settings statistics list bare tool out
    let rows' := rowsStarted machine onFailure settings statistics list disk tool' out
    old.result = new.result ∧ rows'.map StartedRow.item = rows.map StartedRow.item ∧
      Abreast statistics alike bare ready held (rows.map StartedRow.item) new.state old.state := by
  intro new old rows rows'
  have start : Abreast statistics alike bare ready held []
      { disk := bare, tool, out, finished := [] }
      { disk := ready, tool := tool', out, finished := [] } :=
    { tool := same
      out := rfl
      none_finished := ⟨rfl, rfl⟩
      formulas := rfl
      skipped := rfl
      nonzeroExits := rfl
      files := Or.inl ⟨rfl, rfl, rfl⟩ }
  let plan := Plan.make machine onFailure settings statistics list
  have unseen : plan.tool.Oblivious plan.statistics alike := oblivious
  obtain ⟨same_end, same_rows, both⟩ := Abreast.takeLines unseen twins start list.lines 0
  simp only [new, old, rows, rows', run, rowsStarted, prepared, prepared']
  rcases taken : takeLines plan 0 list.lines { disk := bare, tool, out, finished := [] } with
    ⟨after, fault?⟩
  rcases taken' : takeLines plan 0 list.lines
    { disk := ready, tool := tool', out, finished := [] } with ⟨after', fault?'⟩
  rw [taken, taken'] at same_end both
  cases same_end
  cases fault? with
  | some fault => exact ⟨rfl, same_rows, both⟩
  | none => exact ⟨congrArg Except.ok (both.summary list.total), same_rows, both⟩

/-- A run that clears the statistics, or keeps them and does not resume, does not look at what they
held: it is compared with the run on the same disk without the file. However both end, they end
with the same result, have started the tool with the same formulas and the rows of the same items,
and have put the same on the progress output. If a row was started, the file holds in the end what
it does in the run without old content, under `append` behind the old content and, if that does
not end in a line feed, a line feed; if none was, nothing changes but that old content is
cleared. -/
theorem old_statistics_unseen (oblivious : machine.Oblivious statistics alike)
    (onFailure : FailurePolicy) {settings : BatchSettings}
    (ignores : settings.existingStatistics = .clear ∨
      settings.existingStatistics = .append ∧ settings.resume = false) (list : WorkList)
    {bare disk : Disk} (missing : bare.holds statistics = false) {held : Bytes}
    (twins : Statistics.Twins statistics bare disk [] held) {tool tool' : σ}
    (same : alike tool tool') (out : Device) :
    let new := run machine onFailure settings statistics list bare tool out
    let old := run machine onFailure settings statistics list disk tool' out
    let items := (rowsStarted machine onFailure settings statistics list bare tool out).map
      StartedRow.item
    let items' := (rowsStarted machine onFailure settings statistics list disk tool' out).map
      StartedRow.item
    let written := Statistics.content new.state.disk statistics
    let final := Statistics.content old.state.disk statistics
    old.result = new.result ∧
      old.state.calls.map Call.formula = new.state.calls.map Call.formula ∧
      old.state.out = new.state.out ∧
      items' = items ∧
      (settings.existingStatistics = .append →
        (final = if items = [] then held
          else held ++ (if held = [] ∨ held.getLast? = some 10 then [] else [10]) ++ written) ∧
        (items = [] → old.state.disk = disk)) ∧
      (settings.existingStatistics = .clear →
        (final = if items = [] then [] else written) ∧
        (items = [] → old.state.disk.holds statistics = disk.holds statistics)) := by
  intro new old items items' written final
  have prepared := makeReady_missing missing settings list.mode
  rcases ignores with clears | ⟨keeps, off⟩
  · obtain ⟨ready, prepared', cleared, there⟩ := makeReady_cleared clears twins list.mode
    obtain ⟨same_result, same_items, both⟩ :=
      run_abreast oblivious onFailure prepared prepared' cleared same out
    refine ⟨same_result, both.formulas, both.out, same_items, ?_, fun _ => ⟨?_, ?_⟩⟩
    · intro keeps
      rw [clears] at keeps
      cases keeps
    · exact both.content cleared
    · intro untouched
      rw [both.untouched untouched, there]
  · have prepared' := makeReady_kept keeps off statistics list.mode disk
    obtain ⟨same_result, same_items, both⟩ :=
      run_abreast oblivious onFailure prepared prepared' twins same out
    refine ⟨same_result, both.formulas, both.out, same_items, fun _ => ⟨?_, both.untouched⟩, ?_⟩
    · rw [← Statistics.rowBreak_eq]
      exact both.content twins
    · intro clears
      rw [keeps] at clears
      cases clears

/-- The old content is no text and ends in the middle of a row; the tool ends the run at the second
formula. -/
theorem old_statistics_unseen_until_failure :
    (ToolPlan.mk [] (.refuse "tool" "gone")).tool.Oblivious "s" Eq ∧
      Disk.holds ⟨[], [], []⟩ "s" = false ∧
      Statistics.Twins "s" ⟨[], [], []⟩ ⟨[(["s"], .file [65, 10, 255])], [], []⟩ [] [65, 10, 255] ∧
      ∃ new old,
        run (ToolPlan.mk [] (.refuse "tool" "gone")).tool .abort {} "s" ⟨.raw, ["p", "q", "r"]⟩
          ⟨[], [], []⟩ [.append "1\n" (.exited 0), .append "2" (.exited 3)] {} = new ∧
        run (ToolPlan.mk [] (.refuse "tool" "gone")).tool .abort {} "s" ⟨.raw, ["p", "q", "r"]⟩
          ⟨[(["s"], .file [65, 10, 255])], [], []⟩
          [.append "1\n" (.exited 0), .append "2" (.exited 3)] {} = old ∧
        new.result = .error (.toolFailed "q" (some 3)) ∧ old.result = new.result ∧
        old.state.calls.map Call.formula = ["p", "q"] ∧
        Statistics.content new.state.disk "s" = Text.bytes "p, 1\nq, 2" ∧
        Statistics.content old.state.disk "s" =
          [65, 10, 255, 10] ++ Statistics.content new.state.disk "s" := by
  have oblivious : (ToolPlan.mk [] (.refuse "tool" "gone")).tool.Oblivious "s" Eq :=
    ToolPlan.oblivious _ "s"
  have ignores : ({} : BatchSettings).existingStatistics = .clear ∨
      ({} : BatchSettings).existingStatistics = .append ∧ ({} : BatchSettings).resume = false :=
    Or.inr ⟨rfl, rfl⟩
  have missing : Disk.holds ⟨[], [], []⟩ "s" = false := by decide
  have twins : Statistics.Twins "s" ⟨[], [], []⟩ ⟨[(["s"], .file [65, 10, 255])], [], []⟩ []
      [65, 10, 255] :=
    ⟨["s"], by rfl, by rfl, Disk.sameBeside_put (List.cons_ne_nil _ _) ⟨[], [], []⟩ _⟩
  obtain ⟨same_result, same_formulas, -, -, kept, -⟩ := old_statistics_unseen oblivious .abort
    ignores ⟨.raw, ["p", "q", "r"]⟩ missing twins
    (Eq.refl [.append "1\n" (.exited 0), .append "2" (.exited 3)]) {}
  refine ⟨oblivious, missing, twins, _, _, rfl, rfl, by decide +kernel, same_result,
    same_formulas.trans (by decide +kernel), by decide +kernel, (kept rfl).1.trans ?_⟩
  decide +kernel

end Run

end Batch

end MonitorBench
