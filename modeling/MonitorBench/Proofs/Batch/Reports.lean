import MonitorBench.Proofs.Batch.Rows
import MonitorBench.Proofs.Text.OfLines

/-!
# The reports of a run

A report comes after the start of a row and before the start of the tool. A line that is skipped
or at fault, or whose row cannot be started, has no report, though it counts among the lines that
lie behind. So which reports a run makes is told by the interval and by the lines at which it
starts a row, `startsRowAt`: one line of the work list adds its report to the output, if it has
one (`takeLine_taken`), and a run adds the reports of its lines in order (`Course.taken`). On an
output without a limit these are all that a run writes, however it ends (`run_reports`).
-/

set_option autoImplicit false

namespace MonitorBench.Batch

variable {σ : Type}

/-! ## Lines at which a row is started -/

section Lines

variable {plan : Plan σ} {start state : State σ} {done : List String}

/-- Whether a run from `start` over `lines` gets to the line at an index and starts a row there. -/
def startsRowFrom (plan : Plan σ) (start : State σ) (lines : List String) (index : Nat) : Bool :=
  match takeLines plan 0 (lines.take index) start, lines[index]? with
  | (state, none), some line => !(rowsAt plan index line state).isEmpty
  | _, _ => false

/-- At the next line of a run it is the state of the run that decides. -/
theorem Course.startsRowFrom_eq (course : Course plan start done state) (line : String)
    (rest : List String) :
    startsRowFrom plan start (done ++ line :: rest) done.length =
      !(rowsAt plan done.length line state).isEmpty := by
  have reached : takeLines plan 0 done start = (state, none) := by
    rw [← List.append_nil done, course.takeLines_append, takeLines]
  have here : (done ++ line :: rest)[done.length]? = some line := by
    rw [List.getElem?_append_right (Nat.le_refl _), Nat.sub_self]
    rfl
  unfold startsRowFrom
  rw [List.take_left, reached, here]

/-- Lines behind one that stops the run are not reached. -/
theorem Course.startsRowFrom_behind (course : Course plan start done state) {line : String}
    {after : State σ} {fault : Fault} (stop : Stops plan done.length line state after fault)
    (rest : List String) (offset : Nat) :
    startsRowFrom plan start (done ++ line :: rest) (done.length + 1 + offset) = false := by
  have stopped : takeLines plan 0 ((done ++ line :: rest).take (done.length + 1 + offset)) start =
      (after, some fault) := by
    rw [Nat.add_assoc, Nat.add_comm 1, List.take_length_add_append, List.take_succ_cons,
      course.takeLines_append, takeLines, (Taken.stopped stop).eq]
  unfold startsRowFrom
  rw [stopped]

end Lines

/-! ## The reports of lines -/

/-- The text of the reports at some indices. -/
def reportText (plan : ProgressPlan) (indices : List Nat) : String :=
  Text.ofLines (indices.map plan.line)

/-- The indices below a number at which a run from `start` over `lines` reports. -/
def reportedBelow (plan : Plan σ) (start : State σ) (lines : List String) (count : Nat) :
    List Nat :=
  (List.range count).filter fun index =>
    plan.progress.isDue index && startsRowFrom plan start lines index

section Reports

variable {plan : Plan σ} {start state : State σ} {done : List String}

/-- Without indices nothing is reported. -/
theorem bytes_reportText_nil (plan : ProgressPlan) : Text.bytes (reportText plan []) = [] := rfl

/-- The reports on two lists of indices, one after the other. -/
theorem reportText_append (plan : ProgressPlan) (indices others : List Nat) :
    reportText plan (indices ++ others) = reportText plan indices ++ reportText plan others := by
  unfold reportText
  rw [List.map_append, Text.ofLines_append]

/-- Each report is one line of the text. -/
theorem lines_reportText (plan : ProgressPlan) (indices : List Nat) :
    Text.lines (reportText plan indices) = indices.map plan.line := by
  apply Text.lines_ofLines
  · intro line mem
    obtain ⟨index, -, rfl⟩ := List.mem_map.mp mem
    exact (plan.line_plain index).1
  · intro line mem
    obtain ⟨index, -, rfl⟩ := List.mem_map.mp mem
    rw [(plan.line_plain index).2]
    decide

/-- One line further, a report is added if one is due there and the line starts a row. -/
theorem reportedBelow_succ (plan : Plan σ) (start : State σ) (lines : List String) (count : Nat) :
    reportedBelow plan start lines (count + 1) = reportedBelow plan start lines count ++
      if plan.progress.isDue count && startsRowFrom plan start lines count then [count]
      else [] := by
  unfold reportedBelow
  rw [List.range_succ, List.filter_append, List.filter_singleton, cond_eq_ite]

/-- A line adds its report to the output when its row is started, and nothing otherwise. -/
theorem takeLine_taken (plan : Plan σ) (index : Nat) (line : String)
    (unlimited : state.out.capacity = none) :
    (takeLine plan index line state).1.out.taken = state.out.taken ++
      Text.bytes (reportText plan.progress
        (if plan.progress.isDue index && !(rowsAt plan index line state).isEmpty then [index]
          else [])) := by
  have taken := takeLine_cases plan index line state
  have started_row := @rowsAt_started σ plan index line state
  have report : (plan.progress.beforeItem state.out index).1.taken = state.out.taken ++
      Text.bytes
        (reportText plan.progress (if plan.progress.isDue index then [index] else [])) := by
    rw [plan.progress.beforeItem_taken unlimited]
    split
    next => simp [reportText, Text.ofLines]
    next => rw [bytes_reportText_nil]
  generalize takeLine plan index line state = result at taken started_row
  cases taken with
  | passed pass =>
    cases pass with
    | skipped read finished => simp [rowsAt_finished read finished, bytes_reportText_nil]
    | served read fresh opened reported =>
      rw [reported] at report
      simpa [State.ran, started_row read fresh opened rfl] using report
  | stopped stop =>
    cases stop with
    | malformed refused => simp [rowsAt_malformed refused, bytes_reportText_nil]
    | noRow read fresh refused => simp [rowsAt_refused read refused, bytes_reportText_nil]
    | noReport read fresh opened reported | noStart read fresh opened reported =>
      rw [reported] at report
      simpa [started_row read fresh opened (List.append_nil _).symm] using report
    | aborted read fresh opened reported =>
      rw [reported] at report
      simpa [State.ran, started_row read fresh opened rfl] using report

/-- The next line of a run adds what it reports. -/
theorem Course.takeLine_taken (course : Course plan start done state)
    (unlimited : start.out.capacity = none) (line : String) (rest : List String)
    (so_far : state.out.taken = start.out.taken ++ Text.bytes
      (reportText plan.progress (reportedBelow plan start (done ++ line :: rest) done.length))) :
    (takeLine plan done.length line state).1.out.taken = start.out.taken ++ Text.bytes
      (reportText plan.progress
        (reportedBelow plan start (done ++ line :: rest) (done.length + 1))) := by
  rw [Batch.takeLine_taken plan done.length line (course.unlimited unlimited), so_far,
    reportedBelow_succ, course.startsRowFrom_eq, reportText_append, Text.bytes_append,
    List.append_assoc]

/-- A run that got past some lines has written the reports of these lines. -/
theorem Course.taken (course : Course plan start done state)
    (unlimited : start.out.capacity = none) (rest : List String) :
    state.out.taken = start.out.taken ++ Text.bytes
      (reportText plan.progress (reportedBelow plan start (done ++ rest) done.length)) := by
  induction course generalizing rest with
  | nil => exact (List.append_nil _).symm
  | @snoc done line before after course pass ih =>
    -- which lines report depends on all lines, so the line that is passed goes to those behind
    have step := course.takeLine_taken unlimited line rest (ih (line :: rest))
    rw [(Taken.passed pass).eq] at step
    rw [List.append_assoc, List.singleton_append, List.length_append, List.length_singleton]
    exact step

/-- However a run ends, it has written the reports of its lines. -/
theorem Finish.taken {lines : List String} {result : State σ × Option Fault}
    (finish : Finish plan start lines result) (unlimited : start.out.capacity = none) :
    result.1.out.taken = start.out.taken ++ Text.bytes
      (reportText plan.progress (reportedBelow plan start lines lines.length)) := by
  cases finish with
  | through course =>
    have all := course.taken unlimited []
    rwa [List.append_nil] at all
  | @stopped done rest line before after fault split course stop =>
    have step := course.takeLine_taken unlimited line rest (course.taken unlimited _)
    -- the lines behind the one that stops the run count in the range, and report nothing
    have unreached : reportedBelow plan start (done ++ line :: rest)
        (done.length + 1 + rest.length) =
        reportedBelow plan start (done ++ line :: rest) (done.length + 1) := by
      unfold reportedBelow
      rw [List.range_add, List.filter_append, List.append_right_eq_self, List.filter_eq_nil_iff]
      intro index mem
      obtain ⟨offset, -, rfl⟩ := List.mem_map.mp mem
      simp [course.startsRowFrom_behind stop rest offset]
    have total : (done ++ line :: rest).length = done.length + 1 + rest.length := by
      simp only [List.length_append, List.length_cons]
      omega
    rw [(Taken.stopped stop).eq] at step
    rw [split, total, unreached]
    exact step

/-- A run that skipped nothing has started a row at every line it got past. -/
theorem Course.startsRowFrom_of_no_skips (course : Course plan start done state)
    (none_skipped : state.skipped = 0) (rest : List String) {index : Nat}
    (before : index < done.length) : startsRowFrom plan start (done ++ rest) index = true := by
  induction course generalizing rest with
  | nil => exact absurd before (Nat.not_lt_zero index)
  | @snoc done line earlier after course pass ih =>
    rw [List.append_assoc, List.singleton_append]
    rw [List.length_append, List.length_singleton] at before
    cases pass with
    | skipped => exact absurd none_skipped (Nat.succ_ne_zero _)
    | served read fresh opened reported ended kept =>
      rcases Nat.lt_succ_iff_lt_or_eq.mp before with sooner | rfl
      · exact ih none_skipped _ sooner
      · have taken := Taken.passed (.served read fresh opened reported ended kept)
        have row := rowsAt_started read fresh opened (congrArg (·.1.calls) taken.eq)
        rw [course.startsRowFrom_eq, row]
        rfl

end Reports

/-! ## The reports of a run -/

/-- Whether a run gets to the line at an index and starts a row there. -/
def startsRowAt (machine : Tool σ) (onFailure : FailurePolicy) (settings : BatchSettings)
    (statistics : String) (list : WorkList) (disk : Disk) (tool : σ) (out : Device) (index : Nat) :
    Bool :=
  match makeReady settings statistics list.mode disk with
  | (_, .error _) => false
  | (ready, .ok finished) =>
    startsRowFrom (Plan.make machine onFailure settings statistics list)
      { disk := ready, tool, out, finished } list.lines index

section Run

variable {machine : Tool σ} {onFailure : FailurePolicy} {settings : BatchSettings}
  {statistics : String} {list : WorkList} {disk : Disk} {tool : σ} {out : Device}

/-- A run writes the reports of the lines at which it starts a row, and nothing else. -/
theorem run_taken (unlimited : out.capacity = none) :
    let plan := Plan.make machine onFailure settings statistics list
    (run machine onFailure settings statistics list disk tool out).state.out.taken =
      out.taken ++ Text.bytes (reportText plan.progress ((List.range list.lines.length).filter
        fun index => plan.progress.isDue index &&
          startsRowAt machine onFailure settings statistics list disk tool out index)) := by
  intro plan
  unfold startsRowAt
  rcases prepared : makeReady settings statistics list.mode disk with ⟨ready, fault | finished⟩
  · simp only [run, prepared, Bool.and_false, List.filter_false, bytes_reportText_nil,
      List.append_nil]
  · obtain ⟨⟨state, fault?⟩, finish, ran⟩ := run_finish machine onFailure prepared tool out
    have written := finish.taken unlimited
    rw [ran]
    cases fault? <;> exact written

/-- A run that ends well and has skipped nothing has started a row at every line. -/
theorem startsRowAt_of_no_skips {summary : Summary}
    (ended : (run machine onFailure settings statistics list disk tool out).result = .ok summary)
    (none_skipped : summary.skipped = 0) {index : Nat} (inside : index < list.lines.length) :
    startsRowAt machine onFailure settings statistics list disk tool out index = true := by
  unfold startsRowAt
  rcases prepared : makeReady settings statistics list.mode disk with ⟨ready, fault | finished⟩
  · simp only [run, prepared] at ended
    cases ended
  · obtain ⟨taken, finish, ran⟩ := run_finish machine onFailure prepared tool out
    rw [ran] at ended
    cases finish with
    | stopped => cases ended
    | through course =>
      cases ended
      have all := course.startsRowFrom_of_no_skips none_skipped [] inside
      rwa [List.append_nil] at all

/-- Whatever the interval is, the indices are divided by a positive number. The text that a run
writes to an output without a limit, however it ends, is one report for each index at which it
starts a row and which is a positive multiple of that number, in order. When the run ends well and
skips nothing, these are as many lines as that number goes into the last index. -/
theorem run_reports (machine : Tool σ) (onFailure : FailurePolicy) (settings : BatchSettings)
    (statistics : String) (list : WorkList) (disk : Disk) (tool : σ) {out : Device}
    (unlimited : out.capacity = none) :
    let plan := Plan.make machine onFailure settings statistics list
    let outcome := run machine onFailure settings statistics list disk tool out
    let count := list.lines.length
    let stride := max 1 settings.progressInterval.toNat
    let reported := (List.range count).filter fun index =>
      0 < index ∧ stride ∣ index ∧
        startsRowAt machine onFailure settings statistics list disk tool out index
    let text := Text.ofLines (reported.map fun index =>
      "Progress: " ++ Text.natural index ++ "/" ++ Text.natural count ++ ".")
    plan.progress.stride = stride ∧ 0 < stride ∧
      outcome.state.out.taken = out.taken ++ Text.bytes text ∧
      ∀ summary, outcome.result = .ok summary → summary.skipped = 0 →
        (Text.lines text).length = (count - 1) / stride := by
  intro plan outcome count stride reported text
  have due : reported = (List.range count).filter fun index => plan.progress.isDue index &&
      startsRowAt machine onFailure settings statistics list disk tool out index := by
    apply List.filter_congr
    intro index _
    rw [Bool.eq_iff_iff, decide_eq_true_iff, Bool.and_eq_true, ProgressPlan.isDue_iff, and_assoc]
    rfl
  have same_text : text = reportText plan.progress reported := rfl
  refine ⟨rfl, plan.progress.stride_pos, ?_, ?_⟩
  · rw [same_text, due]
    exact run_taken unlimited
  · intro summary ended none_skipped
    have every : reported = (List.range count).filter plan.progress.isDue := by
      rw [due]
      apply List.filter_congr
      intro index mem
      rw [startsRowAt_of_no_skips ended none_skipped (List.mem_range.mp mem), Bool.and_true]
    rw [same_text, lines_reportText, List.length_map, every, ProgressPlan.length_due]
    rfl

/-- The third line has a finished row, so there is no report from it though it is a multiple of the
interval; the last line holds no formula, and ends the run. -/
theorem run_reports_past_a_skip :
    ({} : Device).capacity = none ∧
      ∃ outcome,
        run (ToolPlan.mk [] (.append "1\n" (.exited 0))).tool .ignore
          { progressInterval := 2, resume := true } "s"
          ⟨.raw, ["p", "q", "r", "t", "u", "v", " "]⟩
          ⟨[(["s"], .file (Text.bytes "r, 1\n"))], [], []⟩ [] {} = outcome ∧
        outcome.result = .error (.line (.emptyFormula 7)) ∧
        outcome.state.out.taken = Text.bytes "Progress: 4/7.\n" := by
  obtain ⟨-, -, written, -⟩ := run_reports (ToolPlan.mk [] (.append "1\n" (.exited 0))).tool .ignore
    { progressInterval := 2, resume := true } "s" ⟨.raw, ["p", "q", "r", "t", "u", "v", " "]⟩
    ⟨[(["s"], .file (Text.bytes "r, 1\n"))], [], []⟩ []
    (rfl : ({} : Device).capacity = none)
  exact ⟨rfl, _, rfl, by decide +kernel, written.trans (by decide +kernel)⟩

end Run

end MonitorBench.Batch
