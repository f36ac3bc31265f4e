import MonitorBench.Proofs.Batch.Order

/-!
# The account of a run

A run counts the items that it skips, the starts of its tool, and those that did not end with
zero. Of the lines that it skips it leaves only the number; `skippedLines` follows the run and
notes the indices at which that number grows. Each finished row covers one item with its key, and
the rows that are there cover the first items that have it: the indices that are covered are a
function of the finished rows and the keys (`coveredAt`), and a run skips exactly these
(`Course.skippedFrom_eq`). `run_accounted` is the account of a whole run, for the lines that it
got past when it was stopped, and for all lines when it was not.
-/

set_option autoImplicit false

namespace MonitorBench.Batch

variable {σ : Type}

/-! ## The indices that are covered -/

/-- The indices of the keys that finished rows cover: fewer keys of the same name come before than
there are rows of that name. -/
def coveredAt (finished names : List String) : List Nat :=
  (List.range names.length).filter fun index =>
    names[index]?.any fun key => (names.take index).count key < finished.count key

section Covered

variable {finished names : List String}

/-- Only places of names are covered. -/
theorem lt_of_mem_coveredAt {index : Nat} (mem : index ∈ coveredAt finished names) :
    index < names.length :=
  List.mem_range.mp (List.mem_of_mem_filter mem)

/-- A further key is covered if a finished row is left for it. -/
theorem coveredAt_snoc (finished names : List String) (key : String) :
    coveredAt finished (names ++ [key]) = coveredAt finished names ++
      if names.count key < finished.count key then [names.length] else [] := by
  have earlier : ∀ index ∈ List.range names.length,
      ((names ++ [key])[index]?.any fun other =>
        decide (((names ++ [key]).take index).count other < finished.count other)) =
      (names[index]?.any fun other =>
        decide ((names.take index).count other < finished.count other)) := by
    intro index mem
    have inside : index < names.length := List.mem_range.mp mem
    rw [List.getElem?_append_left inside, List.take_append_of_le_length (Nat.le_of_lt inside)]
  rw [coveredAt, coveredAt, List.length_append, List.length_singleton, List.range_succ,
    List.filter_append]
  congr 1
  · exact List.filter_congr earlier
  · by_cases left : names.count key < finished.count key <;> simp [left]

/-- Of the occurrences of a key the first ones are covered, as many as there are finished rows. -/
theorem filter_coveredAt (finished names : List String) (key : String) :
    (coveredAt finished names).filter (fun index => names[index]? = some key) =
      (names.idxsOf key).take (min (finished.count key) (names.count key)) := by
  induction names using List.reverseRecOn with
  | nil => simp [coveredAt]
  | append_singleton names last ih =>
    have earlier : ∀ index ∈ coveredAt finished names,
        decide ((names ++ [last])[index]? = some key) = decide (names[index]? = some key) := by
      intro index mem
      rw [List.getElem?_append_left (lt_of_mem_coveredAt mem)]
    have all : (names.idxsOf key).length = names.count key := by
      simp [List.idxsOf, List.count]
    rw [coveredAt_snoc, List.filter_append, List.filter_congr earlier, ih]
    by_cases same : last = key
    · subst same
      have occurs : (names ++ [last]).idxsOf last = names.idxsOf last ++ [names.length] := by
        simp [List.idxsOf, List.findIdxs_append]
      rw [occurs, List.count_append, List.count_singleton_self]
      by_cases left : names.count last < finished.count last
      · -- a row is left, so all occurrences before are covered, and this one too
        rw [if_pos left, Nat.min_eq_right (Nat.le_of_lt left), Nat.min_eq_right left,
          ← all, List.take_length, List.take_of_length_le (by simp)]
        simp
      · -- the rows are used up before the last occurrence
        have used_up : finished.count last ≤ names.count last := Nat.not_lt.mp left
        rw [if_neg left, Nat.min_eq_left used_up, Nat.min_eq_left (by omega),
          List.take_append_of_le_length (by omega)]
        simp
    · have absent : (names ++ [last]).idxsOf key = names.idxsOf key := by
        simp [List.idxsOf, List.findIdxs_append, same]
      have other : (names ++ [last]).count key = names.count key := by
        simp [same]
      rw [absent, other]
      by_cases left : names.count last < finished.count last <;> simp [left, same]

end Covered

/-! ## The lines that a run skips -/

/-- The indices of the lines that are skipped from an index on, up to the first fault: those at
which the number of skipped items grows. -/
def skippedFrom (plan : Plan σ) : Nat → List String → State σ → List Nat
  | _, [], _ => []
  | index, line :: lines, state =>
    (if state.skipped < (takeLine plan index line state).1.skipped then [index] else []) ++
      match takeLine plan index line state with
      | (_, some _) => []
      | (after, none) => skippedFrom plan (index + 1) lines after

/-- The indices of the lines that a run skips. -/
def skippedLines (machine : Tool σ) (onFailure : FailurePolicy) (settings : BatchSettings)
    (statistics : String) (list : WorkList) (disk : Disk) (tool : σ) (out : Device) : List Nat :=
  match makeReady settings statistics list.mode disk with
  | (_, .error _) => []
  | (ready, .ok finished) =>
    skippedFrom (Plan.make machine onFailure settings statistics list) 0 list.lines
      { disk := ready, tool, out, finished }

section Lines

variable {plan : Plan σ} {index : Nat} {line : String} {lines : List String}
  {state after : State σ}

/-- Where a line lets the run go on, it is noted if the run counts a skip more after it. -/
theorem skippedFrom_pass (pass : Passes plan index line state after) (rest : List String) :
    skippedFrom plan index (line :: rest) state =
      (if state.skipped < after.skipped then [index] else []) ++
        skippedFrom plan (index + 1) rest after := by
  have taken := (Taken.passed pass).eq
  simp only [skippedFrom, taken]

/-- Nothing is noted from the line that stops the run on. -/
theorem skippedFrom_stop {fault : Fault} (stop : Stops plan index line state after fault)
    (rest : List String) : skippedFrom plan index (line :: rest) state = [] := by
  have taken := (Taken.stopped stop).eq
  have not_counted : ¬ state.skipped < after.skipped := by
    cases stop <;> exact Nat.lt_irrefl _
  simp only [skippedFrom, taken, if_neg not_counted, List.append_nil]

/-- What is skipped before and after the place that a run has come to. -/
theorem Course.skippedFrom_append {start : State σ} {done : List String}
    (course : Course plan start done state) (rest : List String) :
    skippedFrom plan 0 (done ++ rest) start =
      skippedFrom plan 0 done start ++ skippedFrom plan done.length rest state := by
  induction course generalizing rest with
  | nil => rfl
  | @snoc done line before after course pass ih =>
    -- the hypothesis is needed twice, for the last line alone and for it with the rest
    rw [List.append_assoc, List.singleton_append, ih, ih [line], skippedFrom_pass pass,
      skippedFrom_pass pass, skippedFrom, List.append_nil, List.append_assoc, List.length_append,
      List.length_singleton]

/-- As many lines are noted as the run counts skips. -/
theorem Course.length_skippedFrom {start : State σ} {done : List String}
    (course : Course plan start done state) :
    start.skipped + (skippedFrom plan 0 done start).length = state.skipped := by
  induction course with
  | nil => rfl
  | @snoc done line before after course pass ih =>
    rw [course.skippedFrom_append, skippedFrom_pass pass, skippedFrom, List.append_nil,
      List.length_append, ← Nat.add_assoc, ih]
    cases pass with
    | skipped read covered => simp
    | served read fresh opened reported ended kept => simp [State.ran]

/-- A run skips exactly the lines that finished rows cover. -/
theorem Course.skippedFrom_eq {finished done : List String} {tool : σ} {disk : Disk}
    {out : Device} (course : Course plan { disk, tool, out, finished } done state)
    {items : List Item} (reads : Reads plan.mode done items) :
    skippedFrom plan 0 done { disk, tool, out, finished } = coveredAt finished (keys items) := by
  induction course generalizing items with
  | nil =>
    have none_read : items = [] := List.length_eq_zero_iff.mp reads.length_eq
    subst none_read
    rfl
  | @snoc done line before after course pass ih =>
    obtain ⟨first, stood⟩ := course.standing
    have length_keys : (keys first).length = done.length := by
      rw [keys, List.length_map, stood.reads.length_eq]
    -- a row is left for the key of this line if the lines before did not use up all rows of the key
    have left := stood.mem_finished_iff
    rw [course.skippedFrom_append, ih stood.reads, skippedFrom_pass pass, skippedFrom,
      List.append_nil]
    cases pass with
    | @skipped item read covered =>
      have last : items = first ++ [item] := (stood.reads.snoc read).unique reads
      have key_last : keys items = keys first ++ [item.key] := by rw [last, keys_append]; rfl
      rw [key_last, coveredAt_snoc, length_keys, if_pos ((left item.key).mp covered),
        if_pos (Nat.lt_succ_self _)]
    | @served item ready after out status tool read fresh =>
      have last : items = first ++ [item] := (stood.reads.snoc read).unique reads
      have key_last : keys items = keys first ++ [item.key] := by rw [last, keys_append]; rfl
      rw [key_last, coveredAt_snoc, if_neg (mt (left item.key).mpr fresh)]
      simp [State.ran]

end Lines

/-! ## Whole runs -/

/-- The statistics are made ready for a run: `ready` is the disk as the policy leaves it, and
`finished` are the keys that the run begins with, those of the finished rows if it resumes. -/
structure Prepared (settings : BatchSettings) (statistics : String) (mode : InputMode)
    (disk ready : Disk) (finished : List String) : Prop where
  prepared : Statistics.prepare disk statistics settings.existingStatistics = .ok ready
  counted : if settings.resume then Statistics.finishedIn ready statistics mode = .ok finished
    else finished = []

/-- The statistics are prepared when they are made ready, and the keys are counted if the run
resumes. -/
theorem prepared_iff {settings : BatchSettings} {statistics : String} {mode : InputMode}
    {disk ready : Disk} {finished : List String} :
    Prepared settings statistics mode disk ready finished ↔
      makeReady settings statistics mode disk = (ready, .ok finished) := by
  constructor
  · rintro ⟨prepared, counted⟩
    rw [makeReady, prepared]
    by_cases resume : settings.resume = true
    · rw [if_pos resume] at counted
      simp only [if_pos resume, counted]
      rfl
    · rw [if_neg resume] at counted
      simp only [if_neg resume, counted]
  · intro made
    rw [makeReady] at made
    split at made
    next => cases made
    next kept prepared =>
      by_cases resume : settings.resume = true
      · rw [if_pos resume] at made
        obtain ⟨rfl, read⟩ := Prod.mk.inj made
        refine ⟨prepared, ?_⟩
        rw [if_pos resume]
        cases found : Statistics.finishedIn kept statistics mode with
        | error fault =>
          rw [found] at read
          cases read
        | ok keys =>
          rw [found] at read
          cases read
          rfl
      · rw [if_neg resume] at made
        obtain ⟨rfl, none_counted⟩ := Prod.mk.inj made
        refine ⟨prepared, ?_⟩
        rw [if_neg resume]
        exact (Except.ok.inj none_counted).symm

/-- The account of the lines `done` that a run got past, which hold `items`: `skipped` are the
indices that were skipped, and `state` is the state behind the last of them. -/
structure Accounted (plan : Plan σ) (finished : List String) (tool : σ) (ready : Disk)
    (done : List String) (items : List Item) (skipped : List Nat) (state : State σ) : Prop where
  /-- Every line is well-formed. -/
  reads : Reads plan.mode done items
  /-- The tool was started once for each of the other items, in order, and each call tells of one
  start. -/
  served : Served plan.tool plan.statistics tool ready (unfinished finished items) state.calls
    state.tool state.disk
  /-- Every line was skipped, or the tool was started for it. -/
  balance : skipped.length + state.calls.length = done.length
  /-- The skipped lines are counted. -/
  counted : state.skipped = skipped.length
  /-- The starts that did not end with exit code zero are counted. -/
  nonzero : state.nonzeroExits = state.calls.countP fun call => call.status ≠ .exited 0
  /-- There are none of them if the policy is to abort. -/
  abort : plan.onFailure = .abort → state.nonzeroExits = 0
  /-- The skipped lines with a key are the first ones that have it, as many as there are finished
  rows of the key, or all if there are more rows. -/
  first : ∀ key, skipped.filter (fun index => (keys items)[index]? = some key) =
    ((keys items).idxsOf key).take (min (finished.count key) ((keys items).count key))

/-- Only exit code zero is a success; the end by a signal is none. -/
theorem not_isSuccess_eq (status : ExitStatus) :
    (!status.isSuccess) = decide (status ≠ .exited 0) := by
  cases status with
  | exited code => by_cases zero : code = 0 <;> simp [ExitStatus.isSuccess, ExitStatus.code, zero]
  | killed => rfl

/-- The account of the lines that a run got past. -/
theorem Course.accounted {plan : Plan σ} {finished done : List String} {tool : σ} {ready : Disk}
    {out : Device} {state : State σ}
    (course : Course plan { disk := ready, tool, out, finished } done state) :
    ∃ items, Accounted plan finished tool ready done items
      (skippedFrom plan 0 done { disk := ready, tool, out, finished }) state := by
  obtain ⟨items, stood⟩ := course.standing
  have covered := course.skippedFrom_eq stood.reads
  have counted := course.length_skippedFrom
  have balance := stood.skipped
  rw [Nat.zero_add] at counted
  refine ⟨items, stood.reads, stood.served, ?_, counted.symm, ?_, ?_, ?_⟩
  · rw [counted, balance, stood.reads.length_eq]
  · rw [stood.nonzero]
    exact List.countP_congr fun call _ => by rw [not_isSuccess_eq]
  · intro abort
    rw [stood.nonzero, List.countP_eq_zero]
    intro call mem
    rcases stood.kept call mem with success | ignored
    · simp [success]
    · rw [abort] at ignored
      cases ignored
  · intro key
    rw [covered]
    exact filter_coveredAt finished (keys items) key

/-- The account of every run, whatever its input, settings, statistics and tool are. A run that
comes to its end gives the account of all lines in its summary. One that ends early has taken no
line, because the statistics could not be made ready, or it gives the account of the lines before
the one that stopped it. -/
theorem run_accounted (machine : Tool σ) (onFailure : FailurePolicy) (settings : BatchSettings)
    (statistics : String) (list : WorkList) (disk : Disk) (tool : σ) (out : Device) :
    let outcome := run machine onFailure settings statistics list disk tool out
    let skipped := skippedLines machine onFailure settings statistics list disk tool out
    let plan := Plan.make machine onFailure settings statistics list
    match outcome.result with
    | .ok summary => ∃ ready finished items,
        Prepared settings statistics list.mode disk ready finished ∧
          Accounted plan finished tool ready list.lines items skipped outcome.state ∧
          summary = {
            total := list.lines.length
            invoked := outcome.state.calls.length
            skipped := skipped.length
            nonzeroExits := outcome.state.calls.countP fun call => call.status ≠ .exited 0 }
    | .error fault =>
        (∀ ready finished, ¬ Prepared settings statistics list.mode disk ready finished) ∧
            outcome.state.calls = [] ∧ skipped = [] ∨
          ∃ ready finished done line rest items before,
            Prepared settings statistics list.mode disk ready finished ∧
              list.lines = done ++ line :: rest ∧
              Accounted plan finished tool ready done items skipped before ∧
              Stops plan done.length line before outcome.state fault := by
  intro outcome skipped plan
  rcases made : makeReady settings statistics list.mode disk with ⟨ready, refused | finished⟩
  · have ended : outcome = ⟨{ disk := ready, tool, out }, .error refused⟩ := by
      simp only [outcome, run, made]
    have none_skipped : skipped = [] := by simp only [skipped, skippedLines, made]
    rw [ended]
    refine Or.inl ⟨fun other finished ready => ?_, rfl, none_skipped⟩
    rw [prepared_iff, made] at ready
    cases ready
  · have prepared := prepared_iff.mpr made
    have noted : skipped =
        skippedFrom plan 0 list.lines { disk := ready, tool, out, finished } := by
      simp only [skipped, skippedLines, made, plan]
    obtain ⟨taken, finish, ran⟩ := run_finish machine onFailure made tool out
    have ended : outcome = Outcome.ofTaken list.total taken := ran
    rw [ended, noted]
    cases finish with
    | @through last course =>
      obtain ⟨items, account⟩ := course.accounted
      refine ⟨ready, finished, items, prepared, account, ?_⟩
      rw [State.summary, account.counted, account.nonzero]
      rfl
    | @stopped done rest line before after fault split course stop =>
      obtain ⟨items, account⟩ := course.accounted
      refine Or.inr ⟨ready, finished, done, line, rest, items, before, prepared, split, ?_, stop⟩
      rw [split, course.skippedFrom_append, skippedFrom_stop stop, List.append_nil]
      exact account

/-- A resumed run over a file with one finished row skips the first of two equal lines. -/
example : skippedLines (ToolPlan.mk [] (.append "2\n" .killed)).tool .ignore { resume := true } "s"
    ⟨.raw, ["F q", "G p", "G p"]⟩ ⟨[(["s"], .file (Text.bytes "G p, 1"))], [], []⟩ [] {} = [1] := by
  decide +kernel

end MonitorBench.Batch
