import MonitorBench.Proofs.Extraction.Sinks

/-!
# Stages of an extraction

Between two lines an extraction carries along a scope, a summary and the state of its sink, and
nothing else of the lines that lie behind it: this is a `Stage`. `Stage.takeLine` takes one line
from a stage to the next, or stops there, and `Stage.takeLines` takes several; `extractFrom_eq`
says that an extraction is nothing else. So a corpus is taken in parts (`takeLines_append`): lines
that go through leave a stage for those after them, and lines that stop stop whatever follows.
-/

set_option autoImplicit false

namespace MonitorBench.Extraction

/-- How far an extraction has come. -/
structure Stage (σ : Type) where
  /-- The header in force. -/
  scope : Scope
  /-- What happened to the lines so far. -/
  summary : Summary
  /-- The state of the sink. -/
  state : σ

/-- No line is refused but a property without a header. -/
theorem refused_of_step {settings : ExtractionSettings} {scope : Scope} {number : UInt64}
    {line : CorpusLine} {fault : LineFault}
    (read : step settings scope number line = .error fault) :
    fault = .propertyWithoutHeader number := by
  cases line with
  | header name | sectionBreak | other => cases read
  | property body =>
    simp only [step] at read
    split at read <;> cases read
    rfl

namespace Stage

variable {σ : Type} {settings : ExtractionSettings} {sink : Sink σ}

/-- Where a corpus begins. -/
def start (state : σ) : Stage σ := ⟨.fresh, {}, state⟩

/-- The stage after a line that was read, once its record, if there is one, was offered. -/
def offer (sink : Sink σ) (stage : Stage σ) (next : Step) : Except (σ × Fault) (Stage σ) :=
  match next.record with
  | none => .ok ⟨next.scope, stage.summary.scan next, stage.state⟩
  | some record =>
    match sink.accept stage.state record with
    | (refused, some fault) => .error (refused, fault)
    | (taken, none) =>
      .ok ⟨next.scope,
        { stage.summary.scan next with
          recordsEmitted := (stage.summary.scan next).recordsEmitted + 1 }, taken⟩

/-- Takes the line at an index. -/
def takeLine (settings : ExtractionSettings) (sink : Sink σ) (index : Nat) (stage : Stage σ)
    (line : String) : Except (σ × Fault) (Stage σ) :=
  match step settings stage.scope (Text.lineNumber index) (settings.format.classify line) with
  | .error fault => .error (stage.state, .line fault)
  | .ok next => stage.offer sink next

/-- Takes lines in order, from an index on. -/
def takeLines (settings : ExtractionSettings) (sink : Sink σ) :
    Nat → Stage σ → List String → Except (σ × Fault) (Stage σ)
  | _, stage, [] => .ok stage
  | index, stage, line :: lines =>
    match stage.takeLine settings sink index line with
    | .error stopped => .error stopped
    | .ok next => takeLines settings sink (index + 1) next lines

/-- What an extraction gives that has taken its lines with this result. -/
def outcome : Except (σ × Fault) (Stage σ) → σ × Except Fault Summary
  | .ok stage => (stage.state, .ok stage.summary)
  | .error (state, fault) => (state, .error fault)

/-- An extraction takes its lines one after the other. -/
theorem extractFrom_eq (lines : List String) (index : Nat) (stage : Stage σ) :
    extractFrom settings sink index stage.scope stage.summary stage.state lines =
      outcome (takeLines settings sink index stage lines) := by
  induction lines generalizing index stage with
  | nil => rfl
  | cons line lines ih =>
    rw [extractFrom, takeLines, takeLine]
    cases read : step settings stage.scope (Text.lineNumber index)
        (settings.format.classify line) with
    | error fault => rfl
    | ok next =>
      simp only [offer]
      cases next.record with
      | none => exact ih (index + 1) ⟨next.scope, stage.summary.scan next, stage.state⟩
      | some record =>
        rcases took : sink.accept stage.state record with ⟨taken, _ | fault⟩
        · simp only [took]
          exact ih (index + 1) ⟨next.scope, { stage.summary.scan next with
            recordsEmitted := (stage.summary.scan next).recordsEmitted + 1 }, taken⟩
        · simp only [took]
          rfl

/-- Lines are taken in parts. -/
theorem takeLines_append (lines rest : List String) (index : Nat) (stage : Stage σ) :
    takeLines settings sink index stage (lines ++ rest) =
      match takeLines settings sink index stage lines with
      | .error stopped => .error stopped
      | .ok next => takeLines settings sink (index + lines.length) next rest := by
  induction lines generalizing index stage with
  | nil => rfl
  | cons line lines ih =>
    have further : index + (line :: lines).length = index + 1 + lines.length := by
      rw [List.length_cons]
      omega
    rw [List.cons_append, takeLines, takeLines, further]
    cases stage.takeLine settings sink index line with
    | error stopped => rfl
    | ok next => exact ih (index + 1) next

/-- Lines stop at one of them, and those before it go through. -/
theorem stopped_at {lines : List String} {index : Nat} {stage : Stage σ} {stopped : σ × Fault}
    (stops : takeLines settings sink index stage lines = .error stopped) :
    ∃ before line after between, lines = before ++ line :: after ∧
      takeLines settings sink index stage before = .ok between ∧
      between.takeLine settings sink (index + before.length) line = .error stopped := by
  induction lines generalizing index stage with
  | nil => cases stops
  | cons line lines ih =>
    rw [takeLines] at stops
    cases took : stage.takeLine settings sink index line with
    | error here =>
      rw [took] at stops
      cases stops
      exact ⟨[], line, lines, stage, rfl, rfl, took⟩
    | ok next =>
      rw [took] at stops
      obtain ⟨before, last, after, between, split, through, at_last⟩ := ih stops
      refine ⟨line :: before, last, after, between, by rw [split]; rfl, ?_, ?_⟩
      · rw [takeLines, took]
        exact through
      · have further : index + (line :: before).length = index + 1 + before.length := by
          rw [List.length_cons]
          omega
        rw [further]
        exact at_last

/-! ## Keeping every record -/

section Collector

variable {index : Nat} {stage : Stage (List Record)} {kept : List Record} {fault : Fault}

/-- A sink that keeps every record stops at no line but a property without a header. -/
theorem stop_of_collector {line : String}
    (stops : stage.takeLine settings collector index line = .error (kept, fault)) :
    kept = stage.state ∧ fault = .line (.propertyWithoutHeader (Text.lineNumber index)) := by
  rw [takeLine] at stops
  cases read : step settings stage.scope (Text.lineNumber index)
      (settings.format.classify line) with
  | error refused =>
    rw [read] at stops
    cases stops
    exact ⟨rfl, by rw [refused_of_step read]⟩
  | ok next =>
    simp only [read, offer, collector] at stops
    split at stops <;> cases stops

/-- So that is all that lines stop in. -/
theorem fault_of_collector {lines : List String}
    (stops : takeLines settings collector index stage lines = .error (kept, fault)) :
    ∃ number, fault = .line (.propertyWithoutHeader number) := by
  obtain ⟨before, line, after, between, -, -, at_line⟩ := stopped_at stops
  exact ⟨_, (stop_of_collector at_line).2⟩

/-- What was kept before some lines stays. -/
theorem kept_prefix (lines : List String) :
    stage.state <+: (outcome (takeLines settings collector index stage lines)).1 := by
  obtain ⟨new, keeps, -⟩ := extractFrom_fares settings collector lines index stage.scope
    stage.summary stage.state stage.state
  rw [← extractFrom_eq, keeps]
  exact List.prefix_append _ _

end Collector

end Stage

/-! ## Whole corpora -/

section Whole

variable {settings : ExtractionSettings} {lines : List String} {summary : Summary}

/-- Keeping the records of a corpus takes its lines from the start. -/
theorem extractAll_eq (settings : ExtractionSettings) (lines : List String) :
    extractAll settings lines =
      Stage.outcome (Stage.takeLines settings collector 0 (.start []) lines) :=
  Stage.extractFrom_eq lines 0 (.start [])

/-- A corpus that goes through leaves a stage. -/
theorem exists_stage (through : (extractAll settings lines).2 = .ok summary) :
    ∃ stage, Stage.takeLines settings collector 0 (.start []) lines = .ok stage ∧
      extractAll settings lines = (stage.state, .ok stage.summary) := by
  rw [extractAll_eq] at through ⊢
  cases taken : Stage.takeLines settings collector 0 (.start []) lines with
  | error stopped =>
    rw [taken] at through
    cases through
  | ok stage => exact ⟨stage, rfl, rfl⟩

/-- A corpus that stops does so at one of its lines, which is a property without a header; the lines
before it go through, and deliver all that is delivered. -/
theorem extractAll_stopped {fault : Fault}
    (stops : (extractAll settings lines).2 = .error fault) :
    ∃ before line after summary, lines = before ++ line :: after ∧
      fault = .line (.propertyWithoutHeader (Text.lineNumber before.length)) ∧
      extractAll settings before = ((extractAll settings lines).1, .ok summary) ∧
      (extractAll settings (before ++ [line])).2 = .error fault := by
  rw [extractAll_eq] at stops
  cases taken : Stage.takeLines settings collector 0 (.start []) lines with
  | ok stage =>
    rw [taken] at stops
    cases stops
  | error stopped =>
    obtain ⟨kept, refused⟩ := stopped
    rw [taken] at stops
    cases stops
    obtain ⟨before, line, after, between, split, through, at_line⟩ := Stage.stopped_at taken
    obtain ⟨rfl, rfl⟩ := Stage.stop_of_collector at_line
    rw [Nat.zero_add] at at_line ⊢
    refine ⟨before, line, after, between.summary, split, rfl, ?_, ?_⟩
    · rw [extractAll_eq, extractAll_eq, through, taken]
      rfl
    · rw [extractAll_eq, Stage.takeLines_append, through]
      simp only [Stage.takeLines, Nat.zero_add, at_line]
      rfl

/-- A corpus that stops is stopped whatever follows it. -/
theorem extractAll_append_of_error {fault : Fault}
    (stops : (extractAll settings lines).2 = .error fault) (rest : List String) :
    extractAll settings (lines ++ rest) = extractAll settings lines := by
  rw [extractAll_eq] at stops
  rw [extractAll_eq, extractAll_eq, Stage.takeLines_append]
  cases taken : Stage.takeLines settings collector 0 (.start []) lines with
  | error stopped => rfl
  | ok stage =>
    rw [taken] at stops
    cases stops

/-- So a corpus goes through only if every part goes through that it begins with. -/
theorem through_of_append {rest : List String}
    (through : (extractAll settings (lines ++ rest)).2 = .ok summary) :
    ∃ before, (extractAll settings lines).2 = .ok before := by
  cases ended : (extractAll settings lines).2 with
  | ok before => exact ⟨before, rfl⟩
  | error fault =>
    rw [extractAll_append_of_error ended, ended] at through
    cases through

/-- What a part delivers that a corpus begins with, the corpus delivers first. -/
theorem delivered_isPrefix (settings : ExtractionSettings) (lines rest : List String) :
    (extractAll settings lines).1 <+: (extractAll settings (lines ++ rest)).1 := by
  rw [extractAll_eq, extractAll_eq, Stage.takeLines_append]
  cases Stage.takeLines settings collector 0 (.start []) lines with
  | error stopped => exact List.prefix_rfl
  | ok stage => exact Stage.kept_prefix rest

end Whole

end MonitorBench.Extraction
