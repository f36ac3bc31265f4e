import MonitorBench.Proofs.Extraction.Binding
import MonitorBench.Proofs.Extraction.Stages

/-!
# Sections of a corpus

Lines that stand further down give the same records under larger line numbers, and stop at the same
place with a larger line number. `step_lower` says so of a single line, and `Stage.takeLines_below`
of all lines that are taken below a stage which others have left. After a section break that stage
has the scope of a new corpus, so what stands below the break is extracted as a corpus of its own
(`sectionBreak_separates`).
-/

set_option autoImplicit false

namespace MonitorBench

/-! ## Lines further down -/

/-- The record of a property that stands a number of lines further down. -/
def Record.lower (count : Nat) (record : Record) : Record :=
  { record with sourceLine := record.sourceLine + UInt64.ofNat count }

/-- The fault of a line that stands a number of lines further down. -/
def LineFault.lower (count : Nat) : LineFault → LineFault
  | .propertyWithoutHeader line => .propertyWithoutHeader (line + UInt64.ofNat count)
  | .fieldCount line found => .fieldCount (line + UInt64.ofNat count) found
  | .emptyField line field => .emptyField (line + UInt64.ofNat count) field
  | .badLineNumber line value => .badLineNumber (line + UInt64.ofNat count) value
  | .emptyFormula line => .emptyFormula (line + UInt64.ofNat count)

/-- A fault where lines stand further down: only the fault of a line tells of it. -/
def Fault.lower (count : Nat) : Fault → Fault
  | .line fault => .line (fault.lower count)
  | fault => fault

/-- Lines are numbered on below other lines. -/
theorem Text.lineNumber_add (count index : Nat) :
    Text.lineNumber (count + index) = Text.lineNumber index + UInt64.ofNat count := by
  have further : count + index + 1 = index + 1 + count := by omega
  rw [Text.lineNumber, Text.lineNumber, further, UInt64.ofNat_add]

/-- A line with the mark of a section break is one. -/
theorem CorpusFormat.classify_of_breakMark (format : CorpusFormat) {line : String}
    (marked : "???".toList <+: line.toList) : format.classify line = .sectionBreak := by
  obtain ⟨rest, split⟩ := marked
  cases format
  rw [classify, CorpusLine.ofChars, ← split]
  rfl

namespace Extraction

variable {settings : ExtractionSettings}

/-- What a line does that stands a number of lines further down. -/
def Step.lower (count : Nat) (step : Step) : Step :=
  { step with record := step.record.map (Record.lower count) }

/-- A line does the same further down, but for its number. -/
theorem step_lower (count : Nat) (scope : Scope) (number : UInt64) (line : CorpusLine) :
    step settings scope (number + UInt64.ofNat count) line =
      match step settings scope number line with
      | .error fault => .error (fault.lower count)
      | .ok next => .ok (next.lower count) := by
  cases line with
  | header name | sectionBreak | other => rfl
  | property body =>
    rcases normal : Formula.normalize settings.placeholder body with ⟨formula, correction⟩
    simp only [step, normal]
    by_cases admitted : scope.admitsProperty = true
    · simp only [if_pos admitted, Step.lower, Option.map_some, Record.lower]
    · simp only [if_neg admitted, LineFault.lower]

/-- The counts of two parts of a corpus. -/
def Summary.plus (first second : Summary) : Summary where
  linesScanned := first.linesScanned + second.linesScanned
  recordsEmitted := first.recordsEmitted + second.recordsEmitted
  correctionsApplied := first.correctionsApplied + second.correctionsApplied

namespace Stage

/-- The stage of lines that are taken below a number of others: these have left the stage `above`,
and the lines by themselves leave `stage`. -/
def below (above : Stage (List Record)) (count : Nat) (stage : Stage (List Record)) :
    Stage (List Record) where
  scope := stage.scope
  summary := above.summary.plus stage.summary
  state := above.state ++ stage.state.map (Record.lower count)

/-- What comes of lines that are taken below others. -/
def resultBelow (above : Stage (List Record)) (count : Nat) :
    Except (List Record × Fault) (Stage (List Record)) →
      Except (List Record × Fault) (Stage (List Record))
  | .ok stage => .ok (above.below count stage)
  | .error (kept, fault) => .error (above.state ++ kept.map (Record.lower count), fault.lower count)

variable {above stage : Stage (List Record)} {count : Nat}

/-- A line is taken below others as it is by itself. -/
theorem takeLine_below (index : Nat) (line : String) :
    (above.below count stage).takeLine settings collector (count + index) line =
      resultBelow above count (stage.takeLine settings collector index line) := by
  rw [takeLine, takeLine, Text.lineNumber_add, step_lower]
  have same_scope : (above.below count stage).scope = stage.scope := rfl
  rw [same_scope]
  cases step settings stage.scope (Text.lineNumber index) (settings.format.classify line) with
  | error fault => rfl
  | ok next =>
    have scanned : (above.summary.plus stage.summary).scan (next.lower count) =
        above.summary.plus (stage.summary.scan next) := by
      simp [Summary.scan, Summary.plus, Step.lower, Nat.add_assoc]
    simp only [offer, below, scanned]
    cases yielded : next.record with
    | none => simp [Step.lower, yielded, resultBelow, below]
    | some record =>
      simp [Step.lower, yielded, resultBelow, below, collector, Summary.plus, Nat.add_assoc]

/-- Lines are taken below others as they are by themselves. -/
theorem takeLines_below (lines : List String) (index : Nat) :
    takeLines settings collector (count + index) (above.below count stage) lines =
      resultBelow above count (takeLines settings collector index stage lines) := by
  induction lines generalizing index stage with
  | nil => rfl
  | cons line lines ih =>
    rw [takeLines, takeLines, takeLine_below]
    cases stage.takeLine settings collector index line with
    | error stopped => rfl
    | ok next => exact ih (index + 1)

/-- A section break leaves the scope of a new corpus. -/
theorem takeLine_sectionBreak (settings : ExtractionSettings) (stage : Stage (List Record))
    (count index : Nat) {line : String} (marked : "???".toList <+: line.toList) :
    ∃ next, stage.takeLine settings collector index line = .ok next ∧
      next.state = stage.state ∧
      next.summary = { stage.summary with linesScanned := stage.summary.linesScanned + 1 } ∧
      next = next.below count (start []) := by
  rw [takeLine, settings.format.classify_of_breakMark marked]
  refine ⟨_, rfl, rfl, rfl, ?_⟩
  simp [below, start, Summary.plus]

end Stage

/-! ## Below a section break -/

/-- The summary of a corpus that goes through counts all its lines. -/
theorem linesScanned_of_through {lines : List String} {summary : Summary}
    (through : (extractAll settings lines).2 = .ok summary) :
    summary.linesScanned = lines.length := by
  have ends : Ends settings [] lines (extractAll settings lines) :=
    extractFrom_collector lines [] (Reached.start settings)
  generalize extractAll settings lines = result at ends through
  cases ends with
  | through reached =>
    cases through
    exact reached.scanned
  | halted => cases through

section SectionBreak

variable {above below : List String} {line : String} {records kept : List Record}
  {first second : Summary} {fault : Fault}

/-- Below a section break, lines are taken from the start of a corpus, and what comes of them goes
below what comes of the lines above. -/
theorem extractAll_below (through : extractAll settings above = (records, .ok first))
    (marked : "???".toList <+: line.toList) (below : List String) :
    ∃ stage : Stage (List Record), stage.state = records ∧
      stage.summary = { first with linesScanned := above.length + 1 } ∧
      extractAll settings (above ++ [line] ++ below) = Stage.outcome
        (stage.resultBelow (above.length + 1)
          (Stage.takeLines settings collector 0 (.start []) below)) := by
  have ended : (extractAll settings above).2 = .ok first := by rw [through]
  obtain ⟨reached, taken, left⟩ := exists_stage ended
  rw [through] at left
  cases left
  have scanned := linesScanned_of_through ended
  obtain ⟨stage, took, state, summary, starts⟩ :=
    reached.takeLine_sectionBreak settings (above.length + 1) above.length marked
  refine ⟨stage, state, by rw [summary, scanned], ?_⟩
  have with_break : Stage.takeLines settings collector 0 (.start []) (above ++ [line]) =
      .ok stage := by
    rw [Stage.takeLines_append, taken]
    simp only [Stage.takeLines, Nat.zero_add, took]
  have lines_below : Stage.takeLines settings collector (above.length + 1 + 0) stage below =
      stage.resultBelow (above.length + 1)
        (Stage.takeLines settings collector 0 (.start []) below) := by
    rw [← Stage.takeLines_below, ← starts]
  rw [extractAll_eq, Stage.takeLines_append, with_break, ← lines_below]
  simp

/-- A corpus that goes through goes through below a section break. -/
theorem through_below (through : extractAll settings above = (records, .ok first))
    (marked : "???".toList <+: line.toList)
    (part : extractAll settings below = (kept, .ok second)) :
    extractAll settings (above ++ [line] ++ below) =
      (records ++ kept.map (Record.lower (above.length + 1)), .ok
        { linesScanned := above.length + 1 + below.length
          recordsEmitted := first.recordsEmitted + second.recordsEmitted
          correctionsApplied := first.correctionsApplied + second.correctionsApplied }) := by
  obtain ⟨stage, state, summary, together⟩ := extractAll_below through marked below
  have ended : (extractAll settings below).2 = .ok second := by rw [part]
  have scanned := linesScanned_of_through ended
  obtain ⟨reached, taken, left⟩ := exists_stage ended
  rw [part] at left
  cases left
  rw [together, taken]
  simp only [Stage.resultBelow, Stage.outcome, Stage.below, Summary.plus, state, summary, scanned]

/-- A corpus that stops at a property without a header stops there below a section break. -/
theorem stopped_below (through : extractAll settings above = (records, .ok first))
    (marked : "???".toList <+: line.toList)
    (part : extractAll settings below = (kept, .error fault)) :
    ∃ number, fault = .line (.propertyWithoutHeader number) ∧
      extractAll settings (above ++ [line] ++ below) =
        (records ++ kept.map (Record.lower (above.length + 1)),
          .error (.line (.propertyWithoutHeader
            (number + UInt64.ofNat (above.length + 1))))) := by
  obtain ⟨stage, state, -, together⟩ := extractAll_below through marked below
  rw [extractAll_eq] at part
  cases taken : Stage.takeLines settings collector 0 (.start []) below with
  | ok reached =>
    rw [taken] at part
    cases part
  | error stopped =>
    obtain ⟨kept, refused⟩ := stopped
    rw [taken] at part
    cases part
    obtain ⟨number, rfl⟩ := Stage.fault_of_collector taken
    refine ⟨number, rfl, ?_⟩
    rw [together, taken, ← state]
    rfl

end SectionBreak

/-- A section break makes two corpora of one: the lines below it yield what they yield by
themselves, under line numbers that count the lines above and the break as well. -/
theorem sectionBreak_separates (settings : ExtractionSettings) {above : List String}
    {records : List Record} {first : Summary}
    (through : extractAll settings above = (records, .ok first)) {line : String}
    (marked : "???".toList <+: line.toList) (below : List String) :
    let count := above.length + 1
    let part := extractAll settings below
    let whole := extractAll settings (above ++ [line] ++ below)
    whole.1 = records ++ part.1.map (Record.lower count) ∧
      ((∃ summary, whole.2 = .ok summary) ↔ ∃ summary, part.2 = .ok summary) ∧
      (∀ second, part.2 = .ok second → whole.2 = .ok
        { linesScanned := above.length + 1 + below.length
          recordsEmitted := first.recordsEmitted + second.recordsEmitted
          correctionsApplied := first.correctionsApplied + second.correctionsApplied }) ∧
      ∀ fault, part.2 = .error fault → ∃ number,
        fault = .line (.propertyWithoutHeader number) ∧
        whole.2 = .error (.line (.propertyWithoutHeader (number + UInt64.ofNat count))) := by
  intro count part whole
  rcases ended : extractAll settings below with ⟨kept, fault | second⟩
  · obtain ⟨number, rfl, stops⟩ := stopped_below through marked ended
    have part_stops : part = (kept, .error (.line (.propertyWithoutHeader number))) := ended
    have whole_stops : whole = _ := stops
    rw [part_stops, whole_stops]
    refine ⟨rfl, ⟨?_, ?_⟩, ?_, ?_⟩
    · rintro ⟨summary, same⟩
      cases same
    · rintro ⟨summary, same⟩
      cases same
    · intro second same
      cases same
    · intro fault same
      cases same
      exact ⟨number, rfl, rfl⟩
  · have part_ends : part = (kept, .ok second) := ended
    have whole_ends : whole = _ := through_below through marked ended
    rw [part_ends, whole_ends]
    refine ⟨rfl, ⟨fun _ => ⟨_, rfl⟩, fun _ => ⟨_, rfl⟩⟩, ?_, ?_⟩
    · intro summary same
      cases same
      rfl
    · intro fault same
      cases same

/-- The header above the break governs many properties, but none below it. -/
theorem sectionBreak_separates_open_header :
    extractAll { headerBinding := .oneToMany } ["PATTERN: A", "- p", "@ []q"] =
        ([⟨"A", 2, "p"⟩, ⟨"A", 3, "G q"⟩], .ok ⟨3, 2, 0⟩) ∧
      "???".toList <+: "??? liveness".toList ∧
      extractAll { headerBinding := .oneToMany } ["PATTERN: B", "- <>r", "???", "- s"] =
        ([⟨"B", 2, "F r"⟩], .error (.line (.propertyWithoutHeader 4))) ∧
      extractAll { headerBinding := .oneToMany }
          (["PATTERN: A", "- p", "@ []q"] ++ ["??? liveness"] ++
            ["PATTERN: B", "- <>r", "???", "- s"]) =
        ([⟨"A", 2, "p"⟩, ⟨"A", 3, "G q"⟩, ⟨"B", 6, "F r"⟩],
          .error (.line (.propertyWithoutHeader 8))) := by
  have through : extractAll { headerBinding := .oneToMany } ["PATTERN: A", "- p", "@ []q"] =
      ([⟨"A", 2, "p"⟩, ⟨"A", 3, "G q"⟩], .ok ⟨3, 2, 0⟩) := by rfl
  have marked : "???".toList <+: "??? liveness".toList := by decide
  have part : extractAll { headerBinding := .oneToMany } ["PATTERN: B", "- <>r", "???", "- s"] =
      ([⟨"B", 2, "F r"⟩], .error (.line (.propertyWithoutHeader 4))) := by rfl
  obtain ⟨records, -, -, stops⟩ := sectionBreak_separates { headerBinding := .oneToMany } through
    marked ["PATTERN: B", "- <>r", "???", "- s"]
  obtain ⟨number, same, fault⟩ := stops _ (congrArg Prod.snd part)
  rw [part] at records
  cases same
  exact ⟨through, marked, part, Prod.ext records fault⟩

end Extraction

end MonitorBench
