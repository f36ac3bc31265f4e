import MonitorBench.Proofs.Extraction.Stages

/-!
# How far a header reaches

With one property per header, a property closes the scope that it uses; with many, the scope stays
open. So as long as both extractions go on they are at the same stage, but for the scope, which may
be closed in one and open in the other (`Stage.Within`). A line that the narrower binding lets pass
finds both scopes open alike, and is passed by the wider binding with the same record
(`step_within`); a corpus that goes through with one property per header goes through with many,
to the same end (`extractAll_oneToMany_of_oneToOne`). What is said of a corpus that stops follows
from that for the lines before its last one (`oneToMany_extends_oneToOne`).
-/

set_option autoImplicit false

namespace MonitorBench

/-- The settings with another header binding. -/
def ExtractionSettings.withBinding (settings : ExtractionSettings) (binding : HeaderBinding) :
    ExtractionSettings :=
  { settings with headerBinding := binding }

namespace Extraction

variable {σ : Type} {settings : ExtractionSettings} {sink : Sink σ} {lines : List String}

/-! ## Where an extraction fails -/

/-- The extraction fails at the line at an index: it goes through the lines before it, and this one
is a property without a header. -/
def FailsAt (settings : ExtractionSettings) (lines : List String) (index : Nat) : Prop :=
  index < lines.length ∧
  (∃ summary, (extractAll settings (lines.take index)).2 = .ok summary) ∧
  (extractAll settings (lines.take (index + 1))).2 =
    .error (.line (.propertyWithoutHeader (Text.lineNumber index)))

/-- A corpus that does not go through fails at one of its lines, and the records before that line
are all that are delivered. -/
theorem exists_failsAt {fault : Fault} (stops : (extractAll settings lines).2 = .error fault) :
    ∃ index, FailsAt settings lines index ∧
      fault = .line (.propertyWithoutHeader (Text.lineNumber index)) ∧
      (extractAll settings (lines.take index)).1 = (extractAll settings lines).1 := by
  obtain ⟨before, line, after, summary, split, number, passed, stopped⟩ := extractAll_stopped stops
  have upto : lines.take before.length = before := by rw [split, List.take_left]
  have upto_line : lines.take (before.length + 1) = before ++ [line] := by
    rw [split, List.append_cons, List.take_left' (by simp)]
  refine ⟨before.length, ⟨?_, ⟨summary, ?_⟩, ?_⟩, number, ?_⟩
  · rw [split, List.length_append, List.length_cons]
    omega
  · rw [upto, passed]
  · rw [upto_line, stopped, number]
  · rw [upto, passed]

/-- A corpus that fails at a line ends in the fault of that line. -/
theorem FailsAt.result {index : Nat} (fails : FailsAt settings lines index) :
    (extractAll settings lines).2 =
      .error (.line (.propertyWithoutHeader (Text.lineNumber index))) := by
  obtain ⟨-, -, stops⟩ := fails
  have whole := extractAll_append_of_error stops (lines.drop (index + 1))
  rw [List.take_append_drop] at whole
  rw [whole, stops]

/-- A corpus that fails at a line goes through no part that it begins with and that has this line
in it. -/
theorem FailsAt.not_through {index count : Nat} (fails : FailsAt settings lines index)
    (beyond : index < count) {summary : Summary} :
    (extractAll settings (lines.take count)).2 ≠ .ok summary := by
  intro through
  obtain ⟨-, -, stops⟩ := fails
  have part : lines.take (index + 1) = (lines.take count).take (index + 1) := by
    rw [List.take_take, Nat.min_eq_left beyond]
  rw [← List.take_append_drop (index + 1) (lines.take count), ← part] at through
  obtain ⟨before, passed⟩ := through_of_append through
  rw [stops] at passed
  cases passed

/-! ## The wider binding passes what the narrower one passes -/

/-- A line that is passed with one property per header is passed with many, with the same record;
the scope is the same or closed before it, and is the same or closed after it. -/
theorem step_within {narrow wide : Scope} (within : narrow = wide ∨ narrow = .fresh)
    {number : UInt64} {line : CorpusLine} {next : Step}
    (read : step (settings.withBinding .oneToOne) narrow number line = .ok next) :
    ∃ scope, step (settings.withBinding .oneToMany) wide number line = .ok { next with scope } ∧
      (next.scope = scope ∨ next.scope = .fresh) := by
  cases line with
  | header name =>
    cases read
    exact ⟨.named name, rfl, Or.inl rfl⟩
  | sectionBreak =>
    cases read
    exact ⟨.fresh, rfl, Or.inl rfl⟩
  | other =>
    cases read
    exact ⟨wide, rfl, within⟩
  | property body =>
    simp only [step] at read
    split at read
    next admitted =>
      rcases within with rfl | rfl
      · cases read
        refine ⟨narrow, ?_, Or.inr rfl⟩
        simp only [step, if_pos admitted]
        rfl
      · -- a closed scope admits no property
        cases admitted
    next => cases read

/-- The narrower extraction is where the wider one is, but that its scope may be closed. -/
structure Stage.Within (narrow wide : Stage σ) : Prop where
  scope : narrow.scope = wide.scope ∨ narrow.scope = .fresh
  summary : narrow.summary = wide.summary
  state : narrow.state = wide.state

/-- A record that the narrower stage can offer is one that the wider stage can offer as well. -/
theorem Stage.Within.offer {narrow wide next : Stage σ} (within : narrow.Within wide)
    {here : Step} {scope : Scope} (closed : here.scope = scope ∨ here.scope = .fresh)
    (took : narrow.offer sink here = .ok next) :
    ∃ reached, wide.offer sink { here with scope } = .ok reached ∧ next.Within reached := by
  obtain ⟨-, summaries, states⟩ := within
  rw [Stage.offer, summaries, states] at took
  rw [Stage.offer]
  cases yielded : here.record with
  | none =>
    simp only [yielded] at took
    cases took
    exact ⟨_, rfl, closed, rfl, rfl⟩
  | some record =>
    rcases offered : sink.accept wide.state record with ⟨taken, _ | fault⟩
    · simp only [yielded, offered] at took ⊢
      cases took
      exact ⟨_, rfl, closed, rfl, rfl⟩
    · simp [yielded, offered] at took

/-- A line that the narrower extraction passes, the wider one passes. -/
theorem Stage.Within.takeLine {narrow wide next : Stage σ} (within : narrow.Within wide)
    {index : Nat} {line : String}
    (took : narrow.takeLine (settings.withBinding .oneToOne) sink index line = .ok next) :
    ∃ reached, wide.takeLine (settings.withBinding .oneToMany) sink index line = .ok reached ∧
      next.Within reached := by
  rw [Stage.takeLine] at took
  cases read : step (settings.withBinding .oneToOne) narrow.scope (Text.lineNumber index)
      ((settings.withBinding .oneToOne).format.classify line) with
  | error fault =>
    rw [read] at took
    cases took
  | ok here =>
    obtain ⟨scope, read_wide, closed⟩ := step_within within.scope read
    rw [read] at took
    obtain ⟨reached, offered, still⟩ := within.offer closed took
    refine ⟨reached, ?_, still⟩
    rw [Stage.takeLine]
    exact read_wide ▸ offered

/-- Lines that the narrower extraction passes, the wider one passes. -/
theorem Stage.Within.takeLines {narrow wide next : Stage σ} (within : narrow.Within wide)
    {index : Nat}
    (taken : Stage.takeLines (settings.withBinding .oneToOne) sink index narrow lines =
      .ok next) :
    ∃ reached, Stage.takeLines (settings.withBinding .oneToMany) sink index wide lines =
        .ok reached ∧ next.Within reached := by
  induction lines generalizing index narrow wide with
  | nil =>
    cases taken
    exact ⟨wide, rfl, within⟩
  | cons line lines ih =>
    rw [Stage.takeLines] at taken
    cases took : narrow.takeLine (settings.withBinding .oneToOne) sink index line with
    | error stopped =>
      rw [took] at taken
      cases taken
    | ok after =>
      rw [took] at taken
      obtain ⟨reached, took_wide, still⟩ := within.takeLine took
      obtain ⟨last, taken_wide, ends⟩ := ih still taken
      refine ⟨last, ?_, ends⟩
      rw [Stage.takeLines, took_wide]
      exact taken_wide

/-! ## Whole corpora -/

/-- A corpus that goes through with one property per header goes through with many, to the same
end. -/
theorem extractAll_oneToMany_of_oneToOne {summary : Summary}
    (through : (extractAll (settings.withBinding .oneToOne) lines).2 = .ok summary) :
    extractAll (settings.withBinding .oneToMany) lines =
      extractAll (settings.withBinding .oneToOne) lines := by
  obtain ⟨stage, taken, narrow⟩ := exists_stage through
  have begins : (Stage.start ([] : List Record)).Within (.start []) := ⟨Or.inl rfl, rfl, rfl⟩
  obtain ⟨reached, taken_wide, within⟩ := begins.takeLines taken
  rw [narrow, extractAll_eq, taken_wide, within.summary, within.state]
  rfl

/-- With one property per header, a corpus yields no other records than those that it begins to
yield with many. -/
theorem records_isPrefix (settings : ExtractionSettings) (lines : List String) :
    (extractAll (settings.withBinding .oneToOne) lines).1 <+:
      (extractAll (settings.withBinding .oneToMany) lines).1 := by
  cases ended : (extractAll (settings.withBinding .oneToOne) lines).2 with
  | ok summary => exact (extractAll_oneToMany_of_oneToOne ended) ▸ List.prefix_rfl
  | error fault =>
    obtain ⟨index, ⟨-, ⟨summary, before⟩, -⟩, -, records⟩ := exists_failsAt ended
    rw [← records, ← extractAll_oneToMany_of_oneToOne before]
    -- both deliver the records before that line, and the wider binding may go on from there
    have begins := delivered_isPrefix (settings.withBinding .oneToMany) (lines.take index)
      (lines.drop index)
    rwa [List.take_append_drop] at begins

/-- With one property per header an extraction fails no later than with many. -/
theorem exists_failsAt_le {last : Nat}
    (fails : FailsAt (settings.withBinding .oneToMany) lines last) :
    ∃ first ≤ last, FailsAt (settings.withBinding .oneToOne) lines first := by
  cases ended : (extractAll (settings.withBinding .oneToOne) lines).2 with
  | ok summary =>
    have through := fails.result
    rw [extractAll_oneToMany_of_oneToOne ended, ended] at through
    cases through
  | error fault =>
    obtain ⟨first, fails_first, -⟩ := exists_failsAt ended
    refine ⟨first, Nat.le_of_not_lt fun later => ?_, fails_first⟩
    obtain ⟨-, ⟨summary, before⟩, -⟩ := fails_first
    have wide := extractAll_oneToMany_of_oneToOne before
    exact fails.not_through later (wide ▸ before)

/-- Many properties per header extend one property per header: whatever the corpus, the records of
the narrower binding come first among those of the wider one; where the narrower binding goes
through, the wider one ends in the same records and the same summary; and where the wider binding
fails at a line, the narrower one fails at that line or an earlier one. -/
theorem oneToMany_extends_oneToOne (settings : ExtractionSettings) (lines : List String) :
    let one := extractAll (settings.withBinding .oneToOne) lines
    let many := extractAll (settings.withBinding .oneToMany) lines
    one.1 <+: many.1 ∧
      (∀ summary, one.2 = .ok summary → many.1 = one.1 ∧ many.2 = .ok summary) ∧
      ∀ fault, many.2 = .error fault → ∃ n m, m ≤ n ∧
        FailsAt (settings.withBinding .oneToMany) lines n ∧
        fault = .line (.propertyWithoutHeader (Text.lineNumber n)) ∧
        FailsAt (settings.withBinding .oneToOne) lines m ∧
        one.2 = .error (.line (.propertyWithoutHeader (Text.lineNumber m))) := by
  intro one many
  refine ⟨records_isPrefix settings lines, ?_, ?_⟩
  · intro summary through
    have same : many = one := extractAll_oneToMany_of_oneToOne through
    rw [same]
    exact ⟨rfl, through⟩
  · intro fault stops
    obtain ⟨n, fails, number, -⟩ := exists_failsAt stops
    obtain ⟨m, no_later, fails_first⟩ := exists_failsAt_le fails
    exact ⟨n, m, no_later, fails, number, fails_first, fails_first.result⟩

/-- Two properties under one header, and a third one after a break: the narrower binding fails at
the second property, and the wider one at the third. -/
example :
    extractAll ({} : ExtractionSettings)
        ["PATTERN: A", "- p", "- q", "???", "- r"] =
      ([⟨"A", 2, "p"⟩], .error (.line (.propertyWithoutHeader 3))) ∧
    extractAll (({} : ExtractionSettings).withBinding .oneToMany)
        ["PATTERN: A", "- p", "- q", "???", "- r"] =
      ([⟨"A", 2, "p"⟩, ⟨"A", 3, "q"⟩], .error (.line (.propertyWithoutHeader 5))) :=
  ⟨by rfl, by rfl⟩

end Extraction

end MonitorBench
