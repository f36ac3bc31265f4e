import MonitorBench.Proofs.Batch.Malformed
import MonitorBench.Proofs.Extraction.HandOff
import MonitorBench.Workflow

/-!
# Running what was extracted

An extraction that goes through leaves a file with one line for each of its records, and whoever
runs this file takes these lines. `CanEndIn` says what such a run can end in. When headers and
properties hold no comma, the only line that a run refuses is that of a record with an empty
formula, and a record has one exactly if its property is blank after the mark
(`extracted_file_runs_iff`). The extraction checks the pattern of a record and not its formula,
so it lets such properties pass.
-/

set_option autoImplicit false

namespace MonitorBench.Workflow

open Extraction

variable {settings : ExtractionSettings} {disk after : Disk} {corpus output text : String}
  {summary : Summary}

/-- A run over the file at `output`, read as records on a disk where it holds what it holds on
`written`, can end in a fault. -/
def CanEndIn (written : Disk) (output : String) (fault : Fault) : Prop :=
  ∃ (σ : Type) (machine : Tool σ) (onFailure : FailurePolicy) (settings : BatchSettings)
    (statistics : String) (disk : Disk) (tool : σ) (out : Device),
    settings.inputMode = .records ∧ disk.readText output = written.readText output ∧
      (runFile machine onFailure settings output statistics disk tool out).result = .error fault

/-- A malformed line that a run over the file ends in is one of its lines. -/
theorem CanEndIn.malformed {fault : LineFault} (h : CanEndIn after output (.line fault))
    (held : after.readText output = .ok text) :
    ∃ index line, (Text.lines text)[index]? = some line ∧
      Item.parse .records (Text.lineNumber index) line = .error fault := by
  obtain ⟨σ, machine, onFailure, settings, statistics, later, tool, out, mode, same, ended⟩ := h
  rw [runFile, same, held, mode] at ended
  exact Batch.malformed_of_run ended

/-- Some run over the file ends in a malformed line when one of its lines is malformed. -/
theorem canEndIn_malformed (held : after.readText output = .ok text)
    (opens : Statistics.Opens after output (Text.bytes text)) {index : Nat} {line : String}
    {fault : LineFault} (at_index : (WorkList.ofText .records text).lines[index]? = some line)
    (unreadable : Item.parse .records (Text.lineNumber index) line = .error fault) :
    ∃ reported, CanEndIn after output (.line reported) := by
  -- the file itself can serve as statistics, and a tool that writes nothing as the tool
  have silent : ToolPlan.Fitting (fun _ => True) (.append "" (.exited 0)) :=
    ⟨"", .exited 0, rfl, trivial⟩
  obtain ⟨starts, appends⟩ := ToolPlan.starts_and_appends silent output
  have no_script : ∀ action ∈ ([] : List PlannedAction), ToolPlan.Fitting (fun _ => True) action :=
    by simp
  have resuming : ({ resume := true } : BatchSettings).Resuming := ⟨rfl, rfl⟩
  have unlimited : ({} : Device).capacity = none := rfl
  obtain ⟨reported, ended⟩ := Batch.run_malformed
    (Batch.makeReady_resuming resuming opens (WorkList.ofText .records text).mode) opens unlimited
    no_script starts appends at_index unreadable
  refine ⟨reported, List PlannedAction, (ToolPlan.mk [] (.append "" (.exited 0))).tool, .ignore,
    { resume := true }, output, after, [], {}, rfl, rfl, ?_⟩
  rw [runFile, held]
  exact ended

/-- An extraction that goes through leaves a file with one line for each of its records. -/
theorem extractFile_ok (read : disk.readText corpus = .ok text)
    (one_line : '\n' ∉ settings.placeholder.toList)
    (done : extractFile settings disk corpus output = (after, .ok summary)) :
    (extractAll settings (Text.lines text)).2 = .ok summary ∧
      ∃ content, after.readText output = .ok content ∧
        Statistics.Opens after output (Text.bytes content) ∧
        Text.lines content = (extractAll settings (Text.lines text)).1.map Record.line := by
  simp only [extractFile, read, extract_recordWriter] at done
  split at done
  next => cases done
  next written =>
    obtain ⟨rfl, through⟩ := Prod.mk.inj done
    obtain ⟨held, opens⟩ := Statistics.opens_of_write written
    exact ⟨through, _, held, opens, lines_written text one_line⟩

/-- When an extraction goes through, every property line has yielded its record. -/
theorem record_of_property (through : (extractAll settings (Text.lines text)).2 = .ok summary)
    {line body : String} (mem : line ∈ Text.lines text)
    (is_property : settings.format.classify line = .property body) :
    ∃ record ∈ (extractAll settings (Text.lines text)).1,
      record.formula = (Formula.normalize settings.placeholder body).1 := by
  have ends := extractAll_ends settings (Text.lines text)
  generalize extractAll settings (Text.lines text) = result at ends through
  cases ends with
  | halted => cases through
  | through reached =>
    rw [List.nil_append] at reached
    obtain ⟨index, bound, rfl⟩ := List.getElem_of_mem mem
    have listed : (index, body) ∈ propertyLines settings (Text.lines text) :=
      mem_propertyLines_iff.mpr ⟨_, List.getElem?_eq_getElem bound, is_property⟩
    obtain ⟨record, yielded, yields⟩ := exists_record_of_yields reached.yields listed
    exact ⟨record, yielded, yields.2.2⟩

/-- A record of a corpus without commas is refused only for an empty formula. -/
theorem refused_record {record : Record} {number : UInt64} {fault : LineFault}
    (trimmed : record.Trimmed)
    (plain : ',' ∉ record.pattern.toList ∧ ',' ∉ record.formula.toList)
    (refused : Item.parse .records number record.line = .error fault) :
    fault = .emptyField number .formula ∧ record.formula = "" := by
  have no_comma := Record.commas_eq_zero_iff.mpr plain
  simp only [Item.parse, Record.parse_line trimmed, if_neg (not_not.mpr no_comma)] at refused
  split at refused
  next empty =>
    cases refused
    exact ⟨rfl, empty⟩
  next => cases refused

/-- In a record the default placeholder shows, and ends neither a line nor a field. -/
theorem defaultPlaceholder_plain :
    Text.isBlankText Formula.defaultPlaceholder = false ∧
      '\n' ∉ Formula.defaultPlaceholder.toList ∧ ',' ∉ Formula.defaultPlaceholder.toList := by
  decide

section Extracted

variable {content : String} (held : after.readText output = .ok content)
  (lines : Text.lines content = (extractAll settings (Text.lines text)).1.map Record.line)

include held lines

/-- A run over the records of a corpus without commas ends in a malformed line only for a record
with an empty formula. -/
theorem refused_of_canEndIn (replaced : ',' ∉ settings.placeholder.toList)
    (plain : ∀ line ∈ Text.lines text, Marked line → ',' ∉ line.toList) {fault : LineFault}
    (ends : CanEndIn after output (.line fault)) :
    (∃ number, fault = .emptyField number .formula) ∧
      ∃ record ∈ (extractAll settings (Text.lines text)).1, record.formula = "" := by
  obtain ⟨index, line, at_index, unreadable⟩ := ends.malformed held
  rw [lines] at at_index
  obtain ⟨record, delivered, rfl⟩ := List.mem_map.mp (List.mem_of_getElem? at_index)
  have stems := extractAll_stemsFrom delivered
  have fields := stems.not_mem (by decide) replaced plain
  obtain ⟨rfl, empty⟩ := refused_record stems.trimmed fields unreadable
  exact ⟨⟨_, rfl⟩, record, delivered, empty⟩

/-- Some run over the records ends in a malformed line if one of them has an empty formula. -/
theorem canEndIn_of_empty (opens : Statistics.Opens after output (Text.bytes content))
    {record : Record} (delivered : record ∈ (extractAll settings (Text.lines text)).1)
    (empty : record.formula = "") : ∃ fault, CanEndIn after output (.line fault) := by
  have listed : record.line ∈ Text.lines content := by
    rw [lines]
    exact List.mem_map_of_mem delivered
  obtain ⟨index, at_index⟩ := List.mem_iff_getElem?.mp listed
  obtain ⟨fault, unreadable⟩ : ∃ fault,
      Record.parse (Text.lineNumber index) record.line = .error fault := by
    rw [Record.parse_line (extractAll_stemsFrom delivered).trimmed]
    by_cases comma : record.commas ≠ 0
    · exact ⟨_, if_pos comma⟩
    · exact ⟨_, (if_neg comma).trans (if_pos empty)⟩
  have refused : Item.parse .records (Text.lineNumber index) record.line = .error fault := by
    rw [Item.parse, unreadable]
    rfl
  exact canEndIn_malformed held opens at_index refused

end Extracted

/-- Without commas in headers and properties, the only line of the file that an extraction has left
that a run can end in is one with an empty formula; and a run can end in one exactly when a
property of the corpus is blank after its mark. -/
theorem extracted_file_runs_iff (binding : HeaderBinding)
    (read : disk.readText corpus = .ok text)
    (plain : ∀ line ∈ Text.lines text, Marked line → ',' ∉ line.toList)
    (done : extractFile { headerBinding := binding } disk corpus output = (after, .ok summary)) :
    (∀ fault, CanEndIn after output (.line fault) →
        ∃ number, fault = .emptyField number .formula) ∧
      ((∃ fault, CanEndIn after output (.line fault)) ↔
        ∃ line ∈ Text.lines text, ∃ body,
          CorpusFormat.ltl3Tools.classify line = .property body ∧
            Text.isBlankText body = true) := by
  obtain ⟨shows, one_line, no_comma⟩ := defaultPlaceholder_plain
  obtain ⟨through, content, held, opens, lines⟩ := extractFile_ok read one_line done
  refine ⟨fun fault ends => (refused_of_canEndIn held lines no_comma plain ends).1, ?_, ?_⟩
  · rintro ⟨fault, ends⟩
    obtain ⟨-, record, delivered, empty⟩ := refused_of_canEndIn held lines no_comma plain ends
    obtain ⟨line, mem, body, is_property, formula⟩ := (extractAll_stemsFrom delivered).property
    rw [empty] at formula
    exact ⟨line, mem, body, is_property,
      (Formula.normalize_eq_empty_iff shows body).mp formula.symm⟩
  · rintro ⟨line, mem, body, is_property, blank⟩
    obtain ⟨record, delivered, formula⟩ := record_of_property through mem is_property
    refine canEndIn_of_empty held lines opens delivered ?_
    exact formula.trans ((Formula.normalize_eq_empty_iff shows body).mpr blank)

/-- The properties of this corpus are not blank after their marks, so no run over its records ends
in a malformed line. -/
theorem extracted_file_runs_two_properties :
    extractFile { headerBinding := .oneToMany }
        ⟨[(["c"], .file (Text.bytes "PATTERN: A\n- []p\n@ tt\n"))], [], []⟩ "c" "r" =
      (⟨[(["c"], .file (Text.bytes "PATTERN: A\n- []p\n@ tt\n")),
          (["r"], .file (Text.bytes "A, 2, G p\nA, 3, disambiguated\n"))], [], []⟩,
        .ok ⟨3, 2, 0⟩) ∧
      ¬ ∃ fault, CanEndIn
        ⟨[(["c"], .file (Text.bytes "PATTERN: A\n- []p\n@ tt\n")),
          (["r"], .file (Text.bytes "A, 2, G p\nA, 3, disambiguated\n"))], [], []⟩ "r"
        (.line fault) := by
  have plain : ∀ line ∈ Text.lines "PATTERN: A\n- []p\n@ tt\n", ',' ∉ line.toList := by decide
  have kinds : (Text.lines "PATTERN: A\n- []p\n@ tt\n").map CorpusFormat.ltl3Tools.classify =
      [.header "A", .property "[]p", .property "tt"] := by rfl
  have done : extractFile { headerBinding := .oneToMany }
      ⟨[(["c"], .file (Text.bytes "PATTERN: A\n- []p\n@ tt\n"))], [], []⟩ "c" "r" =
      (⟨[(["c"], .file (Text.bytes "PATTERN: A\n- []p\n@ tt\n")),
          (["r"], .file (Text.bytes "A, 2, G p\nA, 3, disambiguated\n"))], [], []⟩,
        .ok ⟨3, 2, 0⟩) := by
    rfl
  refine ⟨done, fun ends => ?_⟩
  obtain ⟨line, mem, body, is_property, blank⟩ := (extracted_file_runs_iff .oneToMany (by rfl)
    (fun line mem _ => plain line mem) done).2.mp ends
  have found : CorpusLine.property body ∈ [.header "A", .property "[]p", .property "tt"] := by
    rw [← kinds, ← is_property]
    exact List.mem_map_of_mem mem
  have one : body = "[]p" ∨ body = "tt" := by simpa using found
  rcases one with rfl | rfl
  · cases blank
  · cases blank

/-- A property that is blank after its mark goes through, and a run ends at its record. -/
theorem extracted_file_blank_property :
    (∀ line ∈ Text.lines "PATTERN: A\n- \n", Marked line → ',' ∉ line.toList) ∧
      ∃ after, extractFile {} ⟨[(["c"], .file (Text.bytes "PATTERN: A\n- \n"))], [], []⟩ "c" "r" =
          (after, .ok ⟨2, 1, 0⟩) ∧
        (runFile (ToolPlan.mk [] (.append "" (.exited 0))).tool .ignore {} "r" "s" after []
          {}).result = .error (.line (.emptyField 1 .formula)) := by
  have plain : ∀ line ∈ Text.lines "PATTERN: A\n- \n", ',' ∉ line.toList := by decide
  exact ⟨fun line mem _ => plain line mem, _, rfl, rfl⟩

end MonitorBench.Workflow
