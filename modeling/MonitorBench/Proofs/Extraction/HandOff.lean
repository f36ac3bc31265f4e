import MonitorBench.Item
import MonitorBench.Proofs.Extraction.Binding
import MonitorBench.Proofs.Extraction.Capacity
import MonitorBench.Proofs.Formula.Normal
import MonitorBench.Proofs.Record.RoundTrip
import MonitorBench.Proofs.Text.OfLines

/-!
# From a corpus to a work list

Every record that is delivered stems from two lines of the corpus: a header that names its pattern
and a property that gives its formula (`extractAll_stemsFrom`). So its fields are trimmed, and
they hold no character that is in neither of the lines, unless the placeholder or the tool's
spelling brings it in. Writing records instead of keeping them changes nothing else, and what is
written is one line for each of them (`extract_recordWriter`). The lines are read back as they
were written, and `record_file_reads_back` says what each of them is read as.
-/

set_option autoImplicit false

namespace MonitorBench

/-! ## Lines and their marks -/

namespace CorpusLine

/-- The marks of headers and properties. -/
def recordMarks : List (List Char) := headerMark :: propertyMarks

variable {line : List Char} {name body : String}

/-- A header is the mark of a header and a name, which is trimmed. -/
theorem header_of_ofChars (h : ofChars line = .header name) :
    ∃ rest, line = headerMark ++ rest ∧ name = String.ofList (Text.trim rest) := by
  rw [ofChars] at h
  cases after : Text.after? headerMark line with
  | some rest =>
    rw [after] at h
    cases h
    exact ⟨rest, Text.after?_eq_some_iff.mp after, rfl⟩
  | none =>
    simp only [after] at h
    split at h
    · cases h
    · split at h <;> cases h

/-- A property is one of the marks of a property and a body. -/
theorem property_of_ofChars (h : ofChars line = .property body) :
    ∃ mark ∈ propertyMarks, line = mark ++ body.toList := by
  rw [ofChars] at h
  split at h
  · cases h
  · split at h
    next rest found =>
      cases h
      obtain ⟨mark, mem, after⟩ := List.exists_of_findSome?_eq_some found
      exact ⟨mark, mem, by simpa using Text.after?_eq_some_iff.mp after⟩
    next => split at h <;> cases h

end CorpusLine

namespace Extraction

variable {settings : ExtractionSettings} {lines : List String} {record : Record}

/-- The line begins with the mark of a header or of a property. -/
def Marked (line : String) : Prop :=
  ∃ mark ∈ CorpusLine.recordMarks, mark <+: line.toList

/-- A header line holds its name, trimmed. -/
theorem header_of_classify {line name : String}
    (h : settings.format.classify line = .header name) :
    Marked line ∧ Text.trim name.toList = name.toList ∧ ∀ c ∈ name.toList, c ∈ line.toList := by
  cases settings.format
  obtain ⟨rest, split, rfl⟩ := CorpusLine.header_of_ofChars h
  rw [String.toList_ofList]
  refine ⟨⟨CorpusLine.headerMark, List.mem_cons_self, rest, split.symm⟩, Text.trim_trim rest, ?_⟩
  intro c inside
  rw [split]
  exact List.mem_append_right _ (Text.mem_of_mem_trim inside)

/-- A property line holds its body. -/
theorem property_of_classify {line body : String}
    (h : settings.format.classify line = .property body) :
    Marked line ∧ ∀ c ∈ body.toList, c ∈ line.toList := by
  cases settings.format
  obtain ⟨mark, mem, split⟩ := CorpusLine.property_of_ofChars h
  refine ⟨⟨mark, List.mem_cons_of_mem _ mem, body.toList, split.symm⟩, ?_⟩
  intro c inside
  rw [split]
  exact List.mem_append_right _ inside

/-! ## Delivered records -/

/-- A header among the lines names the pattern of the record, and a property among them gives its
formula. -/
structure StemsFrom (settings : ExtractionSettings) (lines : List String) (record : Record) :
    Prop where
  header : ∃ line ∈ lines, settings.format.classify line = .header record.pattern
  named : record.pattern ≠ ""
  property : ∃ line ∈ lines, ∃ body, settings.format.classify line = .property body ∧
    record.formula = (Formula.normalize settings.placeholder body).1

/-- The property lines are those that are classified so, with their places. -/
theorem mem_propertyLines_iff {index : Nat} {body : String} :
    (index, body) ∈ propertyLines settings lines ↔
      ∃ line, lines[index]? = some line ∧ settings.format.classify line = .property body := by
  rw [propertyLines, List.mem_filterMap]
  constructor
  · rintro ⟨⟨line, place⟩, at_place, found⟩
    simp only at found
    split at found
    next held is_property =>
      cases found
      exact ⟨line, List.mk_mem_zipIdx_iff_getElem?.mp at_place, is_property⟩
    next => cases found
  · rintro ⟨line, at_index, is_property⟩
    exact ⟨(line, index), List.mk_mem_zipIdx_iff_getElem?.mpr at_index, by simp [is_property]⟩

/-- What a property line yields stems from it and from the header that it is bound to. -/
theorem Yields.stemsFrom {property : Nat × String} (h : Yields settings lines property record)
    (mem : property ∈ propertyLines settings lines) : StemsFrom settings lines record := by
  obtain ⟨⟨j, -, at_header, named, -⟩, -, formula⟩ := h
  obtain ⟨header, found, is_header⟩ := Option.map_eq_some_iff.mp at_header
  obtain ⟨line, at_index, is_property⟩ := mem_propertyLines_iff.mp mem
  exact ⟨⟨header, List.mem_of_getElem? found, is_header⟩, named,
    ⟨line, List.mem_of_getElem? at_index, property.2, is_property, formula⟩⟩

/-- Where every property yields a record, each of them yields one of the records. -/
theorem exists_record_of_yields {properties : List (Nat × String)} {records : List Record}
    (h : List.Forall₂ (Yields settings lines) properties records) {property : Nat × String}
    (mem : property ∈ properties) : ∃ record ∈ records, Yields settings lines property record := by
  induction h with
  | nil => cases mem
  | cons yields _ ih =>
    rcases List.mem_cons.mp mem with rfl | later
    · exact ⟨_, List.mem_cons_self, yields⟩
    · obtain ⟨record, of_records, found⟩ := ih later
      exact ⟨record, List.mem_cons_of_mem _ of_records, found⟩

/-- Where every property yields a record, each of the records was yielded by one of them. -/
theorem exists_property_of_yields {properties : List (Nat × String)} {records : List Record}
    (h : List.Forall₂ (Yields settings lines) properties records) (mem : record ∈ records) :
    ∃ property ∈ properties, Yields settings lines property record := by
  obtain ⟨i, bound, rfl⟩ := List.getElem_of_mem mem
  have same := h.length_eq
  have yields := (List.forall₂_iff_get.mp h).2 i (by omega) bound
  exact ⟨_, List.get_mem _ _, yields⟩

/-- A property line is one wherever the corpus ends. -/
theorem mem_propertyLines_append {property : Nat × String} (rest : List String)
    (mem : property ∈ propertyLines settings lines) :
    property ∈ propertyLines settings (lines ++ rest) := by
  obtain ⟨line, at_index, is_property⟩ := mem_propertyLines_iff.mp mem
  refine mem_propertyLines_iff.mpr ⟨line, ?_, is_property⟩
  rw [List.getElem?_append_left (List.getElem?_eq_some_iff.mp at_index).1, at_index]

/-- How the extraction of a whole corpus ends. -/
theorem extractAll_ends (settings : ExtractionSettings) (lines : List String) :
    Ends settings [] lines (extractAll settings lines) :=
  extractFrom_collector lines [] (Reached.start settings)

/-- Every record that is delivered was yielded by a property line, also before a fault. -/
theorem extractAll_yields (mem : record ∈ (extractAll settings lines).1) :
    ∃ property ∈ propertyLines settings lines, Yields settings lines property record := by
  have ends := extractAll_ends settings lines
  generalize extractAll settings lines = result at ends mem
  cases ends with
  | through reached => exact exists_property_of_yields reached.yields mem
  | @halted before after line body _ _ _ split reached is_property unbound =>
    obtain ⟨property, before_line, yields⟩ :=
      exists_property_of_yields (yields_append (line :: after) reached.yields) mem
    rw [split]
    exact ⟨property, mem_propertyLines_append (line :: after) before_line, yields⟩

/-- Every record that is delivered stems from the corpus. -/
theorem extractAll_stemsFrom (mem : record ∈ (extractAll settings lines).1) :
    StemsFrom settings lines record := by
  obtain ⟨property, of_lines, yields⟩ := extractAll_yields mem
  exact yields.stemsFrom of_lines

/-- An extraction that goes through counts the records that it has delivered. -/
theorem extractAll_emitted {summary : Summary}
    (through : (extractAll settings lines).2 = .ok summary) :
    summary.recordsEmitted = (extractAll settings lines).1.length := by
  have ends := extractAll_ends settings lines
  generalize extractAll settings lines = result at ends through
  cases ends with
  | halted => cases through
  | through reached =>
    cases through
    exact reached.emitted

/-- The fields of such a record are trimmed. -/
theorem StemsFrom.trimmed (h : StemsFrom settings lines record) : record.Trimmed := by
  obtain ⟨⟨header, -, is_header⟩, named, -, -, body, -, formula⟩ := h
  refine ⟨(header_of_classify is_header).2.1, named, ?_⟩
  rw [formula]
  exact Formula.trim_normalize settings.placeholder body

/-- A character that no marked line holds is in neither field, unless the placeholder or the tool's
spelling brings it in. -/
theorem StemsFrom.not_mem (h : StemsFrom settings lines record) {c : Char}
    (foreign : c ∉ Formula.spelling) (replaced : c ∉ settings.placeholder.toList)
    (absent : ∀ line ∈ lines, Marked line → c ∉ line.toList) :
    c ∉ record.pattern.toList ∧ c ∉ record.formula.toList := by
  obtain ⟨⟨header, of_lines, is_header⟩, -, property, mem, body, is_property, formula⟩ := h
  obtain ⟨marked, -, in_header⟩ := header_of_classify is_header
  obtain ⟨marked_too, in_property⟩ := property_of_classify is_property
  refine ⟨fun bad => absent header of_lines marked (in_header c bad), ?_⟩
  rw [formula]
  intro bad
  rcases Formula.mem_normalize bad with held | spelled | stated
  · exact replaced held
  · exact foreign spelled
  · exact absent property mem marked_too (in_property c stated)

/-! ## Writing the records -/

/-- The rows of records are the lines of a text. -/
theorem flatMap_rowBytes (records : List Record) :
    records.flatMap rowBytes = Text.bytes (Text.ofLines (records.map Record.line)) := by
  induction records with
  | nil => rfl
  | cons record records ih =>
    have text : Text.ofLines ((record :: records).map Record.line) =
        record.line ++ "\n" ++ Text.ofLines (records.map Record.line) := by
      simp [Text.ofLines]
    rw [text, Text.bytes_append, ← ih]
    rfl

/-- What is written of a corpus is one line for each record that is delivered. -/
theorem extract_recordWriter (settings : ExtractionSettings) (lines : List String) :
    extract settings recordWriter { device := {} } lines =
      ({ device :=
          { taken := Text.bytes (Text.ofLines ((extractAll settings lines).1.map Record.line)) }
         written := (extractAll settings lines).1.length },
        (extractAll settings lines).2) := by
  cases extract_fares settings recordWriter { device := {} } lines with
  | @taken last takes ends =>
    obtain ⟨wrote, counted⟩ := takes.written
    have whole : last.device =
        { taken := Text.bytes (Text.ofLines ((extractAll settings lines).1.map Record.line)) } := by
      rw [← flatMap_rowBytes]
      exact (congrArg Prod.fst wrote).symm
    rw [Nat.zero_add] at counted
    rw [extract, ends, ← whole, ← counted]
  | @refused before rest record between after fault passed behind line split takes refusal =>
    -- what was taken before has not made the device limited
    obtain ⟨wrote, -⟩ := takes.written
    have unlimited : between.device.capacity = none :=
      (congrArg (fun outcome => outcome.1.capacity) wrote).symm
    obtain ⟨reason, -, wrote_part, -⟩ := written_of_refused refusal
    simp [Device.write, unlimited] at wrote_part

/-- The lines that are written are read back as they are, if the placeholder has no line feed. -/
theorem lines_written (corpus : String) (one_line : '\n' ∉ settings.placeholder.toList) :
    Text.lines (Text.ofLines ((extractAll settings (Text.lines corpus)).1.map Record.line)) =
      (extractAll settings (Text.lines corpus)).1.map Record.line := by
  refine Text.lines_ofLines ?_ ?_
  · intro line mem
    obtain ⟨record, delivered, rfl⟩ := List.mem_map.mp mem
    have free := (extractAll_stemsFrom delivered).not_mem (by decide) one_line
      fun line of_corpus _ => Text.newline_not_mem_of_mem_lines of_corpus
    exact Record.newline_not_mem_line free.1 free.2
  · intro line mem
    obtain ⟨record, delivered, rfl⟩ := List.mem_map.mp mem
    exact Record.getLast?_line (extractAll_stemsFrom delivered).trimmed

/-- The records of any corpus, as far as they are delivered, are written as a work list with one
line for each, as it was written. A line is read back as its record exactly if pattern and formula
have no comma and the formula is not empty; otherwise it is refused, for the number of its fields
if there is a comma, and for its empty formula if there is none. -/
theorem record_file_reads_back (settings : ExtractionSettings) (corpus : String)
    (one_line : '\n' ∉ settings.placeholder.toList) :
    ∃ written : String,
      (extract settings recordWriter { device := {} } (Text.lines corpus)).1.device.taken =
        Text.bytes written ∧
      (WorkList.ofText .records written).total =
        (extractAll settings (Text.lines corpus)).1.length ∧
      (WorkList.ofText .records written).lines =
        (extractAll settings (Text.lines corpus)).1.map Record.line ∧
      ∀ record ∈ (extractAll settings (Text.lines corpus)).1, ∀ number,
        (Record.parse number record.line = .ok record ↔
          ',' ∉ record.pattern.toList ∧ ',' ∉ record.formula.toList ∧ record.formula ≠ "") ∧
        (record.commas ≠ 0 →
          Record.parse number record.line = .error (.fieldCount number (3 + record.commas))) ∧
        (record.commas = 0 → record.formula = "" →
          Record.parse number record.line = .error (.emptyField number .formula)) := by
  have lines := lines_written corpus one_line
  refine ⟨Text.ofLines ((extractAll settings (Text.lines corpus)).1.map Record.line),
    ?_, ?_, ?_, ?_⟩
  · rw [extract_recordWriter]
  · rw [WorkList.total, WorkList.ofText, lines, List.length_map]
  · rw [WorkList.ofText, lines]
  · intro record delivered number
    have trimmed := (extractAll_stemsFrom delivered).trimmed
    refine ⟨Record.parse_line_eq_ok_iff trimmed number, ?_, ?_⟩
    · intro some_comma
      rw [Record.parse_line trimmed, if_pos some_comma]
    · intro plain empty
      rw [Record.parse_line trimmed, if_neg (not_not.mpr plain), if_pos empty]

/-- A corpus that ends at a property without a header has delivered a record with a comma, one
without a formula and one that is read back. -/
theorem record_file_reads_back_before_fault :
    '\n' ∉ ({} : ExtractionSettings).placeholder.toList ∧
      ∃ written : String,
        (extract {} recordWriter { device := {} } (Text.lines
          "PATTERN: A\n- <>p, q\nPATTERN: B\n- \r\nPATTERN: C\n@ []p\n- q")).1.device.taken =
            Text.bytes written ∧
        (WorkList.ofText .records written).lines = ["A, 2, F p, q", "B, 4, ", "C, 6, G p"] ∧
        Record.parse 1 "A, 2, F p, q" = .error (.fieldCount 1 4) ∧
        Record.parse 2 "B, 4, " = .error (.emptyField 2 .formula) ∧
        Record.parse 3 "C, 6, G p" = .ok ⟨"C", 6, "G p"⟩ := by
  have one_line : '\n' ∉ ({} : ExtractionSettings).placeholder.toList := by decide
  have delivered : (extractAll {} (Text.lines
      "PATTERN: A\n- <>p, q\nPATTERN: B\n- \r\nPATTERN: C\n@ []p\n- q")).1 =
        [⟨"A", 2, "F p, q"⟩, ⟨"B", 4, ""⟩, ⟨"C", 6, "G p"⟩] := by rfl
  obtain ⟨written, taken, -, lines, read⟩ := record_file_reads_back {}
    "PATTERN: A\n- <>p, q\nPATTERN: B\n- \r\nPATTERN: C\n@ []p\n- q" one_line
  rw [delivered] at lines read
  refine ⟨one_line, written, taken, lines.trans (by rfl), ?_, ?_, ?_⟩
  · exact (read ⟨"A", 2, "F p, q"⟩ (by simp) 1).2.1 (by decide)
  · exact (read ⟨"B", 4, ""⟩ (by simp) 2).2.2 (by decide) rfl
  · exact (read ⟨"C", 6, "G p"⟩ (by simp) 3).1.mpr ⟨by decide, by decide, by decide⟩

end Extraction

end MonitorBench
