import MonitorBench.Proofs.Workflow.Runnable

/-!
# From a corpus to its statistics

An extraction leaves a record file, and a run of that file leaves statistics. When no record has a
comma or an empty formula, the run takes each line of the file for the record that it was written
for (`reads_records`); when the statistics file is not there before and the tool always starts and
ends its rows, the run gets to its end and leaves one row for each record, in the order of the
corpus (`extracted_file_fills_statistics`).
-/

set_option autoImplicit false

namespace MonitorBench

/-! ## A new file -/

/-- The path names a file that is not there, in a directory that is. -/
structure Disk.Vacant (disk : Disk) (path : String) : Prop where
  /-- It is not a path of a directory. -/
  names_file : Path.endsInSlash path = false
  /-- It leads to a place where nothing stands. -/
  free : ∃ location, disk.locate path = .ok location ∧ disk.entry? location = none

namespace Statistics

variable {disk : Disk} {path : String}

/-- Statistics that are not there can be opened, and hold nothing. -/
theorem opens_of_vacant (vacant : disk.Vacant path) :
    disk.holds path = false ∧ Opens disk path [] := by
  obtain ⟨names_file, location, located, free⟩ := vacant
  constructor
  · simp [Disk.holds, Disk.find?, located, free]
  · exact ⟨location, Disk.openFile_eq_ok_iff.mpr ⟨names_file, located, Or.inr ⟨free, rfl⟩⟩⟩

end Statistics

namespace Workflow

open Extraction

variable {σ : Type} {machine : Tool σ} {states : σ → Prop} {disk after : Disk}
  {corpus output statistics text : String} {summary : Summary} {records : List Record}
  {batch : BatchSettings} {tool : σ} {out : Device}

/-- Records without commas and empty formulas are read back from their lines, in order. -/
theorem reads_records (trimmed : ∀ record ∈ records, record.Trimmed)
    (readable : ∀ record ∈ records,
      ',' ∉ record.pattern.toList ∧ ',' ∉ record.formula.toList ∧ record.formula ≠ "") :
    Batch.Reads .records (records.map Record.line) (records.map Item.record) := by
  induction records using List.reverseRecOn with
  | nil => exact .nil .records
  | append_singleton records record ih =>
    have earlier := ih (fun other mem => trimmed other (List.mem_append_left _ mem))
      (fun other mem => readable other (List.mem_append_left _ mem))
    have last : record ∈ records ++ [record] := List.mem_append_right _ List.mem_cons_self
    rw [List.map_append, List.map_append, List.map_singleton, List.map_singleton]
    refine earlier.snoc ?_
    rw [Item.parse, (Record.parse_line_eq_ok_iff (trimmed record last) _).mpr (readable record last)]
    rfl

/-- The rows of records begin with their lines. -/
theorem endedRows_records (records : List Record) (payloads : List Bytes) :
    Batch.endedRows ((records.map Item.record).zip payloads) =
      (records.zip payloads).flatMap fun row =>
        Text.bytes (row.1.line ++ ", ") ++ row.2 ++ [10] := by
  rw [Batch.endedRows, List.zip_map_left, List.flatMap_map]
  rfl

/-- Where there is a record, there is a row. -/
theorem rows_of_records_ne_nil {payloads : List Bytes} (some_record : records ≠ [])
    (lengths : payloads.length = records.length) :
    ((records.zip payloads).flatMap fun row =>
      Text.bytes (row.1.line ++ ", ") ++ row.2 ++ [10]) ≠ [] := by
  cases records with
  | nil => exact absurd rfl some_record
  | cons record records =>
    cases payloads with
    | nil => simp at lengths
    | cons payload payloads => simp

/-- A run that starts new statistics and does not resume has nothing to prepare. -/
theorem makeReady_vacant (vacant : disk.Vacant statistics) (from_start : batch.resume = false)
    (mode : InputMode) :
    Batch.makeReady batch statistics mode disk = (disk, .ok []) := by
  simp [Batch.makeReady, Statistics.prepare, (Statistics.opens_of_vacant vacant).1, from_start]

/-- An extraction that goes through, followed by a run over the record file that it has left: if no
record has a comma or an empty formula, the statistics file is not there yet, and the tool always
starts and writes a payload and a line feed, then the run takes all the records, gives the tool
their formulas in order, and leaves for each record a row of its line and its payload. Without
records there is no file afterwards. -/
theorem extracted_file_fills_statistics (binding : HeaderBinding)
    (read : disk.readText corpus = .ok text)
    (done : extractFile { headerBinding := binding } disk corpus output = (after, .ok summary))
    (delivered : (extractAll { headerBinding := binding } (Text.lines text)).1 = records)
    (readable : ∀ record ∈ records,
      ',' ∉ record.pattern.toList ∧ ',' ∉ record.formula.toList ∧ record.formula ≠ "")
    (vacant : after.Vacant statistics) (as_records : batch.inputMode = .records)
    (from_start : batch.resume = false) (unlimited : out.capacity = none) (known : states tool)
    (starts : machine.Starts statistics states)
    (writes : machine.Writes statistics states (Text.EndedRow 10)) :
    summary.recordsEmitted = records.length ∧
      ∃ (state : Batch.State σ) (payloads : List Bytes),
        runFile machine .ignore batch output statistics after tool out =
          ⟨state, .ok ⟨records.length, records.length, 0, state.nonzeroExits⟩⟩ ∧
        state.calls.map Batch.Call.formula = records.map Record.formula ∧
        payloads.length = records.length ∧ (∀ payload ∈ payloads, 10 ∉ payload) ∧
        state.calls.map Batch.Call.written = payloads.map (· ++ [10]) ∧
        if records = [] then
          state.disk.holds statistics = false
        else
          state.disk.read statistics = .ok ((records.zip payloads).flatMap fun row =>
            Text.bytes (row.1.line ++ ", ") ++ row.2 ++ [10]) := by
  obtain ⟨-, one_line, -⟩ := defaultPlaceholder_plain
  obtain ⟨through, content, held, -, lines⟩ := extractFile_ok read one_line done
  have trimmed : ∀ record ∈ records, record.Trimmed := by
    intro record mem
    rw [← delivered] at mem
    exact (extractAll_stemsFrom mem).trimmed
  rw [delivered] at lines
  have reads := reads_records trimmed readable
  rw [← lines] at reads
  obtain ⟨missing, opens⟩ := Statistics.opens_of_vacant vacant
  obtain ⟨state, ran, stood⟩ := Batch.run_to_end (WorkList.ofText .records content) reads
    (makeReady_vacant vacant from_start .records) opens unlimited known starts writes
  have served := stood.served
  rw [Batch.unfinished_nil] at served
  obtain ⟨-, payloads, lengths, free, written, -, left⟩ := served.ended_rows writes known opens
  rw [List.length_map] at lengths
  have served_all : state.calls.length = records.length := by
    rw [served.length_eq, List.length_map]
  have none_skipped : state.skipped = 0 := by
    have all := stood.skipped
    rw [List.length_map] at all
    omega
  refine ⟨?_, state, payloads, ?_, ?_, lengths, free, written, ?_⟩
  · rw [extractAll_emitted through, delivered]
  · have total : (WorkList.ofText .records content).total = records.length := by
      rw [WorkList.total, WorkList.ofText, lines, List.length_map]
    rw [runFile, held, as_records]
    simp only [ran, Batch.State.summary, total, served_all, none_skipped]
  · rw [served.formulas, List.map_map]
    rfl
  · by_cases nothing : records = []
    · rw [if_pos nothing]
      subst nothing
      rw [served.eq_of_nil.2]
      exact missing
    · rw [if_neg nothing]
      rw [endedRows_records] at left
      rcases left.read with ⟨-, holds⟩ | ⟨-, empty⟩
      · exact holds
      · exact absurd empty (rows_of_records_ne_nil nothing lengths)

/-- A corpus with two records, and a tool that fails for the second one and then writes no more than
the end of its row. -/
theorem extracted_file_fills_statistics_two_records :
    ∃ after,
      extractFile {}
          ⟨[(["c"], .file (Text.bytes "PATTERN: A\n- []p\nPATTERN: B\n@ <>q && r\n"))], [], []⟩ "c"
          "r" = (after, .ok ⟨4, 2, 0⟩) ∧
        after.Vacant "s" ∧
        (ToolPlan.mk [] (.append "\n" (.exited 3))).tool.Starts "s" (fun script =>
          ∀ action ∈ script, ToolPlan.Fitting (fun text => Text.EndedRow 10 (Text.bytes text))
            action) ∧
        (ToolPlan.mk [] (.append "\n" (.exited 3))).tool.Writes "s" (fun script =>
          ∀ action ∈ script, ToolPlan.Fitting (fun text => Text.EndedRow 10 (Text.bytes text))
            action) (Text.EndedRow 10) ∧
        ∃ state,
          runFile (ToolPlan.mk [] (.append "\n" (.exited 3))).tool .ignore {} "r" "s" after
              [.append "1, 2\n" (.exited 0)] {} = ⟨state, .ok ⟨2, 2, 0, state.nonzeroExits⟩⟩ ∧
            state.disk.read "s" =
              .ok (Text.bytes "A, 2, G p, 1, 2\nB, 4, F q & r, \n") := by
  have done : extractFile {}
      ⟨[(["c"], .file (Text.bytes "PATTERN: A\n- []p\nPATTERN: B\n@ <>q && r\n"))], [], []⟩ "c"
      "r" = (⟨[(["c"], .file (Text.bytes "PATTERN: A\n- []p\nPATTERN: B\n@ <>q && r\n")),
        (["r"], .file (Text.bytes "A, 2, G p\nB, 4, F q & r\n"))], [], []⟩,
        .ok ⟨4, 2, 0⟩) := by
    rfl
  have delivered : (extractAll {} (Text.lines
      "PATTERN: A\n- []p\nPATTERN: B\n@ <>q && r\n")).1 =
        [⟨"A", 2, "G p"⟩, ⟨"B", 4, "F q & r"⟩] := by
    decide +kernel
  have readable : ∀ record ∈ [(⟨"A", 2, "G p"⟩ : Record), ⟨"B", 4, "F q & r"⟩],
      ',' ∉ record.pattern.toList ∧ ',' ∉ record.formula.toList ∧ record.formula ≠ "" := by
    decide
  have vacant : (Disk.mk [(["c"], .file
      (Text.bytes "PATTERN: A\n- []p\nPATTERN: B\n@ <>q && r\n")),
      (["r"], .file (Text.bytes "A, 2, G p\nB, 4, F q & r\n"))] [] []).Vacant "s" :=
    ⟨by decide, ["s"], by decide +kernel, by decide +kernel⟩
  have last : ToolPlan.Fitting (fun text => Text.EndedRow 10 (Text.bytes text))
      (.append "\n" (.exited 3)) := ⟨"\n", .exited 3, rfl, [], by decide, by decide⟩
  have script : ∀ action ∈ [PlannedAction.append "1, 2\n" (.exited 0)],
      ToolPlan.Fitting (fun text => Text.EndedRow 10 (Text.bytes text)) action := by
    intro action mem
    rw [List.mem_singleton.mp mem]
    exact ⟨"1, 2\n", .exited 0, rfl, Text.bytes "1, 2", by decide, by decide⟩
  obtain ⟨starts, appends⟩ := ToolPlan.starts_and_appends last "s"
  have writes : (ToolPlan.mk [] (.append "\n" (.exited 3))).tool.Writes "s" _
      (Text.EndedRow 10) := appends.writes fun _ ended => ended
  have read : (Disk.mk [(["c"], .file
      (Text.bytes "PATTERN: A\n- []p\nPATTERN: B\n@ <>q && r\n"))] [] []).readText "c" =
        .ok "PATTERN: A\n- []p\nPATTERN: B\n@ <>q && r\n" := by
    rfl
  have as_records : ({} : BatchSettings).inputMode = .records := rfl
  have unlimited : ({} : Device).capacity = none := rfl
  obtain ⟨-, state, payloads, ran, -, -, -, written, left⟩ :=
    extracted_file_fills_statistics .oneToOne read done delivered readable vacant as_records rfl
      unlimited script starts writes
  refine ⟨_, done, vacant, starts, writes, state, ran, ?_⟩
  have made : state.calls.map Batch.Call.written =
      [Text.bytes "1, 2", []].map (· ++ [10]) := by
    have calls := congrArg (fun outcome => outcome.state.calls.map Batch.Call.written) ran
    rw [← calls]
    decide +kernel
  have same : payloads = [Text.bytes "1, 2", []] :=
    List.map_injective_iff.mpr (List.append_left_injective [10]) (written.symm.trans made)
  rw [if_neg (by simp), same] at left
  rw [left]
  decide +kernel

end Workflow

end MonitorBench
