import MonitorBench.Proofs.Statistics.Row

/-!
# What a row tells of its item

The row of an item that was read from a line gives back the key and all that was written behind
it, except for raw formulas with a comma: a raw row is cut at its first comma, so its key never
has one (`Row.parse_rowStart_eq_iff`). Whatever line a row was read from, its key, a separator and
its payload are read as the same row (`Row.parse_respelled`). `rows_recover_items` puts both
together.
-/

set_option autoImplicit false

namespace MonitorBench.Statistics

variable {mode : InputMode} {number : UInt64} {line : String} {item : Item} {row : Row}

/-- The key of a raw row has no comma. -/
theorem Row.comma_not_mem_raw_key (h : Row.parse .raw line = some row) : ',' ∉ row.key.toList := by
  obtain ⟨⟨fields, one, clean, key⟩, -⟩ := Row.clean_of_parse h
  obtain ⟨field, rfl⟩ := List.length_eq_one_iff.mp one
  have same : row.key.toList = field := by simpa using key
  rw [same]
  exact (clean field List.mem_cons_self).no_comma

/-- The row of an item gives back its key and what was written, exactly when the item is a record
or its formula has no comma. -/
theorem Row.parse_rowStart_eq_iff (read : Item.parse mode number line = .ok item)
    (payload : String) :
    Row.parse mode (item.rowStart ++ payload) =
        some { key := item.key, payload := Text.strip payload } ↔
      mode = .records ∨ ',' ∉ item.formula.toList := by
  constructor
  · intro recovered
    rcases Item.parse_cases read with ⟨record, rfl, -, -⟩ | ⟨rfl, -, rfl⟩
    · exact Or.inl rfl
    · have no_comma := Row.comma_not_mem_raw_key recovered
      exact Or.inr no_comma
  · intro plain
    have no_comma : mode = .raw → ',' ∉ item.formula.toList := by
      rintro rfl
      exact plain.resolve_left (by decide)
    obtain ⟨rfl, readable⟩ := Item.readable_of_parse read no_comma
    have recovered := Row.parse_rowStart readable payload.toList
    rw [← String.toList_append, String.ofList_toList] at recovered
    exact recovered

/-- A row is complete exactly when what was written is not blank. -/
theorem Row.isComplete_strip_iff (key payload : String) :
    Row.isComplete { key, payload := Text.strip payload } = true ↔
      Text.isBlankText payload = false := by
  have blank : Text.strip payload = "" ↔ Text.isBlankText payload = true := by
    rw [Text.strip, String.ofList_eq_empty_iff, Text.trim_eq_nil_iff, Text.isBlankText,
      List.all_eq_true]
  rw [Row.isComplete, bne_iff_ne, Ne, blank, Bool.not_eq_true]

/-- A row that was read is read again from its key and its payload. -/
theorem Row.parse_respelled (h : Row.parse mode line = some row) :
    Row.parse mode (row.key ++ fieldSeparator ++ row.payload) = some row := by
  obtain ⟨⟨fields, all, clean, key⟩, trimmed⟩ := Row.clean_of_parse h
  have again := Row.parse_joined clean all row.payload.toList
  rw [← key, trimmed, String.ofList_toList, String.ofList_toList, ← String.toList_append,
    ← String.toList_append, String.ofList_toList] at again
  exact again

/-- In both modes, an item that was read from a line gets its key back from its row, with what was
written after the start as the payload, trimmed, exactly when it is a record or its formula has no
comma; such a row is complete exactly when what was written is not blank. And every row that is
read from any line is read again from its key, a separator and its payload. -/
theorem rows_recover_items (mode : InputMode) :
    (∀ (number : UInt64) (line : String) (item : Item), Item.parse mode number line = .ok item →
      ∀ payload : String,
        (Row.parse mode (item.rowStart ++ payload) =
            some { key := item.key, payload := Text.strip payload } ↔
          mode = .records ∨ ',' ∉ item.formula.toList) ∧
        (Row.isComplete { key := item.key, payload := Text.strip payload } = true ↔
          Text.isBlankText payload = false)) ∧
    ∀ (line : String) (row : Row), Row.parse mode line = some row →
      Row.parse mode (row.key ++ fieldSeparator ++ row.payload) = some row := by
  refine ⟨fun number line item read payload => ⟨?_, ?_⟩, fun line row read => ?_⟩
  · exact Row.parse_rowStart_eq_iff read payload
  · exact Row.isComplete_strip_iff item.key payload
  · exact Row.parse_respelled read

/-- The row of a record is recovered with commas in its payload; that of a raw formula with a comma
is not, but the row that is read in its place is read again. -/
theorem rows_recover_items_commas :
    Item.parse .records 1 "A,07, p " = .ok (.record ⟨"A", 7, "p"⟩) ∧
      Row.parse .records ("A, 7, p, " ++ " 4, 7\t") = some ⟨"A, 7, p", "4, 7"⟩ ∧
      Item.parse .raw 1 "p, q" = .ok (.raw "p, q") ∧
      Row.parse .raw ("p, q, " ++ "3") ≠ some ⟨"p, q", "3"⟩ ∧
      Row.parse .raw "p, q, 3" = some ⟨"p", "q, 3"⟩ ∧
      Row.parse .raw ("p" ++ ", " ++ "q, 3") = some ⟨"p", "q, 3"⟩ := by
  have record : Item.parse .records 1 "A,07, p " = .ok (.record ⟨"A", 7, "p"⟩) := by rfl
  have formula : Item.parse .raw 1 "p, q" = .ok (.raw "p, q") := by rfl
  have shorter : Row.parse .raw "p, q, 3" = some ⟨"p", "q, 3"⟩ := by rfl
  have start : (Item.record ⟨"A", 7, "p"⟩).rowStart = "A, 7, p, " := by rfl
  have key : (Item.record ⟨"A", 7, "p"⟩).key = "A, 7, p" := by rfl
  have payload : Text.strip " 4, 7\t" = "4, 7" := by rfl
  have raw_start : (Item.raw "p, q").rowStart = "p, q, " := by rfl
  have raw_key : (Item.raw "p, q").key = "p, q" := by rfl
  have raw_payload : Text.strip "3" = "3" := by rfl
  have again := (rows_recover_items .raw).2 "p, q, 3" ⟨"p", "q, 3"⟩ shorter
  refine ⟨record, ?_, formula, ?_, shorter, again⟩
  · have recovered := ((rows_recover_items .records).1 1 _ _ record " 4, 7\t").1.mpr (Or.inl rfl)
    rw [start, key, payload] at recovered
    exact recovered
  · have recovered_iff := ((rows_recover_items .raw).1 1 _ _ formula "3").1
    rw [raw_start, raw_key, raw_payload] at recovered_iff
    intro recovered
    exact absurd (recovered_iff.mp recovered) (by decide)

end MonitorBench.Statistics
