import MonitorBench.Proofs.Text.Pieces
import MonitorBench.Proofs.Text.Trim
import MonitorBench.Record

/-!
# Reading back the line of a record

The line of a record has one field more than it has commas, two of which stand between its fields.
So a record with a comma in its pattern or formula is refused for the number of its fields, and
any other gives its three fields back, trimmed. A record whose pattern and formula are trimmed
is then read back as it is, unless its formula is empty (`parse_line`).
-/

set_option autoImplicit false

namespace MonitorBench

/-- The fields are trimmed, and there is a pattern. The formula may be empty. -/
structure Record.Trimmed (record : Record) : Prop where
  pattern : Text.trim record.pattern.toList = record.pattern.toList
  named : record.pattern ≠ ""
  formula : Text.trim record.formula.toList = record.formula.toList

namespace Record

/-- How many commas the pattern and the formula hold. -/
def commas (record : Record) : Nat :=
  record.pattern.toList.count ',' + record.formula.toList.count ','

/-- A record has no commas when neither its pattern nor its formula has one. -/
theorem commas_eq_zero_iff {record : Record} :
    record.commas = 0 ↔ ',' ∉ record.pattern.toList ∧ ',' ∉ record.formula.toList := by
  rw [commas, Nat.add_eq_zero_iff, List.count_eq_zero, List.count_eq_zero]

variable {record : Record}

/-- A record whose pattern and formula have no newline is written on one line. -/
theorem newline_not_mem_line (pattern : '\n' ∉ record.pattern.toList)
    (formula : '\n' ∉ record.formula.toList) : '\n' ∉ record.line.toList := by
  have digits : '\n' ∉ Text.digitsOf record.sourceLine :=
    fun bad => (Text.digit_of_mem_digitsOf bad).2.2 rfl
  simp [toList_line, pattern, digits, formula]

/-- The line of a trimmed record ends in its formula, or in the space before that. -/
theorem getLast?_line (trimmed : record.Trimmed) : record.line.toList.getLast? ≠ some '\r' := by
  intro ends
  rw [toList_line, List.getLast?_append] at ends
  cases last : record.formula.toList.getLast? with
  | none =>
    rw [last, Option.none_or, List.getLast?_append] at ends
    simp at ends
  | some c =>
    have shows := Text.not_blank_of_trimmed trimmed.formula last
    rw [last, Option.some_or, Option.some.injEq] at ends
    rw [ends] at shows
    exact absurd shows (by decide)

/-- The digits of a number have no comma. -/
theorem comma_not_mem_digitsOf (n : UInt64) : ',' ∉ Text.digitsOf n :=
  fun bad => (Text.digit_of_mem_digitsOf bad).2.1 rfl

/-- The line has the two commas between its fields and those of its pattern and formula. -/
theorem count_comma_line (record : Record) : record.line.toList.count ',' = record.commas + 2 := by
  have digits := List.count_eq_zero.mpr (comma_not_mem_digitsOf record.sourceLine)
  have separator : [',', ' '].count ',' = 1 := by decide
  simp only [toList_line, List.count_append, digits, separator, commas]
  omega

/-- Without commas in pattern and formula, the pieces of the line are its fields, the later ones
after a space. -/
theorem splitOn_line (plain : record.commas = 0) :
    Text.splitOn ',' record.line.toList =
      [record.pattern.toList, ' ' :: Text.digitsOf record.sourceLine,
        ' ' :: record.formula.toList] := by
  obtain ⟨pattern, formula⟩ := commas_eq_zero_iff.mp plain
  have number : ',' ∉ ' ' :: Text.digitsOf record.sourceLine := by
    simp [comma_not_mem_digitsOf]
  have last : ',' ∉ ' ' :: record.formula.toList := by
    simp [formula]
  have line : record.line.toList = record.pattern.toList ++ ',' ::
      ((' ' :: Text.digitsOf record.sourceLine) ++ ',' :: (' ' :: record.formula.toList)) := by
    simp [toList_line]
  rw [line, Text.splitOn_append pattern, Text.splitOn_append number, Text.splitOn_of_not_mem last]

/-- A number is read back from its digits. -/
theorem readDecimal?_digitsOf (n : UInt64) : Text.readDecimal? (Text.digitsOf n) = some n := by
  have unsigned : ∀ rest, Text.digitsOf n ≠ '+' :: rest := by
    intro rest signed
    have plus : '+' ∈ Text.digitsOf n := by simp [signed]
    have digit := Nat.isDigit_of_mem_toDigits (Nat.zero_lt_succ 9) (Nat.le_refl 10) plus
    simp at digit
  rw [Text.readDecimal?, Text.ofDigits?_digitsOf]
  exact unsigned

/-- Fields that are not three are refused for their number. -/
theorem ofFields_of_length_ne {fields : List (List Char)} (h : fields.length ≠ 3)
    (number : UInt64) : ofFields number fields = .error (.fieldCount number fields.length) := by
  match fields, h with
  | [], _ => rfl
  | [_], _ => rfl
  | [_, _], _ => rfl
  | [_, _, _], h => exact absurd rfl h
  | _ :: _ :: _ :: _ :: _, _ => rfl

/-- What reading gives back of the line of any record, wherever it stands: its fields, trimmed. -/
theorem parse_line_eq (record : Record) (number : UInt64) :
    parse number record.line =
      if record.commas ≠ 0 then .error (.fieldCount number (3 + record.commas))
      else if Text.strip record.pattern = "" then .error (.emptyField number .pattern)
      else if Text.strip record.formula = "" then .error (.emptyField number .formula)
      else .ok ⟨Text.strip record.pattern, record.sourceLine, Text.strip record.formula⟩ := by
  have space : Text.isBlank ' ' = true := by decide
  rw [parse]
  by_cases plain : record.commas = 0
  · have fields : (Text.splitOn ',' record.line.toList).map Text.trim =
        [Text.trim record.pattern.toList, Text.digitsOf record.sourceLine,
          Text.trim record.formula.toList] := by
      rw [splitOn_line plain]
      simp only [List.map_cons, List.map_nil, Text.trim_cons_blank space, Text.trim_digitsOf]
    rw [if_neg (not_not.mpr plain), fields, ofFields, readDecimal?_digitsOf]
    simp only [Text.strip, String.ofList_eq_empty_iff]
  · have many : ((Text.splitOn ',' record.line.toList).map Text.trim).length =
        3 + record.commas := by
      rw [List.length_map, Text.length_splitOn, count_comma_line]
      omega
    rw [if_pos plain, ofFields_of_length_ne (by rw [many]; omega), many]

/-- Of the line of a trimmed record, the record itself is given back. -/
theorem parse_line (trimmed : record.Trimmed) (number : UInt64) :
    parse number record.line =
      if record.commas ≠ 0 then .error (.fieldCount number (3 + record.commas))
      else if record.formula = "" then .error (.emptyField number .formula)
      else .ok record := by
  have pattern : Text.strip record.pattern = record.pattern := by
    rw [Text.strip, trimmed.pattern, String.ofList_toList]
  have formula : Text.strip record.formula = record.formula := by
    rw [Text.strip, trimmed.formula, String.ofList_toList]
  rw [parse_line_eq, pattern, formula, if_neg trimmed.named]

/-- The line is read back exactly when there is nothing in the record that reading refuses. -/
theorem parse_line_eq_ok_iff (trimmed : record.Trimmed) (number : UInt64) :
    parse number record.line = .ok record ↔
      ',' ∉ record.pattern.toList ∧ ',' ∉ record.formula.toList ∧ record.formula ≠ "" := by
  rw [parse_line trimmed, ← and_assoc, ← commas_eq_zero_iff]
  by_cases plain : record.commas = 0
  · by_cases empty : record.formula = "" <;> simp [plain, empty]
  · simp [plain]

end Record

end MonitorBench
