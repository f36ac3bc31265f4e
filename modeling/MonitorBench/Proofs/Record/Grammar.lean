import MonitorBench.Proofs.Record.RoundTrip
import MonitorBench.Proofs.Text.Numeral

/-!
# The grammar of record lines

`Record.ReadAs` says what a line is read as without saying how it is read: a line with two commas
whose outer pieces are not blank and whose middle piece spells a number of 64 bits is read as a
record, and every other line as the first fault that applies. The pieces are the texts around the
two commas, and blanks at their ends do not count. Every line is read as something
(`exists_readAs`), and reading gives nothing else (`parse_eq_iff_readAs`).
-/

set_option autoImplicit false

namespace MonitorBench.Record

/-- A line has two commas, and these are the pieces around them. -/
structure Pieces (line first middle last : List Char) : Prop where
  split : line = first ++ ',' :: (middle ++ ',' :: last)
  first : ',' ∉ first
  middle : ',' ∉ middle
  last : ',' ∉ last

/-- What a line is read as, wherever it stands. Each fault is reported only for lines that the ones
before it do not apply to. -/
inductive ReadAs (number : UInt64) (line : String) : Except LineFault Record → Prop where
  /-- There are not two commas: the pieces are counted. -/
  | fieldCount (commas : line.toList.count ',' ≠ 2) :
      ReadAs number line (.error (.fieldCount number (line.toList.count ',' + 1)))
  /-- The first piece is blank. -/
  | noPattern {first middle last : List Char} (pieces : Pieces line.toList first middle last)
      (blank : Text.trim first = []) :
      ReadAs number line (.error (.emptyField number .pattern))
  /-- The last piece is blank. -/
  | noFormula {first middle last : List Char} (pieces : Pieces line.toList first middle last)
      (pattern : Text.trim first ≠ []) (blank : Text.trim last = []) :
      ReadAs number line (.error (.emptyField number .formula))
  /-- The middle piece spells no number, or one that does not fit. -/
  | badNumber {first middle last : List Char} (pieces : Pieces line.toList first middle last)
      (pattern : Text.trim first ≠ []) (formula : Text.trim last ≠ [])
      (unspelled : ∀ value ≤ 18446744073709551615, ¬ Text.Numeral (Text.trim middle) value) :
      ReadAs number line (.error (.badLineNumber number (String.ofList (Text.trim middle))))
  /-- The three pieces are the fields of a record. -/
  | record {first middle last : List Char} {value : Nat}
      (pieces : Pieces line.toList first middle last) (pattern : Text.trim first ≠ [])
      (formula : Text.trim last ≠ []) (spelled : Text.Numeral (Text.trim middle) value)
      (fits : value ≤ 18446744073709551615) :
      ReadAs number line
        (.ok ⟨String.ofList (Text.trim first), UInt64.ofNat value,
          String.ofList (Text.trim last)⟩)

/-! ## The pieces of a line -/

/-- A line with a comma has a piece in front of the first one. -/
theorem exists_piece {line : List Char} {commas : Nat} (h : line.count ',' = commas + 1) :
    ∃ piece rest, line = piece ++ ',' :: rest ∧ ',' ∉ piece ∧ rest.count ',' = commas := by
  have some_comma : ',' ∈ line := List.count_pos_iff.mp (by omega)
  obtain ⟨piece, rest, rfl, no_comma⟩ := List.eq_append_cons_of_mem some_comma
  have before := List.count_eq_zero.mpr no_comma
  rw [List.count_append, List.count_cons_self, before] at h
  exact ⟨piece, rest, rfl, no_comma, by omega⟩

/-- A line with two commas has pieces around them. -/
theorem exists_pieces {line : List Char} (commas : line.count ',' = 2) :
    ∃ first middle last, Pieces line first middle last := by
  obtain ⟨first, rest, rfl, no_comma, one⟩ := exists_piece commas
  obtain ⟨middle, last, rfl, none_between, none_left⟩ := exists_piece one
  exact ⟨first, middle, last, rfl, no_comma, none_between, List.count_eq_zero.mp none_left⟩

section Reading

variable {number : UInt64} {line : String} {first middle last : List Char}

/-- A line with two commas is read from its three pieces, trimmed. -/
theorem parse_of_pieces (pieces : Pieces line.toList first middle last) :
    parse number line =
      ofFields number [Text.trim first, Text.trim middle, Text.trim last] := by
  have split : Text.splitOn ',' line.toList = [first, middle, last] := by
    rw [pieces.split, Text.splitOn_append pieces.first, Text.splitOn_append pieces.middle,
      Text.splitOn_of_not_mem pieces.last]
  rw [parse, split]
  rfl

/-- Any other line is refused for the number of its pieces. -/
theorem parse_of_commas (commas : line.toList.count ',' ≠ 2) :
    parse number line = .error (.fieldCount number (line.toList.count ',' + 1)) := by
  have counted : ((Text.splitOn ',' line.toList).map Text.trim).length =
      line.toList.count ',' + 1 := by
    rw [List.length_map, Text.length_splitOn]
  have not_three : ((Text.splitOn ',' line.toList).map Text.trim).length ≠ 3 := by
    rw [counted]
    omega
  rw [parse, ofFields_of_length_ne not_three, counted]

/-- Reading gives what the line is read as. -/
theorem ReadAs.parse_eq {result : Except LineFault Record} (h : ReadAs number line result) :
    parse number line = result := by
  cases h with
  | fieldCount commas => exact parse_of_commas commas
  | noPattern pieces blank =>
    rw [parse_of_pieces pieces, ofFields, if_pos blank]
  | noFormula pieces pattern blank =>
    rw [parse_of_pieces pieces, ofFields, if_neg pattern, if_pos blank]
  | @badNumber first middle last pieces pattern formula unspelled =>
    have unread : Text.readDecimal? (Text.trim middle) = none := by
      rw [Text.readDecimal?_eq_none_iff]
      intro value fits
      exact unspelled value (Nat.le_of_lt_succ fits)
    rw [parse_of_pieces pieces, ofFields, if_neg pattern, if_neg formula, unread]
  | @record first middle last value pieces pattern formula spelled fits =>
    have number : (UInt64.ofNat value).toNat = value :=
      UInt64.toNat_ofNat_of_lt' (Nat.lt_succ_of_le fits)
    have read : Text.readDecimal? (Text.trim middle) = some (UInt64.ofNat value) := by
      rw [Text.readDecimal?_eq_some_iff, number]
      exact spelled
    rw [parse_of_pieces pieces, ofFields, if_neg pattern, if_neg formula, read]

/-- Every line is read as something. -/
theorem exists_readAs (number : UInt64) (line : String) :
    ∃ result, ReadAs number line result := by
  by_cases commas : line.toList.count ',' = 2
  · obtain ⟨first, middle, last, pieces⟩ := exists_pieces commas
    by_cases pattern : Text.trim first = []
    · exact ⟨_, .noPattern pieces pattern⟩
    by_cases formula : Text.trim last = []
    · exact ⟨_, .noFormula pieces pattern formula⟩
    by_cases spelled : ∃ value ≤ 18446744073709551615, Text.Numeral (Text.trim middle) value
    · obtain ⟨value, fits, numeral⟩ := spelled
      exact ⟨_, .record pieces pattern formula numeral fits⟩
    · refine ⟨_, .badNumber pieces pattern formula ?_⟩
      intro value fits numeral
      exact spelled ⟨value, fits, numeral⟩
  · exact ⟨_, .fieldCount commas⟩

/-- A line is read as a record, or refused with a fault, exactly as the grammar says: the record
has the trimmed outer pieces and the value of the middle one, and the fault is the first that
applies, with the number of the line. -/
theorem parse_eq_iff_readAs (number : UInt64) (line : String)
    (result : Except LineFault Record) :
    parse number line = result ↔ ReadAs number line result := by
  constructor
  · rintro rfl
    obtain ⟨result, said⟩ := exists_readAs number line
    rw [said.parse_eq]
    exact said
  · exact ReadAs.parse_eq

end Reading

/-- Zeros in front and a sign are allowed, blanks of any kind do not count, and the largest number
is `UInt64.size - 1`. -/
example : parse 7 "A,\u2003+00018446744073709551615\u00a0,\tG p " =
    .ok ⟨"A", 18446744073709551615, "G p"⟩ := by
  decide +kernel

end MonitorBench.Record
