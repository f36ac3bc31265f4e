import MonitorBench.Text.Lines
import MonitorBench.Text.Utf8

/-!
# Rows of a growing text

The rows of a text are what stands between its separators, without the empty piece after a
separator at the end. `atRowStart` texts end in a separator or hold nothing: what is added to
such a text leaves its rows alone. A text that ends in the middle of a row gets there by one
separator, which changes no row either (`rows_append_separator`). What is begun there and then
filled is one row more, whether the filling ends it or not (`rows_append_begun`).

Rows are defined for any kind of element, so that they can be taken of characters and of
bytes. The lines of `Text.linesOf` are the rows at line feeds but for carriage returns at
their ends, and a content of bytes ends in a line feed exactly when its text does.
-/

set_option autoImplicit false

namespace MonitorBench.Text

section Rows

variable {α : Type} [DecidableEq α]

/-- What stands between separators, without the empty piece after a separator at the end. -/
def rows (sep : α) : List α → List (List α)
  | [] => []
  | c :: cs =>
    if c = sep then
      [] :: rows sep cs
    else
      match rows sep cs with
      | [] => [[c]]
      | row :: rest => (c :: row) :: rest

/-- Whether the next element starts a row of its own. -/
def atRowStart (sep : α) (cs : List α) : Bool :=
  match cs.getLast? with
  | none => true
  | some last => last = sep

/-- A row starts where nothing stands before it, or a separator. -/
theorem atRowStart_iff {sep : α} {cs : List α} :
    atRowStart sep cs = true ↔ cs = [] ∨ cs.getLast? = some sep := by
  rw [atRowStart]
  cases h : cs.getLast? with
  | none => simp [List.getLast?_eq_none_iff.mp h]
  | some last =>
    have nonempty : cs ≠ [] := by
      rintro rfl
      simp at h
    simp [nonempty]

/-- A row starts behind a separator. -/
theorem atRowStart_append_separator (sep : α) (cs : List α) :
    atRowStart sep (cs ++ [sep]) = true := by
  simp [atRowStart]

/-- What is not empty has a row. -/
theorem rows_ne_nil {sep : α} {cs : List α} (h : cs ≠ []) : rows sep cs ≠ [] := by
  cases cs with
  | nil => exact absurd rfl h
  | cons c cs =>
    rw [rows]
    split
    · simp
    · split <;> simp

/-- What follows a finished row leaves the rows before it alone. -/
theorem rows_append_separator_append (sep : α) (cs ds : List α) :
    rows sep (cs ++ sep :: ds) = rows sep (cs ++ [sep]) ++ rows sep ds := by
  induction cs with
  | nil => simp [rows]
  | cons c cs ih =>
    rw [List.cons_append, List.cons_append, rows, rows, ih]
    split
    · rfl
    · cases h : rows sep (cs ++ [sep]) with
      | nil => exact absurd h (rows_ne_nil (by simp))
      | cons row rest => rfl

/-- What is added at the start of a row leaves the rows before it alone. -/
theorem rows_append {sep : α} {cs : List α} (h : atRowStart sep cs = true) (ds : List α) :
    rows sep (cs ++ ds) = rows sep cs ++ rows sep ds := by
  rcases atRowStart_iff.mp h with rfl | ends
  · rfl
  · obtain ⟨init, rfl⟩ := List.getLast?_eq_some_iff.mp ends
    rw [List.append_assoc, List.singleton_append, rows_append_separator_append]

/-- A separator that ends an open row adds no row. -/
theorem rows_append_separator {sep : α} {cs : List α} (h : atRowStart sep cs = false) :
    rows sep (cs ++ [sep]) = rows sep cs := by
  induction cs with
  | nil => simp [atRowStart] at h
  | cons c cs ih =>
    cases cs with
    | nil =>
      have open_row : c ≠ sep := by simpa [atRowStart] using h
      simp [rows, open_row]
    | cons d ds =>
      have tail_open : atRowStart sep (d :: ds) = false := by
        simpa [atRowStart, List.getLast?_cons_cons] using h
      rw [List.cons_append, rows, ih tail_open, rows.eq_2 sep c]

/-- A text without separators is one row. -/
theorem rows_of_not_mem {sep : α} {cs : List α} (nonempty : cs ≠ []) (h : sep ∉ cs) :
    rows sep cs = [cs] := by
  induction cs with
  | nil => exact absurd rfl nonempty
  | cons c cs ih =>
    simp only [List.mem_cons, not_or] at h
    rw [rows, if_neg (Ne.symm h.1)]
    cases cs with
    | nil => rfl
    | cons d ds => rw [ih (by simp) h.2]

/-- A row that is ended is one row, also if it is empty. -/
theorem rows_of_ended {sep : α} {cs : List α} (h : sep ∉ cs) : rows sep (cs ++ [sep]) = [cs] := by
  induction cs with
  | nil => simp [rows]
  | cons c cs ih =>
    simp only [List.mem_cons, not_or] at h
    rw [List.cons_append, rows, if_neg (Ne.symm h.1), ih h.2]

/-- What adds to one row at most: something without separators, ended by one or not. -/
def InOneRow (sep : α) (cs : List α) : Prop :=
  ∃ line ending, cs = line ++ ending ∧ sep ∉ line ∧ (ending = [] ∨ ending = [sep])

/-- What makes up one row: something without separators, ended by one. -/
def EndedRow (sep : α) (cs : List α) : Prop :=
  ∃ line, cs = line ++ [sep] ∧ sep ∉ line

/-- What comes before the first separator. -/
def firstRow (sep : α) (cs : List α) : List α :=
  cs.takeWhile (· != sep)

/-- Of a line and its ending, the first row is the line. -/
theorem firstRow_append {sep : α} {line ending : List α} (free : sep ∉ line)
    (kind : ending = [] ∨ ending = [sep]) : firstRow sep (line ++ ending) = line := by
  have all : ∀ c ∈ line, (c != sep) = true := by
    intro c mem
    rw [bne_iff_ne]
    rintro rfl
    exact free mem
  rw [firstRow, List.takeWhile_append_of_pos all]
  rcases kind with rfl | rfl <;> simp

/-- A row that is begun where a row starts, and filled, is one row more. -/
theorem rows_append_begun {sep : α} {cs start filling : List α} (at_start : atRowStart sep cs = true)
    (begun : start ≠ []) (free : sep ∉ start) (one : InOneRow sep filling) :
    rows sep (cs ++ (start ++ filling)) = rows sep cs ++ [start ++ firstRow sep filling] := by
  obtain ⟨line, ending, rfl, no_break, kind⟩ := one
  have no_break_in_row : sep ∉ start ++ line := by
    rw [List.mem_append]
    exact not_or.mpr ⟨free, no_break⟩
  rw [rows_append at_start, firstRow_append no_break kind]
  congr 1
  rcases kind with rfl | rfl
  · rw [List.append_nil]
    exact rows_of_not_mem (List.append_ne_nil_of_left_ne_nil begun line) no_break_in_row
  · rw [← List.append_assoc]
    exact rows_of_ended no_break_in_row

end Rows

/-! ## Lines -/

/-- Pieces and rows differ at most in an empty piece at the end. -/
theorem splitOn_eq_rows (sep : Char) (cs : List Char) :
    ∃ last, splitOn sep cs = rows sep cs ++ last ∧ (last = [[]] ∨ last = []) := by
  induction cs with
  | nil => exact ⟨[[]], rfl, Or.inl rfl⟩
  | cons c cs ih =>
    obtain ⟨last, split, kind⟩ := ih
    rw [splitOn, rows, split]
    by_cases h : c = sep
    · exact ⟨last, by simp [h], kind⟩
    · cases rows sep cs with
      | cons row rest => exact ⟨last, by simp [h], kind⟩
      | nil =>
        rcases kind with rfl | rfl
        · exact ⟨[], by simp [h], Or.inr rfl⟩
        · exact ⟨[], by simp [h], Or.inr rfl⟩

/-- A reading of lines that finds nothing in an empty one and does not see a carriage return at the
end finds in the lines of a text what it finds in the rows. -/
theorem filterMap_linesOf {β : Type} {read : List Char → Option β} (empty : read [] = none)
    (blind : ∀ line, read (dropReturn line) = read line) (cs : List Char) :
    (linesOf cs).filterMap read = (rows '\n' cs).filterMap read := by
  have pieces : ∀ ps : List (List Char), (linesOfPieces ps).filterMap read = ps.filterMap read := by
    intro ps
    induction ps with
    | nil => rfl
    | cons p ps ih =>
      cases ps with
      | nil =>
        by_cases h : p = []
        · simp [linesOfPieces, h, empty]
        · simp [linesOfPieces, h]
      | cons q qs =>
        rw [linesOfPieces]
        · rw [List.filterMap_cons, List.filterMap_cons, blind, ih]
        · simp
  obtain ⟨last, split, kind⟩ := splitOn_eq_rows '\n' cs
  have nothing : last.filterMap read = [] := by
    rcases kind with rfl | rfl <;> simp [empty]
  rw [linesOf, pieces, split, List.filterMap_append, nothing, List.append_nil]

/-! ## Bytes -/

/-- Texts that are stored as the same bytes are the same. -/
theorem bytes_injective : Function.Injective bytes := by
  intro s t same
  have read := congrArg ofBytes? same
  rw [ofBytes?_bytes, ofBytes?_bytes] at read
  exact Option.some.inj read

/-- The bytes of a character hold a line feed only if it is one: each of several bytes is 128 or
more. -/
theorem newline_mem_utf8EncodeChar (c : Char) : 10 ∈ String.utf8EncodeChar c ↔ c = '\n' := by
  have newline : c = '\n' ↔ c.val.toNat = 10 := by
    rw [Char.ext_iff, ← UInt32.toNat_inj]
    rfl
  have high : ∀ n : Nat, 128 ≤ n → n < 256 → (10 : UInt8) ≠ UInt8.ofNat n := by
    intro n large small eq
    have same := congrArg UInt8.toNat eq
    rw [UInt8.toNat_ofNat', Nat.mod_eq_of_lt small] at same
    have ten : (10 : UInt8).toNat = 10 := rfl
    omega
  have low : ∀ n : Nat, n ≤ 127 → (10 = UInt8.ofNat n ↔ n = 10) := by
    intro n small
    rw [eq_comm, ← UInt8.toNat_inj, UInt8.toNat_ofNat', Nat.mod_eq_of_lt (by omega)]
    rfl
  rw [newline]
  fun_cases String.utf8EncodeChar c
  next small => rw [List.mem_singleton, low _ small]
  all_goals
    simp only [List.mem_cons, List.not_mem_nil, or_false]
    refine iff_of_false ?_ (by omega)
    simp only [not_or]
    repeat' constructor
    all_goals exact high _ (by omega) (by omega)

/-- So they end in a line feed only if it is one. -/
theorem getLast?_utf8EncodeChar (c : Char) :
    (String.utf8EncodeChar c).getLast? = some 10 ↔ c = '\n' := by
  constructor
  · intro ends
    exact (newline_mem_utf8EncodeChar c).mp (List.mem_of_getLast? ends)
  · rintro rfl
    decide

/-- The bytes of a text hold a line feed only if the text does. -/
theorem newline_mem_encode {cs : List Char} : 10 ∈ encode cs ↔ '\n' ∈ cs := by
  rw [encode, List.mem_flatMap]
  constructor
  · rintro ⟨c, mem, inside⟩
    rwa [← (newline_mem_utf8EncodeChar c).mp inside]
  · intro mem
    exact ⟨'\n', mem, (newline_mem_utf8EncodeChar '\n').mpr rfl⟩

/-- Only nothing is stored as no bytes. -/
theorem encode_eq_nil_iff {cs : List Char} : encode cs = [] ↔ cs = [] := by
  cases cs with
  | nil => simp
  | cons c cs => simp [encode, String.utf8EncodeChar_ne_nil]

/-- One character is stored as its bytes. -/
theorem encode_singleton (c : Char) : encode [c] = String.utf8EncodeChar c := by
  simp [encode]

/-- The bytes of a text end in a line feed exactly when the text does. -/
theorem atRowStart_encode (cs : List Char) :
    atRowStart (10 : UInt8) (encode cs) = atRowStart '\n' cs := by
  rw [Bool.eq_iff_iff, atRowStart_iff, atRowStart_iff, encode_eq_nil_iff]
  cases h : cs.getLast? with
  | none => simp [List.getLast?_eq_none_iff.mp h]
  | some last =>
    obtain ⟨init, rfl⟩ := List.getLast?_eq_some_iff.mp h
    have ends : (encode (init ++ [last])).getLast? = (String.utf8EncodeChar last).getLast? := by
      rw [encode_append, encode_singleton, List.getLast?_append,
        List.getLast?_eq_some_getLast String.utf8EncodeChar_ne_nil, Option.some_or]
    rw [ends, getLast?_utf8EncodeChar, Option.some.injEq]

end MonitorBench.Text
