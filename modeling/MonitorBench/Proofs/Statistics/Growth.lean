import Mathlib.Data.List.Induction
import MonitorBench.Proofs.Statistics.File

/-!
# Rows that are started and written

The text of the statistics file is seen as its rows. Starting the row of an item and writing
one line after it adds one row to those that were there (`rows_written`), whatever was there
before, also if that is no text (`rows_withRow`); the row is finished exactly when the line is
not blank. So the finished rows of a file that rows were written to are the old ones and the new
ones in order (`finishedKeys_grown`). `Finished` says so of the file itself, whether it is there
or not.
-/

set_option autoImplicit false

namespace MonitorBench.Statistics

/-! ## Starting a row -/

/-- The text with its last row ended. -/
def ended (text : String) : String :=
  if Text.atRowStart '\n' text.toList then text else text ++ "\n"

/-- Ending the last row changes no row, and the next row starts after it. -/
theorem rows_ended (text : String) :
    Text.atRowStart '\n' (ended text).toList = true ∧
      Text.rows '\n' (ended text).toList = Text.rows '\n' text.toList := by
  rw [ended]
  split
  next finished => exact ⟨finished, rfl⟩
  next unfinished =>
    rw [String.toList_append]
    exact ⟨Text.atRowStart_append_separator _ _,
      Text.rows_append_separator (Bool.not_eq_true _ ▸ unfinished)⟩

/-- Starting a row ends the last one, in bytes as in text. -/
theorem withRow_bytes (text : String) (item : Item) :
    withRow (Text.bytes text) item = Text.bytes (ended text ++ item.rowStart) := by
  have same : (Text.bytes text = [] ∨ (Text.bytes text).getLast? = some 10) ↔
      Text.atRowStart '\n' text.toList = true := by
    rw [← Text.atRowStart_iff, Text.bytes, Text.atRowStart_encode]
  have newline : Text.bytes "\n" = [10] := by decide
  rw [withRow, ended]
  by_cases finished : Text.atRowStart '\n' text.toList = true
  · rw [if_pos (same.mpr finished), if_pos finished, Text.bytes_append, List.append_nil]
  · rw [if_neg (mt same.mp finished), if_neg finished, Text.bytes_append, Text.bytes_append,
      newline]

/-! ## Writing a row -/

/-- One line of text, ended by a line feed or not. -/
def IsLine (text : String) : Prop :=
  ∃ payload ending, text = payload ++ ending ∧ '\n' ∉ payload.toList ∧
    (ending = "" ∨ ending = "\n")

/-- Nothing at all is a line. -/
theorem isLine_empty : IsLine "" :=
  ⟨"", "", rfl, by simp, Or.inl rfl⟩

/-- What a tool writes on a line: something that is not blank, and no line feed. -/
structure IsPayload (payload : String) : Prop where
  one_line : '\n' ∉ payload.toList
  not_blank : Text.isBlankText payload = false

/-- One line of text that is not blank, ended by a line feed or not. -/
def IsFilledLine (text : String) : Prop :=
  ∃ payload ending, text = payload ++ ending ∧ IsPayload payload ∧ (ending = "" ∨ ending = "\n")

/-- What comes before the first line feed of a text. -/
def lineOf (text : String) : List Char :=
  text.toList.takeWhile (· != '\n')

/-- The row of an item that a text was written to. -/
def rowOf (item : Item) (text : String) : List Char :=
  item.rowStart.toList ++ lineOf text

/-- Of a payload and an ending, the line is the payload. -/
theorem lineOf_append {payload ending : String} (no_break : '\n' ∉ payload.toList)
    (h : ending = "" ∨ ending = "\n") : lineOf (payload ++ ending) = payload.toList := by
  have kind : ending.toList = [] ∨ ending.toList = ['\n'] := by rcases h with rfl | rfl <;> simp
  rw [lineOf, String.toList_append]
  exact Text.firstRow_append no_break kind

/-- A payload has something in it but blanks. -/
theorem IsPayload.trim_ne_nil {payload : String} (h : IsPayload payload) :
    Text.trim payload.toList ≠ [] := by
  rw [Ne, Text.trim_eq_nil_iff]
  intro all_blank
  have blank : Text.isBlankText payload = true := List.all_eq_true.mpr all_blank
  rw [h.not_blank] at blank
  cases blank

/-- A filled line is a line. -/
theorem IsFilledLine.isLine {text : String} (h : IsFilledLine text) : IsLine text := by
  obtain ⟨payload, ending, split, filled, kind⟩ := h
  exact ⟨payload, ending, split, filled.one_line, kind⟩

/-- A filled line is not blank. -/
theorem IsFilledLine.not_blank {text : String} (h : IsFilledLine text) :
    Text.isBlankText text = false := by
  obtain ⟨payload, ending, rfl, filled, -⟩ := h
  have shows := filled.not_blank
  rw [Text.isBlankText] at shows ⊢
  rw [String.toList_append, List.all_append, shows, Bool.false_and]

/-- A line stays in one row. -/
theorem IsLine.inOneRow {text : String} (h : IsLine text) : Text.InOneRow '\n' text.toList := by
  obtain ⟨payload, ending, rfl, no_break, kind⟩ := h
  refine ⟨payload.toList, ending.toList, String.toList_append, no_break, ?_⟩
  rcases kind with rfl | rfl <;> simp

/-- The start of a row holds something, and no line feed unless the key of its item does. -/
theorem rowStart_begun {item : Item} (one_line : '\n' ∉ item.key.toList) :
    item.rowStart.toList ≠ [] ∧ '\n' ∉ item.rowStart.toList := by
  simp [Item.rowStart, fieldSeparator, one_line]

/-- One line written after the start of a row makes one row more. -/
theorem rows_written {item : Item} (one_line : '\n' ∉ item.key.toList) {written : String}
    (h : IsLine written) (text : String) :
    Text.rows '\n' (ended text ++ item.rowStart ++ written).toList =
      Text.rows '\n' text.toList ++ [rowOf item written] := by
  obtain ⟨at_start, same⟩ := rows_ended text
  obtain ⟨begun, free⟩ := rowStart_begun one_line
  rw [String.append_assoc, String.toList_append, String.toList_append,
    Text.rows_append_begun at_start begun free h.inOneRow, same]
  rfl

/-- A row is started behind what was there, with the last row ended. -/
theorem withRow_eq (held : Bytes) (item : Item) :
    ∃ before, withRow held item = before ++ Text.bytes item.rowStart ∧ held <+: before ∧
      Text.atRowStart 10 before = true ∧ Text.rows 10 before = Text.rows 10 held := by
  by_cases at_start : Text.atRowStart 10 held = true
  · refine ⟨held, ?_, List.prefix_rfl, at_start, rfl⟩
    rw [withRow, if_pos (Text.atRowStart_iff.mp at_start), List.append_nil]
  · refine ⟨held ++ [10], ?_, List.prefix_append held [10],
      Text.atRowStart_append_separator 10 held,
      Text.rows_append_separator (Bool.not_eq_true _ ▸ at_start)⟩
    rw [withRow, if_neg (mt Text.atRowStart_iff.mpr at_start)]

/-- What a row is started after stays where it is. -/
theorem prefix_withRow (held : Bytes) (item : Item) : held <+: withRow held item := by
  obtain ⟨before, started, grown, -⟩ := withRow_eq held item
  rw [started]
  exact grown.trans (List.prefix_append _ _)

/-- Whatever bytes the file holds, a row that is started and filled is one row more. -/
theorem rows_withRow {item : Item} (one_line : '\n' ∉ item.key.toList) {filling : Bytes}
    (one : Text.InOneRow 10 filling) (held : Bytes) :
    Text.rows 10 (withRow held item ++ filling) =
      Text.rows 10 held ++ [Text.bytes item.rowStart ++ Text.firstRow 10 filling] := by
  obtain ⟨before, started, -, at_start, same⟩ := withRow_eq held item
  obtain ⟨begun, free⟩ := rowStart_begun one_line
  have begun_bytes : Text.bytes item.rowStart ≠ [] := mt Text.encode_eq_nil_iff.mp begun
  have free_bytes : 10 ∉ Text.bytes item.rowStart := mt Text.newline_mem_encode.mp free
  rw [started, List.append_assoc, Text.rows_append_begun at_start begun_bytes free_bytes one, same]

/-- A line is blank when nothing shows before its line feed. -/
theorem trim_lineOf_eq_nil_iff {written : String} (h : IsLine written) :
    Text.trim (lineOf written) = [] ↔ Text.isBlankText written = true := by
  obtain ⟨payload, ending, rfl, no_break, kind⟩ := h
  have ending_blank : ending.toList.all Text.isBlank = true := by
    rcases kind with rfl | rfl <;> rfl
  rw [lineOf_append no_break kind, Text.trim_eq_nil_iff, Text.isBlankText, String.toList_append,
    List.all_append, ending_blank, Bool.and_true, List.all_eq_true]

/-- The row of an item that a line was written to is finished unless the line is blank. -/
theorem finishedKey?_rowOf {item : Item} (readable : item.Readable) {written : String}
    (h : IsLine written) :
    finishedKey? item.mode (rowOf item written) =
      if Text.isBlankText written then none else some item.key := by
  rw [rowOf, finishedKey?_rowStart readable]
  exact if_congr (trim_lineOf_eq_nil_iff h) rfl rfl

/-- When one line is written after the start of a row, the finished rows are those that there were,
and the new one unless the line is blank. -/
theorem finishedKeys_written {mode : InputMode} {item : Item}
    (readable : item.mode = mode ∧ item.Readable) (one_line : '\n' ∉ item.key.toList)
    {written : String} (h : IsLine written) (text : String) :
    finishedKeys mode (ended text ++ item.rowStart ++ written) =
      finishedKeys mode text ++ if Text.isBlankText written then [] else [item.key] := by
  obtain ⟨rfl, clean⟩ := readable
  rw [finishedKeys_eq_rows, finishedKeys_eq_rows, rows_written one_line h, List.filterMap_append]
  congr 1
  rw [List.filterMap_cons, List.filterMap_nil, finishedKey?_rowOf clean h]
  by_cases blank : Text.isBlankText written = true <;> simp [blank]

/-! ## Many rows -/

/-- What the file holds when rows are started for items and written to, one after the other. -/
def grown (held : Bytes) (rows : List (Item × String)) : Bytes :=
  rows.foldl (fun held row => withRow held row.1 ++ Text.bytes row.2) held

/-- One row more is started and written behind the others. -/
theorem grown_snoc (held : Bytes) (rows : List (Item × String)) (item : Item) (written : String) :
    grown held (rows ++ [(item, written)]) =
      withRow (grown held rows) item ++ Text.bytes written := by
  simp [grown]

/-- Writing lines after the starts of rows adds these rows to the text, in order. -/
theorem grown_bytes {rows : List (Item × String)}
    (one_line : ∀ row ∈ rows, '\n' ∉ row.1.key.toList) (lines : ∀ row ∈ rows, IsLine row.2)
    (text : String) :
    ∃ later, grown (Text.bytes text) rows = Text.bytes later ∧
      Text.rows '\n' later.toList =
        Text.rows '\n' text.toList ++ rows.map fun row => rowOf row.1 row.2 := by
  induction rows using List.reverseRecOn with
  | nil => exact ⟨text, rfl, by simp⟩
  | append_singleton rows row ih =>
    obtain ⟨item, written⟩ := row
    obtain ⟨before, held, same⟩ := ih
      (fun row mem => one_line row (List.mem_append_left _ mem))
      (fun row mem => lines row (List.mem_append_left _ mem))
    refine ⟨ended before ++ item.rowStart ++ written, ?_, ?_⟩
    · rw [grown_snoc, held, withRow_bytes, Text.bytes_append _ written]
    · rw [rows_written (one_line (item, written) (by simp)) (lines (item, written) (by simp)), same,
        List.map_append, List.append_assoc, List.map_singleton]

/-- The finished rows of the new text are those of the old one, and one for each item that a line
was written for which is not blank. -/
theorem finishedKeys_grown {mode : InputMode} {rows : List (Item × String)}
    (readable : ∀ row ∈ rows, row.1.mode = mode ∧ row.1.Readable)
    (filled : ∀ row ∈ rows, IsFilledLine row.2) {text later : String}
    (same : Text.rows '\n' later.toList =
      Text.rows '\n' text.toList ++ rows.map fun row => rowOf row.1 row.2) :
    finishedKeys mode later = finishedKeys mode text ++ (rows.map Prod.fst).map Item.key := by
  have new : (rows.map fun row => rowOf row.1 row.2).filterMap (finishedKey? mode) =
      (rows.map Prod.fst).map Item.key := by
    rw [List.filterMap_map, List.map_map, ← List.filterMap_eq_map]
    refine List.filterMap_congr fun row mem => ?_
    obtain ⟨rfl, clean⟩ := readable row mem
    rw [Function.comp_apply, finishedKey?_rowOf clean (filled row mem).isLine,
      (filled row mem).not_blank]
    rfl
  rw [finishedKeys_eq_rows, finishedKeys_eq_rows, same, List.filterMap_append, new]

/-! ## The finished rows of the file -/

/-- The finished rows of the file are those with these keys, in order. -/
structure Finished (mode : InputMode) (path : String) (disk : Disk) (keys : List String) :
    Prop where
  /-- They are found. -/
  found : finishedIn disk path mode = .ok keys
  /-- If the file can be opened, it holds a text with these rows. -/
  text : ∀ {held : Bytes}, Opens disk path held →
    ∃ text, held = Text.bytes text ∧ finishedKeys mode text = keys

section Finished

variable {mode : InputMode} {path : String} {disk ready after : Disk} {keys : List String}
  {item : Item}

/-- Without a file there are no finished rows. -/
theorem Finished.of_missing (mode : InputMode) (missing : disk.holds path = false) :
    Finished mode path disk [] := by
  refine ⟨?_, ?_⟩
  · rw [finishedIn, if_neg (by simp [missing])]
  · intro held opens
    rcases opens.read with ⟨there, -⟩ | ⟨-, rfl⟩
    · rw [missing] at there
      cases there
    · exact ⟨"", rfl, by cases mode <;> rfl⟩

/-- The finished rows of a file are those of its text. -/
theorem Finished.of_opens {text : String} (mode : InputMode)
    (opens : Opens disk path (Text.bytes text)) :
    Finished mode path disk (finishedKeys mode text) := by
  refine ⟨opens.finishedIn mode, ?_⟩
  intro held others
  exact ⟨text, others.content_eq.symm.trans opens.content_eq, rfl⟩

/-- When the row of an item was started and a line was appended, the finished rows are those that
there were, and the new one unless the line is blank. -/
theorem Finished.written (h : Finished mode path disk keys)
    (started : startRow disk path item = .ok ready) (readable : item.mode = mode ∧ item.Readable)
    (one_line : '\n' ∉ item.key.toList) {written : String} (line : IsLine written)
    (opens : Opens after path (content ready path ++ Text.bytes written)) :
    Finished mode path after (keys ++ if Text.isBlankText written then [] else [item.key]) := by
  obtain ⟨before, begun⟩ := opens_of_startRow started
  obtain ⟨text, held, rfl⟩ := h.text before
  rw [begun.content_eq, held, withRow_bytes, ← Text.bytes_append] at opens
  rw [← finishedKeys_written readable one_line line text]
  exact .of_opens mode opens

/-- When the row of an item was started, the finished rows are those that there were. -/
theorem Finished.begun (h : Finished mode path disk keys)
    (started : startRow disk path item = .ok ready) (readable : item.mode = mode ∧ item.Readable)
    (one_line : '\n' ∉ item.key.toList) : Finished mode path ready keys := by
  have opens : Opens ready path (content ready path ++ Text.bytes "") := by
    obtain ⟨-, begun⟩ := opens_of_startRow started
    have nothing : Text.bytes "" = [] := rfl
    rw [begun.content_eq, nothing, List.append_nil]
    exact begun
  have same := h.written started readable one_line isLine_empty opens
  have blank : Text.isBlankText "" = true := rfl
  rwa [if_pos blank, List.append_nil] at same

end Finished

end MonitorBench.Statistics
