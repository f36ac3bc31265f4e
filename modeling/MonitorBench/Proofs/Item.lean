import MonitorBench.Item
import MonitorBench.Proofs.Record.RoundTrip

/-!
# Items and their keys

A field is clean when it can stand in a line as it is: trimmed, not empty, without a comma. Items
that were read from a line are made of clean fields, but for raw formulas with a comma
(`Item.readable_of_parse`).

Lines and keys are canonical (`lines_and_keys_canonical`). The line of a record gives the record
back exactly when its pattern and formula are clean, and the key of an item that was read is read
as the same item. Hence lines have the same key only when they hold the same item, however their
fields are spaced and their numbers are spelled.
-/

set_option autoImplicit false

namespace MonitorBench

/-! ## Clean items -/

/-- A field that a row can hold as it is: trimmed, with something in it, and without a comma. -/
structure CleanField (field : List Char) : Prop where
  trimmed : Text.trim field = field
  nonempty : field ≠ []
  no_comma : ',' ∉ field

/-- The digits of a number are a clean field. -/
theorem cleanField_digitsOf (n : UInt64) : CleanField (Text.digitsOf n) :=
  ⟨Text.trim_digitsOf n, Text.digitsOf_ne_nil n, Record.comma_not_mem_digitsOf n⟩

namespace Item

/-- The mode in which an item is read. -/
def mode : Item → InputMode
  | .record _ => .records
  | .raw _ => .raw

/-- An item whose key can be told from what follows it in a row. -/
def Readable : Item → Prop
  | .record source => CleanField source.pattern.toList ∧ CleanField source.formula.toList
  | .raw formula => CleanField formula.toList

/-- The fields that the key of an item is made of. -/
def keyFields : Item → List (List Char)
  | .record source =>
    [source.pattern.toList, Text.digitsOf source.sourceLine, source.formula.toList]
  | .raw formula => [formula.toList]

/-- A key has as many fields as its mode says. -/
theorem length_keyFields (item : Item) : item.keyFields.length = item.mode.keyFields := by
  cases item <;> rfl

/-- The key joins its fields. -/
theorem toList_key (item : Item) :
    item.key.toList = fieldSeparator.toList.intercalate item.keyFields := by
  cases item with
  | record source =>
    simp [key, keyFields, Record.toList_line, fieldSeparator, List.intercalate_cons_cons]
  | raw formula => simp [key, keyFields]

/-- The fields of a readable item are clean. -/
theorem Readable.clean {item : Item} (h : item.Readable) :
    ∀ field ∈ item.keyFields, CleanField field := by
  intro field mem
  cases item with
  | record source =>
    obtain ⟨pattern, formula⟩ := h
    simp only [keyFields, List.mem_cons, List.not_mem_nil, or_false] at mem
    rcases mem with rfl | rfl | rfl
    · exact pattern
    · exact cleanField_digitsOf source.sourceLine
    · exact formula
  | raw formula =>
    rw [List.mem_singleton.mp mem]
    exact h

end Item

/-- A record is read from exactly three fields, the first and the last not empty, the second a
number. -/
theorem Record.ofFields_eq_ok_iff {number : UInt64} {fields : List (List Char)} {record : Record} :
    Record.ofFields number fields = .ok record ↔
      ∃ digits, fields = [record.pattern.toList, digits, record.formula.toList] ∧
        record.pattern.toList ≠ [] ∧ record.formula.toList ≠ [] ∧
        Text.readDecimal? digits = some record.sourceLine := by
  constructor
  · intro h
    match fields, h with
    | [pattern, digits, formula], h =>
      rw [Record.ofFields] at h
      split at h
      · cases h
      · split at h
        · cases h
        · split at h
          · cases h
          · cases h
            simp_all
    | [], h => simp [Record.ofFields] at h
    | [_], h => simp [Record.ofFields] at h
    | [_, _], h => simp [Record.ofFields] at h
    | _ :: _ :: _ :: _ :: _, h => simp [Record.ofFields] at h
  · rintro ⟨digits, rfl, some_pattern, some_formula, is_number⟩
    rw [Record.ofFields, if_neg some_pattern, if_neg some_formula, is_number]
    simp

/-- A record that was read has clean fields, made of characters of its line. -/
theorem Record.clean_of_parse {number : UInt64} {line : String} {record : Record}
    (h : Record.parse number line = .ok record) :
    (CleanField record.pattern.toList ∧ CleanField record.formula.toList) ∧
      (∀ c ∈ record.pattern.toList, c ∈ line.toList) ∧
      ∀ c ∈ record.formula.toList, c ∈ line.toList := by
  obtain ⟨digits, fields, some_pattern, some_formula, -⟩ := Record.ofFields_eq_ok_iff.mp h
  have pieces : ∀ field ∈ (Text.splitOn ',' line.toList).map Text.trim, field ≠ [] →
      CleanField field ∧ ∀ c ∈ field, c ∈ line.toList := by
    intro field mem nonempty
    obtain ⟨piece, from_line, rfl⟩ := List.mem_map.mp mem
    refine ⟨⟨Text.trim_trim piece, nonempty, ?_⟩, ?_⟩
    · intro comma
      exact (Text.mem_of_mem_splitOn from_line (Text.mem_of_mem_trim comma)).2 rfl
    · intro c inside
      exact (Text.mem_of_mem_splitOn from_line (Text.mem_of_mem_trim inside)).1
  rw [fields] at pieces
  have pattern := pieces _ (by simp) some_pattern
  have formula := pieces _ (by simp) some_formula
  exact ⟨⟨pattern.1, formula.1⟩, pattern.2, formula.2⟩

namespace Item

variable {mode : InputMode} {number : UInt64} {line : String} {item : Item}

/-- An item that was read is a record of the line, or the line itself, trimmed. -/
theorem parse_cases (h : Item.parse mode number line = .ok item) :
    (∃ record, mode = .records ∧ Record.parse number line = .ok record ∧ item = .record record) ∨
      (mode = .raw ∧ Text.trim line.toList ≠ [] ∧
        item = .raw (String.ofList (Text.trim line.toList))) := by
  cases mode with
  | records =>
    rw [Item.parse] at h
    cases read : Record.parse number line with
    | error fault =>
      rw [read] at h
      cases h
    | ok record =>
      rw [read] at h
      cases h
      exact Or.inl ⟨record, rfl, rfl, rfl⟩
  | raw =>
    rw [Item.parse] at h
    split at h
    next => cases h
    next nonempty =>
      cases h
      exact Or.inr ⟨rfl, nonempty, rfl⟩

/-- An item that was read is readable again, unless it is a raw formula with a comma. -/
theorem readable_of_parse (h : Item.parse mode number line = .ok item)
    (plain : mode = .raw → ',' ∉ item.formula.toList) : item.mode = mode ∧ item.Readable := by
  rcases parse_cases h with ⟨record, rfl, read, rfl⟩ | ⟨rfl, nonempty, rfl⟩
  · exact ⟨rfl, (Record.clean_of_parse read).1⟩
  · have no_comma := plain rfl
    simp only [Item.formula, String.toList_ofList] at no_comma
    refine ⟨rfl, ?_⟩
    simp only [Readable, String.toList_ofList]
    exact ⟨Text.trim_trim _, nonempty, no_comma⟩

/-- The formula of an item that was read is made of characters of its line. -/
theorem mem_of_mem_formula (h : Item.parse mode number line = .ok item) {c : Char}
    (mem : c ∈ item.formula.toList) : c ∈ line.toList := by
  rcases parse_cases h with ⟨record, rfl, read, rfl⟩ | ⟨rfl, -, rfl⟩
  · exact (Record.clean_of_parse read).2.2 c mem
  · rw [Item.formula, String.toList_ofList] at mem
    exact Text.mem_of_mem_trim mem

/-- The key of an item that was read has no line feed unless the line has one. -/
theorem newline_not_mem_key (h : Item.parse mode number line = .ok item)
    (one_line : '\n' ∉ line.toList) : '\n' ∉ item.key.toList := by
  rcases parse_cases h with ⟨record, rfl, read, rfl⟩ | ⟨rfl, -, rfl⟩
  · obtain ⟨-, in_pattern, in_formula⟩ := Record.clean_of_parse read
    exact Record.newline_not_mem_line (fun bad => one_line (in_pattern _ bad))
      fun bad => one_line (in_formula _ bad)
  · rw [Item.key, String.toList_ofList]
    exact fun bad => one_line (Text.mem_of_mem_trim bad)

end Item

/-! ## Canonical lines and keys -/

/-- A record is read back from its line exactly when its pattern and its formula are clean. -/
theorem Record.parse_line_eq_ok_iff_clean (record : Record) (number : UInt64) :
    Record.parse number record.line = .ok record ↔
      CleanField record.pattern.toList ∧ CleanField record.formula.toList := by
  constructor
  · intro read
    exact (Record.clean_of_parse read).1
  · rintro ⟨pattern, formula⟩
    have named : record.pattern ≠ "" := by simpa using pattern.nonempty
    have stated : record.formula ≠ "" := by simpa using formula.nonempty
    have trimmed : record.Trimmed := ⟨pattern.trimmed, named, formula.trimmed⟩
    exact (Record.parse_line_eq_ok_iff trimmed number).mpr
      ⟨pattern.no_comma, formula.no_comma, stated⟩

namespace Item

variable {mode : InputMode} {number : UInt64} {line : String} {item twin : Item}

/-- The key of an item that was read is read as this item, wherever it stands. -/
theorem parse_key (h : Item.parse mode number line = .ok item) (again : UInt64) :
    Item.parse mode again item.key = .ok item := by
  rcases parse_cases h with ⟨record, rfl, read, rfl⟩ | ⟨rfl, nonempty, rfl⟩
  · have clean := (Record.clean_of_parse read).1
    rw [Item.parse, Item.key, (record.parse_line_eq_ok_iff_clean again).mpr clean]
    rfl
  · rw [Item.parse, Item.key, String.toList_ofList, Text.trim_trim, if_neg nonempty]

/-- So items that were read in one mode have the same key only if they are the same. -/
theorem eq_of_key_eq (h : Item.parse mode number line = .ok item) {other : UInt64} {text : String}
    (h' : Item.parse mode other text = .ok twin) (same : item.key = twin.key) : item = twin := by
  have again := parse_key h number
  rw [same, parse_key h' number] at again
  exact (Except.ok.inj again).symm

end Item

/-- The line of a record, whatever texts its fields are, is read as its fields trimmed, unless it
has commas too many or a blank field; so it gives back the record itself exactly when pattern and
formula are clean. The key of an item that was read from a line is read as that item, and two
lines that are read in the same mode have the same key exactly when they hold the same item. -/
theorem lines_and_keys_canonical :
    (∀ (record : Record) (number : UInt64),
      Record.parse number record.line =
        (if record.commas ≠ 0 then .error (.fieldCount number (3 + record.commas))
        else if Text.strip record.pattern = "" then .error (.emptyField number .pattern)
        else if Text.strip record.formula = "" then .error (.emptyField number .formula)
        else .ok ⟨Text.strip record.pattern, record.sourceLine, Text.strip record.formula⟩) ∧
      (Record.parse number record.line = .ok record ↔
        CleanField record.pattern.toList ∧ CleanField record.formula.toList)) ∧
    ∀ (mode : InputMode) (number : UInt64) (line : String) (item : Item),
      Item.parse mode number line = .ok item →
        (∀ again, Item.parse mode again item.key = .ok item) ∧
        ∀ (other : UInt64) (text : String) (twin : Item),
          Item.parse mode other text = .ok twin → (item.key = twin.key ↔ item = twin) := by
  refine ⟨fun record number => ⟨?_, ?_⟩, fun mode number line item read => ⟨?_, ?_⟩⟩
  · exact record.parse_line_eq number
  · exact record.parse_line_eq_ok_iff_clean number
  · exact Item.parse_key read
  · intro other text twin read_twin
    constructor
    · exact Item.eq_of_key_eq read read_twin
    · rintro rfl
      rfl

/-- Lines that are spaced and numbered differently hold one record, whose key is read as it again;
another number gives another key. A blank in front of the pattern is lost in the line. -/
theorem lines_and_keys_canonical_respelled :
    Item.parse .records 1 " A ,+07,  p" = .ok (.record ⟨"A", 7, "p"⟩) ∧
      Item.parse .records 2 "A,70,p\t" = .ok (.record ⟨"A", 70, "p"⟩) ∧
      Item.parse .records 9 "A, 7, p" = .ok (.record ⟨"A", 7, "p"⟩) ∧
      (Item.record ⟨"A", 7, "p"⟩).key ≠ (Item.record ⟨"A", 70, "p"⟩).key ∧
      Record.parse 3 (Record.line ⟨" A", 7, "p"⟩) = .ok ⟨"A", 7, "p"⟩ := by
  have spaced : Item.parse .records 1 " A ,+07,  p" = .ok (.record ⟨"A", 7, "p"⟩) := by rfl
  have other : Item.parse .records 2 "A,70,p\t" = .ok (.record ⟨"A", 70, "p"⟩) := by rfl
  obtain ⟨lines, keys⟩ := lines_and_keys_canonical
  obtain ⟨again, same_iff⟩ := keys .records 1 " A ,+07,  p" _ spaced
  refine ⟨spaced, other, again 9, ?_, (lines ⟨" A", 7, "p"⟩ 3).1⟩
  intro same
  have one := (same_iff 2 "A,70,p\t" _ other).mp same
  exact absurd one (by decide)

end MonitorBench
