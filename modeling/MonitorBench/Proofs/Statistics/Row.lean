import MonitorBench.Proofs.Item
import MonitorBench.Proofs.Text.Pieces
import MonitorBench.Proofs.Text.Rows
import MonitorBench.Proofs.Text.Trim
import MonitorBench.Statistics.Row

/-!
# Rows give back the item they were started for

A row starts with the key of its item and a separator, and is read by counting commas. Clean
fields that are joined are taken apart again (`Row.takeFields_joined`), and only clean fields are
ever taken (`Row.clean_of_takeFields`). So for an item whose key fields are clean, reading the row
gives the key back and, as the payload, all that stands after the separator
(`Row.parse_rowStart`).

The keys of finished rows are then read off the rows of the text one by one
(`finishedKeys_eq_rows`).
-/

set_option autoImplicit false

namespace MonitorBench

/-! ## Reading rows -/

namespace Statistics

/-- A field that is not blank is taken off the front together with the comma after it. -/
theorem Row.takeFields_cons {field : List Char} (no_comma : ',' ∉ field)
    (not_blank : Text.trim field ≠ []) (count : Nat) (rest : List Char) :
    Row.takeFields (count + 1) (field ++ ',' :: rest) =
      (Row.takeFields count rest).map
        fun (fields, payload) => (Text.trim field :: fields, payload) := by
  rw [Row.takeFields, Text.cut_append no_comma]
  simp only [if_neg not_blank]

/-- What is added without a comma goes to the payload. -/
theorem Row.takeFields_append {tail : List Char} (no_comma : ',' ∉ tail) (count : Nat)
    (cs : List Char) :
    Row.takeFields count (cs ++ tail) =
      (Row.takeFields count cs).map fun (fields, payload) => (fields, payload ++ tail) := by
  induction count generalizing cs with
  | zero => rfl
  | succ count ih =>
    rw [Row.takeFields, Row.takeFields, Text.cut_append_of_not_mem no_comma]
    rcases Text.cut ',' cs with ⟨field, _ | rest⟩
    · rfl
    · simp only [ih]
      split
      · rfl
      · cases Row.takeFields count rest <;> rfl

/-- Fields that were taken are taken wherever the row ends. -/
theorem Row.takeFields_append_of_some {count : Nat} {cs payload : List Char}
    {fields : List (List Char)} (h : Row.takeFields count cs = some (fields, payload))
    (tail : List Char) : Row.takeFields count (cs ++ tail) = some (fields, payload ++ tail) := by
  induction count generalizing cs fields with
  | zero =>
    cases h
    rfl
  | succ count ih =>
    rw [Row.takeFields] at h ⊢
    rcases taken : Text.cut ',' cs with ⟨field, _ | rest⟩
    · simp [taken] at h
    · rw [Text.cut_append_of_some taken]
      simp only [taken] at h ⊢
      split at h
      next => cases h
      next shows =>
        obtain ⟨⟨others, behind⟩, found, same⟩ := Option.map_eq_some_iff.mp h
        cases same
        rw [if_neg shows, ih found]
        rfl

/-- A blank in front does not show in the first field. -/
theorem Row.takeFields_cons_blank {c : Char} (blank : Text.isBlank c = true) (other : c ≠ ',')
    (count : Nat) (cs : List Char) :
    Row.takeFields (count + 1) (c :: cs) = Row.takeFields (count + 1) cs := by
  rw [Row.takeFields, Row.takeFields, Text.cut, if_neg other]
  rcases Text.cut ',' cs with ⟨field, _ | rest⟩
  · rfl
  · simp only [Text.trim_cons_blank blank]

/-- Clean fields that were joined are taken off the front of what follows them. -/
theorem Row.takeFields_joined {fields : List (List Char)}
    (clean : ∀ field ∈ fields, CleanField field) (some_field : fields ≠ []) (rest : List Char) :
    Row.takeFields fields.length
        (fieldSeparator.toList.intercalate fields ++ fieldSeparator.toList ++ rest) =
      some (fields, ' ' :: rest) := by
  induction fields with
  | nil => exact absurd rfl some_field
  | cons field others ih =>
    have first : CleanField field := clean field List.mem_cons_self
    have shows : Text.trim field ≠ [] := by
      rw [first.trimmed]
      exact first.nonempty
    cases others with
    | nil =>
      have text : fieldSeparator.toList.intercalate [field] ++ fieldSeparator.toList ++ rest =
          field ++ ',' :: (' ' :: rest) := by
        simp [fieldSeparator]
      rw [text, List.length_singleton, Row.takeFields_cons first.no_comma shows, first.trimmed]
      rfl
    | cons next others =>
      have text : fieldSeparator.toList.intercalate (field :: next :: others) ++
          fieldSeparator.toList ++ rest =
            field ++ ',' :: (' ' :: (fieldSeparator.toList.intercalate (next :: others) ++
              fieldSeparator.toList ++ rest)) := by
        simp [fieldSeparator, List.intercalate_cons_cons]
      have later := ih (fun field mem => clean field (List.mem_cons_of_mem _ mem)) (by simp)
      rw [List.length_cons] at later
      rw [text, List.length_cons, Row.takeFields_cons first.no_comma shows, first.trimmed,
        List.length_cons, Row.takeFields_cons_blank (by decide) (by decide), later]
      rfl

/-- The fields that are taken are clean, and as many as were asked for. -/
theorem Row.clean_of_takeFields {count : Nat} {cs payload : List Char} {fields : List (List Char)}
    (h : Row.takeFields count cs = some (fields, payload)) :
    fields.length = count ∧ ∀ field ∈ fields, CleanField field := by
  induction count generalizing cs fields with
  | zero =>
    cases h
    exact ⟨rfl, by simp⟩
  | succ count ih =>
    rw [Row.takeFields] at h
    rcases taken : Text.cut ',' cs with ⟨field, _ | rest⟩
    · simp [taken] at h
    · simp only [taken] at h
      split at h
      next => cases h
      next shows =>
        obtain ⟨⟨others, behind⟩, found, same⟩ := Option.map_eq_some_iff.mp h
        cases same
        obtain ⟨all, clean⟩ := ih found
        have first : CleanField (Text.trim field) :=
          ⟨Text.trim_trim field, shows,
            fun comma => Text.not_mem_of_cut taken (Text.mem_of_mem_trim comma)⟩
        refine ⟨by rw [List.length_cons, all], fun other mem => ?_⟩
        rcases List.mem_cons.mp mem with rfl | later
        · exact first
        · exact clean other later

/-- A row of clean fields gives these fields back, and as the payload what follows them. -/
theorem Row.parse_joined {mode : InputMode} {fields : List (List Char)}
    (clean : ∀ field ∈ fields, CleanField field) (all : fields.length = mode.keyFields)
    (written : List Char) :
    Row.parse mode (String.ofList
        (fieldSeparator.toList.intercalate fields ++ fieldSeparator.toList ++ written)) =
      some { key := String.ofList (fieldSeparator.toList.intercalate fields)
             payload := String.ofList (Text.trim written) } := by
  have some_field : fields ≠ [] := by
    rintro rfl
    cases mode <;> cases all
  have payload : Text.trim (' ' :: written) = Text.trim written :=
    Text.trim_cons_blank (by decide) written
  rw [Row.parse, String.toList_ofList, ← all, Row.takeFields_joined clean some_field]
  simp only [Option.map_some, payload]

/-- A row that was read has a key of clean fields and a trimmed payload. -/
theorem Row.clean_of_parse {mode : InputMode} {line : String} {row : Row}
    (h : Row.parse mode line = some row) :
    (∃ fields, fields.length = mode.keyFields ∧ (∀ field ∈ fields, CleanField field) ∧
        row.key.toList = fieldSeparator.toList.intercalate fields) ∧
      Text.trim row.payload.toList = row.payload.toList := by
  obtain ⟨⟨fields, payload⟩, taken, rfl⟩ := Option.map_eq_some_iff.mp h
  obtain ⟨all, clean⟩ := Row.clean_of_takeFields taken
  simp only [String.toList_ofList]
  exact ⟨⟨fields, all, clean, rfl⟩, Text.trim_trim payload⟩

/-- A row gives back the key of the item that it was started for, and the payload is what was
written after the start. -/
theorem Row.parse_rowStart {item : Item} (h : item.Readable) (written : List Char) :
    Row.parse item.mode (String.ofList (item.rowStart.toList ++ written)) =
      some { key := item.key, payload := String.ofList (Text.trim written) } := by
  have row := Row.parse_joined h.clean item.length_keyFields written
  rw [← item.toList_key, String.ofList_toList, ← String.toList_append] at row
  exact row

/-! ## Finished rows -/

/-- The key of the item whose finished row a line is, if it is one. -/
def finishedKey? (mode : InputMode) (line : List Char) : Option String :=
  match Row.parse mode (String.ofList line) with
  | some row => if row.isComplete then some row.key else none
  | none => none

/-- The row of an item is finished exactly when something was written that is not blank. -/
theorem finishedKey?_rowStart {item : Item} (h : item.Readable) (written : List Char) :
    finishedKey? item.mode (item.rowStart.toList ++ written) =
      if Text.trim written = [] then none else some item.key := by
  rw [finishedKey?, Row.parse_rowStart h]
  by_cases blank : Text.trim written = [] <;> simp [Row.isComplete, blank]

/-- A row is finished when it has all fields of a key and a payload that is not blank. -/
theorem finishedKey?_eq_some_iff {mode : InputMode} {line : List Char} {key : String} :
    finishedKey? mode line = some key ↔
      ∃ fields payload, Row.takeFields mode.keyFields line = some (fields, payload) ∧
        Text.trim payload ≠ [] ∧
        String.ofList (fieldSeparator.toList.intercalate fields) = key := by
  rw [finishedKey?, Row.parse, String.toList_ofList]
  cases Row.takeFields mode.keyFields line with
  | none => simp
  | some row =>
    obtain ⟨fields, payload⟩ := row
    simp [Row.isComplete]

/-- A finished row stays one, of the same item, whatever is added to it. -/
theorem finishedKey?_append {mode : InputMode} {line : List Char} {key : String}
    (h : finishedKey? mode line = some key) (tail : List Char) :
    finishedKey? mode (line ++ tail) = some key := by
  obtain ⟨fields, payload, taken, shows, named⟩ := finishedKey?_eq_some_iff.mp h
  refine finishedKey?_eq_some_iff.mpr
    ⟨fields, payload ++ tail, Row.takeFields_append_of_some taken tail, ?_, named⟩
  rw [Ne, Text.trim_eq_nil_iff] at shows ⊢
  intro all_blank
  exact shows fun c mem => all_blank c (List.mem_append_left tail mem)

/-- A carriage return at the end of a row does not show. -/
theorem finishedKey?_dropReturn (mode : InputMode) (line : List Char) :
    finishedKey? mode (Text.dropReturn line) = finishedKey? mode line := by
  rw [Text.dropReturn]
  split
  next ends =>
    obtain ⟨init, rfl⟩ := List.getLast?_eq_some_iff.mp ends
    have payload : ∀ rest, Text.trim (rest ++ ['\r']) = Text.trim rest :=
      Text.trim_append_blank (by decide)
    simp only [finishedKey?, Row.parse, String.toList_ofList, List.dropLast_concat]
    rw [Row.takeFields_append (by simp), Option.map_map]
    simp only [Function.comp_def, payload]
  next => rfl

/-- The finished rows of a text are found among its rows. -/
theorem finishedKeys_eq_rows (mode : InputMode) (text : String) :
    finishedKeys mode text =
      (Text.rows '\n' text.toList).filterMap (finishedKey? mode) := by
  have empty : finishedKey? mode [] = none := by cases mode <;> rfl
  rw [← Text.filterMap_linesOf empty (finishedKey?_dropReturn mode), finishedKeys, Text.lines,
    List.filterMap_map]
  rfl

end Statistics

end MonitorBench
