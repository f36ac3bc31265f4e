import MonitorBench.Proofs.Disk.Put
import MonitorBench.Proofs.Statistics.Row
import MonitorBench.Statistics.File

/-!
# How the statistics file grows

`Opens disk path content` is the view of the statistics file that runs are reasoned about in:
the path can be opened for writing, and what it leads to holds `content`, which is nothing
when there is no file yet. Starting a row keeps the file open to writing and adds to the
content what `withRow` says, and the finished rows are read from the content alone.
-/

set_option autoImplicit false

namespace MonitorBench.Statistics

/-- The path can be opened for writing, and the file holds `held`; a file that is not there holds
nothing. -/
def Opens (disk : Disk) (path : String) (held : Bytes) : Prop :=
  ∃ location, disk.openFile path = .ok (location, held)

/-- What the file holds when the row of an item is started after `held`: `held`, a line feed exactly
if it holds something that does not end in one, and the start of the row. -/
def withRow (held : Bytes) (item : Item) : Bytes :=
  held ++ (if held = [] ∨ held.getLast? = some 10 then [] else [10]) ++ Text.bytes item.rowStart

section Content

variable {disk after : Disk} {path : String} {held : Bytes} {item : Item}

/-- What is read at a path that can be opened. -/
theorem Opens.read (h : Opens disk path held) :
    disk.holds path = true ∧ disk.read path = .ok held ∨ disk.holds path = false ∧ held = [] := by
  obtain ⟨location, opened⟩ := h
  obtain ⟨-, located, stands | ⟨stands, rfl⟩⟩ := Disk.openFile_eq_ok_iff.mp opened
  · left
    simp [Disk.holds, Disk.find?, Disk.read, located, stands]
  · right
    simp [Disk.holds, Disk.find?, located, stands]

/-- What is held by an open file is its content. -/
theorem Opens.content_eq (h : Opens disk path held) : content disk path = held := by
  obtain ⟨location, opened⟩ := h
  obtain ⟨-, located, stands | ⟨stands, rfl⟩⟩ := Disk.openFile_eq_ok_iff.mp opened
  · simp [content, Disk.read, located, stands, Except.toOption]
  · simp [content, Disk.read, located, stands, Except.toOption]

/-- A line feed ends the last row of what does not end in one. -/
theorem rowBreak_eq (held : Bytes) :
    rowBreak held = if held = [] ∨ held.getLast? = some 10 then [] else [10] := by
  rw [rowBreak]
  cases h : held.getLast? with
  | none => simp [List.getLast?_eq_none_iff.mp h]
  | some last =>
    have nonempty : held ≠ [] := by
      rintro rfl
      simp at h
    simp [nonempty]

/-- What is started is the row of the item, after what was there. -/
theorem append_opening (held : Bytes) (item : Item) :
    held ++ opening held item = withRow held item := by
  rw [opening, rowBreak_eq, withRow, List.append_assoc]

/-- A file that can be opened can have a row started, and can be opened again after that. -/
theorem Opens.startRow (h : Opens disk path held) (item : Item) :
    ∃ after, startRow disk path item = .ok after ∧ Opens after path (withRow held item) := by
  obtain ⟨location, opened⟩ := h
  refine ⟨disk.put location (.file (withRow held item)), ?_, location, Disk.openFile_put opened⟩
  rw [Statistics.startRow, opened, ← append_opening]

/-- A file that can be opened can be added to, and can be opened again after that. -/
theorem Opens.append (h : Opens disk path held) (added : Bytes) :
    ∃ after, disk.append path added = .ok after ∧ Opens after path (held ++ added) := by
  obtain ⟨location, opened⟩ := h
  refine ⟨disk.put location (.file (held ++ added)), ?_, location, Disk.openFile_put opened⟩
  rw [Disk.append, opened]

/-- A row is started only in a file that can be opened, and comes after what was there. -/
theorem opens_of_startRow (h : startRow disk path item = .ok after) :
    Opens disk path (content disk path) ∧ Opens after path (withRow (content disk path) item) := by
  rw [Statistics.startRow] at h
  split at h
  next => cases h
  next location held opened =>
    cases h
    have before : Opens disk path held := ⟨location, opened⟩
    rw [before.content_eq, append_opening]
    exact ⟨before, location, Disk.openFile_put opened⟩

/-- Where a row was started, the path leads to the file that it was started in. -/
theorem stands_of_startRow (h : startRow disk path item = .ok after) :
    ∃ location, after.locate path = .ok location ∧
      after.entry? location = some (.file (withRow (content disk path) item)) := by
  rw [Statistics.startRow] at h
  split at h
  next => cases h
  next location held opened =>
    cases h
    have before : Opens disk path held := ⟨location, opened⟩
    rw [before.content_eq, append_opening]
    exact ⟨location, Disk.stands_put opened _⟩

/-- A text that was written is read again, and the file can be opened. -/
theorem opens_of_write {text : String} (written : disk.write path (Text.bytes text) = .ok after) :
    after.readText path = .ok text ∧ Opens after path (Text.bytes text) := by
  refine ⟨Disk.readText_write written, ?_⟩
  rw [Disk.write] at written
  split at written
  next => cases written
  next location old opened =>
    cases written
    exact ⟨location, Disk.openFile_put opened⟩

/-- Statistics whose rows are kept are ready as they are. -/
theorem prepare_append (disk : Disk) (path : String) : prepare disk path .append = .ok disk := by
  rw [prepare]
  split <;> rfl

/-- The finished rows are those of the text that the file holds. -/
theorem Opens.finishedIn {text : String} (h : Opens disk path (Text.bytes text))
    (mode : InputMode) : finishedIn disk path mode = .ok (finishedKeys mode text) := by
  rw [Statistics.finishedIn]
  rcases h.read with ⟨there, read⟩ | ⟨missing, nothing⟩
  · rw [if_pos there, Disk.readText, read]
    simp [Except.map]
  · have empty : text = "" := by
      rw [← String.toList_inj]
      exact Text.encode_eq_nil_iff.mp nothing
    rw [if_neg (by simp [missing]), empty, finishedKeys_eq_rows]
    rfl

end Content

end MonitorBench.Statistics
