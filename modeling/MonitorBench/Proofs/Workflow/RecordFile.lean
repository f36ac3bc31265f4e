import MonitorBench.Proofs.Disk.Twins
import MonitorBench.Proofs.Extraction.HandOff
import MonitorBench.Workflow

/-!
# What an extraction leaves on the disk

An extraction from file to file reads the corpus before it touches the record file, and leaves
there the rows of the records that the corpus yields, also of those before a fault. In steps, the
record file is emptied first, rows go out through a buffer, what waits in the buffer is passed on at
the end, and only then the outcome of the extraction is given (`extractInSteps`). In no state does
a byte overtake another, so the bytes that were passed on and those that wait are together all that
was written (`OpenFile.Carries`): whatever the size of the buffer, the steps leave what
`extractFile` leaves, on failure too (`extractInSteps_eq`).
-/

set_option autoImplicit false

namespace MonitorBench.Workflow

open Extraction

/-- A file that is open for writing, on a disk, with the bytes that wait in its buffer. -/
structure OpenFile where
  disk : Disk
  location : Location
  waiting : Bytes := []

namespace OpenFile

/-- What the file itself holds. -/
def content (file : OpenFile) : Bytes :=
  match file.disk.entry? file.location with
  | some (.file content) => content
  | _ => []

/-- Adds bytes to the file itself. -/
def pass (file : OpenFile) (bytes : Bytes) : OpenFile :=
  { file with disk := file.disk.put file.location (.file (file.content ++ bytes)) }

/-- Passes on what waits. -/
def flush (file : OpenFile) : OpenFile :=
  { file.pass file.waiting with waiting := [] }

/-- Lets bytes wait in a buffer of a capacity. What does not fit beside them is passed on first, and
bytes that fill a buffer by themselves are passed on at once. -/
def write (capacity : Nat) (file : OpenFile) (bytes : Bytes) : OpenFile :=
  let ready := if capacity < file.waiting.length + bytes.length then file.flush else file
  if capacity ≤ bytes.length then ready.pass bytes
  else { ready with waiting := ready.waiting ++ bytes }

end OpenFile

/-- Writes the line of every record, and then a line feed, to an open file. -/
def bufferedWriter (capacity : Nat) : Sink OpenFile where
  accept file record :=
    ((file.write capacity (Text.bytes record.line)).write capacity (Text.bytes "\n"), none)

/-- Extracts the records of a corpus file in steps, with a buffer before the record file. -/
def extractInSteps (capacity : Nat) (settings : ExtractionSettings) (disk : Disk)
    (corpus output : String) : Disk × Except Fault Summary :=
  match disk.readText corpus with
  | .error fault => (disk, .error (.file fault))
  | .ok text =>
    match disk.openFile output with
    | .error fault => (disk, .error (.file fault))
    | .ok (location, _) =>
      let emptied : OpenFile := { disk := disk.put location (.file []), location }
      let (file, result) :=
        extract settings (bufferedWriter capacity) emptied (Text.lines text)
      (file.flush.disk, result)

/-! ## The bytes of an open file -/

/-- These bytes were written to the file at the location since the disk was as it was: the first of
them are in the file, and the others wait. -/
structure OpenFile.Carries (disk : Disk) (location : Location) (bytes : Bytes) (file : OpenFile) :
    Prop where
  below_root : location ≠ []
  place : file.location = location
  passed : ∃ content, file.disk = disk.put location (.file content) ∧
    content ++ file.waiting = bytes

namespace OpenFile.Carries

variable {disk : Disk} {location : Location} {bytes : Bytes} {file : OpenFile}

/-- Bytes that are passed on when none wait come after those that were. -/
theorem pass (h : Carries disk location bytes file) (none_wait : file.waiting = [])
    (more : Bytes) : Carries disk location (bytes ++ more) (file.pass more) := by
  obtain ⟨content, on_disk, all⟩ := h.passed
  have held : file.content = content := by
    simp [OpenFile.content, on_disk, h.place, Disk.entry?_put h.below_root]
  rw [none_wait, List.append_nil] at all
  refine ⟨h.below_root, h.place, bytes ++ more, ?_, ?_⟩
  · simp only [OpenFile.pass, held, h.place, on_disk, Disk.put_put, all]
  · simp [OpenFile.pass, none_wait]

/-- Passing on what waits changes nothing but where the bytes are. -/
theorem flush (h : Carries disk location bytes file) : Carries disk location bytes file.flush := by
  obtain ⟨content, on_disk, all⟩ := h.passed
  have held : file.content = content := by
    simp [OpenFile.content, on_disk, h.place, Disk.entry?_put h.below_root]
  refine ⟨h.below_root, h.place, bytes, ?_, List.append_nil bytes⟩
  simp only [OpenFile.flush, OpenFile.pass, held, h.place, on_disk, Disk.put_put, all]

/-- When what waits was passed on, the file holds all bytes. -/
theorem disk_flush (h : Carries disk location bytes file) :
    file.flush.disk = disk.put location (.file bytes) := by
  obtain ⟨content, on_disk, all⟩ := h.flush.passed
  have none_wait : file.flush.waiting = [] := rfl
  rw [none_wait, List.append_nil] at all
  rw [on_disk, all]

/-- Bytes that are written come after all that were, whether they have to wait or not. -/
theorem write (h : Carries disk location bytes file) (capacity : Nat) (more : Bytes) :
    Carries disk location (bytes ++ more) (file.write capacity more) := by
  have ready : Carries disk location bytes
      (if capacity < file.waiting.length + more.length then file.flush else file) := by
    split
    · exact h.flush
    · exact h
  rw [OpenFile.write]
  by_cases large : capacity ≤ more.length
  · -- either what waits was passed on, or nothing waited that could be overtaken
    have none_wait : (if capacity < file.waiting.length + more.length then file.flush
        else file).waiting = [] := by
      split
      · rfl
      · exact List.length_eq_zero_iff.mp (by omega)
    simp only [if_pos large]
    exact ready.pass none_wait more
  · simp only [if_neg large]
    obtain ⟨content, on_disk, all⟩ := ready.passed
    exact ⟨h.below_root, ready.place, content, on_disk, by rw [← all, List.append_assoc]⟩

/-- The records that are taken add their rows. -/
theorem takes {capacity : Nat} {last : OpenFile} {records : List Record}
    (h : Carries disk location bytes file)
    (takes : (bufferedWriter capacity).Takes file records last) :
    Carries disk location (bytes ++ records.flatMap rowBytes) last := by
  induction takes generalizing bytes with
  | nil =>
    rw [List.flatMap_nil, List.append_nil]
    exact h
  | @cons file between last record records took rest ih =>
    cases took
    have row := (h.write capacity (Text.bytes record.line)).write capacity (Text.bytes "\n")
    rw [List.append_assoc, ← Text.bytes_append] at row
    rw [List.flatMap_cons, ← List.append_assoc]
    exact ih row

end OpenFile.Carries

/-! ## Whole extractions -/

variable {settings : ExtractionSettings} {disk : Disk} {corpus output text : String}
  {location : Location} {held : Bytes}

/-- When the record file can be opened, the rows of the records are put into it. -/
theorem extractFile_opened (read : disk.readText corpus = .ok text)
    (opened : disk.openFile output = .ok (location, held)) :
    extractFile settings disk corpus output =
      (disk.put location (.file ((extractAll settings (Text.lines text)).1.flatMap rowBytes)),
        (extractAll settings (Text.lines text)).2) := by
  simp only [extractFile, read, extract_recordWriter, Disk.write, opened, flatMap_rowBytes]

/-- The steps leave the same disk and give the same outcome, whatever the size of the buffer. -/
theorem extractInSteps_eq (capacity : Nat) (settings : ExtractionSettings) (disk : Disk)
    (corpus output : String) :
    extractInSteps capacity settings disk corpus output =
      extractFile settings disk corpus output := by
  cases read : disk.readText corpus with
  | error fault => simp only [extractInSteps, extractFile, read]
  | ok text =>
    cases opened : disk.openFile output with
    | error fault => simp only [extractInSteps, extractFile, read, Disk.write, opened]
    | ok place =>
      obtain ⟨location, held⟩ := place
      have emptied : OpenFile.Carries disk location []
          { disk := disk.put location (.file []), location } :=
        ⟨Disk.ne_root_of_openFile opened, rfl, [], rfl, rfl⟩
      rw [extractFile_opened read opened]
      simp only [extractInSteps, read, opened]
      cases extract_fares settings (bufferedWriter capacity)
          { disk := disk.put location (.file []), location } (Text.lines text) with
      | taken takes ends =>
        have ended := emptied.takes takes
        rw [List.nil_append] at ended
        rw [extract, ends, ended.disk_flush]
      | refused split takes refusal => cases refusal

/-- A corpus that cannot be read as text leaves the disk as it was. If it can be read and the record
file can be opened, also where it is the corpus itself, this file holds afterwards the rows of the
records that the corpus yields, those before a fault included, whatever it held before; nothing
else on the disk is changed, and the outcome is that of keeping all records. The steps from the
corpus to the record file, with any buffer, come to the same. -/
theorem extractFile_leaves (settings : ExtractionSettings) (disk : Disk)
    (corpus output : String) :
    (∀ fault, disk.readText corpus = .error fault →
      extractFile settings disk corpus output = (disk, .error (.file fault))) ∧
    (∀ text location held, disk.readText corpus = .ok text →
      disk.openFile output = .ok (location, held) →
      ∃ after,
        extractFile settings disk corpus output =
          (after, (extractAll settings (Text.lines text)).2) ∧
        after.read output = .ok ((extractAll settings (Text.lines text)).1.flatMap rowBytes) ∧
        Disk.SameBeside location disk after) ∧
    ∀ capacity, extractInSteps capacity settings disk corpus output =
      extractFile settings disk corpus output := by
  refine ⟨?_, ?_, ?_⟩
  · intro fault unreadable
    simp only [extractFile, unreadable]
  · intro text location held read opened
    refine ⟨_, extractFile_opened read opened, ?_, ?_⟩
    · exact Disk.read_put opened _
    · exact Disk.sameBeside_put (Disk.ne_root_of_openFile opened) disk _
  · intro capacity
    exact extractInSteps_eq capacity settings disk corpus output

/-- A corpus that is its own record file, by another path, and stops at its third line is replaced by
the one row before that; bytes that are no text leave the disk as it was. -/
theorem extractFile_leaves_in_place :
    let disk : Disk := ⟨[(["c"], .file (Text.bytes "PATTERN: é\n- []p\n- q")),
      (["d"], .file [0xFF]), (["e"], .file (Text.bytes "old"))], [], []⟩
    disk.readText "d" = .error .notText ∧
      extractFile {} disk "d" "e" = (disk, .error (.file .notText)) ∧
      disk.readText "c" = .ok "PATTERN: é\n- []p\n- q" ∧
      disk.openFile "./c" = .ok (["c"], Text.bytes "PATTERN: é\n- []p\n- q") ∧
      ∃ after,
        extractFile {} disk "c" "./c" = (after, .error (.line (.propertyWithoutHeader 3))) ∧
        after.read "./c" = .ok (Text.bytes "é, 2, G p\n") ∧
        Disk.SameBeside ["c"] disk after := by
  intro disk
  have no_text : disk.readText "d" = .error .notText := by rfl
  have read : disk.readText "c" = .ok "PATTERN: é\n- []p\n- q" := by rfl
  have opened : disk.openFile "./c" = .ok (["c"], Text.bytes "PATTERN: é\n- []p\n- q") := by rfl
  obtain ⟨unread, -, -⟩ := extractFile_leaves {} disk "d" "e"
  obtain ⟨-, replaced, -⟩ := extractFile_leaves {} disk "c" "./c"
  refine ⟨no_text, unread _ no_text, read, opened, ?_⟩
  exact replaced _ _ _ read opened

end MonitorBench.Workflow
