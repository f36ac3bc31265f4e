import MonitorBench.Disk.Basic

/-!
# Putting a file does not move paths

A path is located by walking over directories only. Putting a file where no directory stands
changes what stands at that one location, so every walk that succeeded still succeeds and ends
at the same place. In particular a file that was opened for writing is found again by the
same path, with what was put into it.
-/

set_option autoImplicit false

namespace MonitorBench.Disk

variable {disk : Disk} {location place : Location} {path : String} {content old : Bytes}

/-- The changed entries have the new entry at its location, and the old ones elsewhere. -/
theorem lookup_putEntry (location place : Location) (entry : Entry)
    (entries : List (Location × Entry)) :
    (putEntry location entry entries).lookup place =
      if place = location then some entry else entries.lookup place := by
  induction entries with
  | nil =>
    rw [putEntry, List.lookup_cons]
    by_cases h : place = location
    · simp [h]
    · simp [beq_false_of_ne h, h]
  | cons first rest ih =>
    obtain ⟨there, stands⟩ := first
    rw [putEntry]
    by_cases same : there = location
    · rw [if_pos same, List.lookup_cons, List.lookup_cons]
      by_cases h : place = location
      · simp [same, h]
      · simp [same, beq_false_of_ne h, h]
    · rw [if_neg same, List.lookup_cons, List.lookup_cons, ih]
      by_cases h : place = there
      · simp [h, same]
      · simp [beq_false_of_ne h]

/-- Below the root, a put entry stands at its location, and nothing else changes. -/
theorem entry?_put (h : location ≠ []) (entry : Entry) (place : Location) :
    Disk.entry? (disk.put location entry) place =
      if place = location then some entry else disk.entry? place := by
  cases place with
  | nil => simp [ entry?, Ne.symm h]
  | cons name names => simp [ entry?, put, lookup_putEntry]

/-- Of two entries that are put in one place, the later one stands. -/
theorem putEntry_putEntry (location : Location) (entry later : Entry)
    (entries : List (Location × Entry)) :
    putEntry location later (putEntry location entry entries) =
      putEntry location later entries := by
  induction entries with
  | nil => simp [putEntry]
  | cons first rest ih =>
    obtain ⟨there, stands⟩ := first
    by_cases same : there = location
    · simp [putEntry, same]
    · simp [putEntry, same, ih]

/-- A later entry takes the place of an earlier one. -/
theorem put_put (disk : Disk) (location : Location) (entry later : Entry) :
    (disk.put location entry).put location later = disk.put location later := by
  simp only [put, putEntry_putEntry]

/-- What is no directory is not the root. -/
theorem ne_root_of_not_directory (h : disk.entry? location ≠ some .directory) : location ≠ [] := by
  rintro rfl
  exact h rfl

/-- A walk that succeeded still succeeds when a file is put where no directory stands. -/
theorem walk_put (h : disk.entry? location ≠ some .directory) (names : List String)
    {base : Location} (walked : disk.walk base names = .ok place) :
    (disk.put location (.file content)).walk base names = .ok place := by
  induction names generalizing base with
  | nil => exact walked
  | cons name names ih =>
    rw [walk] at walked ⊢
    cases stands : disk.entry? base with
    | none => simp [stands] at walked
    | some entry =>
      cases entry with
      | file _ => simp [stands] at walked
      | directory =>
        -- the walk passes a directory, so it does not pass the location
        have elsewhere : base ≠ location := by
          rintro rfl
          exact h stands
        rw [entry?_put (ne_root_of_not_directory h), if_neg elsewhere, stands]
        rw [stands] at walked
        cases step : next base name with
        | error fault => simp [step] at walked
        | ok further =>
          simp only [step] at walked ⊢
          exact ih walked

/-- A path leads to the same place when a file is put where no directory stands. -/
theorem locate_put (h : disk.entry? location ≠ some .directory)
    (located : disk.locate path = .ok place) :
    (disk.put location (.file content)).locate path = .ok place := by
  rw [locate, locateFrom] at located ⊢
  cases fault : Path.fault? path with
  | some fault => simp [fault] at located
  | none =>
    simp only [fault] at located ⊢
    exact walk_put h (Path.names path) located

/-- What opening a file for writing says of the disk. -/
theorem openFile_eq_ok_iff : disk.openFile path = .ok (location, old) ↔
    Path.endsInSlash path = false ∧ disk.locate path = .ok location ∧
      (disk.entry? location = some (.file old) ∨ disk.entry? location = none ∧ old = []) := by
  constructor
  · intro opened
    rw [openFile] at opened
    split at opened
    next => cases opened
    next no_slash =>
      split at opened
      next => cases opened
      next there located =>
        refine ⟨by simpa using no_slash, ?_⟩
        split at opened
        next stands =>
          cases opened
          exact ⟨located, Or.inr ⟨stands, rfl⟩⟩
        next => cases opened
        next held stands =>
          cases opened
          exact ⟨located, Or.inl stands⟩
  · rintro ⟨no_slash, located, stands | ⟨stands, rfl⟩⟩
    · simp [openFile, no_slash, located, stands]
    · simp [openFile, no_slash, located, stands]

/-- What was opened for writing is no directory. -/
theorem not_directory_of_openFile (opened : disk.openFile path = .ok (location, old)) :
    disk.entry? location ≠ some .directory := by
  obtain ⟨-, -, stands⟩ := openFile_eq_ok_iff.mp opened
  rcases stands with file | ⟨nothing, -⟩
  · simp [file]
  · simp [nothing]

/-- The file that was opened for writing is there when it was put, at the same place. -/
theorem stands_put (opened : disk.openFile path = .ok (location, old)) (content : Bytes) :
    (disk.put location (.file content)).locate path = .ok location ∧
      Disk.entry? (disk.put location (.file content)) location = some (.file content) := by
  obtain ⟨-, located, -⟩ := openFile_eq_ok_iff.mp opened
  have no_directory := not_directory_of_openFile opened
  refine ⟨locate_put no_directory located, ?_⟩
  rw [entry?_put (ne_root_of_not_directory no_directory), if_pos rfl]

/-- A file that was opened for writing is opened again, with what was put into it. -/
theorem openFile_put (opened : disk.openFile path = .ok (location, old)) :
    (disk.put location (.file content)).openFile path = .ok (location, content) := by
  obtain ⟨located, stands⟩ := stands_put opened content
  exact openFile_eq_ok_iff.mpr ⟨(openFile_eq_ok_iff.mp opened).1, located, Or.inl stands⟩

/-- Where something is read, something is there. -/
theorem holds_of_read (held : disk.read path = .ok content) : disk.holds path = true := by
  rw [read] at held
  rw [holds, find?]
  cases located : disk.locate path with
  | error fault =>
    rw [located] at held
    cases held
  | ok location =>
    rw [located] at held
    dsimp only at held ⊢
    cases stands : disk.entry? location with
    | none =>
      rw [stands] at held
      cases held
    | some entry => rfl

/-- A file that can be read is there. -/
theorem holds_of_readText {text : String} (read : disk.readText path = .ok text) :
    disk.holds path = true := by
  rw [readText] at read
  cases held : disk.read path with
  | error fault =>
    rw [held] at read
    cases read
  | ok content => exact holds_of_read held

/-- What was put into the file that was opened for writing is read by the same path. -/
theorem read_put (opened : disk.openFile path = .ok (location, old)) (content : Bytes) :
    (disk.put location (.file content)).read path = .ok content := by
  obtain ⟨located, stands⟩ := stands_put opened content
  simp only [read, located, stands]

/-- A text that was written is read again. -/
theorem readText_write {after : Disk} {text : String}
    (written : disk.write path (Text.bytes text) = .ok after) : after.readText path = .ok text := by
  rw [write] at written
  split at written
  next => cases written
  next location old opened =>
    cases written
    simp [readText, read_put opened]

end MonitorBench.Disk
