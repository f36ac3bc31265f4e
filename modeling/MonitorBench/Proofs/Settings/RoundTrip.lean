import MonitorBench.Proofs.Disk.Put
import MonitorBench.Proofs.Settings.Document
import MonitorBench.Proofs.Settings.Loading

/-!
# Saved settings are loaded again

Settings that are fit for use are saved wherever a file can be written, and are loaded from there
as they were (`saved_settings_load_back`). When some sections and fields are deleted from the
document that was saved, a search that comes to the file gives the settings with defaults for what
was deleted. Both hold in either format, which the path tells, and with any library that loses
nothing, as the one that the program runs with.
-/

set_option autoImplicit false

namespace MonitorBench

open MonitorBench.Document (Value Section Deletion ofSections)
open MonitorBench.Document.Toml (Tidy Holds Bare WellNamed)

namespace Settings

section Tidy

/-- A field can hold any text. -/
theorem holds_text (s : String) : Holds (.text s) :=
  .inr (.simple (.text s))

/-- A field can hold a text or nothing. -/
theorem holds_optional (s : Option String) : Holds (optional s) := by
  cases s with
  | none => exact .inl rfl
  | some s => exact holds_text s

/-- A field can hold any list of texts. -/
theorem holds_texts (args : List String) : Holds (.list (args.map .text)) := by
  refine .inr (.list fun item mem => ?_)
  obtain ⟨arg, -, rfl⟩ := List.mem_map.mp mem
  exact .text arg

/-- Entries are well named if their names are bare and distinct. -/
theorem wellNamed_of_names {α : Type} {entries : List (String × α)} {names : List String}
    (same : entries.map Prod.fst = names) (bare : ∀ name ∈ names, Bare name)
    (distinct : names.Nodup) : WellNamed entries where
  bare entry mem := bare entry.1 (same ▸ List.mem_map.mpr ⟨entry, mem, rfl⟩)
  distinct := same ▸ distinct

/-- The fields of the tool's section are tidy. -/
theorem tidy_toolFields (settings : ToolSettings) :
    WellNamed (toolFields settings) ∧ ∀ field ∈ toolFields settings, Holds field.2 := by
  refine ⟨wellNamed_of_names (names_toolFields settings) (by decide +kernel) (by decide), ?_⟩
  rw [toolFields_eq]
  simp only [List.forall_mem_cons, List.not_mem_nil, false_implies, implies_true, and_true]
  exact ⟨holds_text _, holds_texts _, holds_text _, holds_optional _, holds_text _⟩

/-- The fields of the extraction's section are tidy. -/
theorem tidy_extractionFields (settings : ExtractionSettings) :
    WellNamed (extractionFields settings) ∧ ∀ field ∈ extractionFields settings, Holds field.2 := by
  refine ⟨wellNamed_of_names (names_extractionFields settings) (by decide +kernel) (by decide), ?_⟩
  rw [extractionFields]
  simp only [List.forall_mem_cons, List.not_mem_nil, false_implies, implies_true, and_true]
  exact ⟨holds_text _, holds_text _, holds_text _⟩

/-- The fields of the batch's section are tidy. -/
theorem tidy_batchFields (settings : BatchSettings) :
    WellNamed (batchFields settings) ∧ ∀ field ∈ batchFields settings, Holds field.2 := by
  refine ⟨wellNamed_of_names (names_batchFields settings) (by decide +kernel) (by decide), ?_⟩
  rw [batchFields]
  simp only [List.forall_mem_cons, List.not_mem_nil, false_implies, implies_true, and_true]
  exact ⟨.inr (.simple (.integer _)), holds_text _, holds_text _, .inr (.simple (.bool _))⟩

/-- The document of settings is tidy, whatever the settings are. -/
theorem tidy_sections (settings : Settings) : Tidy settings.sections where
  named := wellNamed_of_names (names_sections settings) (by decide +kernel) (by decide)
  fields := by
    rw [sections]
    simp only [List.forall_mem_cons, List.not_mem_nil, false_implies, implies_true, and_true]
    exact ⟨tidy_toolFields _, tidy_extractionFields _, tidy_batchFields _⟩

end Tidy

/-- The document that is read back from saved settings. -/
def savedDocument (settings : Settings) (format : SettingsFormat) : Value :=
  ofSections (format.written settings.sections)

/-- A lossless library reads saved settings back as their document. -/
theorem read_print {library : Library} (lossless : library.Lossless) (settings : Settings)
    (format : SettingsFormat) :
    library.read format (settings.print format library) =
      .ok (settings.savedDocument format) := by
  rw [print, toDocument_eq]
  exact lossless.read_print format settings.tidy_sections

/-- The document of saved settings holds these settings. -/
theorem ofDocument_savedDocument (settings : Settings) (format : SettingsFormat) :
    ofDocument format (settings.savedDocument format) = .ok settings := by
  have whole := ofDocument_rest format ⟨[], []⟩ settings
  rw [Deletion.rest_nothing] at whole
  exact whole

end Settings

namespace Disk

/-- Makes the directories above a path that are missing. -/
def makeAbove (disk : Disk) (path : String) : Disk × Except FileFault Unit :=
  match Path.parent? path with
  | some parent => if parent = "" then (disk, .ok ()) else disk.makeDirectories parent
  | none => (disk, .ok ())

/-- A file can be written at a path: the directories above it are there or can be made, and no
directory stands at its place. -/
def Writable (disk : Disk) (path : String) : Prop :=
  ∃ ready opened, disk.makeAbove path = (ready, .ok ()) ∧ ready.openFile path = .ok opened

end Disk

section Library

variable {library : Library} {disk : Disk} {path text : String}

/-- Settings are saved by making the directories above the file and writing it. -/
theorem Settings.save_eq (settings : Settings) (disk : Disk) (path : String) (library : Library) :
    settings.save disk path library =
      match disk.makeAbove path with
      | (ready, .error fault) => (ready, .error (.file fault))
      | (ready, .ok _) =>
        match ready.write path
          (Text.bytes (settings.print (SettingsFormat.ofPath path) library)) with
        | .error fault => (ready, .error (.file fault))
        | .ok after => (after, .ok ()) :=
  rfl

/-- Settings are saved where a file can be written, and are there then. -/
theorem Settings.save_of_writable (writable : disk.Writable path) (settings : Settings)
    (library : Library) :
    ∃ after, settings.save disk path library = (after, .ok ()) ∧
      after.readText path = .ok (settings.print (SettingsFormat.ofPath path) library) := by
  obtain ⟨ready, ⟨location, old⟩, made, opened⟩ := writable
  let bytes := Text.bytes (settings.print (SettingsFormat.ofPath path) library)
  have written : ready.write path bytes = .ok (ready.put location (.file bytes)) := by
    rw [Disk.write, opened]
  refine ⟨_, ?_, Disk.readText_write written⟩
  rw [save_eq, made]
  simp only [bytes, written]

namespace Loader

variable {document : Value} {settings : Settings}

/-- A file whose text is read as a document that holds settings is loaded as these. -/
theorem loadFile_of_read {format : SettingsFormat} (there : disk.readText path = .ok text)
    (read : library.read format text = .ok document)
    (holds : Settings.ofDocument format document = .ok settings) :
    loadFile disk path format library = .ok settings := by
  have parsed : Settings.parse format text library = .ok settings := by
    rw [Settings.parse, read]
    exact holds
  rw [loadFile, there]
  simp only [parsed]

/-- A search comes to a file: it is looked for, and none that are looked for earlier are there. -/
def ComesTo (loader : Loader) (disk : Disk) (path : String) : Prop :=
  ∃ earlier later, loader.candidates = earlier ++ (path, SettingsFormat.ofPath path) :: later ∧
    ∀ candidate ∈ earlier, disk.holds candidate.1 = false

/-- A search that comes to a file finds its settings. -/
theorem search_of_comesTo {loader : Loader} (comes : loader.ComesTo disk path)
    (held : disk.holds path = true)
    (loaded : loadFile disk path (SettingsFormat.ofPath path) library = .ok settings) :
    loader.search disk library = some (path, settings) := by
  obtain ⟨earlier, later, candidates, missing⟩ := comes
  refine List.findSome?_eq_some_iff.mpr ⟨earlier, _, later, candidates, ?_, ?_⟩
  · simp only [held, loaded]
    rfl
  · intro candidate mem
    simp only [missing candidate mem]
    rfl

/-- A search that comes to a file gives its settings, if they need not be fit for use. -/
theorem load_of_comesTo {loader : Loader} {options : LoadOptions} (comes : loader.ComesTo disk path)
    (lenient : options.validate = false) (held : disk.holds path = true)
    (loaded : loadFile disk path (SettingsFormat.ofPath path) library = .ok settings) :
    loader.load disk options library =
      ({ loader with currentPath := some path }, .ok settings) := by
  have admitted : options.Admits settings := by
    intro needed
    rw [lenient] at needed
    cases needed
  rw [load, search_of_comesTo comes held loaded]
  simp only [checked_of_admits admitted]

end Loader

end Library

namespace Settings

/-- The readers and printers at hand lose nothing. With any library that loses nothing, settings
that are fit for use can be saved wherever a file can be written, and are loaded from there by its
name. What was saved is a document, and whatever sections and fields are deleted from it, the rest
can be written in the same format; a search that comes to a file with the rest gives the settings
with defaults for what was deleted, if they need not be fit for use. -/
theorem saved_settings_load_back (settings : Settings) (fit : settings.validate = .ok ())
    (disk : Disk) (path : String) (writable : disk.Writable path) :
    Library.own.Lossless ∧
    ∀ library : Library, library.Lossless →
      let format := SettingsFormat.ofPath path
      let saved := settings.savedDocument format
      (∃ after, settings.save disk path library = (after, .ok ()) ∧
        after.readText path = .ok (settings.print format library) ∧
        ∀ loader : Loader,
          loader.loadFrom after path library =
            ({ loader with currentPath := some path }, .ok settings)) ∧
      library.read format (settings.print format library) = .ok saved ∧
      ∀ gone : Deletion,
        library.read format (library.print format (gone.rest saved)) = .ok (gone.rest saved) ∧
        ∀ (edited : Disk) (text : String), edited.readText path = .ok text →
          library.read format text = .ok (gone.rest saved) →
          ∀ (loader : Loader) (options : LoadOptions), loader.ComesTo edited path →
            options.validate = false →
            loader.load edited options library =
              ({ loader with currentPath := some path }, .ok (settings.without gone)) := by
  refine ⟨Library.lossless_own, fun library lossless => ?_⟩
  intro format saved
  refine ⟨?_, settings.read_print lossless format, fun gone => ⟨?_, ?_⟩⟩
  · obtain ⟨after, done, there⟩ := settings.save_of_writable writable library
    refine ⟨after, done, there, fun loader => ?_⟩
    have loaded := Loader.loadFile_of_read there (settings.read_print lossless format)
      (settings.ofDocument_savedDocument format)
    exact loader.loadFrom_of_fit (Disk.holds_of_readText there) loaded fit
  · exact lossless.read_print_rest format gone settings.tidy_sections
  · intro edited text there read loader options comes lenient
    have loaded := Loader.loadFile_of_read there read (ofDocument_rest format gone settings)
    exact Loader.load_of_comesTo comes lenient (Disk.holds_of_readText there) loaded

/-- Settings with a quote, a line break and a control character in their texts come back, and without
a section, the arguments and the progress interval they come back with these at their defaults. -/
theorem saved_settings_load_back_odd_texts :
    let settings : Settings :=
      { tool := { program := "a \"b\"\n\x01", args := ["", "\'\'\'", "\\"], workingDirectory := some "π" }
        extraction := { placeholder := "T" }
        batch := { progressInterval := 7, resume := true } }
    let gone : Deletion := ⟨["translator"], [("tool", "args"), ("driver", "progress_interval")]⟩
    let text := Document.Toml.print (gone.rest (settings.savedDocument .toml))
    let edited : Disk := ⟨[(["bench.toml"], .file (Text.bytes text))], [], []⟩
    settings.validate = .ok () ∧ Disk.Writable ⟨[], [], []⟩ "bench.toml" ∧
      (∃ after, settings.save ⟨[], [], []⟩ "bench.toml" = (after, .ok ()) ∧
        (Loader.loadFrom { searchPaths := [] } after "bench.toml").2 = .ok settings) ∧
      (Loader.load { searchPaths := ["bench"] } edited { validate := false }).2 =
        .ok { tool := { program := "a \"b\"\n\x01", workingDirectory := some "π" }
              batch := { resume := true } } := by
  intro settings gone text edited
  have fit : settings.validate = .ok () := by decide +kernel
  have writable : Disk.Writable ⟨[], [], []⟩ "bench.toml" :=
    ⟨⟨[], [], []⟩, (["bench.toml"], []), rfl, rfl⟩
  obtain ⟨lossless, load_back⟩ :=
    saved_settings_load_back settings fit ⟨[], [], []⟩ "bench.toml" writable
  obtain ⟨⟨after, done, -, back⟩, -, rest⟩ := load_back .own lossless
  obtain ⟨reads, loads⟩ := rest gone
  have written : Disk.write ⟨[], [], []⟩ "bench.toml" (Text.bytes text) = .ok edited := rfl
  have there : edited.readText "bench.toml" = .ok text := Disk.readText_write written
  have comes : Loader.ComesTo { searchPaths := ["bench"] } edited "bench.toml" :=
    ⟨[], [("bench.json", .json)], rfl, fun _ mem => nomatch mem⟩
  refine ⟨fit, writable, ⟨after, done, ?_⟩, ?_⟩
  · rw [back]
  · rw [loads edited text there reads _ _ comes rfl]
    rfl

end Settings

end MonitorBench
