import MonitorBench.Proofs.Disk.Extension
import MonitorBench.Proofs.Disk.Put
import MonitorBench.Proofs.Settings.Loading

/-!
# Which file decides a search for settings

A search is decided by the first file that can be used, in the order of the search paths and with
TOML before JSON (`Decides`). Files that are missing, cannot be read or do not parse are passed
over, however many there are and wherever they stand (`PassedOver`), and the files behind the one
that decides do not matter (`Decides.elsewhere`). The settings in the deciding file are given, or
refused if they have to be fit for use and are not; no other file is tried then
(`first_usable_file_decides`).

A search knows the format of a file from the place in its order, and a file that is named has the
format that its extension tells. The two agree on every search path that ends in a name
(`ofPath_candidate_iff`), as the standard ones do, so what is found along the standard paths can be
loaded by its name.
-/

set_option autoImplicit false

namespace MonitorBench.Loader

/-- A file can be used: it is there and can be read, and its text holds settings in the format. -/
structure Usable (disk : Disk) (file : String) (format : SettingsFormat) (settings : Settings) :
    Prop where
  there : disk.holds file = true
  parsed : ∃ text, disk.readText file = .ok text ∧ Settings.parse format text = .ok settings

/-- Why a search passes over a file. -/
inductive PassedOver (disk : Disk) (file : String) (format : SettingsFormat) : Prop where
  | missing (nothing : disk.holds file = false)
  | unreadable {fault : FileFault} (unread : disk.readText file = .error fault)
  | malformed {text : String} {fault : Document.Fault} (read : disk.readText file = .ok text)
      (unparsed : Settings.parse format text = .error fault)

/-- The file of `base` in a format decides the search, and holds `settings`. -/
structure Decides (loader : Loader) (disk : Disk) (earlier : List String) (base : String)
    (format : SettingsFormat) (settings : Settings) : Prop where
  /-- The search comes to `base` behind the earlier paths. -/
  order : earlier ++ [base] <+: loader.searchPaths
  /-- No file of an earlier path can be used. -/
  passed : ∀ path ∈ earlier, ∀ format, PassedOver disk (candidate path format) format
  /-- Neither can the TOML file of `base`, which is tried before its JSON file. -/
  first : format = .json → PassedOver disk (candidate base .toml) .toml
  usable : Usable disk (candidate base format) format settings

/-- A search passes over every file that it looks for. -/
def PassesOverAll (loader : Loader) (disk : Disk) : Prop :=
  ∀ base ∈ loader.searchPaths, ∀ format, PassedOver disk (candidate base format) format

/-- The files that a search tries until it is decided by the file of `base` in a format. -/
inductive Tried (earlier : List String) (base : String) (format : SettingsFormat) : String → Prop
    where
  | earlier {path : String} (mem : path ∈ earlier) (kind : SettingsFormat) :
      Tried earlier base format (candidate path kind)
  | first : Tried earlier base format (candidate base .toml)
  | deciding : Tried earlier base format (candidate base format)

/-! ## One file -/

section File

variable {disk changed : Disk} {file : String} {format : SettingsFormat} {settings : Settings}

/-- A file can be used or is passed over. -/
theorem usable_or_passedOver (disk : Disk) (file : String) (format : SettingsFormat) :
    (∃ settings, Usable disk file format settings) ∨ PassedOver disk file format := by
  cases there : disk.holds file with
  | false => exact .inr (.missing there)
  | true =>
    cases read : disk.readText file with
    | error fault => exact .inr (.unreadable read)
    | ok text =>
      cases parsed : Settings.parse format text with
      | error fault => exact .inr (.malformed read parsed)
      | ok settings => exact .inl ⟨settings, there, text, read, parsed⟩

/-- A file that can be used is loaded. -/
theorem Usable.loadFile_eq (usable : Usable disk file format settings) :
    loadFile disk file format = .ok settings := by
  obtain ⟨-, text, read, parsed⟩ := usable
  simp only [loadFile, read, parsed]

/-- A search finds the settings in a file that can be used. -/
theorem Usable.foundAt_eq (usable : Usable disk file format settings) :
    foundAt disk (file, format) = some (file, settings) := by
  rw [foundAt, if_pos usable.there, usable.loadFile_eq]
  rfl

/-- A search finds nothing at a file that is passed over. -/
theorem PassedOver.foundAt_eq (passed : PassedOver disk file format) :
    foundAt disk (file, format) = none := by
  rw [foundAt]
  cases passed with
  | missing nothing => rw [if_neg (by simp [nothing])]
  | unreadable unread => simp [loadFile, unread, Except.toOption]
  | malformed read unparsed => simp [loadFile, read, unparsed, Except.toOption]

/-- What a search finds at a file are the settings in it, and the file can be used. -/
theorem foundAt_eq_some_iff {found : String × Settings} :
    foundAt disk (file, format) = some found ↔
      found.1 = file ∧ Usable disk file format found.2 := by
  constructor
  · intro here
    rcases usable_or_passedOver disk file format with ⟨settings, usable⟩ | passed
    · rw [usable.foundAt_eq] at here
      cases here
      exact ⟨rfl, usable⟩
    · rw [passed.foundAt_eq] at here
      cases here
  · rintro ⟨rfl, usable⟩
    exact usable.foundAt_eq

/-- A file is passed over exactly when it cannot be used. -/
theorem passedOver_iff :
    PassedOver disk file format ↔ ∀ settings, ¬ Usable disk file format settings := by
  constructor
  · intro passed settings usable
    have found := usable.foundAt_eq
    rw [passed.foundAt_eq] at found
    cases found
  · intro useless
    rcases usable_or_passedOver disk file format with ⟨settings, usable⟩ | passed
    · exact absurd usable (useless settings)
    · exact passed

/-- A search finds nothing at a file exactly when the file is passed over. -/
theorem foundAt_eq_none_iff :
    foundAt disk (file, format) = none ↔ PassedOver disk file format := by
  refine ⟨fun nothing => passedOver_iff.mpr fun settings usable => ?_, PassedOver.foundAt_eq⟩
  rw [usable.foundAt_eq] at nothing
  cases nothing

/-- Whether a file can be used depends on nothing but what is read of it. -/
theorem Usable.of_same (usable : Usable disk file format settings)
    (same : changed.readText file = disk.readText file) : Usable changed file format settings := by
  obtain ⟨-, text, read, parsed⟩ := usable
  rw [← same] at read
  exact ⟨Disk.holds_of_readText read, text, read, parsed⟩

/-- Whether a file is passed over depends on nothing but what is read of it. -/
theorem PassedOver.of_same (passed : PassedOver disk file format)
    (same : changed.readText file = disk.readText file) : PassedOver changed file format := by
  rw [passedOver_iff] at passed ⊢
  exact fun settings usable => passed settings (usable.of_same same.symm)

end File

/-! ## One search path after the other -/

section Search

variable {loader other : Loader} {disk changed : Disk} {earlier : List String} {base file : String}
  {format : SettingsFormat} {settings : Settings}

/-- What a search finds at the files of one search path. -/
def foundOn (disk : Disk) (base : String) : Option (String × Settings) :=
  (foundAt disk (candidate base .toml, .toml)).or (foundAt disk (candidate base .json, .json))

/-- At a search path the file of the first format is tried before that of the other. -/
theorem findSome?_formats (disk : Disk) (base : String) :
    (SettingsFormat.all.map fun format => (candidate base format, format)).findSome?
      (foundAt disk) = foundOn disk base := by
  rw [SettingsFormat.all, foundOn, List.map_cons, List.map_cons, List.map_nil,
    List.findSome?_cons, List.findSome?_singleton]
  cases foundAt disk (candidate base .toml, .toml) with
  | none => rfl
  | some found => rfl

/-- A search goes from one search path to the next. -/
theorem search_eq_foundOn (loader : Loader) (disk : Disk) :
    loader.search disk = loader.searchPaths.findSome? (foundOn disk) := by
  rw [search_eq, candidates]
  -- on the search paths, for all files of one path are tried before those of the next
  induction loader.searchPaths with
  | nil => rfl
  | cons base rest ih =>
    rw [List.flatMap_cons, List.findSome?_append, findSome?_formats, ih, List.findSome?_cons]
    cases foundOn disk base with
    | none => rfl
    | some found => rfl

/-- On one search path the TOML file is tried first, and the JSON file after it. -/
theorem foundOn_eq_some_iff :
    foundOn disk base = some (file, settings) ↔
      ∃ format, candidate base format = file ∧ Usable disk file format settings ∧
        (format = .json → PassedOver disk (candidate base .toml) .toml) := by
  rw [foundOn, Option.or_eq_some_iff, foundAt_eq_some_iff, foundAt_eq_none_iff,
    foundAt_eq_some_iff]
  constructor
  · rintro (⟨rfl, usable⟩ | ⟨passed, rfl, usable⟩)
    · exact ⟨.toml, rfl, usable, fun other => nomatch other⟩
    · exact ⟨.json, rfl, usable, fun _ => passed⟩
  · rintro ⟨format, rfl, usable, first⟩
    cases format with
    | toml => exact .inl ⟨rfl, usable⟩
    | json => exact .inr ⟨first rfl, rfl, usable⟩

/-- Nothing is found at a search path exactly when its files are passed over. -/
theorem foundOn_eq_none_iff :
    foundOn disk base = none ↔ ∀ format, PassedOver disk (candidate base format) format := by
  rw [foundOn, Option.or_eq_none_iff, foundAt_eq_none_iff, foundAt_eq_none_iff]
  constructor
  · rintro ⟨toml, json⟩ format
    cases format with
    | toml => exact toml
    | json => exact json
  · exact fun passed => ⟨passed .toml, passed .json⟩

/-- A search finds the file that decides it, with the settings that it holds. -/
theorem search_eq_some_iff :
    loader.search disk = some (file, settings) ↔
      ∃ earlier base format, candidate base format = file ∧
        loader.Decides disk earlier base format settings := by
  rw [search_eq_foundOn, List.findSome?_eq_some_iff]
  constructor
  · rintro ⟨earlier, base, later, order, found, nothing⟩
    obtain ⟨format, rfl, usable, first⟩ := foundOn_eq_some_iff.mp found
    refine ⟨earlier, base, format, rfl, ⟨later, ?_⟩, ?_, first, usable⟩
    · rw [order, List.append_assoc, List.singleton_append]
    · intro path mem
      exact foundOn_eq_none_iff.mp (nothing path mem)
  · rintro ⟨earlier, base, format, rfl, ⟨later, order⟩, passed, first, usable⟩
    refine ⟨earlier, base, later, ?_, foundOn_eq_some_iff.mpr ⟨format, rfl, usable, first⟩, ?_⟩
    · rw [← order, List.append_assoc, List.singleton_append]
    · intro path mem
      exact foundOn_eq_none_iff.mpr (passed path mem)

/-- A search finds nothing exactly when it passes over every file. -/
theorem search_eq_none_iff : loader.search disk = none ↔ loader.PassesOverAll disk := by
  rw [search_eq_foundOn, List.findSome?_eq_none_iff, PassesOverAll]
  simp only [foundOn_eq_none_iff]

/-- Some file decides the search, or all are passed over. -/
theorem decides_or_passesOverAll (loader : Loader) (disk : Disk) :
    (∃ earlier base format settings, loader.Decides disk earlier base format settings) ∨
      loader.PassesOverAll disk := by
  cases searched : loader.search disk with
  | none => exact .inr (search_eq_none_iff.mp searched)
  | some found =>
    obtain ⟨earlier, base, format, -, decides⟩ := search_eq_some_iff.mp searched
    exact .inl ⟨earlier, base, format, found.2, decides⟩

/-- A search finds the settings in the file that decides it. -/
theorem Decides.search_eq (decides : loader.Decides disk earlier base format settings) :
    loader.search disk = some (candidate base format, settings) :=
  search_eq_some_iff.mpr ⟨earlier, base, format, rfl, decides⟩

/-- A file decides every search that comes to its path in the same order, wherever the files that
are tried read as they do here: the paths and the files behind it do not matter. -/
theorem Decides.elsewhere (decides : loader.Decides disk earlier base format settings)
    (order : earlier ++ [base] <+: other.searchPaths)
    (same : ∀ file, Tried earlier base format file →
      changed.readText file = disk.readText file) :
    other.Decides changed earlier base format settings where
  order := order
  passed path mem kind := (decides.passed path mem kind).of_same (same _ (.earlier mem kind))
  first json := (decides.first json).of_same (same _ .first)
  usable := decides.usable.of_same (same _ .deciding)

end Search

/-! ## The format of a candidate -/

section Format

variable {loader : Loader} {disk : Disk} {base file : String} {format : SettingsFormat}

/-- The extension of a candidate tells its format if the search path ends in a name. Otherwise it
has none, and a file without an extension is taken for TOML. -/
theorem ofPath_candidate_iff :
    SettingsFormat.ofPath (candidate base format) = format ↔
      format = .toml ∨ Path.EndsInName base := by
  have plain : format.extension ≠ "" ∧ '.' ∉ format.extension.toList ∧
      '/' ∉ format.extension.toList := by
    cases format <;> decide
  obtain ⟨nonempty, no_dot, no_slash⟩ := plain
  rw [SettingsFormat.ofPath, candidate, Path.extension?_dotted nonempty no_dot no_slash]
  by_cases ends : Path.EndsInName base
  · cases format with
    | toml => simp [ends, SettingsFormat.extension]
    | json => simp [ends, SettingsFormat.extension]
  · cases format with
    | toml => simp [ends]
    | json => simp [ends]

/-- Behind a search path that ends in a slash the JSON file has no extension. -/
example : SettingsFormat.ofPath (candidate "bench/" .json) = .toml := by decide

/-- The standard search paths end in names. -/
theorem endsInName_standard (environment : Environment) :
    ∀ base ∈ standardPaths environment, Path.EndsInName base := by
  intro base mem
  simp only [standardPaths, inDirectory, List.mem_append, Option.mem_toList,
    Option.map_eq_some_iff] at mem
  -- each of the four, where it is there, is a directory with a name put behind it
  obtain ((⟨_, -, rfl⟩ | ⟨_, -, rfl⟩) | ⟨_, -, rfl⟩) | ⟨_, -, rfl⟩ := mem
  all_goals exact Path.endsInName_join (by decide) _

/-- Where nothing names a home directory, the paths in it are those of the account's. -/
example : standardPaths ⟨[("HOME", "")], some "/home/bob", none⟩ =
    ["/home/bob/.config/patternbench/config", "/home/bob/.patternbench"] := by decide

/-- What is found along search paths that end in names, and is fit for use, is loaded by its name as
well. -/
theorem loadFrom_of_search {settings : Settings}
    (named : ∀ base ∈ loader.searchPaths, Path.EndsInName base)
    (found : loader.search disk = some (file, settings)) (fit : settings.validate = .ok ())
    (other : Loader) :
    other.loadFrom disk file = ({ other with currentPath := some file }, .ok settings) := by
  obtain ⟨earlier, base, format, rfl, decides⟩ := search_eq_some_iff.mp found
  have known : SettingsFormat.ofPath (candidate base format) = format :=
    ofPath_candidate_iff.mpr (.inr (named base (decides.order.subset (by simp))))
  refine other.loadFrom_of_fit decides.usable.there ?_ fit
  rw [known]
  exact decides.usable.loadFile_eq

end Format

/-! ## The whole search -/

section Load

variable {loader : Loader} {disk : Disk} {earlier : List String} {base : String}
  {format : SettingsFormat} {settings : Settings}

/-- The settings in the file that decides are given, unless they have to be fit for use and are
not. -/
theorem Decides.load_eq (decides : loader.Decides disk earlier base format settings)
    (options : LoadOptions) :
    loader.load disk options =
      ({ loader with currentPath := some (candidate base format) },
        match options.validate, settings.validate with
        | true, .error fault => .error fault
        | _, _ => .ok settings) := by
  rw [load, decides.search_eq]
  dsimp only
  rw [checked]
  cases options.validate with
  | false => rfl
  | true => cases settings.validate <;> rfl

/-- Where all files are passed over, the defaults stand in if they may. -/
theorem PassesOverAll.load_eq (passed : loader.PassesOverAll disk) (options : LoadOptions) :
    loader.load disk options =
      (loader,
        if options.createDefault then .ok {}
        else .error (.settingsMissing (loader.searchPaths.head?.getD "."))) := by
  rw [load, search_eq_none_iff.mpr passed, checked_of_admits fun _ => Settings.validate_default]
  dsimp only
  split <;> rfl

/-- A search for settings is decided by the first file that can be used, path by path and with TOML
before JSON. Its settings are given, or the fault that is found in them if they have to be fit for
use; nothing but the files that are tried until then matters. If no file can be used, the defaults
are given if they may stand in, and otherwise the first search path is reported as missing, or the
current directory if there is none. One of the two is the case. What is found along the standard
paths with the usual options is given as well when it is loaded by its name. -/
theorem first_usable_file_decides (loader : Loader) (disk : Disk) (options : LoadOptions) :
    (∀ earlier base format settings, loader.Decides disk earlier base format settings →
      loader.load disk options =
          ({ loader with currentPath := some (candidate base format) },
            match options.validate, settings.validate with
            | true, .error fault => .error fault
            | _, _ => .ok settings) ∧
        ∀ (other : Loader) (changed : Disk), earlier ++ [base] <+: other.searchPaths →
          (∀ file, Tried earlier base format file →
            changed.readText file = disk.readText file) →
          (other.load changed options).2 = (loader.load disk options).2) ∧
      (loader.PassesOverAll disk →
        loader.load disk options =
          (loader,
            if options.createDefault then .ok {}
            else .error (.settingsMissing (loader.searchPaths.head?.getD ".")))) ∧
      ((∃ earlier base format settings, loader.Decides disk earlier base format settings) ∨
        loader.PassesOverAll disk) ∧
      ∀ (environment : Environment) (later : Loader) (file : String) (settings : Settings),
        (standard environment).load disk {} = (later, .ok settings) →
        later.currentPath = some file →
        loader.loadFrom disk file = ({ loader with currentPath := some file }, .ok settings) := by
  refine ⟨?_, fun passed => passed.load_eq options, decides_or_passesOverAll loader disk, ?_⟩
  · intro earlier base format settings decides
    refine ⟨decides.load_eq options, fun other changed order same => ?_⟩
    rw [(decides.elsewhere order same).load_eq options, decides.load_eq options]
  · intro environment later file settings given remembered
    have ended := load_cases (standard environment) disk {}
    rw [given] at ended
    cases ended with
    | @found path _ search admitted =>
      obtain rfl : path = file := Option.some.inj remembered
      exact loadFrom_of_search (endsInName_standard environment) search (admitted rfl) loader
    | defaults => cases remembered

/-- Settings are found behind a TOML file that does not parse, a JSON file that is a directory, and a
TOML file that is no text; a file behind them, with settings that are not fit for use, does not
matter. A search along the first path alone reports that path. -/
theorem first_usable_file_decides_past_broken_files :
    let found : Settings := { batch := { resume := true } }
    let directories : List (Location × Entry) :=
      [["h"], ["w"], ["x"], ["x", "patternbench"], ["w", "patternbench.json"]].map (·, .directory)
    let files : List (Location × Entry) :=
      [(["w", "patternbench.toml"], .file (Text.bytes "tool = 3")),
        (["x", "patternbench", "config.toml"], .file [255]),
        (["x", "patternbench", "config.json"],
          .file (Text.bytes "\x7b\"driver\": \x7b\"resume\": true\x7d\x7d"))]
    let unfit : Location × Entry :=
      (["h", ".patternbench.toml"], .file (Text.bytes "[driver]\nprogress_interval = 0\n"))
    let disk : Disk := ⟨directories ++ files ++ [unfit], ["w"], []⟩
    let changed : Disk := ⟨directories ++ files, ["w"], []⟩
    let loader := standard ⟨[("HOME", "/h"), ("XDG_CONFIG_HOME", "/x")], none, some "/w"⟩
    loader.Decides disk ["/w/patternbench"] "/x/patternbench/config" .json found ∧
      loader.load disk {} =
        ({ loader with currentPath := some "/x/patternbench/config.json" }, .ok found) ∧
      (loader.load changed {}).2 = .ok found ∧
      loader.loadFrom disk "/x/patternbench/config.json" =
        ({ loader with currentPath := some "/x/patternbench/config.json" }, .ok found) ∧
      (load { searchPaths := ["/w/patternbench"] } disk { createDefault := false }).2 =
        .error (.settingsMissing "/w/patternbench") := by
  intro found directories files unfit disk changed loader
  have decides : loader.Decides disk ["/w/patternbench"] "/x/patternbench/config" .json found := by
    have usable : Usable disk "/x/patternbench/config.json" .json found :=
      ⟨by decide +kernel, "\x7b\"driver\": \x7b\"resume\": true\x7d\x7d", by decide +kernel,
        by decide +kernel⟩
    refine ⟨⟨["/x/patternbench/config", "/h/.patternbench"], by decide +kernel⟩, ?_, fun _ => ?_,
      usable⟩
    · intro path mem format
      obtain rfl := List.mem_singleton.mp mem
      cases format with
      | toml =>
        have read : disk.readText "/w/patternbench.toml" = .ok "tool = 3" := by decide +kernel
        have unparsed : Settings.parse .toml "tool = 3" = .error (.unfit "tool") := by
          decide +kernel
        exact .malformed read unparsed
      | json =>
        have unread : disk.readText "/w/patternbench.json" = .error .isDirectory := by
          decide +kernel
        exact .unreadable unread
    · have unread : disk.readText "/x/patternbench/config.toml" = .error .notText := by
        decide +kernel
      exact .unreadable unread
  have same : ∀ file, Tried ["/w/patternbench"] "/x/patternbench/config" .json file →
      changed.readText file = disk.readText file := by
    intro file tried
    cases tried with
    | earlier mem kind =>
      obtain rfl := List.mem_singleton.mp mem
      cases kind <;> decide +kernel
    | first => decide +kernel
    | deciding => decide +kernel
  obtain ⟨decided, -, -, by_name⟩ := first_usable_file_decides loader disk {}
  obtain ⟨load, untried⟩ := decided _ _ _ _ decides
  obtain ⟨-, nothing, -⟩ := first_usable_file_decides { searchPaths := ["/w/patternbench"] } disk
    { createDefault := false }
  have fit : found.validate = .ok () := by decide +kernel
  have given : loader.load disk {} =
      ({ loader with currentPath := some "/x/patternbench/config.json" }, .ok found) := by
    rw [load, fit]
    rfl
  refine ⟨decides, given, ?_, by_name _ _ _ _ given rfl, ?_⟩
  · rw [untried loader changed decides.order same, given]
  · rw [nothing decides.passed]
    rfl

end Load

end MonitorBench.Loader
