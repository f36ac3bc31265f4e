import MonitorBench.Proofs.Settings.Fitness
import MonitorBench.Settings.Loader

/-!
# What comes of loading settings

A search for settings ends in one of four ways (`load_cases`): a file is found and its settings are
given, a file is found and its settings are refused, no file is found and the defaults stand in,
or no file is found and that is a fault. A file that is named is either loaded, or it gives a
fault and leaves the loader as it was (`loadFrom_cases`). The settings for a run come from one of
the two, with the defaults where a search fails (`init_cases`).
-/

set_option autoImplicit false

namespace MonitorBench

/-- Whether settings are given as they were found: they are fit for use, or need not be. -/
def LoadOptions.Admits (options : LoadOptions) (settings : Settings) : Prop :=
  options.validate = true → settings.validate = .ok ()

namespace Loader

variable {loader : Loader} {disk : Disk} {options : LoadOptions} {path : String}
  {settings : Settings}

/-- Settings that are admitted are given as they are. -/
theorem checked_of_admits (admitted : options.Admits settings) :
    checked options settings = .ok settings := by
  rw [checked]
  split
  next needed =>
    rw [admitted needed]
    rfl
  next => rfl

/-- How a search ends: the loader after it, and the settings or the fault. -/
inductive Loads (loader : Loader) (disk : Disk) (options : LoadOptions) :
    Loader × Except Fault Settings → Prop where
  /-- A file is found, and its settings are given. -/
  | found {path : String} {settings : Settings}
      (search : loader.search disk = some (path, settings))
      (admitted : options.Admits settings) :
      Loads loader disk options ({ loader with currentPath := some path }, .ok settings)
  /-- A file is found, and its settings are refused. -/
  | refused {path : String} {settings : Settings} {fault : Fault}
      (search : loader.search disk = some (path, settings)) (needed : options.validate = true)
      (unfit : settings.validate = .error fault) :
      Loads loader disk options ({ loader with currentPath := some path }, .error fault)
  /-- No file is found, and the defaults stand in. -/
  | defaults (nothing : loader.search disk = none) (allowed : options.createDefault = true) :
      Loads loader disk options (loader, .ok {})
  /-- No file is found, and that is a fault. -/
  | missing (nothing : loader.search disk = none) (strict : options.createDefault = false) :
      Loads loader disk options
        (loader, .error (.settingsMissing (loader.searchPaths.head?.getD ".")))

/-- A search ends in one of these ways. -/
theorem load_cases (loader : Loader) (disk : Disk) (options : LoadOptions) :
    Loads loader disk options (loader.load disk options) := by
  rw [load]
  cases search : loader.search disk with
  | some found =>
    obtain ⟨path, settings⟩ := found
    by_cases needed : options.validate = true
    · cases verdict : settings.validate with
      | ok accepted =>
        simp only [checked_of_admits fun _ => verdict]
        exact .found search fun _ => verdict
      | error fault =>
        simp only [checked, if_pos needed, verdict]
        exact .refused search needed verdict
    · have admitted : options.Admits settings := fun asked => absurd asked needed
      simp only [checked_of_admits admitted]
      exact .found search admitted
  | none =>
    by_cases allowed : options.createDefault = true
    · simp only [if_pos allowed, checked_of_admits fun _ => Settings.validate_default]
      exact .defaults search allowed
    · simp only [if_neg allowed]
      exact .missing search (Bool.eq_false_iff.mpr allowed)

/-- How loading a file that is named ends. -/
inductive LoadsFrom (loader : Loader) (disk : Disk) (path : String) :
    Loader × Except Fault Settings → Prop where
  /-- The file is there and sound, and its settings are fit for use. -/
  | loaded {settings : Settings} (held : disk.holds path = true)
      (read : loadFile disk path (SettingsFormat.ofPath path) = .ok settings)
      (fit : settings.validate = .ok ()) :
      LoadsFrom loader disk path ({ loader with currentPath := some path }, .ok settings)
  /-- It is not, and nothing changes. -/
  | failed {fault : Fault} : LoadsFrom loader disk path (loader, .error fault)

/-- Loading a file that is named ends in one of these ways. -/
theorem loadFrom_cases (loader : Loader) (disk : Disk) (path : String) :
    LoadsFrom loader disk path (loader.loadFrom disk path) := by
  rw [loadFrom]
  by_cases held : disk.holds path = true
  · rw [if_pos held]
    cases read : loadFile disk path (SettingsFormat.ofPath path) with
    | error fault => exact .failed
    | ok settings =>
      cases fit : settings.validate with
      | error fault => simp only [fit]; exact .failed
      | ok accepted => simp only [fit]; exact .loaded held read fit
  · rw [if_neg held]
    exact .failed

/-- A file that is there with settings that are fit for use is loaded by its name. -/
theorem loadFrom_of_fit {library : Library} (loader : Loader) (held : disk.holds path = true)
    (loaded : loadFile disk path (SettingsFormat.ofPath path) library = .ok settings)
    (fit : settings.validate = .ok ()) :
    loader.loadFrom disk path library =
      ({ loader with currentPath := some path }, .ok settings) := by
  rw [loadFrom, if_pos held, loaded]
  simp only [fit]

/-- What a search finds at one of the files that it looks for. -/
def foundAt (disk : Disk) (candidate : String × SettingsFormat) : Option (String × Settings) :=
  if disk.holds candidate.1 then
    (loadFile disk candidate.1 candidate.2).toOption.map fun settings => (candidate.1, settings)
  else
    none

/-- A search gives the first that is found at one of its files. -/
theorem search_eq (loader : Loader) (disk : Disk) :
    loader.search disk = loader.candidates.findSome? (foundAt disk) :=
  rfl

/-- What a search finds are the settings of a candidate, which is there and can be read. -/
theorem of_search (search : loader.search disk = some (path, settings)) :
    ∃ format, (path, format) ∈ loader.candidates ∧ disk.holds path = true ∧
      loadFile disk path format = .ok settings := by
  obtain ⟨⟨found, format⟩, mem, matched⟩ := List.exists_of_findSome?_eq_some search
  dsimp only at matched
  split at matched
  next held =>
    obtain ⟨read, is_ok, same⟩ := Option.map_eq_some_iff.mp matched
    obtain ⟨rfl, rfl⟩ := Prod.mk.inj same
    refine ⟨format, mem, held, ?_⟩
    cases outcome : loadFile disk found format with
    | error fault =>
      rw [outcome] at is_ok
      cases is_ok
    | ok settings =>
      rw [outcome] at is_ok
      exact congrArg Except.ok (Option.some.inj is_ok)
  next => cases matched

end Loader

namespace Settings

/-- The settings for a run are fit for use, and there is a fault only where a file was named. -/
theorem init_cases (environment : Environment) (disk : Disk) (path : Option String) :
    match init environment disk path with
    | .ok settings => settings.validate = .ok ()
    | .error _ => (path.or environment.configFile).isSome = true := by
  rw [init]
  cases named : path.or environment.configFile with
  | some file =>
    dsimp only
    have loaded := Loader.loadFrom_cases (Loader.standard environment) disk file
    generalize (Loader.standard environment).loadFrom disk file = result at loaded
    cases loaded with
    | loaded held read fit => exact fit
    | failed => rfl
  | none =>
    -- nothing is named, so whatever fails the defaults stand in
    dsimp only
    have loaded := Loader.load_cases (Loader.standard environment) disk {}
    generalize (Loader.standard environment).load disk {} = result at loaded
    cases loaded with
    | found search admitted => exact admitted rfl
    | refused search needed unfit => exact validate_default
    | defaults nothing allowed => exact validate_default
    | missing nothing strict => exact validate_default

end Settings

end MonitorBench
