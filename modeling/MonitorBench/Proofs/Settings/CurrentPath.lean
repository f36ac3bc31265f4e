import Mathlib.Data.List.Induction
import MonitorBench.Proofs.Settings.Loading

/-!
# The file that a loader remembers

A loader is called again and again, while the files change. What it remembers after any calls is
the file that was last taken, by a search that found it or by name (`after_eq`). A search
takes the file that it finds before it knows whether the settings are fit for use, and a search
that finds none keeps what was remembered even if the defaults stand in. These are the only calls
after which a loader does not tell where the settings came from (`truthful_iff`): after refused
settings it can name the file that they stand in, and with the defaults it can name a file.
-/

set_option autoImplicit false

namespace MonitorBench.Loader

/-- A call of a loader. -/
inductive Call where
  /-- Searches for settings. -/
  | search (options : LoadOptions)
  /-- Loads the file at a path. -/
  | named (path : String)

/-- What a call leaves and gives. -/
def call (loader : Loader) (disk : Disk) : Call → Loader × Except Fault Settings
  | .search options => loader.load disk options
  | .named path => loader.loadFrom disk path

/-- The loader after calls, each on the disk as it is then. -/
def after (loader : Loader) (calls : List (Disk × Call)) : Loader :=
  calls.foldl (fun current (disk, call) => (current.call disk call).1) loader

/-- The file that a call reads settings from; there is none where the defaults stand in. -/
def origin? (loader : Loader) (disk : Disk) : Call → Option String
  | .search _ => (loader.search disk).map Prod.fst
  | .named path => some path

/-- A call is truthful if the loader names the file that the settings came from when there are
settings, and the same file as before when there is a fault. -/
def Truthful (loader : Loader) (disk : Disk) (call : Call) : Prop :=
  match loader.call disk call with
  | (later, .ok _) => later.currentPath = loader.origin? disk call
  | (later, .error _) => later.currentPath = loader.currentPath

/-- The file that a call takes: a search takes the one that it finds, whether its settings are given
or refused, and a file that is named is taken if its settings are given. -/
def takes? (loader : Loader) (disk : Disk) : Call → Option String
  | .search _ => (loader.search disk).map Prod.fst
  | .named path => if (loader.loadFrom disk path).2.toOption.isSome then some path else none

/-- A call misleads if it refuses the settings in a file that the loader did not name before, or if
the defaults stand in while the loader names a file. -/
inductive Misleads (loader : Loader) (disk : Disk) : Call → Prop where
  | refused {options : LoadOptions} {path : String} {settings : Settings} {fault : Fault}
      (search : loader.search disk = some (path, settings)) (needed : options.validate = true)
      (unfit : settings.validate = .error fault) (renamed : loader.currentPath ≠ some path) :
      Misleads loader disk (.search options)
  | defaults {options : LoadOptions} (nothing : loader.search disk = none)
      (allowed : options.createDefault = true) (names : loader.currentPath ≠ none) :
      Misleads loader disk (.search options)

section Misleads

variable {loader : Loader} {disk : Disk} {options : LoadOptions}

/-- A search that finds a file misleads exactly when it refuses the settings in it and the loader
named another file, or none. -/
theorem misleads_of_found {path : String} {settings : Settings}
    (search : loader.search disk = some (path, settings)) :
    loader.Misleads disk (.search options) ↔
      options.validate = true ∧ settings.validate ≠ .ok () ∧ loader.currentPath ≠ some path := by
  constructor
  · intro misled
    cases misled with
    | refused other needed unfit renamed =>
      obtain ⟨rfl, rfl⟩ := Prod.mk.inj (Option.some.inj (search.symm.trans other))
      exact ⟨needed, by simp [unfit], renamed⟩
    | defaults nothing =>
      rw [search] at nothing
      cases nothing
  · rintro ⟨needed, not_fit, renamed⟩
    cases verdict : settings.validate with
    | error fault => exact .refused search needed verdict renamed
    | ok accepted => exact absurd verdict not_fit

/-- A search that finds no file misleads exactly when the defaults stand in and the loader names a
file. -/
theorem misleads_of_none (nothing : loader.search disk = none) :
    loader.Misleads disk (.search options) ↔
      options.createDefault = true ∧ loader.currentPath ≠ none := by
  constructor
  · intro misled
    cases misled with
    | refused search =>
      rw [nothing] at search
      cases search
    | defaults _ allowed names => exact ⟨allowed, names⟩
  · rintro ⟨allowed, names⟩
    exact .defaults nothing allowed names

end Misleads

section Call

variable (loader : Loader) (disk : Disk)

/-- Settings come from the file that is their origin, and are the defaults if there is none. -/
theorem origin_of_call {call : Call} {settings : Settings}
    (given : (loader.call disk call).2 = .ok settings) :
    match loader.origin? disk call with
    | some path => ∃ format, loadFile disk path format = .ok settings
    | none => settings = {} := by
  cases call with
  | named path =>
    have ended := loadFrom_cases loader disk path
    rw [call] at given
    rcases result : loader.loadFrom disk path with ⟨later, outcome⟩
    rw [result] at ended given
    cases ended with
    | loaded held read fit =>
      cases given
      exact ⟨_, read⟩
    | failed => cases given
  | search options =>
    have ended := load_cases loader disk options
    rw [call] at given
    rcases result : loader.load disk options with ⟨later, outcome⟩
    rw [result] at ended given
    cases ended with
    | found search admitted =>
      cases given
      obtain ⟨format, -, -, read⟩ := of_search search
      rw [origin?, search]
      exact ⟨format, read⟩
    | refused search needed unfit => cases given
    | defaults nothing allowed =>
      cases given
      rw [origin?, nothing]
      rfl
    | missing nothing strict => cases given

/-- After a call a loader names the file that the call took, and otherwise the one from before. -/
theorem currentPath_call (call : Call) :
    (loader.call disk call).1 =
      { loader with currentPath := (loader.takes? disk call).or loader.currentPath } := by
  cases call with
  | named path =>
    have ended := loadFrom_cases loader disk path
    rw [Loader.call, takes?]
    generalize loader.loadFrom disk path = result at ended
    cases ended with
    | loaded held read fit => rfl
    | failed => rfl
  | search options =>
    have ended := load_cases loader disk options
    rw [Loader.call, takes?]
    generalize loader.load disk options = result at ended
    cases ended with
    | found search admitted => rw [search]; rfl
    | refused search needed unfit => rw [search]; rfl
    | defaults nothing allowed => rw [nothing]; rfl
    | missing nothing strict => rw [nothing]; rfl

/-- A call is truthful exactly when it does not mislead. -/
theorem truthful_iff (call : Call) :
    loader.Truthful disk call ↔ ¬ loader.Misleads disk call := by
  cases call with
  | named path =>
    have ended := loadFrom_cases loader disk path
    rw [Truthful, Loader.call]
    generalize loader.loadFrom disk path = result at ended
    refine iff_of_true ?_ fun misled => nomatch misled
    cases ended with
    | loaded held read fit => rfl
    | failed => rfl
  | search options =>
    have ended := load_cases loader disk options
    rw [Truthful, Loader.call]
    generalize loader.load disk options = result at ended
    cases ended with
    | found search admitted =>
      rw [misleads_of_found search, origin?, search]
      exact iff_of_true rfl fun ⟨needed, not_fit, _⟩ => not_fit (admitted needed)
    | @refused path settings fault search needed unfit =>
      have not_fit : settings.validate ≠ .ok () := by simp [unfit]
      rw [misleads_of_found search]
      simp only [needed, not_fit, ne_eq, not_false_eq_true, true_and, not_not, eq_comm]
    | defaults nothing allowed =>
      rw [misleads_of_none nothing, origin?, nothing]
      simp only [allowed, ne_eq, true_and, not_not, Option.map_none]
    | missing nothing strict =>
      rw [misleads_of_none nothing]
      exact iff_of_true rfl fun ⟨allowed, _⟩ => absurd allowed (by simp [strict])

/-- What a call takes does not hang on what the loader remembers. -/
theorem takes?_renamed (path : Option String) (call : Call) :
    Loader.takes? { loader with currentPath := path } disk call = loader.takes? disk call := by
  cases call with
  | search options => rfl
  | named file =>
    have same : (Loader.loadFrom { loader with currentPath := path } disk file).2 =
        (loader.loadFrom disk file).2 := by
      simp only [loadFrom]
      split
      · cases loadFile disk file (SettingsFormat.ofPath file) with
        | error fault => rfl
        | ok settings => cases verdict : settings.validate <;> simp only [verdict]
      · rfl
    rw [takes?, takes?, same]

end Call

/-- After any calls a loader looks along the same paths, and names the file that was taken last. -/
theorem after_eq (loader : Loader) (calls : List (Disk × Call)) :
    loader.after calls =
      { loader with
        currentPath := (calls.filterMap fun (disk, call) => loader.takes? disk call).getLast?.or
          loader.currentPath } := by
  -- from the back, for the last file that was taken is the one that counts
  induction calls using List.reverseRecOn with
  | nil => rfl
  | append_singleton calls last ih =>
    obtain ⟨disk, call⟩ := last
    rw [after, List.foldl_append, List.foldl_cons, List.foldl_nil, ← after, ih]
    dsimp only
    rw [currentPath_call, takes?_renamed, List.filterMap_append]
    cases taken : loader.takes? disk call with
    | none => simp [taken]
    | some path => simp [taken]

/-- In every history of calls, with whatever changes of the files between them, a loader names the
file that was taken last; settings come from the origin that the call has; and a call is truthful
unless it is a search that refuses the settings in a file other than the one named before, or one
that falls back on the defaults while a file is named. -/
theorem currentPath_in_history (loader : Loader) (past : List (Disk × Call)) (disk : Disk)
    (call : Call) :
    let current := loader.after past
    current.currentPath =
        (past.filterMap fun (disk, call) => loader.takes? disk call).getLast?.or
          loader.currentPath ∧
      (match (current.call disk call).2, current.origin? disk call with
        | .ok settings, some path => ∃ format, loadFile disk path format = .ok settings
        | .ok settings, none => settings = {}
        | .error _, _ => True) ∧
      (current.Truthful disk call ↔ ¬ current.Misleads disk call) := by
  intro current
  refine ⟨by simp only [current, after_eq], ?_, current.truthful_iff disk call⟩
  cases given : (current.call disk call).2 with
  | error fault => trivial
  | ok settings =>
    have source := current.origin_of_call disk given
    cases origin : current.origin? disk call with
    | none =>
      rw [origin] at source
      exact source
    | some path =>
      rw [origin] at source
      exact source

/-- Settings with a progress interval of zero are refused, and still their file is remembered; and
when the file is gone and the defaults stand in, it is remembered too. -/
theorem currentPath_not_truthful :
    ¬ Truthful { searchPaths := ["bench"] }
        ⟨[(["bench.toml"], .file (Text.bytes "[driver]\nprogress_interval = 0\n"))], [], []⟩
        (.search {}) ∧
      ¬ Truthful
        (after { searchPaths := ["bench"] }
          [(⟨[(["bench.toml"], .file (Text.bytes "[driver]\nresume = true\n"))], [], []⟩,
            .search {})])
        ⟨[], [], []⟩ (.search {}) := by
  rw [truthful_iff, truthful_iff, not_not, not_not]
  constructor
  · have found : Loader.search { searchPaths := ["bench"] }
        ⟨[(["bench.toml"], .file (Text.bytes "[driver]\nprogress_interval = 0\n"))], [], []⟩ =
        some ("bench.toml", { batch := { progressInterval := 0 } }) := by decide +kernel
    have unfit : Settings.validate { batch := { progressInterval := 0 } } =
        .error Settings.Flaw.zeroInterval.fault := by decide +kernel
    exact .refused found rfl unfit (by decide)
  · have remembered : (after { searchPaths := ["bench"] }
          [(⟨[(["bench.toml"], .file (Text.bytes "[driver]\nresume = true\n"))], [], []⟩,
            .search {})]).currentPath = some "bench.toml" := by decide +kernel
    refine .defaults ?_ rfl ?_
    · rw [after_eq]
      decide +kernel
    · rw [remembered]
      exact Option.some_ne_none _

end MonitorBench.Loader
