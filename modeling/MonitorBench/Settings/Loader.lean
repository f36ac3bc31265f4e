import MonitorBench.Disk.Directories
import MonitorBench.Settings.Document

/-!
# Finding, loading and saving settings

A loader looks along its search paths, in each path for a TOML file and then for a JSON
file, and takes the first file that can be read and parsed; files that cannot are passed
over. A file named outright has to be there and has to be sound. The loader remembers the
file that its settings came from. The standard search paths depend on what the program finds
around it; where it cannot tell its current directory or has no home directory, the paths in
them are left out.
-/

set_option autoImplicit false

namespace MonitorBench

/-- What a program finds around it when it is started. -/
structure Environment where
  /-- The variables by name, of which the first of a name counts. -/
  bindings : List (String × String)
  /-- The home directory of the account that the program runs for, if it has one. -/
  accountHome : Option String
  /-- The path of the current directory, if it can be told. -/
  currentDirectory : Option String

namespace Environment

/-- The value of a variable, if it is set. -/
def value? (environment : Environment) (name : String) : Option String :=
  environment.bindings.lookup name

/-- The home directory: the one that is named, or else that of the account. An empty path names
none. -/
def home (environment : Environment) : Option String :=
  let isNamed (path : String) : Bool := path != ""
  ((environment.value? "HOME").filter isNamed).or (environment.accountHome.filter isNamed)

/-- The directory of settings, if it is set. -/
def configHome (environment : Environment) : Option String :=
  environment.value? "XDG_CONFIG_HOME"

/-- The directory of settings: the one that is set if it is absolute, else one in the home directory,
if there is a home directory. -/
def configDirectory (environment : Environment) : Option String :=
  (environment.configHome.filter Path.isAbsolute).or
    (environment.home.map fun home => Path.join home ".config")

/-- The settings file, if one is named. -/
def configFile (environment : Environment) : Option String :=
  environment.value? "PATTERNBENCH_CONFIG"

end Environment

/-- Where settings are looked for, and where they came from. -/
structure Loader where
  /-- The paths to look along, without extension. -/
  searchPaths : List String
  /-- The file that the last settings came from. -/
  currentPath : Option String := none

/-- How settings are loaded. -/
structure LoadOptions where
  /-- Whether the default settings stand in for a file that is not found. -/
  createDefault : Bool := true
  /-- Whether settings have to be fit for use. -/
  validate : Bool := true

namespace Loader

/-- The place of the settings in a directory of settings. -/
def inDirectory (directory : String) : String :=
  Path.join (Path.join directory "patternbench") "config"

/-- The standard search paths: the current directory, the directory of settings, the one that is set
whatever it is, and the home directory, each if there is one. -/
def standardPaths (environment : Environment) : List String :=
  (environment.currentDirectory.map fun here => Path.join here "patternbench").toList
    ++ (environment.configDirectory.map inDirectory).toList
    ++ (environment.configHome.map inDirectory).toList
    ++ (environment.home.map fun home => Path.join home ".patternbench").toList

/-- A loader that looks along the standard paths. -/
def standard (environment : Environment) : Loader :=
  { searchPaths := standardPaths environment }

/-- Loads the settings file at a path in a format. -/
def loadFile (disk : Disk) (path : String) (format : SettingsFormat) (library : Library := .own) :
    Except Fault Settings :=
  match disk.readText path with
  | .error fault => .error (.settingsUnreadable path fault.message)
  | .ok text =>
    match Settings.parse format text library with
    | .error fault => .error (.settingsMalformed format.name fault.message)
    | .ok settings => .ok settings

/-- The file of a search path in a format. -/
def candidate (path : String) (format : SettingsFormat) : String :=
  path ++ "." ++ format.extension

/-- The files that are looked for, in order, each with its format. -/
def candidates (loader : Loader) : List (String × SettingsFormat) :=
  loader.searchPaths.flatMap fun path =>
    SettingsFormat.all.map fun format => (candidate path format, format)

/-- The first file that can be read and parsed, with its settings. -/
def search (loader : Loader) (disk : Disk) (library : Library := .own) :
    Option (String × Settings) :=
  loader.candidates.findSome? fun (path, format) =>
    if disk.holds path then
      (loadFile disk path format library).toOption.map fun settings => (path, settings)
    else
      none

/-- Settings that are fit for use, if they have to be. -/
def checked (options : LoadOptions) (settings : Settings) : Except Fault Settings :=
  if options.validate then
    settings.validate.map fun _ => settings
  else
    .ok settings

/-- Searches for settings and loads the first that are found. -/
def load (loader : Loader) (disk : Disk) (options : LoadOptions) (library : Library := .own) :
    Loader × Except Fault Settings :=
  match loader.search disk library with
  | some (path, settings) => ({ loader with currentPath := some path }, checked options settings)
  | none =>
    if options.createDefault then
      (loader, checked options {})
    else
      (loader, .error (.settingsMissing (loader.searchPaths.head?.getD ".")))

/-- Loads the settings file at a path, which has to be there. -/
def loadFrom (loader : Loader) (disk : Disk) (path : String) (library : Library := .own) :
    Loader × Except Fault Settings :=
  if disk.holds path then
    match loadFile disk path (SettingsFormat.ofPath path) library with
    | .error fault => (loader, .error fault)
    | .ok settings =>
      match settings.validate with
      | .error fault => (loader, .error fault)
      | .ok _ => ({ loader with currentPath := some path }, .ok settings)
  else
    (loader, .error (.settingsMissing path))

end Loader

namespace Settings

/-- Saves settings at a path, in the format that its extension tells; the directories above it are
made if they are missing. -/
def save (settings : Settings) (disk : Disk) (path : String) (library : Library := .own) :
    Disk × Except Fault Unit :=
  let made : Disk × Except FileFault Unit := match Path.parent? path with
    | some parent => if parent = "" then (disk, .ok ()) else disk.makeDirectories parent
    | none => (disk, .ok ())
  match made with
  | (ready, .error fault) => (ready, .error (.file fault))
  | (ready, .ok _) =>
    let text := settings.print (SettingsFormat.ofPath path) library
    match ready.write path (Text.bytes text) with
    | .error fault => (ready, .error (.file fault))
    | .ok after => (after, .ok ())

/-- The settings for a run: from the file that is named, else from the one that the environment names,
else from the standard paths, where the defaults stand in for a fault. -/
def init (environment : Environment) (disk : Disk) (path : Option String) : Except Fault Settings :=
  let loader := Loader.standard environment
  match path.or environment.configFile with
  | some named => (loader.loadFrom disk named).2
  | none =>
    match (loader.load disk {}).2 with
    | .ok settings => .ok settings
    | .error _ => .ok {}

end Settings

end MonitorBench
