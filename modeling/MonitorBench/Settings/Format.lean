import MonitorBench.Disk.Path
import MonitorBench.Document.Json.Printer
import MonitorBench.Document.Json.Reader
import MonitorBench.Document.Toml.Printer
import MonitorBench.Document.Toml.Reader

/-!
# Formats of settings files

Settings are stored as TOML or JSON. The extension of a path tells which; any extension
but that of JSON means TOML.
-/

set_option autoImplicit false

namespace MonitorBench

/-- The format of a settings file. -/
inductive SettingsFormat where
  | toml
  | json
  deriving DecidableEq

namespace SettingsFormat

/-- The formats in the order in which they are looked for. -/
def all : List SettingsFormat := [.toml, .json]

/-- The format that the extension of a path tells. -/
def ofPath (path : String) : SettingsFormat :=
  if Path.extension? path = some "json" then .json else .toml

/-- The extension of files in the format. -/
def extension : SettingsFormat → String
  | .toml => "toml"
  | .json => "json"

/-- The name of the format in messages. -/
def name : SettingsFormat → String
  | .toml => "TOML"
  | .json => "JSON"

/-- Reads a document. -/
def read : SettingsFormat → String → Except Document.Fault Document.Value
  | .toml => Document.Toml.read
  | .json => Document.Json.read

/-- Writes a document. -/
def print : SettingsFormat → Document.Value → String
  | .toml => Document.Toml.print
  | .json => Document.Json.pretty

end SettingsFormat

/-- How documents are read and written, in each format. -/
structure Library where
  read : SettingsFormat → String → Except Document.Fault Document.Value
  print : SettingsFormat → Document.Value → String

/-- The readers and printers that the program runs with. -/
def Library.own : Library where
  read := SettingsFormat.read
  print := SettingsFormat.print

end MonitorBench
