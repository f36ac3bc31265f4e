import MonitorBench.Disk.Basic
import MonitorBench.Tool.Settings

/-!
# The command that starts the tool

The tool gets its fixed arguments, then the statistics file after `-s`, the analysis mode
and the formula. The command can be rendered as a line for a shell: an argument of plain
characters stands as it is, any other is put in single quotes, and a quote inside it
leaves the quotes, is escaped, and enters them again. The formula is always quoted.
-/

set_option autoImplicit false

namespace MonitorBench

/-- What starts the tool, but for the formula and the statistics file. -/
structure Command where
  /-- The program to start. -/
  program : String
  /-- The arguments that come first. -/
  args : List String
  /-- The analysis mode. -/
  mode : AnalysisMode
  /-- The directory to start it in; if there is none, the current one. -/
  workingDirectory : Option String
  deriving DecidableEq

namespace Command

/-- The command that the settings describe. -/
def ofSettings (settings : ToolSettings) : Command :=
  { program := settings.program
    args := settings.args
    mode := settings.mode
    workingDirectory := settings.workingDirectory }

/-- All arguments for a formula. -/
def arguments (command : Command) (formula statistics : String) : List String :=
  command.args ++ ["-s", statistics, Keyword.name command.mode, formula]

/-- The characters that stand for a character between single quotes. -/
def quoteChar (c : Char) : List Char :=
  if c = '\'' then ['\'', '\\', '\'', '\''] else [c]

/-- A text in single quotes. -/
def quote (word : String) : String :=
  String.ofList ('\'' :: word.toList.flatMap quoteChar ++ ['\''])

/-- Whether a character means itself to a shell. -/
def isPlain (c : Char) : Bool :=
  c.isAlphanum || "-_./:=@%+,".toList.contains c

/-- A word for a shell, in quotes unless all its characters are plain. -/
def shellWord (word : String) : String :=
  if word ≠ "" ∧ word.toList.all isPlain then word else quote word

/-- The command as a line for a shell, its output discarded. -/
def render (command : Command) (formula statistics : String) : String :=
  " ".intercalate
      ([command.program] ++ command.args.map shellWord
        ++ ["-s", shellWord statistics, Keyword.name command.mode, quote formula])
    ++ " > /dev/null"

/-- The directory that the command starts in. -/
def startDirectory (command : Command) (disk : Disk) : Except FileFault Location :=
  match command.workingDirectory with
  | none => .ok disk.home
  | some path => disk.locate path

end Command

end MonitorBench
