import MonitorBench.CommandLine.Execution
import MonitorBench.Disk.Changes
import MonitorBench.Disk.Standard
import MonitorBench.Tool.Program

/-!
# The program

The files that the arguments can touch are read into a disk, the arguments are answered on
it, and what changed is written back. The programs that a tool can be are those of
`Program`; they see the files that were read.
-/

set_option autoImplicit false

namespace MonitorBench

/-- The number of the fault of reading a directory as a file. -/
def directoryFault : UInt32 := 21

/-- The disk with what really stands at a location put on it. -/
def lookAt (disk : Disk) (location : Location) : IO Disk := do
  if location.isEmpty then
    return disk
  try
    let content ← IO.FS.readBinFile (Disk.pathOf location)
    return disk.put location (.file content.toList)
  catch
    | .inappropriateType _ fault _ =>
      return if fault = directoryFault then disk.put location .directory else disk
    | _ => return disk

/-- The disk with everything that stands along paths put on it. -/
def lookAlong (disk : Disk) (paths : List String) : IO Disk :=
  (paths.flatMap disk.passedBy).foldlM lookAt disk

/-- Makes a change to the real files. -/
def make : Change → IO Unit
  | .put location .directory => IO.FS.createDirAll (Disk.pathOf location)
  | .put location (.file content) =>
    IO.FS.writeBinFile (Disk.pathOf location) (ByteArray.mk content.toArray)
  | .remove location => IO.FS.removeFile (Disk.pathOf location)

/-- The variables of the environment that the program or a script can ask for. -/
def variableNames : List String :=
  ["HOME", "XDG_CONFIG_HOME", "PATTERNBENCH_CONFIG", "PATH"]

/-- The home directory that a list of accounts gives the one with a number, if it is there. -/
def homeIn? (accounts number : String) : Option String :=
  (Text.lines accounts).findSome? fun account =>
    match account.splitOn ":" with
    | [_, _, found, _, _, home, _] => if found = number then some home else none
    | _ => none

/-- The number of the account that a process runs for, from what the system tells of the process. -/
def accountIn? (status : String) : Option String :=
  (Text.lines status).findSome? fun line =>
    match line.splitOn "\t" with
    | "Uid:" :: number :: _ => some number
    | _ => none

/-- What a reading gives, if it succeeds. -/
def whatReads {α : Type} (reading : IO α) : IO (Option α) := do
  try
    return some (← reading)
  catch _ =>
    return none

/-- The home directory of the account that the program runs for, where the accounts are listed. -/
def readAccountHome : IO (Option String) := do
  let status ← whatReads (IO.FS.readFile "/proc/self/status")
  let accounts ← whatReads (IO.FS.readFile "/etc/passwd")
  return do homeIn? (← accounts) (← accountIn? (← status))

/-- The environment of the program. -/
def readEnvironment : IO Environment := do
  let bindings ← variableNames.filterMapM fun name => do
    return (← IO.getEnv name).map fun value => (name, value)
  let here ← whatReads IO.currentDir
  return {
    bindings
    accountHome := ← readAccountHome
    currentDirectory := here.map toString }

/-- The disk on which arguments are answered. -/
def readDisk (environment : Environment) (arguments : List String) : IO Disk := do
  let here := environment.currentDirectory.getD "/"
  let home := (Path.names here).filter (· != "")
  let bare := Disk.standard home
  match CommandLine.read arguments with
  | .error _ => return bare
  | .ok request =>
    let disk ← lookAlong bare ("." :: request.paths environment)
    match request.settings environment disk with
    | .error _ => return disk
    | .ok settings => lookAlong disk settings.tool.workingDirectory.toList

end MonitorBench

open MonitorBench in
/-- Answers the arguments that the program is started with. -/
def main (arguments : List String) : IO UInt32 := do
  let environment ← readEnvironment
  let disk ← readDisk environment arguments
  let machine (settings : ToolSettings) := (Command.ofSettings settings).tool environment.bindings
  let report := respond machine () environment disk arguments
  for change in disk.changes report.disk do
    make change
  (← IO.getStdout).write (ByteArray.mk report.output.toArray)
  match report.errors with
  | some message => IO.eprintln message
  | none => pure ()
  return UInt32.ofNat report.exitCode
