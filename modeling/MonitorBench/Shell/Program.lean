import MonitorBench.Shell.Awk.Run
import MonitorBench.Shell.Edit.Run
import MonitorBench.Shell.Startup
import MonitorBench.Shell.Utility.Characters
import MonitorBench.Shell.Utility.Columns
import MonitorBench.Shell.Utility.Compare
import MonitorBench.Shell.Utility.Find
import MonitorBench.Shell.Utility.Grep
import MonitorBench.Shell.Utility.Launch
import MonitorBench.Shell.Utility.Listing
import MonitorBench.Shell.Utility.Order
import MonitorBench.Shell.Utility.Transfer
import MonitorBench.Shell.Utility.Values

/-!
# Programs by their names

The utilities stand in the directories of programs. A name without a slash is looked for in
the directories that a variable lists; a path is taken as it is. A file that was made a
program is a script: its first line may name the program that runs it.
-/

set_option autoImplicit false

namespace MonitorBench.Shell

/-- The utilities with their names. -/
def utilities : List (String × Utility) :=
  [("[", plainTest "["), ("awk", Awk.utility "awk"), ("basename", basename), ("cat", cat), ("chmod", chmod), ("cmp", cmp), ("comm", comm), ("cp", cp),
   ("cut", cut), ("dash", shell), ("diff", diff), ("dir", dir), ("dirname", dirname), ("du", du), ("echo", plainEcho),
   ("egrep", egrep), ("env", env), ("expand", expand), ("expr", expr), ("false", failing), ("fgrep", fgrep),
   ("find", find), ("fold", fold), ("grep", grep), ("head", head), ("join", join), ("link", link), ("ln", ln),
   ("ls", ls), ("mawk", Awk.utility "mawk"), ("mkdir", mkdir), ("mktemp", mktemp), ("mv", mv), ("nawk", Awk.utility "nawk"), ("nl", nl), ("od", od), ("paste", paste),
   ("printenv", printenv), ("printf", plainPrintf), ("pwd", plainPwd), ("readlink", readlink),
   ("realpath", realpath), ("rev", rev), ("rm", rm), ("rmdir", rmdir), ("sed", sed), ("seq", seq),
   ("sh", shell), ("sleep", sleep), ("sort", sort), ("stat", stat), ("tac", tac), ("tail", tail), ("tee", tee),
   ("test", plainTest "test"), ("touch", touch), ("tr", tr), ("true", succeed), ("truncate", truncate),
   ("tsort", tsort), ("unexpand", unexpand), ("uniq", uniq), ("unlink", unlink), ("wc", wc), ("xargs", xargs)]

/-- The directories that hold the utilities. -/
def utilityPlaces : List Location :=
  [["bin"], ["usr", "bin"]]

/-- Why a file that is there cannot be started. -/
def notPermitted : FileFault := .other "Permission denied"

/-- The program that a script in a file is. -/
def scriptProgram (path : Letters) (content : Letters) : Utility := fun runner arguments => do
  match content with
  | '#' :: '!' :: rest =>
    let line := rest.takeWhile (· != '\n')
    let words := (Text.splitOn ' ' line).filter (· != [])
    match ← runner.program (words ++ path :: arguments) with
    | .ok run => run
    | .error fault =>
      complain (path ++ letters ": " ++ letters (reasonOr "not found" fault))
      return if fault = .notFound then 127 else 126
  | _ => shell runner (path :: arguments)

/-- The program at a path. -/
def programAt (path : Letters) : Run (Except FileFault Utility) := do
  let session ← get
  let disk := session.system.disk
  let aimed ← aim path
  let names := (Path.names aimed).filter (· != "")
  let utility? : Option Utility :=
    if Path.isAbsolute aimed ∧ utilityPlaces.contains names.dropLast then
      names.getLast?.bind fun name => List.lookup name utilities
    else none
  match utility? with
  | some utility => return .ok utility
  | none =>
    match disk.locate aimed with
    | .error fault => return .error fault
    | .ok place =>
      match disk.entry? place with
      | none => return .error .notFound
      | some .directory => return .error notPermitted
      | some (.file content) =>
        if disk.programs.contains place then return .ok (scriptProgram path (lettersOf content))
        else return .error notPermitted

/-- The directories in which programs are looked for. -/
def Process.searchPlaces (process : Process) : List Letters :=
  Text.splitOn ':' (process.value "PATH")

/-- The path of a program that a name finds, and the program. What is found first and can be started
counts. -/
def findProgram (name : Letters) : Run (Except FileFault (Letters × Utility)) := do
  if name.contains '/' then
    return (← programAt name).map fun program => (name, program)
  let look (found : Except FileFault (Letters × Utility)) (directory : Letters) :
      Run (Except FileFault (Letters × Utility)) := do
    match found with
    | .ok program => return .ok program
    | .error fault =>
      let path := if directory = [] then name else directory ++ '/' :: name
      match ← programAt path with
      | .ok program => return .ok (path, program)
      | .error other =>
        let isDirectory := (← disk).find? (← aim path) = some .directory
        let refused := fault = notPermitted || (other = notPermitted && !isDirectory)
        return .error (if refused then notPermitted else .notFound)
  (← process).searchPlaces.foldlM look (.error .notFound)

/-- The program that the first of some words names, ready to run with the others as arguments. -/
def programOf (runner : Runner) (words : List Letters) : Run (Except FileFault (Run Nat)) := do
  match words with
  | [] => return .error .notFound
  | name :: arguments =>
    return (← findProgram name).map fun (_, program) => program runner arguments

end MonitorBench.Shell
