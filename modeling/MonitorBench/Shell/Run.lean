import MonitorBench.Shell.Interpreter
import MonitorBench.Tool.Basic

/-!
# Running a shell

A shell is started with arguments and variables on a disk, where it stands at the home of
the disk. It reads nothing, and what it prints to no file is lost. The commands that it
leaves in the background run to their end.
-/

set_option autoImplicit false

namespace MonitorBench.Shell

/-- How deep commands may lie in each other. -/
def depthLimit : Nat := 20000

/-- The session in which a shell starts. -/
def startSession (disk : Disk) (bindings : List (String × String)) : Session :=
  { system := { disk, streams := [.null], nextProcess := 3 }
    process :=
      { number := 2, first := 2, parent := 1, name := letters "sh", arguments := []
        channels := [(input, 0), (output, 0), (errors, 0)]
        bindings := bindings.map fun (name, value) =>
          (letters name, { value := some (letters value), exported := true }) } }

/-- What a shell does with arguments, up to its end. -/
def runToEnd (runner : Runner) (arguments : List Letters) : Run (Except Flow Nat) := do
  let ended ← attempt do
    let status ← shell runner arguments
    deliver runner
    return status
  let ended ← runExitTrap runner ended
  let _ ← attempt (Builtin.finishJobs runner ((← get).system.jobs.map Prod.fst))
  return ended

/-- Runs a shell with arguments, and tells how it ended and what it left. -/
def runShell (disk : Disk) (bindings : List (String × String)) (arguments : List String) :
    ExitStatus × Disk :=
  let (result, session) := runToEnd (runner depthLimit) (arguments.map letters) (startSession disk bindings)
  let status : ExitStatus := match result with
    | .ok (.error (.killed _)) => .killed
    | .ok ended => .exited (endStatus ended)
    | .error _ => .exited 2
  (status, { session.system.settled with home := disk.home })

end MonitorBench.Shell
