import MonitorBench.Disk.Basic

/-!
# The tool as the bench sees it

The bench starts the tool with a formula and the path of the statistics file and waits for
it. Either the tool does not start, or it ends with a status and has changed its own state
and the disk.
-/

set_option autoImplicit false

namespace MonitorBench

/-- How the tool ended. -/
inductive ExitStatus where
  /-- It exited with a code. -/
  | exited (code : Int)
  /-- A signal ended it. -/
  | killed
  deriving DecidableEq

namespace ExitStatus

/-- The exit code, if there is one. -/
def code : ExitStatus → Option Int
  | .exited code => some code
  | .killed => none

/-- Whether the tool exited with zero. -/
def isSuccess (status : ExitStatus) : Bool :=
  status.code == some 0

end ExitStatus

/-- What comes of starting the tool. -/
inductive Launch (σ : Type) where
  /-- The program did not start. -/
  | failed (program reason : String)
  /-- It ran and left a state and a disk. -/
  | ended (status : ExitStatus) (state : σ) (disk : Disk)

/-- A tool with a state of its own. -/
structure Tool (σ : Type) where
  /-- Starts the tool on a formula, with the path of the statistics file. -/
  start : (state : σ) → (disk : Disk) → (formula statistics : String) → Launch σ

end MonitorBench
