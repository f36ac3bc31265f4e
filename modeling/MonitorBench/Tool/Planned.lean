import MonitorBench.Tool.Basic

/-!
# A tool that follows a plan

A planned tool does what its plan says: an action laid down for the formula, else the next
action of a script, else a last resort. An action refuses to start, or appends a text to
the statistics file and ends with a status.
-/

set_option autoImplicit false

namespace MonitorBench

/-- What a planned tool does when it is started. -/
inductive PlannedAction where
  /-- It does not start, and tells its name and why. -/
  | refuse (program reason : String)
  /-- It appends a text to the statistics file and ends. -/
  | append (text : String) (status : ExitStatus)

/-- The actions of a planned tool. -/
structure ToolPlan where
  /-- Actions by formula. -/
  byFormula : List (String × PlannedAction) := []
  /-- What it does when nothing else is laid down. -/
  otherwise : PlannedAction := .append "" (.exited 0)

namespace ToolPlan

/-- The action for a formula, and what is left of the script. -/
def choose (plan : ToolPlan) (formula : String) (script : List PlannedAction) :
    PlannedAction × List PlannedAction :=
  match plan.byFormula.lookup formula, script with
  | some action, _ => (action, script)
  | none, action :: rest => (action, rest)
  | none, [] => (plan.otherwise, [])

/-- Carries out an action. -/
def carryOut (action : PlannedAction) (script : List PlannedAction) (disk : Disk)
    (statistics : String) : Launch (List PlannedAction) :=
  match action with
  | .refuse program reason => .failed program reason
  | .append text status =>
    match disk.append statistics (Text.bytes text) with
    | .ok after => .ended status script after
    | .error _ => .ended status script disk

/-- The tool that follows the plan; its state is the script that is left. -/
def tool (plan : ToolPlan) : Tool (List PlannedAction) where
  start script disk formula statistics :=
    let (action, rest) := plan.choose formula script
    carryOut action rest disk statistics

end ToolPlan

end MonitorBench
