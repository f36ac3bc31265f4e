import MonitorBench.Device
import MonitorBench.Text.Decimal

/-!
# Progress reports

Before an item is started, a line tells how many items lie behind, whenever that number
is a positive multiple of the interval. An interval of zero counts as one.
-/

set_option autoImplicit false

namespace MonitorBench

/-- When progress is reported, and out of how many items. -/
structure ProgressPlan where
  /-- How many items lie between two reports. -/
  interval : UInt64
  /-- How many items there are. -/
  total : Nat

namespace ProgressPlan

/-- The interval that is used. -/
def stride (plan : ProgressPlan) : Nat :=
  max 1 plan.interval.toNat

/-- Whether a report comes before the item at an index. -/
def isDue (plan : ProgressPlan) (index : Nat) : Bool :=
  index != 0 && index % plan.stride == 0

/-- The report before the item at an index. -/
def report (plan : ProgressPlan) (index : Nat) : String :=
  "Progress: " ++ Text.natural index ++ "/" ++ Text.natural plan.total ++ ".\n"

/-- Reports what lies before the item at an index, if a report is due. -/
def beforeItem (plan : ProgressPlan) (out : Device) (index : Nat) : Device × Option FileFault :=
  if plan.isDue index then
    out.write (Text.bytes (plan.report index))
  else
    (out, none)

end ProgressPlan

end MonitorBench
