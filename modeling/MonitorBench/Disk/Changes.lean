import MonitorBench.Disk.Basic

/-!
# What changed between two disks

To bring one disk to the state of another, what is no longer there is removed, and what is
new or has another content is put, in the order in which the second disk lists it. A
directory is listed before what stands in it, so the changes can be made one by one.
-/

set_option autoImplicit false

namespace MonitorBench

/-- A step from one disk to another. -/
inductive Change where
  | remove (location : Location)
  | put (location : Location) (entry : Entry)
  deriving DecidableEq

namespace Disk

/-- The steps from one disk to another. -/
def changes (before after : Disk) : List Change :=
  let gone := before.entries.filterMap fun (place, _) =>
    if (after.entry? place).isNone then some (Change.remove place) else none
  let put := after.entries.filterMap fun (place, entry) =>
    if before.entry? place = some entry then none else some (Change.put place entry)
  gone ++ put

/-- The places that a path passes from a location on, the last one included. -/
def passed : Location → List String → List Location
  | location, [] => [location]
  | location, name :: names =>
    match next location name with
    | .ok place => location :: passed place names
    | .error _ => [location]

/-- The places that a path passes. -/
def passedBy (disk : Disk) (path : String) : List Location :=
  passed (if Path.isAbsolute path then [] else disk.home) (Path.names path)

end Disk

end MonitorBench
