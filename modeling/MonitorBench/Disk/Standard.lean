import MonitorBench.Disk.Basic

/-!
# What stands on every disk

Programs count on a few directories and on devices, which are listed as files that hold
nothing. Everything else stands below directories that somebody made.
-/

set_option autoImplicit false

namespace MonitorBench.Disk

/-- The directories that every disk has; one that another stands in comes first. -/
def standardDirectories : List Location :=
  [["bin"], ["dev"], ["etc"], ["home"], ["root"], ["sbin"], ["tmp"], ["usr"], ["usr", "bin"],
   ["usr", "lib"], ["usr", "local"], ["usr", "local", "bin"], ["usr", "sbin"], ["var"],
   ["var", "tmp"]]

/-- The devices that are no files but can be used like them. -/
def devices : List Location :=
  [["dev", "null"], ["dev", "full"], ["dev", "zero"], ["dev", "tty"]]

/-- A disk with nothing on it but what stands on every disk. -/
def standard (home : Location) : Disk where
  entries := standardDirectories.map (·, .directory) ++ devices.map (·, .file [])
  home := home

end MonitorBench.Disk
