import MonitorBench.Disk.Basic

/-!
# Making directories

Directories are made along a path, one name after the other, so that afterwards the whole
path leads to a directory. A file on the way stands in the way; what was made before it
stays.
-/

set_option autoImplicit false

namespace MonitorBench.Disk

/-- The disk with a directory at a location where nothing stands. -/
def fill (disk : Disk) (location : Location) : Disk :=
  if (disk.entry? location).isNone then disk.put location .directory else disk

/-- Walks along names from a location and makes the directories that are missing. A file on the way
is no directory to go through; once a directory was made before it, the file is where the next one
has to be made, and it exists already. -/
def makeAlong : List String → Location → Bool → Disk → Disk × Except FileFault Unit
  | [], location, _, disk =>
    match disk.entry? location with
    | some (.file _) => (disk, .error .alreadyExists)
    | _ => (disk.fill location, .ok ())
  | name :: names, location, made, disk =>
    match disk.entry? location with
    | some (.file _) => (disk, .error (if made then .alreadyExists else .notDirectory))
    | entry =>
      match next location name with
      | .error fault => (disk.fill location, .error fault)
      | .ok place => makeAlong names place (made || entry.isNone) (disk.fill location)

/-- Makes a path lead to a directory. -/
def makeDirectories (disk : Disk) (path : String) : Disk × Except FileFault Unit :=
  match Path.fault? path with
  | some fault => (disk, .error fault)
  | none => makeAlong (Path.names path) (if Path.isAbsolute path then [] else disk.home) false disk

end MonitorBench.Disk
