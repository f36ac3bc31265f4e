import MonitorBench.Disk.Path
import MonitorBench.Fault
import MonitorBench.Text.Utf8

/-!
# A disk of files and directories

A disk holds files and directories at locations, which are lists of names from the root
down, and has a directory that relative paths start from. A path is located by walking
along its names; every place passed on the way has to be a directory, so a location that
the walk ends at either exists or has a directory above it. Only locations matter to the
operations below: two paths that lead to one location name the same file.

Of a real file system this leaves out whatever is neither a name nor a content. Files have no
owners and no permissions, so what stands at a location can be read and written; no name leads
on to another place, as a link would; names and paths are texts; and there is room for all
that is written, so a file that was opened for writing, as the statistics file is before each
row, also takes what is appended to it.
-/

set_option autoImplicit false

namespace MonitorBench

/-- A place on a disk, as the names from the root down. -/
abbrev Location := List String

/-- What stands at a location. -/
inductive Entry where
  | file (content : Bytes)
  | directory
  deriving DecidableEq

/-- Files and directories, with the directory that relative paths start from. -/
structure Disk where
  /-- What stands where; the root is a directory without being listed. -/
  entries : List (Location × Entry)
  /-- Where relative paths start. -/
  home : Location
  /-- The files that can be started as programs. -/
  programs : List Location := []

namespace Disk

/-- The path of a location. -/
def pathOf (location : Location) : String :=
  "/" ++ "/".intercalate location

/-- The path of the directory that relative paths start from. -/
def homePath (disk : Disk) : String :=
  pathOf disk.home

/-- What stands at a location. -/
def entry? (disk : Disk) : Location → Option Entry
  | [] => some .directory
  | location => disk.entries.lookup location

/-- Puts an entry in place of the one at its location, or at the end. -/
def putEntry (location : Location) (entry : Entry) :
    List (Location × Entry) → List (Location × Entry)
  | [] => [(location, entry)]
  | (place, old) :: rest =>
    if place = location then (place, entry) :: rest else (place, old) :: putEntry location entry rest

/-- The disk with an entry put at a location. -/
def put (disk : Disk) (location : Location) (entry : Entry) : Disk :=
  { disk with entries := putEntry location entry disk.entries }

/-- The disk without what stands at a location or below it. -/
def clear (disk : Disk) (location : Location) : Disk :=
  { disk with
    entries := disk.entries.filter fun (place, _) => !location.isPrefixOf place
    programs := disk.programs.filter fun place => !location.isPrefixOf place }

/-- The longest name, in bytes, that a directory can hold. -/
def nameLimit : Nat := 255

/-- The place that a name means at a location. -/
def next (location : Location) (name : String) : Except FileFault Location :=
  if name = "" ∨ name = "." then
    .ok location
  else if name = ".." then
    .ok location.dropLast
  else if nameLimit < name.utf8ByteSize then
    .error .nameTooLong
  else
    .ok (location ++ [name])

/-- Walks along names from a location. -/
def walk (disk : Disk) : Location → List String → Except FileFault Location
  | location, [] => .ok location
  | location, name :: names =>
    match disk.entry? location with
    | none => .error .notFound
    | some (.file _) => .error .notDirectory
    | some .directory =>
      match next location name with
      | .error fault => .error fault
      | .ok place => disk.walk place names

/-- The location that a path leads to from a base. -/
def locateFrom (disk : Disk) (base : Location) (path : String) : Except FileFault Location :=
  match Path.fault? path with
  | some fault => .error fault
  | none => disk.walk (if Path.isAbsolute path then [] else base) (Path.names path)

/-- The location that a path leads to. -/
def locate (disk : Disk) (path : String) : Except FileFault Location :=
  disk.locateFrom disk.home path

/-- What a path leads to. -/
def find? (disk : Disk) (path : String) : Option Entry :=
  match disk.locate path with
  | .ok location => disk.entry? location
  | .error _ => none

/-- Whether a path leads to a file or a directory. -/
def holds (disk : Disk) (path : String) : Bool :=
  (disk.find? path).isSome

/-- The content of the file that a path leads to. -/
def read (disk : Disk) (path : String) : Except FileFault Bytes :=
  match disk.locate path with
  | .error fault => .error fault
  | .ok location =>
    match disk.entry? location with
    | none => .error .notFound
    | some .directory => .error .isDirectory
    | some (.file content) => .ok content

/-- The text of the file that a path leads to. -/
def readText (disk : Disk) (path : String) : Except FileFault String :=
  match disk.read path with
  | .error fault => .error fault
  | .ok content =>
    match Text.ofBytes? content with
    | none => .error .notText
    | some text => .ok text

/-- The fault of opening a path that ends in a slash for writing: its last name stands for a
directory, whether there is one or not. -/
def slashFault (disk : Disk) (path : String) : FileFault :=
  match Path.fault? path with
  | some fault => fault
  | none =>
    match disk.walk (if Path.isAbsolute path then [] else disk.home)
        (Path.names (Path.withoutSlashes path)).dropLast with
    | .error fault => fault
    | .ok above =>
      match disk.entry? above with
      | none => .notFound
      | some (.file _) => .notDirectory
      | some .directory => .isDirectory

/-- The location and the content of a file that is opened for writing; a missing file is empty. -/
def openFile (disk : Disk) (path : String) : Except FileFault (Location × Bytes) :=
  if Path.endsInSlash path then
    .error (disk.slashFault path)
  else
    match disk.locate path with
    | .error fault => .error fault
    | .ok location =>
      match disk.entry? location with
      | none => .ok (location, [])
      | some .directory => .error .isDirectory
      | some (.file content) => .ok (location, content)

/-- Puts `content` into the file that a path leads to, in place of what it held. -/
def write (disk : Disk) (path : String) (content : Bytes) : Except FileFault Disk :=
  match disk.openFile path with
  | .error fault => .error fault
  | .ok (location, _) => .ok (disk.put location (.file content))

/-- Adds `content` at the end of the file that a path leads to. -/
def append (disk : Disk) (path : String) (content : Bytes) : Except FileFault Disk :=
  match disk.openFile path with
  | .error fault => .error fault
  | .ok (location, old) => .ok (disk.put location (.file (old ++ content)))

end Disk

end MonitorBench
