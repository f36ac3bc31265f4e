import MonitorBench.Shell.System

/-!
# Links

A name on the disk can stand for what another path leads to, or be a second name of a file.
Most of what is done with a path goes through such links; what is done with the name itself,
such as removing it, does not. A file that loses its name lives on under another name, or
namelessly as long as it is open.
-/

set_option autoImplicit false

namespace MonitorBench.Shell

namespace System

/-- How many links a path may pass. -/
def linkLimit : Nat := 40

/-- The location that names lead to from another one through links, at most `passes` of them, with the
names that are left over because something stands in the way; `through` tells whether what the last
name stands for is meant. -/
def trace (system : System) (through : Bool) :
    (passes : Nat) → Location → List String → Option (Location × List String)
  | _, place, [] => some (place, [])
  | passes, place, name :: names =>
    if system.disk.entry? place ≠ some .directory then
      some (place, name :: names)
    else
      match Disk.next place name with
      | .error _ => some (place, name :: names)
      | .ok inner =>
        match if through || !names.isEmpty then system.links.lookup inner else none, passes with
        | none, passes => system.trace through passes inner names
        | some (.hard other), passes => system.trace through passes other names
        | some (.soft _), 0 => none
        | some (.soft path), passes + 1 =>
          let text := spelled path
          system.trace through passes (if Path.isAbsolute text then [] else inner.dropLast)
            (Path.names text ++ names)
termination_by passes _ names => (passes, names.length)

/-- A path that leads without links to where a path leads; nothing if it leads in circles. -/
def aim (system : System) (through : Bool) (path : String) : String :=
  if system.links.isEmpty ∨ (Path.fault? path).isSome then
    path
  else
    match system.trace through linkLimit (if Path.isAbsolute path then [] else system.disk.home) (Path.names path) with
    | none => ""
    | some (place, left) =>
      let reached := left.foldl (fun text name => text ++ "/" ++ name) (if place = [] then "" else Disk.pathOf place)
      if reached = "" ∨ (Path.endsInSlash path ∧ !Path.endsInSlash reached) then reached ++ "/" else reached

/-- The location where the file is kept that has a name at a location. -/
def primary (system : System) (place : Location) : Location :=
  match system.links.lookup place with
  | some (.hard other) => other
  | _ => place

/-- What stands at a location; a file can be kept at another one. -/
def entryAt? (system : System) (place : Location) : Option Entry :=
  system.disk.entry? (system.primary place)

/-- The path that a name stands for. -/
def softLink? (system : System) (place : Location) : Option Letters :=
  match system.links.lookup place with
  | some (.soft path) => some path
  | _ => none

/-- A system in which whoever has the file at a location open finds it at another one. -/
def followFile (system : System) (place other : Location) : System :=
  { system with
    streams := system.streams.map fun stream =>
      match stream with
      | .file old position appends => .file (if old = place then other else old) position appends
      | stream => stream }

/-- Whether a file is open. -/
def isOpen (system : System) (place : Location) : Bool :=
  system.streams.any fun stream =>
    match stream with
    | .file old _ _ => old = place
    | _ => false

/-- Where a file is kept that has no name any more; no path leads there. -/
def namelessPlace (number : Nat) : Location :=
  ["", Text.natural number]

/-- Takes the name at a location away. -/
def dropName (system : System) (place : Location) : System :=
  let { disk, links, .. } := system
  let others := links.filter (·.1 != place)
  match links.lookup place, links.find? (·.2 == .hard place), disk.entry? place with
  | some _, _, _ => { system with disk := disk.clear place, links := others }
  | none, some (other, _), some entry =>
    let programs := if disk.programs.contains place then other :: disk.programs else disk.programs
    let moved : System :=
      { system with
        disk := Disk.clear { disk.put other entry with programs } place
        links := (others.filter (·.1 != other)).map fun (name, link) =>
          (name, if link = .hard place then .hard other else link) }
    moved.followFile place other
  | none, none, some (.file content) =>
    if system.isOpen place then
      let moved : System :=
        { system with
          disk := (disk.clear place).put (namelessPlace system.nameless) (.file content)
          nameless := system.nameless + 1 }
      moved.followFile place (namelessPlace system.nameless)
    else
      { system with disk := disk.clear place }
  | none, _, _ => { system with disk := disk.clear place }

/-- The places at and below a location, without the location itself if it is a directory. -/
def placesAt (system : System) (place : Location) : List Location :=
  system.disk.entries.filterMap fun (inner, entry) =>
    if place.isPrefixOf inner ∧ entry ≠ .directory then some inner else none

/-- Removes what stands at a location and below it. -/
def removeAt (system : System) (place : Location) : System :=
  let emptied := (system.placesAt place).foldl dropName system
  { emptied with disk := emptied.disk.clear place }

/-- Gives what stands at a location, and below it, another place; a file that stands there loses its name. -/
def moveTo (system : System) (place goal : Location) : System :=
  if place = goal then
    system
  else
    let cleared := if system.disk.entry? goal = some .directory then system else system.dropName goal
    let moved (old : Location) : Location :=
      if place.isPrefixOf old then goal ++ old.drop place.length else old
    let files := (cleared.placesAt place).foldl (fun system file => system.followFile file (moved file)) cleared
    let disk := cleared.disk
    let carried := disk.entries.filter fun (old, _) => place.isPrefixOf old
    { files with
      disk :=
        { carried.foldl (fun disk (old, entry) => disk.put (moved old) entry) (disk.clear place) with
          home := moved disk.home
          programs := disk.programs.map moved }
      links := cleared.links.map fun (name, link) =>
        (moved name, match link with
          | .hard file => .hard (moved file)
          | link => link) }

/-- Gives a link of its own to a location. -/
def putLink (system : System) (place : Location) (link : Link) : System :=
  { system with
    disk := system.disk.put place (.file [])
    links := associate place link system.links }

/-- The disk that is left when every name stands for a copy of what it led to; one that led to no file
is gone, and so are the files without names. -/
def settled (system : System) : Disk :=
  let copied := system.links.foldl (fun (disk : Disk) (place, _) =>
    match system.disk.find? (system.aim true (Disk.pathOf place)) with
    | some (.file content) => disk.put place (.file content)
    | _ => disk.clear place) system.disk
  { copied with entries := copied.entries.filter fun (place, _) => place.head? != some "" }

end System

/-- A path that leads without links to where a path leads. -/
def aim (path : Letters) : Run String :=
  return (← get).system.aim true (spelled path)

/-- A path that leads without links to where a path stands, though its last name may be a link. -/
def aimAtName (path : Letters) : Run String :=
  return (← get).system.aim false (spelled path)

/-- Changes what processes share. -/
def changeSystem (f : System → System) : Run Unit :=
  modify fun session => { session with system := f session.system }

end MonitorBench.Shell
