import MonitorBench.Disk.Directories
import MonitorBench.Shell.Utility.Basic

/-!
# Utilities that make and remove files and directories

A directory is removed with what it holds only if that is asked for. What is removed is a
name: if the name is a link, what it leads to stays.
-/

set_option autoImplicit false

namespace MonitorBench.Shell

/-- The location of a path without links and what stands there. -/
def lookUpAimed (aimed : String) : Run (Except FileFault (Location × Entry)) := do
  let system := (← get).system
  match system.disk.locate aimed with
  | .error fault => return .error fault
  | .ok place =>
    return match system.entryAt? place with
      | some entry => .ok (place, entry)
      | none => .error .notFound

/-- The location that a path leads to through links and what stands there. -/
def lookUp (path : Letters) : Run (Except FileFault (Location × Entry)) := do
  lookUpAimed (← aim path)

/-- The location of the name that a path ends with and what stands there; the name can be a link. -/
def lookUpName (path : Letters) : Run (Except FileFault (Location × Entry)) := do
  lookUpAimed (← aimAtName path)

/-- The path of the link at a location. -/
def linkAt? (place : Location) : Run (Option Letters) :=
  return (← get).system.softLink? place

/-- The last name of a path. -/
def lastName (path : Letters) : Letters :=
  letters (((Path.names (Path.withoutSlashes (spelled path))).getLast?).getD "")

/-- A path with a name behind it. -/
def below (path name : Letters) : Letters :=
  letters (Path.join (spelled path) (spelled name))

/-- The path from one directory to a location. -/
def pathBetween (directory place : Location) : Letters :=
  let shared := ((List.zip directory place).takeWhile fun (name, other) => name == other).length
  let names := List.replicate (directory.length - shared) ".." ++ place.drop shared
  if names = [] then ['.'] else letters ("/".intercalate names)

/-- How much of a path has to be there. -/
inductive PathNeed where
  | nothing
  | directories
  | all
  deriving DecidableEq

/-- The location that a path leads to, though not all of it may be there. -/
def locateWith (need : PathNeed) (through : Bool) (path : Letters) : Run (Except FileFault Location) := do
  let system := (← get).system
  let start := if path.head? = some '/' then [] else system.disk.home
  if path = [] then
    return .error .notFound
  match system.trace through System.linkLimit start (Path.names (spelled path)) with
  | none => return .error (.other "Too many levels of symbolic links")
  | some (place, left) =>
    let names := left.filter fun name => name != "" && name != "."
    let exists? := (system.disk.entry? place).isSome
    let fault : FileFault := if (system.disk.entry? place) matches some (.file _) then .notDirectory else .notFound
    let reached := left.foldl (fun place name => (Disk.next place name).toOption.getD place) place
    match need with
    | .nothing => return .ok reached
    | .all => return if exists? ∧ left.isEmpty then .ok place else .error fault
    | .directories =>
      let isLast := names.length ≤ 1 && (system.disk.entry? place) = some .directory
      if left.isEmpty ∧ (exists? ∨ (system.disk.entry? place.dropLast) = some .directory) then return .ok place
      else if isLast ∨ (left.all (· == "") ∧ !exists?) then return .ok reached
      else return .error fault

/-- Whether the next line of the input agrees to a question. -/
def agrees (name : String) (question : Letters) : Run Bool := do
  let _ ← emit errors (letters name ++ letters ": " ++ question ++ letters "? ")
  match ← remaining input with
  | some text =>
    let line := text.takeWhile (· != '\n')
    consume input (min text.length (line.length + 1))
    return line.head?.any fun c => c == 'y' || c == 'Y'
  | none => return false

/-! ## Directories -/

/-- A path and those above it, from the first name on. -/
def pathsDown (path : Letters) : List Letters :=
  let names := Text.splitOn '/' path
  (names.zipIdx.filter fun (name, _) => name ≠ [] ∧ name ≠ ['.'] ∧ name ≠ ['.', '.']).map fun (_, place) =>
    ['/'].intercalate (names.take (place + 1))

/-- Makes directories. -/
def mkdir : Utility := fun _ arguments =>
  let kinds : OptionKinds :=
    { plain := "pv", valued := "m", loose := "Z"
      long := [("parents", 'p'), ("verbose", 'v'), ("mode", 'm'), ("context", 'Z')] }
  withOptions "mkdir" kinds 1 arguments fun parsed => do
    if parsed.operands.isEmpty then
      return ← misuse "mkdir" (letters "missing operand") 1
    forOperands parsed.operands fun path => do
      let disk ← disk
      let tell (path : Letters) : Run Unit := do
        if parsed.has 'v' then
          say (letters "mkdir: created directory " ++ quoted path ++ ['\n'])
      let refuse (fault : FileFault) : Run Nat := do
        warn "mkdir" (onPath "cannot create directory " path fault)
        return 1
      if parsed.has 'p' then
        let missing ← (pathsDown path).filterM fun above => return !disk.holds (← aim above)
        let (after, made) := disk.makeDirectories (← aim path)
        setDisk after
        for above in missing do
          if after.holds (← aim above) then
            tell above
        match made with
        | .ok _ => return 0
        | .error fault =>
          let inTheWay ← (pathsDown path).findM? fun above =>
            return !(after.find? (← aim above)) matches some .directory
          warn "mkdir" (onPath "cannot create directory " (inTheWay.getD path) fault)
          return 1
      else
        match disk.locate (← aimAtName (letters (Path.withoutSlashes (spelled path)))) with
        | .error fault => refuse fault
        | .ok place =>
          if (disk.entry? place).isSome then
            refuse .alreadyExists
          else
            setDisk (disk.put place .directory)
            tell path
            return 0

/-- A path and those above it, without the last of its names one after the other, at most `fuel` of
them. -/
def pathsAbove : (fuel : Nat) → Letters → List Letters
  | 0, _ => []
  | fuel + 1, path =>
    match Path.parent? (spelled path) with
    | some "" => [path]
    | some "/" => [path]
    | some parent => path :: pathsAbove fuel (letters parent)
    | none => [path]

/-- Removes empty directories. -/
def rmdir : Utility := fun _ arguments =>
  let kinds : OptionKinds :=
    { plain := "pvI", long := [("parents", 'p'), ("verbose", 'v'), ("ignore-fail-on-non-empty", 'I')] }
  withOptions "rmdir" kinds 1 arguments fun parsed => do
    if parsed.operands.isEmpty then
      return ← misuse "rmdir" (letters "missing operand") 1
    let remove (operand path : Letters) : Run (Nat × Bool) := do
      if parsed.has 'v' then
        say (letters "rmdir: removing directory, " ++ quoted path ++ ['\n'])
      let refuse (reason : Letters) : Run (Nat × Bool) := do
        let kind := if operand = path then "" else "directory "
        warn "rmdir" (letters ("failed to remove " ++ kind) ++ quoted path ++ letters ": " ++ reason)
        return (1, false)
      match ← lookUpName path with
      | .error fault => refuse (letters (reasonOf fault))
      | .ok (_, .file _) => refuse (letters (reasonOf .notDirectory))
      | .ok (place, .directory) =>
        let disk ← disk
        if !(namesIn disk place).isEmpty then
          if parsed.has 'I' then return (0, false) else refuse (letters "Directory not empty")
        else if lastName path = ['.'] then
          refuse (letters (reasonOf .invalidPath))
        else
          setDisk (disk.clear place)
          return (0, true)
    forOperands parsed.operands fun operand => do
      let paths := if parsed.has 'p' then pathsAbove operand.length operand else [operand]
      let (status, _) ← paths.foldlM (fun (status, goesOn) path => do
        if goesOn then remove operand path else return (status, false)) (0, true)
      return status

/-! ## Files -/

/-- How names are removed. -/
structure Removal where
  /-- Whether empty directories are removed. -/
  empties : Bool
  asks : Bool
  tells : Bool

namespace Removal

/-- Removes the name at the end of a path, with what is below it at most `fuel` levels deep; tells
whether it is gone. -/
def remove (removal : Removal) : (fuel : Nat) → Letters → Location → Entry → Run Bool
  | 0, _, _, _ => return false
  | fuel + 1, path, place, entry => do
    let ask (question : String) : Run Bool :=
      if removal.asks then agrees "rm" (letters question ++ quoted path) else return true
    match entry with
    | .file content =>
      let kind := if (← linkAt? place).isSome then "symbolic link"
        else if content.isEmpty then "regular empty file" else "regular file"
      if ← ask ("remove " ++ kind ++ " ") then
        changeSystem fun system => system.dropName place
        if removal.tells then
          say (letters "removed " ++ quoted path ++ ['\n'])
        return true
      else
        return false
    | .directory =>
      let names := namesIn (← disk) place
      let descends ← if names.isEmpty then pure true else ask "descend into directory "
      if !descends then
        return false
      let gone ← names.foldlM (fun gone name => do
        match (← get).system.entryAt? (place ++ [name]) with
        | some inner =>
          let isGone ← removal.remove fuel (below path (letters name)) (place ++ [name]) inner
          return gone && isGone
        | none => return gone) true
      if !gone then
        return false
      if ← ask "remove directory " then
        setDisk ((← disk).clear place)
        if removal.tells then
          say (letters "removed directory " ++ quoted path ++ ['\n'])
        return true
      else
        return false

end Removal

/-- Removes files, and directories with what they hold. -/
def rm : Utility := fun _ arguments =>
  let kinds : OptionKinds :=
    { plain := "rRfdivIopP", loose := "w"
      long := [("recursive", 'r'), ("force", 'f'), ("dir", 'd'), ("verbose", 'v'), ("interactive", 'w'),
        ("one-file-system", 'o'), ("preserve-root", 'p'), ("no-preserve-root", 'P')] }
  withOptions "rm" kinds 1 arguments fun parsed => do
    let last := (parsed.options.reverse.find? fun (option, value) =>
      "fiI".toList.contains option || (option == 'w' && value != letters "always")).map Prod.fst
    let isAlways := (parsed.value? 'w').any fun value => value.isEmpty || value == letters "always"
    let forced := last = some 'f'
    let recursive := parsed.has 'r' || parsed.has 'R'
    if parsed.operands.isEmpty then
      return ← if forced then pure 0 else misuse "rm" (letters "missing operand") 1
    let many := last = some 'I' && (recursive || 3 < parsed.operands.length)
    if many then
      let count := digits parsed.operands.length ++ letters " argument" ++ (if parsed.operands.length = 1 then [] else ['s'])
      unless ← agrees "rm" (letters "remove " ++ count ++ (if recursive then letters " recursively" else [])) do
        return 0
    let removal : Removal :=
      { empties := parsed.has 'd', asks := last = some 'i' || isAlways, tells := parsed.has 'v' }
    forOperands parsed.operands fun path => do
      let refuse (reason : Letters) : Run Nat := do
        warn "rm" (letters "cannot remove " ++ quoted path ++ letters ": " ++ reason)
        return 1
      match ← lookUpName path with
      | .error fault =>
        if forced ∧ (fault = .notFound ∨ fault = .notDirectory) then return 0
        else refuse (letters (reasonOf fault))
      | .ok (place, entry) =>
        let isEmpty := (namesIn (← disk) place).isEmpty
        if entry = .directory ∧ !recursive ∧ !(removal.empties && isEmpty) then
          refuse (letters (if removal.empties then "Directory not empty" else reasonOf .isDirectory))
        else if entry = .directory ∧ (lastName path = ['.'] ∨ lastName path = ['.', '.']) then
          warn "rm" (letters "refusing to remove '.' or '..' directory: skipping " ++ quoted path)
          return 1
        else
          let _ ← removal.remove ((← disk).entries.length + 2) (letters (Path.withoutSlashes (spelled path))) place entry
          return 0

/-- Removes one name. -/
def unlink : Utility := fun _ arguments => do
  match arguments with
  | [] => misuse "unlink" (letters "missing operand") 1
  | _ :: extra :: _ => misuse "unlink" (letters "extra operand " ++ quoted extra) 1
  | [path] =>
    let refuse (fault : FileFault) : Run Nat := do
      warn "unlink" (onPath "cannot unlink " path fault)
      return 1
    match ← lookUpName path with
    | .error fault => refuse fault
    | .ok (_, .directory) => refuse .isDirectory
    | .ok (place, .file _) =>
      changeSystem fun system => system.dropName place
      return 0

/-- Makes files that are not there. -/
def touch : Utility := fun _ arguments =>
  let kinds : OptionKinds :=
    { plain := "acmfh", valued := "drtT"
      long := [("no-create", 'c'), ("date", 'd'), ("reference", 'r'), ("time", 'T'), ("no-dereference", 'h')] }
  withOptions "touch" kinds 1 arguments fun parsed => do
    if parsed.operands.isEmpty then
      return ← misuse "touch" (letters "missing file operand") 1
    match parsed.value? 'r' with
    | some model =>
      unless (← disk).holds (← aim model) do
        warn "touch" (onPath "failed to get attributes of " model .notFound)
        return 1
    | none => pure ()
    forOperands parsed.operands fun path => do
      let disk ← disk
      let aimed ← aim path
      if disk.holds aimed ∨ parsed.has 'c' ∨ parsed.has 'h' ∨ path = ['-'] then
        return 0
      match disk.append aimed [] with
      | .ok after =>
        setDisk after
        return 0
      | .error fault =>
        if Path.endsInSlash (spelled path) then
          let isFile := disk.holds (← aim (letters (Path.withoutSlashes (spelled path))))
          warn "touch" (onPath "setting times of " path (if isFile then .notDirectory else .notFound))
        else
          warn "touch" (onPath "cannot touch " path fault)
        return 1

/-- The number of bytes that a text tells, with a unit behind it. -/
def byteCount? (text : Letters) : Option Nat :=
  let count := text.takeWhile Char.isDigit
  let units := "KMGTPEZY".toList
  let factor? : Option Nat := match text.drop count.length with
    | [] => some 1
    | ['b'] => some 512
    | ['w'] => some 2
    | ['c'] => some 1
    | ['k'] => some 1024
    | ['k', 'B'] => some 1000
    | ['x', 'M'] => some (1024 * 1024)
    | [unit] => (units.idxOf? unit).map fun place => Nat.pow 1024 (place + 1)
    | [unit, 'B'] => (units.idxOf? unit).map fun place => Nat.pow 1000 (place + 1)
    | [unit, 'i', 'B'] => (units.idxOf? unit).map fun place => Nat.pow 1024 (place + 1)
    | _ => none
  match count, factor? with
  | [], some factor => if text = [] then none else if text.head?.any units.contains then some factor else none
  | count, some factor => (natural? count).map (· * factor)
  | _, none => none

/-- The length that a file gets; the first letter of the text may tell how it comes from the length before. -/
def newLength? (text : Letters) (base : Nat) : Option Nat :=
  match text with
  | '+' :: rest => (byteCount? rest).map fun n => base + n
  | '-' :: rest => (byteCount? rest).map fun n => base - n
  | '<' :: rest => (byteCount? rest).map fun n => min base n
  | '>' :: rest => (byteCount? rest).map fun n => max base n
  | '/' :: rest => (byteCount? rest).bind fun n => if n = 0 then none else some (base / n * n)
  | '%' :: rest => (byteCount? rest).bind fun n => if n = 0 then none else some ((base + n - 1) / n * n)
  | rest => byteCount? rest

/-- Cuts files off at a length, or fills them up with zeros. -/
def truncate : Utility := fun _ arguments =>
  let kinds : OptionKinds :=
    { plain := "co", valued := "rs"
      long := [("no-create", 'c'), ("io-blocks", 'o'), ("reference", 'r'), ("size", 's')] }
  withOptions "truncate" kinds 1 arguments fun parsed => do
    let size := (parsed.value? 's').map fun text => text.dropWhile isSpace
    if size.isNone ∧ !parsed.has 'r' then
      return ← misuse "truncate" (letters "you must specify either '--size' or '--reference'") 1
    if parsed.operands.isEmpty then
      return ← misuse "truncate" (letters "missing file operand") 1
    let model? ← match parsed.value? 'r' with
      | some model => some <$> lookUp model
      | none => pure none
    match size, model? with
    | some text, _ =>
      if (newLength? text 0).isNone then
        warn "truncate" (letters "Invalid number: " ++ quoted text)
        return 1
    | none, some (.error fault) =>
      warn "truncate" (onPath "cannot stat " ((parsed.value? 'r').getD []) fault)
      return 1
    | none, _ => pure ()
    let modelLength? : Option Nat := match model? with
      | some (.ok (_, .file content)) => some content.length
      | some (.ok (_, .directory)) => some 4096
      | _ => none
    forOperands parsed.operands fun path => do
      let disk ← disk
      let aimed ← aim path
      if parsed.has 'c' ∧ !disk.holds aimed then
        return 0
      match disk.openFile aimed with
      | .error fault =>
        warn "truncate" (letters "cannot open " ++ quoted path ++ letters " for writing: " ++ letters (reasonOf fault))
        return 1
      | .ok (place, content) =>
        let base := modelLength?.getD content.length
        let length := (size.bind fun text => newLength? text base).getD base
        setDisk (disk.put place (.file (content.take length ++ List.replicate (length - content.length) 0)))
        return 0

/-! ## Programs -/

/-- What a mode makes of a file: a program, or none, or what it was; not every text is a mode. -/
def makesProgram? (mode : Letters) : Option (Option Bool) :=
  if mode ≠ [] ∧ mode.all isOctal ∧ mode.length ≤ 5 then
    some (some ((mode.drop (mode.length - 3)).any fun c => c.toNat % 2 = 1))
  else
    (Text.splitOn ',' mode).foldlM (fun makes part =>
      match part.dropWhile fun c => "ugoa".toList.contains c with
      | operator :: permissions =>
        if "=+-".toList.contains operator ∧ permissions.all fun c => "rwxXst=+-ugo".toList.contains c then
          let hasRun := permissions.contains 'x'
          some (if operator = '=' then some hasRun else if hasRun then some (operator = '+') else makes)
        else none
      | [] => none) none

/-- Marks a file as a program, or as none. -/
def markProgram (place : Location) (isProgram : Bool) : Run Unit := do
  let disk ← disk
  let others := disk.programs.filter (· != place)
  setDisk { disk with programs := if isProgram then place :: others else others }

/-- Marks files as programs, or as no programs. -/
def chmod : Utility := fun _ arguments => do
  let isMode (argument : Letters) : Bool :=
    argument.head? = some '-' && argument.length ≠ 1 && (makesProgram? argument).isSome
  let guarded := arguments.map fun argument => if isMode argument then '\x00' :: argument else argument
  let kinds : OptionKinds :=
    { plain := "Rfvc", valued := "r"
      long := [("recursive", 'R'), ("silent", 'f'), ("quiet", 'f'), ("verbose", 'v'), ("changes", 'c'), ("reference", 'r')] }
  withOptions "chmod" kinds 1 guarded fun parsed => do
    let operands := parsed.operands.map fun operand => if operand.head? = some '\x00' then operand.drop 1 else operand
    let model? ← match parsed.value? 'r' with
      | some model => some <$> lookUp model
      | none => pure none
    let change (makes : Option Bool) (paths : List Letters) : Run Nat :=
      forOperands paths fun path => do
        match ← lookUp path with
        | .error fault =>
          unless parsed.has 'f' do
            warn "chmod" (onPath "cannot access " path fault)
          return 1
        | .ok (place, entry) =>
          let system := (← get).system
          let places := if entry = .directory then (if parsed.has 'R' then system.placesAt place else []) else [place]
          match makes with
          | none => return 0
          | some makes =>
            for place in places do
              markProgram place makes
            return 0
    match model?, operands with
    | some (.error fault), _ =>
      warn "chmod" (onPath "failed to get attributes of " ((parsed.value? 'r').getD []) fault)
      return 1
    | some (.ok (place, _)), paths => change (some ((← disk).programs.contains place)) paths
    | none, [] => misuse "chmod" (letters "missing operand") 1
    | none, [mode] => misuse "chmod" (letters "missing operand after " ++ quoted mode) 1
    | none, mode :: paths =>
      match makesProgram? mode with
      | none => misuse "chmod" (letters "invalid mode: " ++ quoted mode) 1
      | some makes => change makes paths

end MonitorBench.Shell
