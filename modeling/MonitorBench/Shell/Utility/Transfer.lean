import MonitorBench.Shell.Utility.Files

/-!
# Utilities that copy, move and link

Sources go to a target: into it if it is a directory, otherwise in its place. A file that is
copied onto another one only changes what that holds; what is moved, or linked, takes the
name of what stood there, which can be kept under a longer name.
-/

set_option autoImplicit false

namespace MonitorBench.Shell

/-- The options that copying, moving and linking share. -/
def transferOptions (plain : String) (long : List (String × Char)) : OptionKinds :=
  { plain := plain ++ "bfnTv", valued := "tS", loose := "k"
    long := long ++
      [("backup", 'k'), ("force", 'f'), ("interactive", 'i'), ("no-target-directory", 'T'), ("verbose", 'v'),
       ("target-directory", 't'), ("suffix", 'S')] }

/-- Splits operands into sources and a target; a link can do with a source. -/
def sourcesAndTarget (name : String) (parsed : Parsed) (links : Bool) :
    Run (Except Nat (List Letters × Letters)) := do
  match parsed.value? 't', parsed.operands.reverse with
  | _, [] => return .error (← misuse name (letters "missing file operand") 1)
  | some target, _ => return .ok (parsed.operands, target)
  | none, [only] =>
    if links ∧ !parsed.has 'T' then return .ok ([only], ['.'])
    else
      return .error (← misuse name (letters "missing destination file operand after " ++ quoted only) 1)
  | none, target :: sources => return .ok (sources.reverse, target)

/-- Does something for each source with the path that it goes to; `isDirectory` tells whether a target is
a directory to go into. -/
def transfer (name : String) (parsed : Parsed) (links : Bool) (isDirectory : Letters → Run Bool)
    (way : Letters → Letters → Run Nat) : Run Nat := do
  match ← sourcesAndTarget name parsed links with
  | .error status => return status
  | .ok (sources, target) =>
    let intoDirectory ← if parsed.has 'T' then pure false else isDirectory target
    if parsed.has 'T' ∧ 2 ≤ sources.length then
      return ← misuse name (letters "extra operand " ++ quoted (sources[1]?.getD [])) 1
    if !intoDirectory ∧ (2 ≤ sources.length ∨ parsed.has 't') then
      let fault : FileFault := if (← disk).holds (← aim target) then .notDirectory else .notFound
      let start := if parsed.has 't' then "target directory " else "target "
      warn name (onPath start target fault)
      return 1
    forOperands sources fun source =>
      way source (if intoDirectory then below target (lastName source) else target)

/-- Tells that a source and its target are the same. -/
def sameFile (name : String) (source target : Letters) : Run Nat := do
  warn name (quoted source ++ letters " and " ++ quoted target ++ letters " are the same file")
  return 1

/-- What is put between the path of a source and of its target in a report. -/
def reportArrow : Letters := letters " -> "

/-- The numbers of the numbered copies of a file. -/
def copyNumbers (disk : Disk) (place : Location) : List Nat :=
  let name := letters (place.getLast?.getD "")
  (namesIn disk place.dropLast).filterMap fun other =>
    match Text.after? (name ++ letters ".~") (letters other) with
    | some rest => if rest.getLast? = some '~' then natural? rest.dropLast else none
    | none => none

/-- The name that what stands at a location is kept under, if it is to be kept. -/
def keptName? (parsed : Parsed) (disk : Disk) (place : Location) : Option String :=
  if !(parsed.has 'b' || parsed.has 'k' || parsed.has 'S') then none
  else
    let name := place.getLast?.getD ""
    let control := (parsed.value? 'k').getD []
    let numbers := copyNumbers disk place
    let isNumbered := control = ['t'] || control = letters "numbered"
      || (!numbers.isEmpty && control ≠ letters "simple" && control ≠ letters "never")
    if control = letters "none" ∨ control = letters "off" then none
    else if isNumbered then some (name ++ ".~" ++ Text.natural (numbers.foldl max 0 + 1) ++ "~")
    else some (name ++ spelled ((parsed.value? 'S').getD ['~']))

/-- Makes room at a location: what stands there is kept under another name, or loses its name. -/
def makeRoom (parsed : Parsed) (place : Location) : Run Unit := do
  match keptName? parsed (← disk) place with
  | some name => changeSystem fun system => system.moveTo place (place.dropLast ++ [name])
  | none => changeSystem fun system => system.dropName place

/-- The status if something that stands at a target stays: it is not to be replaced, or nobody agrees to
that. -/
def spares? (parsed : Parsed) (name : String) (target : Letters) : Run (Option Nat) := do
  match parsed.lastOf? ['n', 'i', 'f'] with
  | some 'n' =>
    if name = "mv" then
      warn name (letters "not replacing " ++ quoted target)
      return some 1
    else
      warn name (letters "warning: behavior of -n is non-portable and may change in future; use --update=none instead")
      return some 0
  | some 'i' => return if ← agrees name (letters "overwrite " ++ quoted target) then none else some 1
  | _ => return if parsed.value? 'U' = some (letters "none") then some 0 else none

/-! ## Copying -/

/-- How files are copied. -/
structure Copying where
  parsed : Parsed
  recursive : Bool
  /-- Whether links are copied as links that are met below a source. -/
  keepsLinks : Bool
  /-- Whether links are copied as links that are sources. -/
  keepsFirst : Bool

namespace Copying

/-- Whether an option was given. -/
def has (copying : Copying) (option : Char) : Bool :=
  copying.parsed.has option

/-- Reports on a copy. -/
def tell (copying : Copying) (source target : Letters) : Run Unit := do
  if copying.has 'v' then
    say (quoted source ++ reportArrow ++ quoted target ++ ['\n'])

/-- Copies a file. -/
def copyFile (copying : Copying) (source target : Letters) (place : Location) (content : Bytes) : Run Nat := do
  let disk ← disk
  let refuse (message : Letters) : Run Nat := do
    warn "cp" message
    return 1
  let aimed ← aim target
  let named ← lookUpName target
  let dangles := named.isOk && !disk.holds aimed
  let isSame := (disk.locate aimed).toOption = some place
  let removesFirst := copying.has 'M'
  if named matches .ok (_, .directory) then
    return ← refuse (letters "cannot overwrite directory " ++ quoted target ++ letters " with non-directory")
  if named.isOk then
    if let some status ← spares? copying.parsed "cp" target then
      return status
  let isKept := (named.toOption.bind fun (goal, _) => keptName? copying.parsed disk goal).isSome
  if isSame ∧ !isKept ∧ !(copying.has 'l') ∧ !(copying.has 's') then
    return ← sameFile "cp" source target
  if copying.has 'l' ∨ copying.has 's' then
    match disk.locate (← aimAtName target) with
    | .error fault => return ← refuse (onPath "cannot create link " target fault)
    | .ok goal =>
      if named.isOk then
        unless isKept ∨ copying.has 'f' ∨ removesFirst do
          if isSame ∧ copying.has 'l' then return 0
          return ← refuse (letters (if copying.has 'l' then "cannot create hard link " else "cannot create symbolic link ")
            ++ quoted target ++ letters (if copying.has 'l' then " to " else " to ") ++ quoted source ++ letters ": File exists")
        makeRoom copying.parsed goal
      changeSystem fun system => system.putLink goal (if copying.has 'l' then .hard place else .soft source)
      copying.tell source target
      return 0
  if dangles ∧ !removesFirst then
    return ← refuse (letters "not writing through dangling symlink " ++ quoted target)
  if named.isOk ∧ (isKept ∨ removesFirst) then
    match named with
    | .ok (goal, _) => makeRoom copying.parsed goal
    | .error _ => pure ()
  let disk' := (← get).system.disk
  let aimed ← aim target
  match disk'.openFile aimed with
  | .ok (goal, _) =>
    let isNew := (disk'.entry? goal).isNone
    setDisk (disk'.put goal (.file (if copying.has 'A' then (disk'.read aimed).toOption.getD [] else content)))
    if isNew ∨ copying.has 'p' ∨ copying.has 'a' then
      markProgram goal (disk.programs.contains place)
    copying.tell source target
    return 0
  | .error fault =>
    refuse (onPath "cannot create regular file " target (if fault = .isDirectory then .notDirectory else fault))

/-- Copies a link as a link. -/
def copyLink (copying : Copying) (source target path : Letters) : Run Nat := do
  let refuse (message : Letters) : Run Nat := do
    warn "cp" message
    return 1
  match (← disk).locate (← aimAtName target), ← lookUpName target with
  | .error fault, _ => refuse (onPath "cannot create symbolic link " target fault)
  | .ok _, .ok (_, .directory) =>
    refuse (letters "cannot overwrite directory " ++ quoted target ++ letters " with non-directory " ++ quoted source)
  | .ok goal, there =>
    if there.isOk then
      if let some status ← spares? copying.parsed "cp" target then
        return status
      makeRoom copying.parsed goal
    changeSystem fun system => system.putLink goal (.soft path)
    copying.tell source target
    return 0

/-- Copies what a path leads to, with what is below it at most `fuel` levels deep; `isFirst` tells whether
the path is a source, and `goals` holds the places of the directories that were made. -/
def copy (copying : Copying) : (fuel : Nat) → (isFirst : Bool) → List Location → Letters → Letters → Run Nat
  | 0, _, _, _, _ => return 0
  | fuel + 1, isFirst, goals, source, target => do
    let keeps := if isFirst then copying.keepsFirst else copying.keepsLinks
    match ← if keeps then lookUpName source else lookUp source with
    | .error fault =>
      warn "cp" (onPath "cannot stat " source fault)
      return 1
    | .ok (place, entry) =>
      match ← linkAt? place, entry with
      | some path, _ => copying.copyLink source target path
      | none, .file content => copying.copyFile source target ((← get).system.primary place) content
      | none, .directory =>
        let refuse (message : Letters) : Run Nat := do
          warn "cp" message
          return 1
        if !copying.recursive then
          return ← refuse (letters "-r not specified; omitting directory " ++ quoted source)
        if goals.contains place then
          return ← refuse (letters "cannot copy a directory, " ++ quoted source ++ letters ", into itself, " ++ quoted target)
        match (← disk).locate (← aim (letters (Path.withoutSlashes (spelled target)))) with
        | .error fault => refuse (onPath "cannot create directory " target fault)
        | .ok goal =>
          let there := Disk.entry? (← disk) goal
          if there matches some (.file _) then
            return ← refuse (letters "cannot overwrite non-directory " ++ quoted target ++ letters " with directory " ++ quoted source)
          if goal = place then
            return ← refuse (letters "cannot copy a directory, " ++ quoted source ++ letters ", into itself, " ++ quoted target)
          if there.isNone then
            setDisk ((← disk).put goal .directory)
            copying.tell source target
          let goals := if isFirst then goal :: goals else goals
          forOperands ((namesIn (← disk) place).map letters) fun name =>
            copying.copy fuel false goals (below source name) (below target name)

end Copying

/-- Copies files. -/
def cp : Utility := fun _ arguments =>
  let kinds : OptionKinds :=
    { transferOptions "adHilLpPrRsuxMZAQ" [("archive", 'a'), ("recursive", 'r'), ("no-clobber", 'n'), ("link", 'l'),
        ("symbolic-link", 's'), ("dereference", 'L'), ("no-dereference", 'P'), ("one-file-system", 'x'),
        ("remove-destination", 'M'), ("preserve", 'm'), ("no-preserve", 'N'), ("parents", 'Q'), ("update", 'U'),
        ("attributes-only", 'A'), ("reflink", 'm'), ("sparse", 'N'), ("strip-trailing-slashes", 'Z')] with
      loose := "kUm", valued := "tSN" }
  withOptions "cp" kinds 1 arguments fun parsed => do
    let recursive := parsed.has 'r' || parsed.has 'R' || parsed.has 'a'
    let way := parsed.lastOf? ['a', 'd', 'P', 'L', 'H']
    let copying : Copying :=
      { parsed, recursive
        keepsLinks := way.any (fun c => c = 'a' || c = 'd' || c = 'P' || c = 'H') || (way.isNone && recursive)
        keepsFirst := way.any (fun c => c = 'a' || c = 'd' || c = 'P') || (way.isNone && recursive) }
    let isDirectory (target : Letters) : Run Bool := return (← disk).find? (← aim target) = some .directory
    transfer "cp" parsed false isDirectory fun source target => do
      let target ← if parsed.has 'Q' then do
          let whole := below (target.take (target.length - (lastName source).length - 1)) source
          match Path.parent? (spelled whole) with
          | some above => setDisk ((← disk).makeDirectories (← aim (letters above))).1
          | none => pure ()
          pure whole
        else pure target
      copying.copy ((← disk).entries.length + 3) true [] source target

/-! ## Moving -/

/-- Moves files and directories. -/
def mv : Utility := fun _ arguments =>
  let kinds : OptionKinds :=
    { transferOptions "iZ" [("no-clobber", 'n'), ("update", 'U'), ("strip-trailing-slashes", 'Z')] with loose := "ku" }
  withOptions "mv" kinds 1 arguments fun parsed => do
    let isDirectory (target : Letters) : Run Bool := return (← disk).find? (← aim target) = some .directory
    transfer "mv" parsed false isDirectory fun source target => do
      let refuse (message : Letters) : Run Nat := do
        warn "mv" message
        return 1
      match ← lookUpName source with
      | .error fault => refuse (onPath "cannot stat " source fault)
      | .ok (place, entry) =>
        let disk ← disk
        let start := letters "cannot move " ++ quoted source ++ letters " to " ++ quoted target ++ letters ": "
        let path := if entry = .directory then letters (Path.withoutSlashes (spelled target)) else target
        match disk.locate (← aimAtName path) with
        | .error fault => refuse (start ++ letters (reasonOf fault))
        | .ok goal =>
          let there := disk.entry? goal
          if goal = place then
            return ← sameFile "mv" source target
          if there.isSome then
            if let some status ← spares? parsed "mv" target then
              return status
          let isKept := there.isSome && (keptName? parsed disk goal).isSome
          match entry, if isKept then none else there with
          | .file _, some .directory =>
            refuse (letters "cannot overwrite directory " ++ quoted target ++ letters " with non-directory " ++ quoted source)
          | .directory, some (.file _) =>
            refuse (letters "cannot overwrite non-directory " ++ quoted target ++ letters " with directory " ++ quoted source)
          | entry, there =>
            if entry ≠ .directory ∧ Path.endsInSlash (spelled path) then
              return ← refuse (start ++ letters (reasonOf .notDirectory))
            if place.isPrefixOf goal then
              return ← refuse (letters "cannot move " ++ quoted source ++ letters " to a subdirectory of itself, " ++ quoted target)
            if there = some .directory ∧ !(namesIn disk goal).isEmpty then
              return ← refuse (letters "cannot overwrite " ++ quoted target ++ letters ": Directory not empty")
            if isKept then
              makeRoom parsed goal
            changeSystem fun system => system.moveTo place goal
            if parsed.has 'v' then
              say (letters "renamed " ++ quoted source ++ reportArrow ++ quoted target ++ ['\n'])
            return 0

/-! ## Linking -/

/-- Makes links. -/
def ln : Utility := fun _ arguments =>
  let kinds : OptionKinds :=
    transferOptions "sirLPdF" [("symbolic", 's'), ("relative", 'r'), ("no-dereference", 'n'), ("logical", 'L'),
      ("physical", 'P'), ("directory", 'd')]
  withOptions "ln" kinds 1 arguments fun parsed => do
    let soft := parsed.has 's'
    let kind := if soft then "symbolic link " else "hard link "
    let isDirectory (target : Letters) : Run Bool := do
      if parsed.has 'n' ∧ ((← lookUpName target).toOption.any fun (place, _) => place ≠ []) then
        match ← lookUpName target with
        | .ok (place, _) =>
          if (← linkAt? place).isSome then
            return false
        | .error _ => pure ()
      return (← disk).find? (← aim target) = some .directory
    transfer "ln" parsed true isDirectory fun source target => do
      let refuse (message : Letters) : Run Nat := do
        warn "ln" message
        return 1
      let model ← if parsed.has 'L' then lookUp source else lookUpName source
      match model with
      | .error fault =>
        unless soft do
          return ← refuse (onPath "failed to access " source fault)
      | .ok (_, entry) =>
        if !soft ∧ entry = .directory then
          return ← refuse (source ++ letters ": hard link not allowed for directory")
      match (← disk).locate (← aimAtName target) with
      | .error fault => refuse (letters ("failed to create " ++ kind) ++ quoted target ++ letters ": " ++ letters (reasonOf fault))
      | .ok goal =>
        let path ← if soft ∧ parsed.has 'r' then do
            pure (pathBetween goal.dropLast ((← locateWith .nothing true source).toOption.getD []))
          else pure source
        let create : Run Nat := do
          let link ← match soft, model with
            | true, _ => pure (Link.soft path)
            | false, .ok (place, _) =>
              match ← linkAt? place with
              | some other => pure (Link.soft other)
              | none => pure (Link.hard ((← get).system.primary place))
            | false, .error _ => pure (Link.soft path)
          changeSystem fun system => system.putLink goal link
          if parsed.has 'v' then
            say (quoted target ++ (if soft then reportArrow else letters " => ") ++ quoted path ++ ['\n'])
          return 0
        if soft ∧ source = [] then
          return ← refuse (letters ("failed to create " ++ kind) ++ quoted target ++ letters ": No such file or directory")
        match Disk.entry? (← disk) goal with
        | none =>
          if Path.endsInSlash (spelled target) then
            refuse (letters ("failed to create " ++ kind) ++ quoted target ++ letters ": No such file or directory")
          else create
        | some there =>
          let isKept := (keptName? parsed (← disk) goal).isSome
          let replaces ← match parsed.lastOf? ['f', 'i'] with
            | some 'i' => agrees "ln" (letters "replace " ++ quoted target)
            | some _ => pure true
            | none => pure isKept
          if parsed.lastOf? ['f', 'i'] = some 'i' ∧ !replaces then
            return 1
          if !replaces then
            return ← refuse (letters ("failed to create " ++ kind) ++ quoted target ++ letters ": File exists")
          if there = .directory then
            return ← refuse (target ++ letters ": cannot overwrite directory")
          let primary := (← get).system.primary
          if (model.toOption.map fun (place, _) => primary place) = some (primary goal) ∧ !isKept then
            return ← if soft ∨ (model.toOption.map Prod.fst) = some goal then sameFile "ln" source target else pure 0
          makeRoom parsed goal
          create

/-- Gives a file a second name. -/
def link : Utility := fun _ arguments => do
  match arguments with
  | [source, target] =>
    let refuse (fault : FileFault) : Run Nat := do
      warn "link" (letters "cannot create link " ++ quoted target ++ letters " to " ++ quoted source ++ letters ": "
        ++ letters (reasonOf fault))
      return 1
    match ← lookUpName source, (← disk).locate (← aimAtName target) with
    | .error fault, _ => refuse fault
    | _, .error fault => refuse fault
    | .ok (_, .directory), _ => refuse (.other "Operation not permitted")
    | .ok (place, _), .ok goal =>
      if (Disk.entry? (← disk) goal).isSome then
        return ← refuse .alreadyExists
      let link ← match ← linkAt? place with
        | some other => pure (Link.soft other)
        | none => pure (Link.hard ((← get).system.primary place))
      changeSystem fun system => system.putLink goal link
      return 0
  | _ :: _ :: extra :: _ => misuse "link" (letters "extra operand " ++ quoted extra) 1
  | [source] => misuse "link" (letters "missing operand after " ++ quoted source) 1
  | [] => misuse "link" (letters "missing operand") 1

end MonitorBench.Shell
