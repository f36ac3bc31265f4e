import MonitorBench.Shell.Utility.Listing
import MonitorBench.Shell.Utility.Quest

/-!
# Looking for files

The files at and below places are visited one after the other, a directory before what it
holds unless it is asked for later. A quest is put to each of them; if it does nothing with
them, the paths of the files for which it holds are printed.
-/

set_option autoImplicit false

namespace MonitorBench.Shell

/-- A file that was found. -/
structure Found where
  path : Letters
  place : Location
  /-- The path that the search began with. -/
  start : Letters
  depth : Nat

namespace Found

/-- The last name of the path. -/
def name (found : Found) : Letters :=
  match (Path.names (spelled found.path)).filter (· != "") with
  | [] => ['/']
  | names => letters (names.getLast?.getD "")

/-- The path of the directory that holds the file. -/
def directory (found : Found) : Letters :=
  let trimmed := letters (Path.withoutSlashes (spelled found.path))
  if !trimmed.contains '/' then ['.']
  else
    let name := (trimmed.reverse.takeWhile (· != '/')).length
    trimmed.take (trimmed.length - name - 1)

/-- The path behind the one that the search began with. -/
def relative (found : Found) : Letters :=
  (found.path.drop found.start.length).dropWhile (· == '/')

end Found

/-- What happens while files are visited. -/
structure Visit where
  /-- Whether what the directory holds is left out. -/
  pruned : Bool := false
  /-- The programs to start at the end, each with the words for it. -/
  later : List (List Letters × List Letters) := []
  status : Nat := 0
  /-- Whether no other file is visited. -/
  finished : Bool := false

/-- Starts a program with words, and gives its status. -/
def startWords (runner : Runner) (words : List Letters) : Run Nat := do
  match ← runner.program words with
  | .ok run => inChild runner run
  | .error fault =>
    warn "find" (onPath "" (words.headD []) fault)
    return 1

/-- Prints a text, or writes it behind what a file holds. -/
def printInto (target : Option Letters) (text : Letters) : Run Unit := do
  match target with
  | none => say text
  | some path =>
    let _ ← writeWhole path text true

/-- Puts what is known of a file into a format, in at most `fuel` steps. -/
def formatFound (found : Found) (facts meant : FileFacts) : (fuel : Nat) → Letters → Letters
  | 0, _ => []
  | _, [] => []
  | fuel + 1, '%' :: '%' :: rest => '%' :: formatFound found facts meant fuel rest
  | fuel + 1, '%' :: rest =>
    let flags := rest.takeWhile fun c => "#-+ 0".toList.contains c
    let width := (rest.drop flags.length).takeWhile Char.isDigit
    let layout : Layout := { (Layout.withFlags flags) with width := (natural? width).getD 0 }
    match rest.drop (flags.length + width.length) with
    | [] => '%' :: flags ++ width
    | c :: after =>
      let letter (facts : FileFacts) : Letters := letters
        (if facts.link.isSome then "l" else if facts.isDirectory then "d" else if facts.isDevice then "c" else "f")
      let shown? : Option Letters := match c with
        | 'p' => some found.path
        | 'f' => some found.name
        | 'h' => some found.directory
        | 'P' => some found.relative
        | 'H' => some found.start
        | 'd' => some (digits found.depth)
        | 's' => some (digits facts.size)
        | 'y' => some (letter facts)
        | 'Y' => some (letter meant)
        | 'm' => some facts.mode
        | 'M' => some facts.permissions
        | 'n' => some (digits facts.names)
        | 'k' => some (digits facts.kilobytes)
        | 'b' => some (digits (facts.kilobytes * 2))
        | 'l' => some (facts.link.getD [])
        | 'u' => some (letters "root")
        | 'g' => some (letters "root")
        | 'U' => some ['0']
        | 'G' => some ['0']
        | 'i' => some ['0']
        | _ => none
      match shown? with
      | some shown => layout.setText shown ++ formatFound found facts meant fuel after
      | none => '%' :: flags ++ width ++ c :: formatFound found facts meant fuel after
  | _, '\\' :: 'c' :: _ => []
  | fuel + 1, '\\' :: rest =>
    let (c, after) := readEscape rest
    c :: formatFound found facts meant fuel after
  | fuel + 1, c :: rest => c :: formatFound found facts meant fuel rest

/-- Whether a quest holds of a file; what is to be done is done. -/
def Quest.ask (runner : Runner) (through : Bool) (found : Found) : Quest → Visit → Run (Bool × Visit)
  | .name pattern fold, visit =>
    let folded (text : Letters) : Letters := if fold then text.map Char.toLower else text
    return (isMatch (folded pattern) (folded found.name), visit)
  | .whole pattern fold, visit =>
    let folded (text : Letters) : Letters := if fold then text.map Char.toLower else text
    return (isMatch (folded pattern) (folded found.path), visit)
  | .regex expression fold, visit =>
    let matched := expression.matchAt { fold } [] found.path
    return (matched.any fun spot => spot.rest.isEmpty, visit)
  | .kind letters other, visit => do
    let facts? := FileFacts.at? (← get).system (through != other) found.place
    return (facts?.any fun facts =>
      letters.contains (if facts.link.isSome then 'l' else if facts.isDirectory then 'd'
        else if facts.isDevice then 'c' else 'f'), visit)
  | .empty, visit => do
    let system := (← get).system
    let facts? := FileFacts.at? system through found.place
    return (facts?.any fun facts =>
      if facts.isDirectory then (namesIn system.disk found.place).isEmpty
      else facts.link.isNone && !facts.isDevice && facts.size == 0, visit)
  | .size bound unit, visit => do
    let facts? := FileFacts.at? (← get).system through found.place
    return (facts?.any fun facts => bound.fits ((facts.size + unit - 1) / unit), visit)
  | .permissions mode test, visit => do
    let facts? := FileFacts.at? (← get).system through found.place
    return (facts?.any fun facts =>
      let own := (Text.valueIn? 8 facts.mode).getD 0
      match test with
      | .equal => own == mode
      | .all => (own &&& mode) == mode
      | .any => mode == 0 || (own &&& mode) != 0, visit)
  | .names bound, visit => do
    let facts? := FileFacts.at? (← get).system through found.place
    return (facts?.any fun facts => bound.fits facts.names, visit)
  | .age bound units, visit => return (bound.fits units || (units == 1 && bound.comparison == .lt && bound.limit == 1), visit)
  | .allows letter, visit => do
    let facts? := FileFacts.at? (← get).system true found.place
    return (facts?.any fun facts => letter != 'x' || facts.isDirectory || facts.isProgram, visit)
  | .sameFile path, visit => do
    let system := (← get).system
    let other ← if through then lookUp path else lookUpName path
    return (other.toOption.any fun (place, _) => system.primary place == system.primary found.place, visit)
  | .linkPath pattern fold, visit => do
    let folded (text : Letters) : Letters := if fold then text.map Char.toLower else text
    return ((← linkAt? found.place).any fun path => isMatch (folded pattern) (folded path), visit)
  | .constant holds, visit => return (holds, visit)
  | .print ending target, visit => do
    printInto target (found.path ++ [ending])
    return (true, visit)
  | .printFormat format target, visit => do
    let system := (← get).system
    match FileFacts.at? system through found.place, FileFacts.at? system true found.place with
    | some facts, meant? =>
      printInto target (formatFound found facts (meant?.getD facts) (format.length + 1) format)
      return (true, visit)
    | none, _ => return (true, visit)
  | .delete, visit => do
    let disk ← disk
    if found.path = ['.'] then
      return (true, visit)
    else if (namesIn disk found.place).isEmpty then
      changeSystem fun system => system.removeAt found.place
      return (true, visit)
    else
      warn "find" (letters "cannot delete " ++ quoted found.path ++ letters ": Directory not empty")
      return (false, { visit with status := 1 })
  | .start words once inside asks, visit => do
    let path := if inside then letters "./" ++ found.name else found.path
    if once then
      return (true, { visit with later := associate words ((visit.later.lookup words).getD [] ++ [path]) visit.later })
    else
      if asks then
        let question := letters "< " ++ [' '].intercalate words ++ letters " ... " ++ found.path ++ letters " > ? "
        let _ ← emit errors question
        match ← remaining input with
        | some text =>
          let line := text.takeWhile (· != '\n')
          consume input (min text.length (line.length + 1))
          unless line.head?.any fun c => c == 'y' || c == 'Y' do
            return (false, visit)
        | none => return (false, visit)
      let home := (← disk).home
      if inside then
        setDisk { ← disk with home := found.place.dropLast }
      let status ← startWords runner (words.map fun word => replaceAll (letters "\x7b\x7d") path (word.length + 1) word)
      setDisk { ← disk with home := home }
      return (status = 0, visit)
  | .prune, visit => return (true, { visit with pruned := true })
  | .quit, visit => return (true, { visit with finished := true })
  | .negation quest, visit => do
    let (holds, visit) ← quest.ask runner through found visit
    return (!holds, visit)
  | .both first second, visit => do
    let (holds, visit) ← first.ask runner through found visit
    if holds ∧ !visit.finished then second.ask runner through found visit else return (false, visit)
  | .either first second, visit => do
    let (holds, visit) ← first.ask runner through found visit
    if holds ∨ visit.finished then return (true, visit) else second.ask runner through found visit
  | .sequence first second, visit => do
    let (_, visit) ← first.ask runner through found visit
    if visit.finished then return (true, visit) else second.ask runner through found visit

/-- Visits a file and what it holds, at most `fuel` levels deep. -/
def visitAt (runner : Runner) (quest : Quest) (depths : Depths) : (fuel : Nat) → Found → Visit → Run Visit
  | 0, _, visit => return visit
  | fuel + 1, found, visit => do
    if visit.finished then
      return visit
    let system := (← get).system
    let found := if !depths.through then found else
      match system.disk.locate (system.aim true (Disk.pathOf found.place)) with
      | .ok place => if (system.disk.entry? place).isSome then { found with place } else found
      | .error _ => found
    let names := namesIn system.disk found.place
    let ask (visit : Visit) : Run Visit := do
      if depths.least ≤ found.depth ∧ !visit.finished then
        return (← quest.ask runner depths.through found { visit with pruned := false }).2
      else
        return { visit with pruned := false }
    let descend (visit : Visit) : Run Visit :=
      if visit.pruned ∨ depths.greatest.any (· ≤ found.depth) then return visit
      else
        names.foldlM (fun visit name =>
          visitAt runner quest depths fuel
            { path := letters (Path.join (spelled found.path) name), place := found.place ++ [name]
              start := found.start, depth := found.depth + 1 } visit) visit
    if depths.later then
      ask (← descend { visit with pruned := false })
    else
      descend (← ask visit)

/-- Looks for files. -/
def find : Utility := fun runner arguments => do
  let isSetting (word : Letters) : Bool :=
    ["-H", "-L", "-P", "-O0", "-O1", "-O2", "-O3"].contains (String.ofList word)
  let settings := arguments.takeWhile isSetting
  let through := settings.getLast? = some (letters "-L")
  let followsFirst := through || settings.getLast? = some (letters "-H")
  let rest := arguments.drop settings.length
  let isPath (word : Letters) : Bool :=
    match word with
    | '-' :: _ :: _ => false
    | ['('] => false
    | ['!'] => false
    | _ => true
  let paths := rest.takeWhile isPath
  match Quest.ofWords { through } (rest.drop paths.length) with
  | .error message =>
    warn "find" message
    return 1
  | .ok (quest, depths) =>
    for path in quest.models do
      match ← lookUp path with
      | .ok _ => pure ()
      | .error fault =>
        warn "find" (onPath "" path fault)
        return 1
    for target in quest.targets do
      match ← writeWhole target [] false with
      | .ok _ => pure ()
      | .error fault =>
        warn "find" (onPath "" target fault)
        return 1
    let quest := if quest.acts then quest else .both quest (.print '\n' none)
    let visit ← (if paths.isEmpty then [['.']] else paths).foldlM (fun (visit : Visit) path => do
      if visit.finished then
        return visit
      match ← if followsFirst then lookUp path else lookUpName path with
      | .error fault =>
        warn "find" (onPath "" path fault)
        return { visit with status := 1 }
      | .ok (place, _) =>
        visitAt runner quest depths ((← disk).entries.length + 1) { path, place, start := path, depth := 0 } visit) {}
    let late ← visit.later.mapM fun (words, paths) => startWords runner (words ++ paths)
    return if late.all (· == 0) then visit.status else 1

end MonitorBench.Shell
