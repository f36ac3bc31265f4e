import MonitorBench.Disk.Standard
import MonitorBench.Shell.Print
import MonitorBench.Shell.Utility.Files
import MonitorBench.Shell.Utility.Order

/-!
# Utilities that tell about files

These list the names in directories, tell what stands at paths, follow links, and add up
sizes. What a disk does not hold, such as times and owners, is told as if all files were
made at one moment by the one who asks.
-/

set_option autoImplicit false

namespace MonitorBench.Shell

/-- The size that is told of a directory. -/
def directorySize : Nat := 4096

/-- What is told of a name on the disk. -/
structure FileFacts where
  /-- The path of a link. -/
  link : Option Letters
  isDirectory : Bool
  isDevice : Bool
  isProgram : Bool
  /-- The number of bytes. -/
  size : Nat
  /-- How many names there are for what stands there. -/
  names : Nat

namespace FileFacts

/-- The facts on a location; `through` tells whether what a link leads to is meant. -/
def at? (system : System) (through : Bool) (place : Location) : Option FileFacts :=
  let meant := if through then
      (system.disk.locate (system.aim true (Disk.pathOf place))).toOption.getD place
    else place
  let kept := system.primary meant
  match system.softLink? kept, system.disk.entry? kept with
  | some path, _ =>
    some { link := some path, isDirectory := false, isDevice := false, isProgram := false, size := path.length, names := 1 }
  | none, some .directory =>
    let inner := (namesIn system.disk kept).filter fun name => system.disk.entry? (kept ++ [name]) = some .directory
    some
      { link := none, isDirectory := true, isDevice := false, isProgram := false, size := directorySize
        names := 2 + inner.length }
  | none, some (.file content) =>
    let others := (system.links.filter (·.2 == .hard kept)).length
    some
      { link := none, isDirectory := false, isDevice := List.contains Disk.devices kept
        isProgram := system.disk.programs.contains kept, size := content.length, names := 1 + others }
  | none, none => none

/-- The kilobytes that are set aside. -/
def kilobytes (facts : FileFacts) : Nat :=
  if facts.link.isSome ∨ facts.isDevice then 0 else (facts.size + 4095) / 4096 * 4

/-- The permissions as a number in octal digits. -/
def mode (facts : FileFacts) : Letters :=
  letters (if facts.link.isSome then "777" else if facts.isDirectory || facts.isProgram then "755"
    else if facts.isDevice then "666" else "644")

/-- The permissions as they are listed. -/
def permissions (facts : FileFacts) : Letters :=
  letters (if facts.link.isSome then "lrwxrwxrwx" else if facts.isDirectory then "drwxr-xr-x"
    else if facts.isDevice then "crw-rw-rw-" else if facts.isProgram then "-rwxr-xr-x" else "-rw-r--r--")

/-- What kind of file it is. -/
def kind (facts : FileFacts) : Letters :=
  letters (if facts.link.isSome then "symbolic link" else if facts.isDirectory then "directory"
    else if facts.isDevice then "character special file" else if facts.size = 0 then "regular empty file"
    else "regular file")

/-- The mark behind a name that tells the kind. -/
def mark (facts : FileFacts) (parsed : Parsed) : Letters :=
  let full := parsed.has 'F' || (parsed.value? 'Y') = some (letters "classify")
  let types := full || parsed.has 'y' || (parsed.value? 'Y') = some (letters "file-type")
  if facts.isDirectory then (if types ∨ parsed.has 'p' ∨ (parsed.value? 'Y') = some (letters "slash") then ['/'] else [])
  else if facts.link.isSome then (if types then ['@'] else [])
  else if facts.isProgram ∧ full then ['*']
  else []

end FileFacts

/-- A number of bytes in few letters, rounded up. -/
def humanSize (base : Nat) (size : Nat) : Letters :=
  let units := if base = 1024 then "KMGTPE".toList else "kMGTPE".toList
  if size < base then digits size
  else
    let power := ((List.range 6).filter fun power => Nat.pow base (power + 1) ≤ size).length
    let scaled (power : Nat) : Nat × Nat := (size, Nat.pow base power)
    let (amount, unit) := scaled power
    let tenths := (amount * 10 + unit - 1) / unit
    let wholes := (amount + unit - 1) / unit
    let (shown, power) : Letters × Nat :=
      if tenths < 100 then (digits (tenths / 10) ++ '.' :: digits (tenths % 10), power)
      else if wholes < base then (digits wholes, power)
      else (letters "1.0", power + 1)
    shown ++ (units[power - 1]?).toList

/-! ## Lists of names -/

/-- A name that is listed, with the place of it. -/
structure ListedName where
  name : Letters
  facts : FileFacts

/-- The name as it is shown. -/
def ListedName.shown (listed : ListedName) (parsed : Parsed) : Letters :=
  let escaped := if parsed.has 'b' ∨ parsed.has 'Q' then
      listed.name.flatMap fun c =>
        match c with
        | '\n' => ['\\', 'n']
        | '\t' => ['\\', 't']
        | '\\' => ['\\', '\\']
        | '"' => if parsed.has 'Q' then ['\\', '"'] else ['"']
        | ' ' => if parsed.has 'Q' then [' '] else ['\\', ' ']
        | c => [c]
    else if parsed.has 'q' then listed.name.map fun c => if c.toNat < 32 ∨ c.toNat = 127 then '?' else c
    else listed.name
  let quotes := if parsed.has 'Q' then '"' :: escaped ++ ['"'] else escaped
  quotes ++ listed.facts.mark parsed

/-- Blanks from one column to another, with tabulators as far as they go. -/
def indentation : (fuel : Nat) → (column goal : Nat) → Letters
  | 0, _, _ => []
  | fuel + 1, column, goal =>
    if goal ≤ column then []
    else if (column + 1) / 8 < goal / 8 then '\t' :: indentation fuel (column + 8 - column % 8) goal
    else ' ' :: indentation fuel (column + 1) goal

/-- The widths of columns in which texts are listed, as many columns as fit into a line. -/
def columnWidths (width : Nat) (down : Bool) (texts : List Letters) : List Nat :=
  let count := texts.length
  let widths (columns : Nat) : List Nat :=
    (List.range columns).map fun column =>
      (texts.zipIdx.filterMap fun (text, place) =>
        let own := if down then place / ((count + columns - 1) / columns) else place % columns
        if own = column then some (text.length + (if own + 1 = columns then 0 else 2)) else none).foldl max 3
  let most := min (max 1 (width / 3)) count
  let fitting := ((List.range most).map (· + 1)).reverse.find? fun columns =>
    columns = 1 || (widths columns).foldl (· + ·) 0 < width
  widths (fitting.getD 1)

/-- Texts in columns. -/
def inColumns (width : Nat) (down : Bool) (texts : List Letters) : Letters :=
  let widths := columnWidths width down texts
  let columns := widths.length
  let rows := (texts.length + columns - 1) / columns
  let cell (row column : Nat) : Option Letters :=
    texts[if down then column * rows + row else row * columns + column]?
  ((List.range rows).map fun row =>
    let cells := (List.range columns).filterMap fun column => (cell row column).map (·, column)
    let last := cells.length
    (cells.foldl (fun (state : Letters × Nat) (text, column) =>
      let width := (widths[column]?).getD 0
      let shown := state.1 ++ text
      if column + 1 = last then (shown, state.2)
      else (shown ++ indentation (width + 1) (state.2 + text.length) (state.2 + width), state.2 + width)) ([], 0)).1
      ++ ['\n']).flatten

/-- Texts with commas between them, in lines of a width. -/
def withCommas (width : Nat) (texts : List Letters) : Letters :=
  (texts.foldl (fun (state : Letters × Nat × Bool) text =>
    let (shown, column, isFirst) := state
    if isFirst then (text, text.length, false)
    else if column + text.length + 2 < width ∨ width = 0 then
      (shown ++ letters ", " ++ text, column + 2 + text.length, false)
    else (shown ++ letters ",\n" ++ text, text.length, false)) ([], 0, true)).1 ++ ['\n']

/-- How names are listed. -/
inductive ListingForm where
  | single
  | long
  | columns (down : Bool)
  | commas

/-- The form in which names are listed. -/
def listingForm (parsed : Parsed) : ListingForm :=
  let chosen := (parsed.options.reverse.find? fun (option, _) => "1lCxmgno".toList.contains option || option == 'M')
  match chosen with
  | some ('C', _) => .columns true
  | some ('x', _) => .columns false
  | some ('m', _) => .commas
  | some ('1', _) => if ['l', 'g', 'n', 'o'].any parsed.has then .long else .single
  | some ('M', format) =>
    match String.ofList format with
    | "vertical" => .columns true
    | "across" => .columns false
    | "horizontal" => .columns false
    | "commas" => .commas
    | "long" => .long
    | "verbose" => .long
    | _ => .single
  | some _ => .long
  | none => .single

/-- The size of a file in the units that are asked for. -/
def listedSize (parsed : Parsed) (size : Nat) : Letters :=
  match parsed.lastOf? ['h', 'H'] with
  | some 'h' => humanSize 1024 size
  | _ => digits size

/-- Names in the form that is asked for, with the sum of their sizes in front if it is told. -/
def listNames (parsed : Parsed) (width : Nat) (told : Bool) (names : List ListedName) : Letters :=
  let form := listingForm parsed
  let isLong := form matches .long
  let blocks (facts : FileFacts) : Letters :=
    if parsed.has 'h' then humanSize 1024 (facts.kilobytes * 1024) else digits facts.kilobytes
  let total := (names.map fun name => name.facts.kilobytes).foldl (· + ·) 0
  let header := if told ∧ (isLong ∨ parsed.has 's') then
      letters "total " ++ (if parsed.has 'h' then humanSize 1024 (total * 1024) else digits total) ++ ['\n']
    else []
  let widest (text : FileFacts → Letters) : Nat := (names.map fun name => (text name.facts).length).foldl max 0
  let blocksBefore (name : ListedName) : Letters :=
    if parsed.has 's' then padLeft (widest blocks) (blocks name.facts) ++ [' '] else []
  let owner := letters (if parsed.has 'n' then "0" else "root")
  let line (name : ListedName) : Letters :=
    let facts := name.facts
    let owners := (if parsed.has 'g' then [] else owner ++ [' '])
      ++ (if parsed.has 'o' ∨ parsed.has 'G' then [] else owner ++ [' '])
    let arrow := match facts.link with
      | some path => letters " -> " ++ path
      | none => []
    blocksBefore name ++ facts.permissions ++ [' ']
      ++ padLeft (widest fun facts => digits facts.names) (digits facts.names) ++ [' '] ++ owners
      ++ padLeft (widest fun facts => listedSize parsed facts.size) (listedSize parsed facts.size)
      ++ letters " Jan  1  1970 " ++ (if facts.link.isSome then { name with facts := { facts with link := none } } else name).shown parsed
      ++ arrow ++ ['\n']
  let texts := names.map fun name => blocksBefore name ++ name.shown parsed
  header ++ match form with
    | .long => (names.map line).flatten
    | .single => unlines texts
    | .columns down => if texts.isEmpty then [] else inColumns width down texts
    | .commas => if texts.isEmpty then [] else withCommas width texts

/-- What stands behind the last dot of a name, with the dot. -/
def nameEnding (name : Letters) : Letters :=
  let ending := (name.reverse.takeWhile (· != '.')).reverse
  if ending.length < name.length then '.' :: ending else []

/-- Whether a name is listed before another one. -/
def listedBefore (parsed : Parsed) (left right : ListedName) : Bool :=
  let sort := (parsed.options.reverse.find? fun (option, _) => "SXvtUf".toList.contains option || option == 'O')
  let byName := comesBefore left.name right.name
  let bySize := right.facts.size < left.facts.size || (left.facts.size == right.facts.size && byName)
  let byEnding := (compareLetters (nameEnding left.name) (nameEnding right.name)).then (compareLetters left.name right.name) |>.isLE
  let byVersion := ((compareVersions left.name right.name).then (compareLetters left.name right.name)).isLE
  match sort with
  | some ('S', _) => bySize
  | some ('X', _) => byEnding
  | some ('v', _) => byVersion
  | some ('O', key) =>
    match String.ofList key with
    | "size" => bySize
    | "extension" => byEnding
    | "version" => byVersion
    | _ => byName
  | _ => byName

/-- Names in the order in which they are listed. -/
def listedInOrder (parsed : Parsed) (names : List ListedName) : List ListedName :=
  let sorted := names.mergeSort (listedBefore parsed)
  let ordered := if parsed.has 'r' then sorted.reverse else sorted
  if parsed.has 'D' then
    ordered.filter (·.facts.isDirectory) ++ ordered.filter fun name => !name.facts.isDirectory
  else ordered

/-- The names in a directory as they are listed. -/
def listing (system : System) (parsed : Parsed) (place : Location) : List ListedName :=
  let names := (namesIn system.disk place).map letters
  let all := parsed.has 'a' || parsed.has 'f'
  let ignored (name : Letters) : Bool :=
    (parsed.has 'B' && name.getLast? == some '~')
      || parsed.options.any fun (option, pattern) =>
        (option == 'I' || (option == 'i' && !all && !parsed.has 'A')) && isMatch pattern name
  let shown := (if all ∨ parsed.has 'A' then names else names.filter (·.head? != some '.')).filter fun name => !ignored name
  let withDots := if all then ['.'] :: ['.', '.'] :: shown else shown
  listedInOrder parsed (withDots.filterMap fun name =>
    let inner := if name = ['.'] then place else if name = ['.', '.'] then place.dropLast else place ++ [spelled name]
    (FileFacts.at? system (parsed.has 'L') inner).map fun facts => { name, facts })

/-- The directories at and below one, each with its path, at most `fuel` levels of them. -/
def directoriesAt (system : System) (parsed : Parsed) : (fuel : Nat) → Letters → Location →
    List (Letters × Location)
  | 0, path, place => [(path, place)]
  | fuel + 1, path, place =>
    (path, place) :: (listing system parsed place).flatMap fun listed =>
      if listed.facts.isDirectory ∧ listed.name ≠ ['.'] ∧ listed.name ≠ ['.', '.'] then
        directoriesAt system parsed fuel (below path listed.name) (place ++ [spelled listed.name])
      else []

/-- Lists files and directories. -/
def ls : Utility := fun _ arguments =>
  let kinds : OptionKinds :=
    { plain := "aA1drFpCxUtSRlgnoshkcufXvBNbqQLHGmDyZz", valued := "IwTMOYiE", loose := "K"
      long := [("all", 'a'), ("almost-all", 'A'), ("directory", 'd'), ("reverse", 'r'), ("recursive", 'R'),
        ("classify", 'F'), ("file-type", 'y'), ("indicator-style", 'Y'), ("size", 's'), ("human-readable", 'h'),
        ("ignore", 'I'), ("hide", 'i'), ("ignore-backups", 'B'), ("width", 'w'), ("format", 'M'), ("sort", 'O'),
        ("group-directories-first", 'D'), ("dereference", 'L'), ("quote-name", 'Q'), ("escape", 'b'),
        ("literal", 'N'), ("no-group", 'G'), ("numeric-uid-gid", 'n'), ("color", 'K'), ("time-style", 'E'),
        ("hide-control-chars", 'q'), ("zero", 'z')] }
  withOptions "ls" kinds 2 arguments fun parsed => do
    let system := (← get).system
    let width := match parsed.value? 'w', (← process).lookup (letters "COLUMNS") with
      | some text, _ => (natural? text).getD 80
      | none, some text => (natural? text).getD 80
      | none, none => 80
    let operands := if parsed.operands.isEmpty then [['.']] else parsed.operands
    let isLong := listingForm parsed matches .long
    let namesOnly := isLong || parsed.has 'd' || parsed.has 'F'
    let read (state : List ListedName × List (ListedName × Location) × Nat) (path : Letters) :
        Run (List ListedName × List (ListedName × Location) × Nat) := do
      let (files, directories, status) := state
      let followed ← lookUp path
      let named ← lookUpName path
      let found := if parsed.has 'L' ∨ parsed.has 'H' ∨ (!namesOnly ∧ (followed matches .ok (_, .directory))) then
          followed.toOption.or named.toOption
        else named.toOption
      match found, named with
      | some (place, _), _ =>
        match FileFacts.at? system (parsed.has 'L') place with
        | some facts =>
          let listed : ListedName := { name := path, facts }
          if facts.isDirectory ∧ !parsed.has 'd' then return (files, directories ++ [(listed, place)], status)
          else return (files ++ [listed], directories, status)
        | none => return state
      | none, .error fault =>
        warn "ls" (onPath "cannot access " path fault)
        return (files, directories, 2)
      | none, .ok _ => return state
    let (files, directories, status) ← operands.foldlM read ([], [], 0)
    let files := listedInOrder parsed files
    let sorted := directories.mergeSort fun left right => listedBefore parsed left.1 right.1
    let directories := (if parsed.has 'r' then sorted.reverse else sorted).map fun (listed, place) => (listed.name, place)
    let directories := if parsed.has 'R' then
        directories.flatMap fun (path, place) => directoriesAt system parsed system.disk.entries.length path place
      else directories
    let titled := 2 ≤ parsed.operands.length || parsed.has 'R'
    let blocks := directories.map fun (path, place) =>
      (if titled then path ++ letters ":\n" else []) ++ listNames parsed width true (listing system parsed place)
    let filesBlock := if files.isEmpty then [] else [listNames parsed width false files]
    let shown := ['\n'].intercalate (filesBlock ++ blocks)
    say (if parsed.has 'z' then shown.map fun c => if c = '\n' then '\x00' else c else shown)
    return status

/-- Lists files and directories in columns, and shows what cannot be typed. -/
def dir : Utility := fun runner arguments =>
  ls runner (letters "-C" :: letters "-b" :: arguments)

/-! ## Facts on files -/

/-- What a letter of a format stands for. -/
def factOf (path : Letters) (facts : FileFacts) : Char → Letters
  | 'n' => path
  | 'N' => quoted path ++ (match facts.link with
    | some target => letters " -> " ++ quoted target
    | none => [])
  | 's' => digits facts.size
  | 'F' => facts.kind
  | 'a' => facts.mode
  | 'A' => facts.permissions
  | 'h' => digits facts.names
  | 'b' => digits (facts.kilobytes * 2)
  | 'B' => letters "512"
  | 'o' => letters "4096"
  | 'u' => ['0']
  | 'g' => ['0']
  | 'U' => letters "root"
  | 'G' => letters "root"
  | 'm' => ['/']
  | 't' => ['0']
  | 'T' => ['0']
  | 'w' => ['-']
  | 'C' => ['?']
  | c => if "iDdfWXYZxyz".toList.contains c then ['0'] else ['?']

/-- Puts facts into a format, in at most `fuel` steps; `escapes` tells whether backslashes count. -/
def formatFacts (escapes : Bool) (path : Letters) (facts : FileFacts) : (fuel : Nat) → Letters → Letters
  | 0, _ => []
  | _, [] => []
  | fuel + 1, '%' :: '%' :: rest => '%' :: formatFacts escapes path facts fuel rest
  | fuel + 1, '%' :: rest =>
    let flags := rest.takeWhile fun c => "#-+ 0".toList.contains c
    let width := (rest.drop flags.length).takeWhile Char.isDigit
    let afterWidth := rest.drop (flags.length + width.length)
    let (precision?, directive) : Option Nat × Letters := match afterWidth with
      | '.' :: after =>
        let count := after.takeWhile Char.isDigit
        (some ((natural? count).getD 0), after.drop count.length)
      | after => (none, after)
    let layout : Layout := { (Layout.withFlags flags) with width := (natural? width).getD 0, precision := precision? }
    match directive with
    | [] => ['%']
    | c :: after =>
      let fact := factOf path facts c
      let isNumeric := "sahbBoug".toList.contains c
      let shown := if isNumeric ∧ layout.zeros ∧ !layout.left then
          List.replicate (layout.width - fact.length) '0' ++ fact
        else layout.setText fact
      shown ++ formatFacts escapes path facts fuel after
  | fuel + 1, '\\' :: rest =>
    if escapes then
      let (c, after) := readEscape rest
      c :: formatFacts escapes path facts fuel after
    else '\\' :: formatFacts escapes path facts fuel rest
  | fuel + 1, c :: rest => c :: formatFacts escapes path facts fuel rest

/-- Tells facts on files in a format. -/
def stat : Utility := fun _ arguments =>
  let kinds : OptionKinds :=
    { plain := "Lft", valued := "cP"
      long := [("dereference", 'L'), ("file-system", 'f'), ("terse", 't'), ("format", 'c'), ("printf", 'P')] }
  withOptions "stat" kinds 1 arguments fun parsed => do
    if parsed.operands.isEmpty then
      return ← misuse "stat" (letters "missing operand") 1
    let system := (← get).system
    forOperands parsed.operands fun path => do
      match ← if parsed.has 'L' then lookUp path else lookUpName path with
      | .error fault =>
        warn "stat" (onPath "cannot statx " path fault)
        return 1
      | .ok (place, _) =>
        match FileFacts.at? system (parsed.has 'L') place with
        | none => return 1
        | some facts =>
          match parsed.lastOf? ['c', 'P'] with
          | some 'P' => 
            let format := (parsed.value? 'P').getD []
            say (formatFacts true path facts (format.length + 1) format)
          | some _ =>
            let format := (parsed.value? 'c').getD []
            say (formatFacts false path facts (format.length + 1) format ++ ['\n'])
          | none =>
            let format := letters "  File: %N\n  Size: %-10s\tBlocks: %-10b IO Block: %-6o %F\nDevice: 0,0\tInode: 0           Links: %h\nAccess: (%04a/%10.10A)  Uid: (    0/    root)   Gid: (    0/    root)\nAccess: 1970-01-01 00:00:00.000000000 +0000\nModify: 1970-01-01 00:00:00.000000000 +0000\nChange: 1970-01-01 00:00:00.000000000 +0000\n Birth: -\n"
            say (formatFacts false path facts (format.length + 1) format)
          return 0

/-! ## Where paths lead -/

/-- Tells what links lead to. -/
def readlink : Utility := fun _ arguments =>
  let kinds : OptionKinds :=
    { plain := "femnqsvz"
      long := [("canonicalize", 'f'), ("canonicalize-existing", 'e'), ("canonicalize-missing", 'm'),
        ("no-newline", 'n'), ("quiet", 'q'), ("silent", 's'), ("verbose", 'v'), ("zero", 'z')] }
  withOptions "readlink" kinds 1 arguments fun parsed => do
    if parsed.operands.isEmpty then
      return ← misuse "readlink" (letters "missing operand") 1
    let ending := if parsed.has 'n' ∧ parsed.operands.length = 1 then []
      else if parsed.has 'z' then ['\x00'] else ['\n']
    forOperands parsed.operands fun path => do
      let refuse (reason : Letters) : Run Nat := do
        if parsed.has 'v' then
          warn "readlink" (path ++ letters ": " ++ reason)
        return 1
      match parsed.lastOf? ['f', 'e', 'm'] with
      | some option =>
        let need : PathNeed := if option = 'f' then .directories else if option = 'e' then .all else .nothing
        match ← locateWith need true path with
        | .ok place =>
          say (letters (Disk.pathOf place) ++ ending)
          return 0
        | .error fault => refuse (letters (reasonOf fault))
      | none =>
        match ← lookUpName path with
        | .error fault => refuse (letters (reasonOf fault))
        | .ok (place, _) =>
          match ← linkAt? place with
          | some target =>
            say (target ++ ending)
            return 0
          | none => refuse (letters (reasonOf .invalidPath))

/-- The path from one location to another, if both are below a base. -/
def relativePath (base? directory? : Option Location) (place : Location) : Letters :=
  let absolute := letters (Disk.pathOf place)
  match base?, directory? with
  | none, none => absolute
  | none, some directory => pathBetween directory place
  | some base, none => if base.isPrefixOf place then pathBetween base place else absolute
  | some base, some directory =>
    if base.isPrefixOf place ∧ base.isPrefixOf directory then pathBetween directory place else absolute

/-- Tells where paths lead without links. -/
def realpath : Utility := fun _ arguments =>
  let kinds : OptionKinds :=
    { plain := "emqsLPz", valued := "TB"
      long := [("canonicalize-existing", 'e'), ("canonicalize-missing", 'm'), ("quiet", 'q'), ("strip", 's'),
        ("no-symlinks", 's'), ("logical", 'L'), ("physical", 'P'), ("zero", 'z'), ("relative-to", 'T'),
        ("relative-base", 'B')] }
  withOptions "realpath" kinds 1 arguments fun parsed => do
    if parsed.operands.isEmpty then
      return ← misuse "realpath" (letters "missing operand") 1
    let need : PathNeed := match parsed.lastOf? ['e', 'm'] with
      | some 'e' => .all
      | some _ => .nothing
      | none => if parsed.has 's' then .nothing else .directories
    let base? ← (parsed.value? 'B').mapM fun path => return (← locateWith need true path).toOption.getD []
    let directory? ← (parsed.value? 'T').mapM fun path => return (← locateWith need true path).toOption.getD []
    forOperands parsed.operands fun path => do
      match ← locateWith need (!parsed.has 's') path with
      | .ok place =>
        say (relativePath base? directory? place ++ [if parsed.has 'z' then '\x00' else '\n'])
        return 0
      | .error fault =>
        unless parsed.has 'q' do
          warn "realpath" (path ++ letters ": " ++ letters (reasonOf fault))
        return 1

/-! ## Sizes of directories -/

/-- The sizes of what stands at a location and below it, at most `fuel` levels deep, each with its path
and depth; the first is that of the location. -/
def sizesAt (system : System) (sizeOf : FileFacts → Nat) (apart : Bool) :
    (fuel depth : Nat) → Letters → Location → Nat × List (Nat × Letters × Nat × Bool)
  | 0, _, _, _ => (0, [])
  | fuel + 1, depth, path, place =>
    match FileFacts.at? system false place with
    | none => (0, [])
    | some facts =>
      if facts.isDirectory then
        let inner := (namesIn system.disk place).map fun name =>
          (sizesAt system sizeOf apart fuel (depth + 1) (below path (letters name)) (place ++ [name]),
            system.disk.entry? (place ++ [name]) == some .directory)
        let total := sizeOf facts + ((inner.filter fun ((_, _), isDirectory) => !apart || !isDirectory).map fun ((size, _), _) => size).foldl (· + ·) 0
        (total, (inner.flatMap fun ((_, sizes), _) => sizes) ++ [(total, path, depth, true)])
      else
        (sizeOf facts, [(sizeOf facts, path, depth, false)])

/-- Adds up the sizes of files and directories. -/
def du : Utility := fun _ arguments =>
  let kinds : OptionKinds :=
    { plain := "abschkmSLlxP0HDA", valued := "dBtXE"
      long := [("all", 'a'), ("bytes", 'b'), ("summarize", 's'), ("total", 'c'), ("human-readable", 'h'),
        ("max-depth", 'd'), ("apparent-size", 'A'), ("separate-dirs", 'S'), ("block-size", 'B'), ("null", '0')] }
  withOptions "du" kinds 1 arguments fun parsed => do
    let system := (← get).system
    let inBytes := parsed.has 'b' || parsed.has 'A'
    let sizeOf (facts : FileFacts) : Nat := if inBytes then (if facts.isDirectory then 0 else facts.size) else facts.kilobytes * 1024
    let unit := match parsed.lastOf? ['b', 'k', 'm', 'B'] with
      | some 'b' => 1
      | some 'm' => 1048576
      | some 'B' => ((parsed.value? 'B').bind byteCount?).getD 1024
      | _ => 1024
    let shown (size : Nat) : Letters :=
      if parsed.has 'h' then humanSize 1024 size else digits ((size + unit - 1) / unit)
    let most? := if parsed.has 's' then some 0 else (parsed.value? 'd').bind natural?
    let line (size : Nat) (path : Letters) : Letters :=
      shown size ++ '\t' :: path ++ [if parsed.has '0' then '\x00' else '\n']
    let (total, status) ← (if parsed.operands.isEmpty then [['.']] else parsed.operands).foldlM
      (fun (total, status) path => do
        match ← lookUpName path with
        | .error fault =>
          warn "du" (onPath "cannot access " path fault)
          return (total, 1)
        | .ok (place, _) =>
          let (size, sizes) := sizesAt system sizeOf (parsed.has 'S') (system.disk.entries.length + 1) 0 path place
          for (size, path, depth, isDirectory) in sizes do
            if most?.all (depth ≤ ·) ∧ (isDirectory ∨ parsed.has 'a' ∨ depth = 0) then
              say (line size path)
          return (total + size, status)) (0, 0)
    if parsed.has 'c' then
      say (line total (letters "total"))
    return status

end MonitorBench.Shell
