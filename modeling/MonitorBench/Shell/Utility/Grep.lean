import MonitorBench.Shell.Regex.Perl
import MonitorBench.Shell.Regex.Reader
import MonitorBench.Shell.Utility.Files
import MonitorBench.Shell.Utility.Lines

/-!
# Looking for lines that match

Lines that match one of several patterns are printed, or those that match none; they can be
counted or only the parts that match be shown, with titles, numbers and the lines around
them. The status tells whether there was a line.
-/

set_option autoImplicit false

namespace MonitorBench.Shell

/-- How patterns have to match a line. -/
structure Matching where
  patterns : List Regex
  mode : RegexMode := {}
  /-- Whether they have to match the whole line. -/
  whole : Bool := false
  /-- Whether they have to match whole words. -/
  words : Bool := false

namespace Matching

/-- The match that counts at the front of a text; of several the longest does. -/
def best (matching : Matching) (before text : Letters) : Option Spot :=
  let spotsOf (regex : Regex) : List Spot :=
    if regex.firstCounts then (regex.matchAt matching.mode before text).toList
    else regex.part.reach matching.mode regex.part.asksGroups { before, rest := text }
  let fits (spot : Spot) : Bool :=
    (!matching.words || (!(before.head?.any isNameLetter) && !(spot.rest.head?.any isNameLetter)))
      && (!matching.whole || (before.isEmpty && spot.rest.isEmpty))
  ((matching.patterns.flatMap spotsOf).filter fits).foldl
    (fun best spot => match best with
      | some other => if spot.rest.length < other.rest.length then some spot else best
      | none => some spot)
    none

/-- The parts of a line that match, none of them empty, each with the number of letters before it. -/
def parts (matching : Matching) : (fuel : Nat) → (before : Letters) → Letters → List (Nat × Letters)
  | 0, _, _ => []
  | _, _, [] => []
  | fuel + 1, before, c :: cs =>
    match matching.best before (c :: cs) with
    | some spot =>
      if spot.reversed.isEmpty then parts matching fuel (c :: before) cs
      else
        let shown := spot.taken.drop spot.forgotten
        let others := parts matching fuel (spot.reversed ++ before) spot.rest
        if shown.isEmpty then others else (before.length + spot.forgotten, shown) :: others
    | none => parts matching fuel (c :: before) cs

/-- Whether there is a match in a text behind letters of which the last comes first. -/
def fitsWithin (matching : Matching) : (before : Letters) → Letters → Bool
  | before, [] => (matching.best before []).isSome
  | before, c :: cs => (matching.best before (c :: cs)).isSome || fitsWithin matching (c :: before) cs

/-- Whether a line matches. -/
def holds (matching : Matching) (line : Letters) : Bool :=
  if matching.whole then (matching.best [] line).isSome else matching.fitsWithin [] line

end Matching

/-- A line of a text that is looked through. -/
structure SearchedLine where
  text : Letters
  /-- The number of the line, from one on. -/
  number : Nat
  /-- The number of letters before the line. -/
  offset : Nat
  /-- Whether the line is chosen. -/
  isChosen : Bool

/-- Lines with their numbers and offsets; a test chooses them, at most as many as are given. -/
def searchedLines (chosen : Letters → Bool) : (most : Option Nat) → (number offset : Nat) → List Letters →
    List SearchedLine
  | _, _, _, [] => []
  | most, number, offset, text :: lines =>
    let isChosen := most != some 0 && chosen text
    { text, number, offset, isChosen }
      :: searchedLines chosen (if isChosen then most.map (· - 1) else most) (number + 1)
        (offset + text.length + 1) lines

/-- How lines that match are shown. -/
structure MatchShow where
  /-- What stands in front of a line, if anything does. -/
  title : Option Letters
  /-- The mark behind the title, if it is always the same. -/
  titleMark : Option Char := none
  numbered : Bool := false
  /-- Whether the number of letters before is shown. -/
  placed : Bool := false
  /-- Whether a tab stands before the line. -/
  tabbed : Bool := false
  /-- Whether only the parts that match are shown. -/
  partsOnly : Bool := false
  /-- How many lines are shown before and after one that matches, if that was asked for. -/
  around : Option (Nat × Nat) := none
  ending : Char := '\n'

namespace MatchShow

/-- What stands in front of a line, or of a part of one. -/
def front (mode : MatchShow) (mark : Char) (number offset : Nat) : Letters :=
  let marks := (match mode.title with
      | some title => title ++ [mode.titleMark.getD mark]
      | none => [])
    ++ (if mode.numbered then digits number ++ [mark] else [])
    ++ (if mode.placed then digits offset ++ [mark] else [])
  if mode.tabbed ∧ marks ≠ [] then marks.dropLast ++ ['\t'] else marks

/-- A line as it is shown. -/
def lineText (mode : MatchShow) (matching : Matching) (line : SearchedLine) : Letters :=
  if mode.partsOnly then
    if line.isChosen then
      (matching.parts (line.text.length + 1) [] line.text).flatMap fun (before, part) =>
        mode.front ':' line.number (line.offset + before) ++ part ++ [mode.ending]
    else []
  else
    mode.front (if line.isChosen then ':' else '-') line.number line.offset ++ line.text ++ [mode.ending]

/-- Shows the lines that are chosen, and those around them. -/
def text (mode : MatchShow) (matching : Matching) (lines : List SearchedLine) : Letters :=
  let (before, after) := mode.around.getD (0, 0)
  let chosen := (lines.filter SearchedLine.isChosen).map SearchedLine.number
  let isNear (number : Nat) : Bool :=
    chosen.any fun other => other ≤ number + before && number ≤ other + after
  let near := if mode.around.isNone then lines.filter SearchedLine.isChosen
    else lines.filter fun line => isNear line.number
  let add (state : Letters × Nat) (line : SearchedLine) : Letters × Nat :=
    let gap := if mode.around.isSome ∧ state.2 ≠ 0 ∧ state.2 + 1 < line.number then letters "--\n" else []
    (state.1 ++ gap ++ mode.lineText matching line, line.number)
  (near.foldl add ([], 0)).1

end MatchShow

/-- The files at and below a location, each with its path, at most `fuel` levels deep; tests tell which
files and which directories count, and `through` whether links do. -/
def filesBelow (system : System) (through : Bool) (isFile isDirectory : Letters → Bool) :
    (fuel : Nat) → Letters → Location → List Letters
  | 0, _, _ => []
  | fuel + 1, path, place =>
    if system.disk.entry? place = some .directory then
      (namesIn system.disk place).flatMap fun name =>
        let path := if path = [] then letters name else below path (letters name)
        let inner := place ++ [name]
        let aimed := (system.disk.locate (system.aim true (Disk.pathOf inner))).toOption.getD inner
        let isInner := system.disk.entry? aimed = some .directory
        if !through ∧ (system.softLink? inner).isSome then []
        else if isInner ∧ !isDirectory (letters name) then []
        else if !isInner ∧ !isFile (letters name) then []
        else filesBelow system through isFile isDirectory fuel path aimed
    else [path]

/-- In which way the patterns are written. -/
inductive PatternWay where
  | basic
  | extended
  | fixed
  /-- With looks around. -/
  | looking
  deriving DecidableEq

/-- The regular expressions that patterns are, or why they are none. -/
def searchPatterns (way : PatternWay) (fold whole words : Bool) (texts : List Letters) :
    Except Letters (List Regex) :=
  match way with
  | .fixed => .ok (texts.map Regex.ofText)
  | .looking =>
    match texts with
    | [text] =>
      match LookingRegex.parse fold text with
      | .ok regex =>
        let word : RegexPart := .choice false (LookingRegex.membersWhere isNameLetter)
        let part :=
          if whole then .sequence .textStart (.sequence regex.part .textEnd)
          else if words then .sequence (.behind true word) (.sequence regex.part (.ahead true word))
          else regex.part
        .ok [{ regex with part }]
      | .error fault => .error (letters fault.message)
    | _ => .error (letters "the -P option only supports a single pattern")
  | way =>
    texts.mapM fun text =>
      (Regex.parse { extended := way = .extended } text).mapError fun fault => letters fault.message

/-- The arguments with the numbers behind dashes made options for the lines around. -/
def expandAround (argument : Letters) : List Letters :=
  match argument with
  | '-' :: c :: cs =>
    if c.isDigit then
      let count := (c :: cs).takeWhile Char.isDigit
      let rest := (c :: cs).drop count.length
      ('-' :: 'C' :: count) :: (if rest = [] then [] else ['-' :: rest])
    else [argument]
  | _ => [argument]

/-- How far a search has come: whether a line was found, whether a file could not be read, whether
lines were printed, and whether the search is over. -/
structure SearchState where
  found : Bool := false
  failed : Bool := false
  printed : Bool := false
  finished : Bool := false

/-- The options of the search for lines. -/
def searchOptions : OptionKinds :=
  { plain := "qvcniyFEGPxwolLshHarRzbTZUI", valued := "emfABCdD!?~%", loose := "\x01"
    long := [("quiet", 'q'), ("silent", 'q'), ("invert-match", 'v'), ("count", 'c'),
      ("line-number", 'n'), ("ignore-case", 'i'), ("fixed-strings", 'F'), ("extended-regexp", 'E'),
      ("basic-regexp", 'G'), ("perl-regexp", 'P'), ("line-regexp", 'x'), ("word-regexp", 'w'),
      ("only-matching", 'o'), ("files-with-matches", 'l'), ("files-without-match", 'L'),
      ("no-messages", 's'), ("regexp", 'e'), ("file", 'f'), ("no-filename", 'h'),
      ("with-filename", 'H'), ("max-count", 'm'), ("recursive", 'r'), ("dereference-recursive", 'R'),
      ("after-context", 'A'), ("before-context", 'B'), ("context", 'C'), ("byte-offset", 'b'),
      ("null", 'Z'), ("null-data", 'z'), ("initial-tab", 'T'), ("text", 'a'), ("label", '!'),
      ("include", '?'), ("exclude", '~'), ("exclude-dir", '%'), ("line-buffered", 'U'), ("binary", 'U'),
      ("directories", 'd'), ("devices", 'D'), ("color", '\x01'), ("colour", '\x01')] }

/-- Prints the lines that patterns match; an option can lay down another way to write them. -/
def searchLines (usual : PatternWay) (arguments : List Letters) : Run Nat := do
  let name := "grep"
  withOptions name searchOptions 2 (arguments.flatMap expandAround) fun parsed => do
    let refuse (message : Letters) : Run Nat := do
      warn name message
      return 2
    let given := parsed.options.filter fun option => option.1 = 'e' ∨ option.1 = 'f'
    if given.isEmpty ∧ parsed.operands.isEmpty then
      let _ ← emit errors (letters "Usage: grep [OPTION]... PATTERNS [FILE]...\nTry 'grep --help' for more information.\n")
      return 2
    for option in ['A', 'B', 'C'] do
      match parsed.value? option with
      | some text =>
        if (natural? text).isNone then
          return ← refuse (text ++ letters ": invalid context length argument")
      | none => pure ()
    let most? ← match parsed.value? 'm' with
      | none => pure none
      | some text =>
        match integer? text with
        | some count => pure (if count < 0 then none else some count.toNat)
        | none => return ← refuse (letters "invalid max count")
    let mut texts : List Letters := []
    for (option, text) in given do
      if option = 'e' then
        texts := texts ++ Text.splitOn '\n' text
      else
        match ← contentOf text with
        | .ok content => texts := texts ++ linesOf content
        | .error fault => return ← refuse (plainly text fault)
    if given.isEmpty then
      texts := (parsed.operands.take 1).flatMap (Text.splitOn '\n')
    let operands := if given.isEmpty then parsed.operands.drop 1 else parsed.operands
    let way : PatternWay := match parsed.lastOf? ['F', 'E', 'G', 'P'] with
      | some 'F' => .fixed
      | some 'E' => .extended
      | some 'G' => .basic
      | some 'P' => .looking
      | _ => usual
    let fold := parsed.has 'i' || parsed.has 'y'
    match searchPatterns way fold (parsed.has 'x') (parsed.has 'w') texts with
    | .error message => refuse message
    | .ok patterns =>
      let isLooking := way = .looking
      let matching : Matching :=
        { patterns, mode := { fold := fold && !isLooking }
          whole := parsed.has 'x' && !isLooking, words := parsed.has 'w' && !parsed.has 'x' && !isLooking }
      let recursive := parsed.has 'r' || parsed.has 'R' || parsed.value? 'd' = some (letters "recurse")
      let disk ← disk
      let system := (← get).system
      let aimed (path : Letters) : String := system.aim true (spelled path)
      let fitsAny (option : Char) (name : Letters) : Bool :=
        parsed.options.any fun (other, pattern) => other == option && isMatch pattern name
      let isFile (name : Letters) : Bool := (!parsed.has '?' || fitsAny '?' name) && !fitsAny '~' name
      let isDirectory (name : Letters) : Bool := !fitsAny '%' name
      let expanded :=
        if !recursive then (if operands.isEmpty then [['-']] else operands.filter fun path =>
          path = ['-'] || disk.find? (aimed path) = some .directory || isFile (lastName path))
        else (if operands.isEmpty then [['.']] else operands).flatMap fun path =>
          match disk.locate (aimed path) with
          | .ok place =>
            if disk.entry? place = some .directory then
              filesBelow system (parsed.has 'R') isFile isDirectory (disk.entries.length + 1) (if operands.isEmpty then [] else path) place
            else if isFile (lastName path) then [path] else []
          | .error _ => [path]
      let titled := (2 ≤ operands.length || recursive || parsed.has 'H')
        && (parsed.lastOf? ['h', 'H']) != some 'h'
      let around : Option (Nat × Nat) :=
        let count (option : Char) : Option Nat :=
          (parsed.value? option).bind natural? |>.or ((parsed.value? 'C').bind natural?)
        if (count 'A').isSome ∨ (count 'B').isSome then some ((count 'B').getD 0, (count 'A').getD 0) else none
      let ending := if parsed.has 'z' then '\x00' else '\n'
      let showsLines := !parsed.has 'q' && !parsed.has 'l' && !parsed.has 'L' && !parsed.has 'c'
      let target ← match ← streamOf output with
        | some (_, .file place _ _) => pure (some place)
        | _ => pure none
      let search (state : SearchState) (path : Letters) : Run SearchState := do
        if state.finished then
          return state
        let place := (disk.locate (aimed path)).toOption
        if parsed.value? 'd' = some (letters "skip") ∧ disk.find? (aimed path) = some .directory then
          return state
        if showsLines ∧ path ≠ ['-'] ∧ place.isSome ∧ place = target ∧ most?.all (1 < ·) then
          unless parsed.has 's' do
            warn name (path ++ letters ": input file is also the output")
          return { state with failed := true }
        match ← contentOf path with
        | .error fault =>
          unless parsed.has 's' do
            warn name (plainly path fault)
          return { state with failed := true }
        | .ok content =>
          let shownName := if path = ['-'] then (parsed.value? '!').getD (letters "(standard input)") else path
          let title := if titled then some shownName else none
          let all := barePieces ending content
          let lines := searchedLines (fun line => matching.holds line != parsed.has 'v') most? 1 0 all
          let count := (lines.filter SearchedLine.isChosen).length
          if path = ['-'] ∧ most?.any (· ≤ count) then
            let used := match (lines.filter SearchedLine.isChosen).getLast? with
              | some line => line.offset + line.text.length + 1
              | none => 0
            giveBack (content.length - used)
          let next := { state with found := state.found || 0 < count }
          let nameEnding := if parsed.has 'Z' then ['\x00'] else ['\n']
          if parsed.has 'q' then
            return { next with finished := 0 < count }
          else if parsed.has 'l' ∨ parsed.has 'L' then
            let wanted := parsed.lastOf? ['l', 'L'] = some 'l'
            if (0 < count : Bool) = wanted then
              say (shownName ++ nameEnding)
            return next
          else if parsed.has 'c' then
            say ((match title with
              | some title => title ++ (if parsed.has 'Z' then ['\x00'] else [':'])
              | none => []) ++ digits count ++ ['\n'])
            return next
          else if content.contains '\x00' ∧ !parsed.has 'a' ∧ !parsed.has 'z' ∧ 0 < count then
            if !parsed.has 'I' then
              warn name (shownName ++ letters ": binary file matches")
            return if parsed.has 'I' then state else next
          else
            let mode : MatchShow :=
              { title, titleMark := if parsed.has 'Z' then some '\x00' else none
                numbered := parsed.has 'n', placed := parsed.has 'b', tabbed := parsed.has 'T'
                partsOnly := parsed.has 'o', around, ending }
            let text := mode.text (if parsed.has 'v' then { matching with patterns := [] } else matching) lines
            if around.isSome ∧ state.printed ∧ 0 < count then
              say (letters "--\n")
            say text
            return { next with printed := state.printed || 0 < count }
      let state ← expanded.foldlM search {}
      return if state.failed ∧ !state.finished then 2 else if state.found then 0 else 1

/-- Prints the lines that basic patterns match. -/
def grep : Utility := fun _ arguments => searchLines .basic arguments

/-- Prints the lines that extended patterns match. -/
def egrep : Utility := fun _ arguments => searchLines .extended arguments

/-- Prints the lines that hold fixed texts. -/
def fgrep : Utility := fun _ arguments => searchLines .fixed arguments

end MonitorBench.Shell
