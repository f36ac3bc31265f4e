import MonitorBench.Shell.Alteration
import MonitorBench.Shell.Regex.Reader
import MonitorBench.Shell.Utility.Files
import MonitorBench.Shell.Utility.Lines

/-!
# Utilities that compare files

One compares files byte by byte. The other tells by which lines files, or all the files in
directories, differ: the changes stand each by itself or with the lines around them, or both
files stand side by side. Lines can count as equal although they differ in blanks or case.
-/

set_option autoImplicit false

namespace MonitorBench.Shell

/-! ## Bytes -/

/-- The marks for a letter that is shown behind its number. -/
def markedLetter (c : Char) : Letters :=
  let low (n : Nat) : Letters :=
    if n < 32 then ['^', Char.ofNat (n + 64)] else if n = 127 then ['^', '?'] else [Char.ofNat n]
  if c.toNat < 128 then low c.toNat else 'M' :: '-' :: low (c.toNat - 128)

/-- A letter as an octal number at the right of three places. -/
def octalLetter (c : Char) : Letters :=
  padLeft 3 (Nat.toDigits 8 c.toNat)

/-- The numbers of bytes that are skipped in two files. -/
def skips? (text : Letters) : Option (Nat × Nat) :=
  match Text.cut ':' text with
  | (first, none) => (byteCount? first).map fun n => (n, n)
  | (first, some second) => do return (← byteCount? first, ← byteCount? second)

/-- Compares two files byte by byte. -/
def cmp : Utility := fun _ arguments =>
  let kinds : OptionKinds :=
    { plain := "bcls", valued := "in"
      long := [("print-bytes", 'b'), ("print-chars", 'c'), ("ignore-initial", 'i'), ("verbose", 'l'), ("bytes", 'n'),
        ("quiet", 's'), ("silent", 's')] }
  let refuse (message : Letters) : Run Nat := do
    warn "cmp" message
    warn "cmp" (letters "Try 'cmp --help' for more information.")
    return 2
  match parseUpTo kinds (arguments.length + 1) arguments {} with
  | .error message => refuse message
  | .ok parsed => do
    if parsed.has 'l' ∧ parsed.has 's' then
      return ← refuse (letters "options -l and -s are incompatible")
    let marks := parsed.has 'b' || parsed.has 'c'
    match parsed.operands with
    | [] => refuse (letters "missing operand after 'cmp'")
    | _ :: _ :: _ :: _ :: extra :: _ => refuse (letters "extra operand " ++ quoted extra)
    | left :: others =>
      let right := others.headD ['-']
      let operandSkips := others.drop 1
      for text in (parsed.value? 'i').toList ++ operandSkips do
        if (skips? text).isNone then
          return ← refuse (letters "invalid --ignore-initial value " ++ quoted text)
      match parsed.value? 'n' with
      | some text =>
        if (byteCount? text).isNone then
          return ← refuse (letters "invalid --bytes value " ++ quoted text)
      | none => pure ()
      let (skipLeft, skipRight) := match operandSkips with
        | [] => ((parsed.value? 'i').bind skips?).getD (0, 0)
        | [one] => ((byteCount? one).getD 0, 0)
        | one :: other :: _ => ((byteCount? one).getD 0, (byteCount? other).getD 0)
      let limit := (parsed.value? 'n').bind byteCount?
      let read (path : Letters) : Run (Except FileFault Letters) := contentOf path
      match ← read left, if left = right then pure (Except.ok []) else read right with
      | .error fault, _ =>
        unless parsed.has 's' ∧ fault = .notFound do
          warn "cmp" (plainly left fault)
        return 2
      | .ok content, second =>
        match ← second with
        | .error fault =>
          unless parsed.has 's' ∧ fault = .notFound do
            warn "cmp" (plainly right fault)
          return 2
        | .ok other =>
          let other := if left = right then content else other
          let bounded (text : Letters) : Letters := match limit with
            | some count => text.take count
            | none => text
          let first := bounded (content.drop skipLeft)
          let second := bounded (other.drop skipRight)
          let differing := (List.zip first second).zipIdx.filter fun ((c, d), _) => c != d
          let shorter := min first.length second.length
          let ends (last : Nat) : Run Nat := do
            if first.length = second.length then
              return last
            let (name, text) := if first.length < second.length then (left, first) else (right, second)
            unless parsed.has 's' do
              if text = [] then
                warn "cmp" (letters "EOF on " ++ name ++ letters " which is empty")
              else if parsed.has 'l' then
                warn "cmp" (letters "EOF on " ++ name ++ letters " after byte " ++ digits shorter)
              else
                let lines := text.count '\n'
                let place := if text.getLast? = some '\n' then letters ", line " ++ digits lines
                  else letters ", in line " ++ digits (lines + 1)
                warn "cmp" (letters "EOF on " ++ name ++ letters " after byte " ++ digits shorter ++ place)
            return 1
          if parsed.has 's' then
            return if first = second then 0 else 1
          if parsed.has 'l' then
            let width := (digits (min content.length other.length |> fun size => match limit with
              | some count => min size count
              | none => size)).length
            for ((c, d), place) in differing do
              let shown := if marks then
                  octalLetter c ++ [' '] ++ markedLetter c ++ List.replicate (4 - (markedLetter c).length) ' ' ++ [' ']
                    ++ octalLetter d ++ [' '] ++ markedLetter d
                else octalLetter c ++ [' '] ++ octalLetter d
              say (padLeft width (digits (place + 1)) ++ [' '] ++ shown ++ ['\n'])
            ends (if differing.isEmpty then 0 else 1)
          else
            match differing with
            | [] => ends 0
            | ((c, d), place) :: _ =>
              let line := (first.take place).count '\n' + 1
              let unit := if marks then "byte " else "char "
              say (left ++ [' '] ++ right ++ letters (" differ: " ++ unit) ++ digits (place + 1) ++ letters ", line " ++ digits line
                ++ (if marks then letters " is " ++ octalLetter c ++ [' '] ++ markedLetter c ++ [' '] ++ octalLetter d
                  ++ [' '] ++ markedLetter d else []) ++ ['\n'])
              return 1

/-! ## Lines -/

/-- How the differences of files are shown. -/
inductive DifferenceForm where
  | plain
  /-- Lines that are removed and added stand between those around them. -/
  | unified (around : Nat)
  /-- The lines of the first file stand before those of the second one. -/
  | context (around : Nat)
  /-- Commands that an editor can carry out. -/
  | commands
  /-- Commands with numbers of lines. -/
  | counted
  /-- Both files stand side by side. -/
  | beside (width : Nat)
  deriving DecidableEq

/-- How files are compared. -/
structure FileComparison where
  form : DifferenceForm := .plain
  /-- What of the blanks in a line counts. -/
  blanks : Char := ' '
  fold : Bool := false
  /-- Whether changes do not count that consist of empty lines. -/
  emptyLines : Bool := false
  /-- Whether changes do not count that consist of lines in which something is found. -/
  ignored : Option Regex := none
  dropsReturns : Bool := false
  minimal : Bool := false
  /-- Whether it is told only that files differ. -/
  brief : Bool := false
  tellsSame : Bool := false
  recursive : Bool := false
  /-- Whether a file that is missing counts as empty. -/
  missingIsEmpty : Bool := false
  /-- Whether files count as texts whatever they hold. -/
  asText : Bool := false
  tabbed : Bool := false
  expands : Bool := false
  onlyChanges : Bool := false
  leftOnly : Bool := false
  /-- The names that are left out of directories. -/
  excluded : List Letters := []
  /-- What stands for the names of files. -/
  names : List Letters := []
  /-- The options as they were given. -/
  given : List Letters := []

namespace FileComparison

/-- A line with tabulators made blanks. -/
def expanded (text : Letters) : Letters :=
  (text.foldl (fun (state : Letters × Nat) c =>
    if c = '\t' then
      let count := 8 - state.2 % 8
      (List.replicate count ' ' ++ state.1, state.2 + count)
    else (c :: state.1, state.2 + 1)) ([], 0)).1.reverse

/-- A text with a blank in place of each row of blanks, and none at the end. -/
def singleSpaced (text : Letters) : Letters :=
  let trimmed := (text.reverse.dropWhile isSpace).reverse
  (trimmed.foldl (fun (kept : Letters) c =>
    if isSpace c then (if kept.head? = some ' ' then kept else ' ' :: kept) else c :: kept) []).reverse

/-- What counts of a line; the mark tells whether it ends with a line feed, if that counts. -/
def key (comparison : FileComparison) (line : Letters) : Letters × Bool :=
  let ended := line.getLast? = some '\n'
  let text := if ended then line.dropLast else line
  let text := if comparison.dropsReturns ∧ text.getLast? = some '\r' then text.dropLast else text
  let spaced := match comparison.blanks with
    | 'w' => text.filter fun c => !isSpace c
    | 'b' => singleSpaced text
    | 'Z' => (text.reverse.dropWhile isSpace).reverse
    | 'E' => expanded text
    | 'z' => (expanded text).reverse.dropWhile isSpace |>.reverse
    | _ => text
  let folded := if comparison.fold then spaced.map Char.toLower else spaced
  (folded, ended || "wbZz".toList.contains comparison.blanks)

/-- Numbers for keys; equal keys have equal numbers. -/
def numbered (keys : List (Letters × Bool)) : List Nat :=
  (keys.foldl (fun (state : List Nat × List ((Letters × Bool) × Nat)) key =>
    match state.2.lookup key with
    | some number => (number :: state.1, state.2)
    | none => (state.2.length :: state.1, (key, state.2.length) :: state.2)) ([], [])).1.reverse

/-- How many lines around changes are shown. -/
def around (comparison : FileComparison) : Nat :=
  match comparison.form with
  | .unified around => around
  | .context around => around
  | _ => 0

/-- How many lines two lists begin with alike. -/
def sharedStart : List Letters → List Letters → Nat
  | line :: rest, other :: others => if line = other then sharedStart rest others + 1 else 0
  | _, _ => 0

/-- The changes that make one list of lines another one. What both begin or end with is left aside, but for
the lines that are shown around changes. -/
def changes (comparison : FileComparison) (old new : List Letters) : List Alteration :=
  let start := sharedStart old new - comparison.around
  let old' := old.drop start
  let new' := new.drop start
  let endsAlike := (old.getLast?.map fun line => line.getLast? == some '\n').getD true
    == (new.getLast?.map fun line => line.getLast? == some '\n').getD true
  let shared := if endsAlike then sharedStart old'.reverse new'.reverse else 0
  let stop := shared - comparison.around
  let old' := old'.take (old'.length - stop)
  let new' := new'.take (new'.length - stop)
  let numbers := numbered ((old' ++ new').map comparison.key)
  (Alteration.between comparison.minimal (numbers.take old'.length).toArray (numbers.drop old'.length).toArray).map
    fun change => { change with old := change.old + start, new := change.new + start }

/-- Whether a line does not count when a change consists of such lines. -/
def isIdle (comparison : FileComparison) (line : Letters) : Bool :=
  let text := if line.getLast? = some '\n' then line.dropLast else line
  let isEmpty := text.isEmpty || ("wbZz".toList.contains comparison.blanks && text.all isSpace)
  (comparison.emptyLines && isEmpty)
    || comparison.ignored.any fun regex => regex.fits {} text

/-- Whether changes count. -/
def counts (comparison : FileComparison) (old new : List Letters) (hunk : List Alteration) : Bool :=
  if !comparison.emptyLines && comparison.ignored.isNone then true
  else
    hunk.any fun change =>
      !(((old.drop change.old).take change.removed).all comparison.isIdle)
        || !(((new.drop change.new).take change.added).all comparison.isIdle)

/-- Changes that are shown together, because few lines stand between them. -/
def hunks (comparison : FileComparison) (old new : List Letters) (changes : List Alteration) : List (List Alteration) :=
  let idle (change : Alteration) : Bool := !comparison.counts old new [change]
  let joined (hunks : List (List Alteration)) (change : Alteration) : List (List Alteration) :=
    match hunks with
    | (last :: before) :: rest =>
      let most := if idle change then comparison.around else 2 * comparison.around + 1
      if comparison.around ≠ 0 ∧ change.old - (last.old + last.removed) < most then (change :: last :: before) :: rest
      else [change] :: hunks
    | _ => [change] :: hunks
  ((changes.foldl joined []).map List.reverse).reverse

/-! ### Forms -/

/-- A line behind a mark. -/
def lineBehind (comparison : FileComparison) (mark : Letters) (line : Letters) : Letters :=
  let ended := line.getLast? = some '\n'
  let shown := if comparison.expands then
      let text := expanded (if ended then line.dropLast else line)
      if ended then text ++ ['\n'] else text
    else line
  let gap := if mark.isEmpty then [] else if comparison.tabbed then
      (if (mark.getLast? == some ' ') then mark.dropLast ++ ['\t'] else mark ++ ['\t']) else mark
  gap ++ shown ++ (if ended then [] else letters "\n\\ No newline at end of file\n")

/-- The numbers of the lines from one place on, as they stand between commas. -/
def rangeText (first count : Nat) : Letters :=
  if count ≤ 1 then digits (first + count) else digits (first + 1) ++ ',' :: digits (first + count)

/-- The letter of a change. -/
def letterOf (change : Alteration) : Char :=
  if change.removed = 0 then 'a' else if change.added = 0 then 'd' else 'c'

/-- A change that stands by itself. -/
def plainChange (comparison : FileComparison) (old new : List Letters) (change : Alteration) : Letters :=
  let removed := (old.drop change.old).take change.removed
  let added := (new.drop change.new).take change.added
  rangeText change.old change.removed ++ [letterOf change] ++ rangeText change.new change.added ++ ['\n']
    ++ removed.flatMap (comparison.lineBehind (letters "< "))
    ++ (if removed.isEmpty ∨ added.isEmpty then [] else letters "---\n")
    ++ added.flatMap (comparison.lineBehind (letters "> "))

/-- A change as a command of an editor. -/
def commandChange (comparison : FileComparison) (new : List Letters) (change : Alteration) : Letters :=
  let added := (new.drop change.new).take change.added
  let add (state : Letters × Bool) (line : Letters) : Letters × Bool :=
    let (shown, inserting) := state
    let start := if inserting then [] else letters "a\n"
    if line = letters ".\n" then (shown ++ start ++ letters "..\n.\ns/.//\n", false)
    else (shown ++ start ++ comparison.lineBehind [] line, true)
  let (shown, inserting) := added.foldl add ([], true)
  rangeText change.old change.removed ++ [letterOf change, '\n'] ++ shown
    ++ (if added.isEmpty ∨ !inserting then [] else letters ".\n")

/-- A change as commands with numbers of lines. -/
def countedChange (new : List Letters) (change : Alteration) : Letters :=
  let added := (new.drop change.new).take change.added
  (if change.removed = 0 then [] else
      'd' :: digits (change.old + 1) ++ ' ' :: digits change.removed ++ ['\n'])
    ++ (if change.added = 0 then [] else
      'a' :: digits (change.old + change.removed) ++ ' ' :: digits change.added ++ ['\n'] ++ added.flatten)

/-- The places of the first line and behind the last line of a hunk with the lines around it in a file of
so many lines. -/
def bounds (comparison : FileComparison) (length first stop : Nat) : Nat × Nat :=
  (first - comparison.around, min length (stop + comparison.around))

/-- The bounds of a hunk in both files. -/
def hunkBounds (comparison : FileComparison) (old new : List Letters) (hunk : List Alteration) : (Nat × Nat) × Nat × Nat :=
  let first := hunk.head?
  let last := hunk.getLast?
  (comparison.bounds old.length ((first.map Alteration.old).getD 0) ((last.map fun change => change.old + change.removed).getD 0),
    comparison.bounds new.length ((first.map Alteration.new).getD 0) ((last.map fun change => change.new + change.added).getD 0))

/-- A hunk in which lines that are removed and added stand between those around them. -/
def unifiedHunk (comparison : FileComparison) (old new : List Letters) (hunk : List Alteration) : Letters :=
  let ((first, stop), otherFirst, otherStop) := comparison.hunkBounds old new hunk
  let range (first stop : Nat) : Letters :=
    let count := stop - first
    if count = 1 then digits stop else if count = 0 then digits stop ++ letters ",0"
    else digits (first + 1) ++ ',' :: digits count
  let add (state : Letters × Nat) (change : Alteration) : Letters × Nat :=
    let (shown, place) := state
    let kept := (old.drop place).take (change.old - place)
    (shown ++ kept.flatMap (comparison.lineBehind [' '])
      ++ ((old.drop change.old).take change.removed).flatMap (comparison.lineBehind ['-'])
      ++ ((new.drop change.new).take change.added).flatMap (comparison.lineBehind ['+']), change.old + change.removed)
  let (shown, place) := hunk.foldl add ([], first)
  letters "@@ -" ++ range first stop ++ letters " +" ++ range otherFirst otherStop ++ letters " @@\n" ++ shown
    ++ ((old.drop place).take (stop - place)).flatMap (comparison.lineBehind [' '])

/-- A hunk in which the lines of the first file stand before those of the second one. -/
def contextHunk (comparison : FileComparison) (old new : List Letters) (hunk : List Alteration) : Letters :=
  let ((first, stop), otherFirst, otherStop) := comparison.hunkBounds old new hunk
  let range (first stop : Nat) : Letters :=
    if stop ≤ first + 1 then digits stop else digits (first + 1) ++ ',' :: digits stop
  let marked (lines : List Letters) (first stop : Nat) (spans : List (Nat × Nat × Bool)) (single : String) : Letters :=
    ((lines.zipIdx.drop first).take (stop - first)).flatMap fun (line, place) =>
      let span := spans.find? fun (start, count, _) => start ≤ place && place < start + count
      let mark := match span with
        | some (_, _, both) => if both then "! " else single
        | none => "  "
      comparison.lineBehind (letters mark) line
  let removals := hunk.map fun change => (change.old, change.removed, change.added != 0)
  let additions := hunk.map fun change => (change.new, change.added, change.removed != 0)
  letters "***************\n*** " ++ range first stop ++ letters " ****\n"
    ++ (if hunk.any (·.removed ≠ 0) then marked old first stop removals "- " else [])
    ++ letters "--- " ++ range otherFirst otherStop ++ letters " ----\n"
    ++ (if hunk.any (·.added ≠ 0) then marked new otherFirst otherStop additions "+ " else [])

/-- Blanks from one column to another, with tabulators as far as they go unless they are expanded. -/
def gapBetween (comparison : FileComparison) : (fuel : Nat) → (column goal : Nat) → Letters
  | 0, _, _ => []
  | fuel + 1, column, goal =>
    if goal ≤ column then []
    else
      let next := column + 8 - column % 8
      if !comparison.expands ∧ next ≤ goal then '\t' :: comparison.gapBetween fuel next goal
      else ' ' :: comparison.gapBetween fuel (column + 1) goal

/-- The part of a line that fits into a column from an indentation on, and the column behind it. -/
def halfLine (comparison : FileComparison) (indentation width : Nat) (text : Letters) : Letters × Nat :=
  let add (state : Letters × Nat × Nat) (c : Char) : Letters × Nat × Nat :=
    let (shown, inner, column) := state
    if c = '\t' then
      let spaces := 8 - inner % 8
      if inner = column then
        let stop := inner + spaces
        let reached := min stop width
        if comparison.expands then (shown ++ List.replicate (reached - column) ' ', stop, max column reached)
        else if stop < width then (shown ++ ['\t'], stop, stop)
        else (shown, stop, column)
      else (shown, inner + spaces, column)
    else if inner < width then (shown ++ [c], inner + 1, inner + 1)
    else (shown, inner + 1, column)
  let (shown, _, column) := text.foldl add ([], 0, 0)
  (shown, indentation + column)

/-- A line of both files side by side. -/
def besideLine (comparison : FileComparison) (width : Nat) (left? : Option Letters) (mark : Char) (right? : Option Letters) : Letters :=
  let unit := if comparison.expands then 1 else 8
  let offset := (width + unit + 3) / (2 * unit) * unit
  let half := min (offset - 3) (width - offset)
  let second := if half = 0 then width else offset
  let bare (line : Letters) : Letters := if line.getLast? = some '\n' then line.dropLast else line
  let isEnded (line? : Option Letters) : Bool := line?.any fun line => line.getLast? == some '\n'
  let (shown, column) := match left? with
    | some left => comparison.halfLine 0 half (bare left)
    | none => ([], 0)
  let mark := if mark = '|' ∧ isEnded left? ≠ isEnded right? then (if isEnded left? then '/' else '\\') else mark
  let (shown, column) := if mark = ' ' then (shown, column) else
    let goal := (half + second - 1) / 2
    (shown ++ comparison.gapBetween width column goal ++ [mark], max column goal + 1)
  let shown := match right? with
    | some right =>
      if right.head? = some '\n' then shown
      else shown ++ comparison.gapBetween width column second ++ (comparison.halfLine second half (bare right)).1
    | none => shown
  shown ++ (if isEnded left? || isEnded right? then ['\n'] else [])

/-- Both files side by side. -/
def beside (comparison : FileComparison) (width : Nat) (old new : List Letters) (changes : List Alteration) : Letters :=
  let line := comparison.besideLine width
  let common (first second count : Nat) : Letters :=
    if comparison.onlyChanges then []
    else
      ((List.zip ((old.drop first).take count) ((new.drop second).take count)).map fun (left, right) =>
        if comparison.leftOnly then line (some left) '(' none else line (some left) ' ' (some right)).flatten
  let add (state : Letters × Nat × Nat) (change : Alteration) : Letters × Nat × Nat :=
    let (shown, place, other) := state
    let removed := (old.drop change.old).take change.removed
    let added := (new.drop change.new).take change.added
    let paired := (List.zip removed added).map fun (left, right) => line (some left) '|' (some right)
    let moreAdded := (added.drop removed.length).map fun right => line none '>' (some right)
    let moreRemoved := (removed.drop added.length).map fun left => line (some left) '<' none
    (shown ++ common place other (change.old - place) ++ paired.flatten ++ moreAdded.flatten ++ moreRemoved.flatten,
      change.old + change.removed, change.new + change.added)
  let (shown, place, other) := changes.foldl add ([], 0, 0)
  shown ++ common place other (old.length - place)

/-! ### Files and directories -/

/-- The name of a file in a header, with a time. -/
def headerName (comparison : FileComparison) (number : Nat) (path : Letters) : Letters :=
  let time := if comparison.form matches .unified _ then "\t1970-01-01 00:00:00.000000000 +0000" else "\tThu Jan  1 00:00:00 1970"
  match comparison.names[number]? with
  | some name => name
  | none => path ++ letters time

/-- What is shown of the differences between two lists of lines. -/
def shown (comparison : FileComparison) (left right : Letters) (old new : List Letters) (changes : List Alteration) : Letters :=
  let counted := (comparison.hunks old new changes).filter (comparison.counts old new)
  let header (first second : String) : Letters :=
    letters first ++ comparison.headerName 0 left ++ letters ("\n" ++ second) ++ comparison.headerName 1 right ++ ['\n']
  match comparison.form with
  | .plain => counted.flatMap fun hunk => hunk.flatMap (comparison.plainChange old new)
  | .unified _ => header "--- " "+++ " ++ counted.flatMap (comparison.unifiedHunk old new)
  | .context _ => header "*** " "--- " ++ counted.flatMap (comparison.contextHunk old new)
  | .commands => counted.reverse.flatMap fun hunk => hunk.flatMap (comparison.commandChange new)
  | .counted => counted.flatMap fun hunk => hunk.flatMap (countedChange new)
  | .beside width => comparison.beside width old new counted.flatten

/-- Compares the contents of two files; `title` stands before what is shown. -/
def compareContents (comparison : FileComparison) (title left right old new : Letters) : Run Nat := do
  let isBinary (text : Letters) : Bool := !comparison.asText && (text.take 4096).contains '\x00'
  let tellSame : Run Nat := do
    if comparison.tellsSame then
      say (letters "Files " ++ left ++ letters " and " ++ right ++ letters " are identical\n")
    return 0
  let ignores := comparison.blanks ≠ ' ' || comparison.fold || comparison.emptyLines || comparison.ignored.isSome
    || comparison.dropsReturns
  if old = new ∧ !(comparison.form matches .beside _) then
    return ← tellSame
  let lacksEnd (text : Letters) : Bool := !text.isEmpty && text.getLast? != some '\n'
  let isOpen := comparison.form = .commands && (lacksEnd old || lacksEnd new)
  let close (path text : Letters) : Run Letters := do
    if comparison.form = .commands ∧ lacksEnd text then
      warn "diff" (path ++ letters ": No newline at end of file\n")
      return text ++ ['\n']
    else
      return text
  let old ← close left old
  let new ← close right new
  if isBinary old || isBinary new then
    if old = new then
      return ← tellSame
    let kind := if comparison.brief then "Files " else "Binary files "
    say (letters kind ++ left ++ letters " and " ++ right ++ letters " differ\n")
    return 1
  if comparison.brief ∧ !ignores then
    say (letters "Files " ++ left ++ letters " and " ++ right ++ letters " differ\n")
    return 1
  let oldLines := wholeLines old
  let newLines := wholeLines new
  let changes := comparison.changes oldLines newLines
  let differ := changes.any fun change => comparison.counts oldLines newLines [change]
  if comparison.brief then
    if differ then
      say (letters "Files " ++ left ++ letters " and " ++ right ++ letters " differ\n")
      return 1
    else
      return ← tellSame
  if differ ∨ (comparison.form matches .beside _) then
    say ((if differ then title else []) ++ comparison.shown left right oldLines newLines changes)
  if isOpen then return 2 else if differ then return 1 else tellSame

/-- How two paths came to be compared. -/
inductive PathOrigin where
  | given
  /-- One of them is that of a directory in which the name of the other one was looked for. -/
  | named
  /-- They are those of names in two directories. -/
  | inside
  deriving DecidableEq

/-- What a path leads to; nothing stands for the input. -/
abbrev Leading := Except FileFault (Option (Location × Entry))

/-- The location of a directory that a path leads to. -/
def directory? : Leading → Option Location
  | .ok (some (place, .directory)) => some place
  | _ => none

/-- Whether there is nothing where a path leads. -/
def isMissing (leading : Leading) : Bool :=
  leading matches .error .notFound

/-- Compares what two directories hold, name by name. -/
def compareNames (comparison : FileComparison) (compare : Letters → Letters → Run Nat) (left right : Letters) : Run Nat := do
  let namesAt (path : Letters) : Run (List Letters) := do
    match ← lookUp path with
    | .ok (place, _) => return (namesIn (← disk) place).map letters
    | .error _ => return []
  let leftNames ← namesAt left
  let rightNames ← namesAt right
  let kept := (leftNames ++ rightNames).filter fun name => !(comparison.excluded.any fun pattern => isMatch pattern name)
  forOperands (kept.eraseDups.mergeSort comesBefore) fun name => do
    let both := leftNames.contains name && rightNames.contains name
    if both || comparison.missingIsEmpty then
      compare (below left name) (below right name)
    else
      say (letters "Only in " ++ (if leftNames.contains name then left else right) ++ letters ": " ++ name ++ ['\n'])
      return 1

/-- Compares what stands at two paths, at most `fuel` levels deep. -/
def comparePaths (comparison : FileComparison) : (fuel : Nat) → PathOrigin → Letters → Letters → Run Nat
  | 0, _, _, _ => return 0
  | fuel + 1, origin, left, right => do
    let look (path : Letters) : Run Leading := do
      if path = ['-'] ∧ origin = .given then return .ok none
      else return (← lookUp path).map some
    let leftFound ← look left
    let rightFound ← look right
    let asEmpty := comparison.missingIsEmpty && isMissing leftFound != isMissing rightFound
    let failed (path : Letters) (found : Leading) : Run Bool := do
      match found with
      | .error fault =>
        if asEmpty ∧ fault = .notFound then
          return false
        warn "diff" (plainly path fault)
        return true
      | .ok _ => return false
    let leftFails ← failed left leftFound
    let rightFails ← failed right rightFound
    if leftFails || rightFails then
      return 2
    let inside := comparison.compareNames (comparison.comparePaths fuel .inside) left right
    let mixed (kinds : String × String) : Run Nat := do
      say (letters "File " ++ left ++ letters (" is a " ++ kinds.1 ++ " while file ") ++ right ++ letters (" is a " ++ kinds.2 ++ "\n"))
      return 1
    match directory? leftFound, directory? rightFound with
    | none, none =>
      let read (path : Letters) (found : Leading) : Run Letters := do
        if isMissing found then return [] else return (← contentOf path).toOption.getD []
      let old ← read left leftFound
      let new ← if left = right then pure old else read right rightFound
      let title := if origin = .inside then
          [' '].intercalate (letters "diff" :: comparison.given ++ [left, right]) ++ ['\n']
        else []
      comparison.compareContents title left right old new
    | some _, none =>
      if asEmpty then inside
      else if origin = .given then comparison.comparePaths fuel .named (below left (lastName right)) right
      else mixed ("directory", "regular file")
    | none, some _ =>
      if asEmpty then inside
      else if origin = .given then comparison.comparePaths fuel .named left (below right (lastName left))
      else mixed ("regular file", "directory")
    | some _, some _ =>
      if origin ≠ .given ∧ !comparison.recursive then
        say (letters "Common subdirectories: " ++ left ++ letters " and " ++ right ++ ['\n'])
        return 0
      else inside

end FileComparison

/-- The arguments that are no operands. -/
def withoutOperands : (arguments operands : List Letters) → List Letters
  | [], _ => []
  | argument :: arguments, operand :: operands =>
    if argument = operand then withoutOperands arguments operands
    else argument :: withoutOperands arguments (operand :: operands)
  | arguments, [] => arguments

/-- The arguments with a number behind a dash made an option for the lines around. -/
def numberedAround (argument : Letters) : List Letters :=
  match argument with
  | '-' :: c :: cs =>
    if c.isDigit then
      let count := (c :: cs).takeWhile Char.isDigit
      let rest := (c :: cs).drop count.length
      ('-' :: '9' :: count) :: (if rest = [] then [] else ['-' :: rest])
    else [argument]
  | _ => [argument]

/-- Tells how files, or what directories hold, differ. -/
def diff : Utility := fun _ arguments =>
  let kinds : OptionKinds :=
    { plain := "qsenyrNaiEZbwBtTdplHc0u1P2m3v", valued := "9UCILWxXSFD4567", loose := "\x01\x02\x03"
      long := [("brief", 'q'), ("report-identical-files", 's'), ("ed", 'e'), ("rcs", 'n'), ("side-by-side", 'y'),
        ("recursive", 'r'), ("new-file", 'N'), ("text", 'a'), ("ignore-case", 'i'), ("ignore-tab-expansion", 'E'),
        ("ignore-trailing-space", 'Z'), ("ignore-space-change", 'b'), ("ignore-all-space", 'w'),
        ("ignore-blank-lines", 'B'), ("ignore-matching-lines", 'I'), ("strip-trailing-cr", '0'), ("expand-tabs", 't'),
        ("initial-tab", 'T'), ("minimal", 'd'), ("label", 'L'), ("width", 'W'), ("exclude", 'x'), ("unified", '\x01'),
        ("context", '\x02'), ("normal", '1'), ("left-column", '2'), ("suppress-common-lines", '3'), ("color", '\x03'),
        ("show-c-function", 'p'), ("speed-large-files", 'H'), ("horizon-lines", '4'), ("tabsize", '5'),
        ("starting-file", 'S'), ("exclude-from", 'X'), ("show-function-line", 'F'), ("ifdef", 'D'), ("paginate", 'l'),
        ("unidirectional-new-file", 'P'), ("no-dereference", 'm')] }
  let refuse (message : Letters) : Run Nat := do
    warn "diff" message
    warn "diff" (letters "Try 'diff --help' for more information.")
    return 2
  let arguments := arguments.flatMap numberedAround
  match parseUpTo kinds (arguments.length + 1) arguments {} with
  | .error message => refuse message
  | .ok parsed => do
    let wrong := parsed.options.find? fun (option, value) =>
      (option == 'U' || option == 'C' || option == '9' || option == '\x01' || option == '\x02') && value != [] && !isNumber value
    match wrong with
    | some (_, value) => return ← refuse (letters "invalid context length " ++ quoted value)
    | none => pure ()
    let counts := parsed.options.filterMap fun (option, value) =>
      if "UC9\x01\x02".toList.contains option then natural? value else none
    let around := if counts.isEmpty then 3 else counts.foldl max 0
    let regex? ← match parsed.value? 'I' with
      | some text =>
        match Regex.parse {} text with
        | .ok regex => pure (some regex)
        | .error fault => return ← refuse (text ++ letters ": " ++ letters fault.message)
      | none => pure none
    let form : DifferenceForm := match parsed.lastOf? ['u', 'U', '\x01', 'c', 'C', '\x02', 'e', 'n', 'y', '1'] with
      | some 'u' => .unified around
      | some 'U' => .unified around
      | some '\x01' => .unified around
      | some 'c' => .context around
      | some 'C' => .context around
      | some '\x02' => .context around
      | some 'e' => .commands
      | some 'n' => .counted
      | some 'y' => .beside (((parsed.value? 'W').bind natural?).getD 130)
      | _ => .plain
    let given (option : Char) : Bool := parsed.has option
    let comparison : FileComparison :=
      { form
        blanks := if given 'w' then 'w' else if given 'b' then 'b' else if given 'Z' ∧ given 'E' then 'z'
          else if given 'Z' then 'Z' else if given 'E' then 'E' else ' '
        fold := given 'i', emptyLines := given 'B', ignored := regex?, dropsReturns := given '0', minimal := given 'd'
        brief := given 'q', tellsSame := given 's', recursive := given 'r', missingIsEmpty := given 'N'
        asText := given 'a', tabbed := given 'T', expands := given 't', onlyChanges := given '3', leftOnly := given '2'
        excluded := (parsed.options.filter (·.1 == 'x')).map Prod.snd
        names := (parsed.options.filter (·.1 == 'L')).map Prod.snd
        given := withoutOperands (arguments.filter (· ≠ letters "--")) parsed.operands }
    match parsed.operands with
    | [] => refuse (letters "missing operand after 'diff'")
    | [_] => refuse (letters "missing operand after " ++ quoted (arguments.getLastD []))
    | [left, right] => comparison.comparePaths ((← disk).entries.length + 3) .given left right
    | _ :: _ :: extra :: _ => refuse (letters "extra operand " ++ quoted extra)

end MonitorBench.Shell
