import MonitorBench.Shell.Edit.Reader
import MonitorBench.Shell.Utility.Basic

/-!
# Editing lines

Lines are edited one by one: the commands that are for a line are carried out on it, and it
is printed unless that was forbidden. A line that had no line feed gets none when it is
printed, unless something else is printed behind it.
-/

set_option autoImplicit false

namespace MonitorBench.Shell

/-- A line that is edited or kept. -/
structure EditLine where
  text : Letters := []
  /-- Whether it ends with a line feed. -/
  ended : Bool := true

/-- What was printed. -/
structure Printed where
  /-- The last piece comes first. -/
  pieces : List Letters := []
  /-- Whether the last line still lacks its line feed. -/
  isOpen : Bool := false

namespace Printed

/-- The line feed that a line still lacks is printed. -/
def close (printed : Printed) (ending : Char) : Printed :=
  if printed.isOpen then { pieces := [ending] :: printed.pieces, isOpen := false } else printed

/-- Prints a text. -/
def add (printed : Printed) (ending : Char) (text : Letters) : Printed :=
  let closed := printed.close ending
  { closed with pieces := text :: closed.pieces }

/-- Prints a line. -/
def addLine (printed : Printed) (ending : Char) (line : EditLine) : Printed :=
  let shown := printed.add ending line.text
  if line.ended then shown.add ending [ending] else { shown with isOpen := true }

/-- Everything that was printed. -/
def all (printed : Printed) : Letters :=
  printed.pieces.reverse.flatten

end Printed

/-- How far the range of a command has come. -/
inductive RangeState where
  | before
  /-- It is open, up to a line if that is known. -/
  | within (last : Option Nat)
  | closed

/-- The state of editing. -/
structure Editing where
  /-- The line that is edited. -/
  space : EditLine := {}
  /-- The line that is kept. -/
  kept : EditLine := {}
  number : Nat := 0
  /-- The name of the file. -/
  name : Letters := ['-']
  /-- The lines of the file that are still to come. -/
  rest : List EditLine := []
  /-- The files that are still to come. -/
  files : List (Letters × List EditLine) := []
  /-- What was printed for the file. -/
  out : Printed := {}
  /-- What was printed for the files before. -/
  outs : List (Letters × Printed) := []
  /-- What is printed behind the line. -/
  added : List Addition := []
  /-- The ranges of the commands at their places. -/
  ranges : List (Nat × RangeState) := []
  /-- What was looked for last. -/
  sought : Option Regex := none
  /-- What was written to files. -/
  written : List (Letters × Printed) := []
  /-- The lines of files that are still to be printed. -/
  readers : List (Letters × List EditLine) := []
  /-- The status with which the editing ends early. -/
  ended : Option Nat := none
  /-- Whether there was a substitution since the line was read or that was last asked. -/
  changed : Bool := false
  /-- Whether the commands are carried out again for what is left of the line. -/
  again : Bool := false
  /-- Why the editing cannot go on. -/
  fault : Option Letters := none

/-- What holds for all of an editing. -/
structure EditPlan where
  commands : List (EditCommand × Nat)
  quiet : Bool := false
  /-- Whether each file is edited by itself. -/
  apart : Bool := false
  /-- The letter that ends lines. -/
  ending : Char := '\n'
  /-- The width of lines with their letters made visible. -/
  width : Nat := 70

/-- The lines of a text; only the last one can lack its end. -/
def editLinesOf (ending : Char) (text : Letters) : List EditLine :=
  let pieces := Text.splitOn ending text
  pieces.dropLast.map (fun text => { text := text }) ++ (match pieces.getLast? with
    | some [] => []
    | some last => [{ text := last, ended := false }]
    | none => [])

namespace Editing

/-- Prints the line that is edited. -/
def printSpace (editing : Editing) (plan : EditPlan) : Editing :=
  { editing with out := editing.out.addLine plan.ending editing.space }

/-- Prints a text. -/
def print (editing : Editing) (plan : EditPlan) (text : Letters) : Editing :=
  { editing with out := editing.out.add plan.ending text }

/-- Whether the line is the last one. -/
def isLast (editing : Editing) (plan : EditPlan) : Bool :=
  editing.rest.isEmpty && (plan.apart || editing.files.all fun file => file.2.isEmpty)

/-- Writes to a file. -/
def writeTo (editing : Editing) (plan : EditPlan) (target : Letters) (line : EditLine) : Editing :=
  if target = letters "/dev/stdout" then
    let shown := editing.out.close plan.ending
    { editing with out := { shown with pieces := (if line.ended then line.text ++ [plan.ending] else line.text) :: shown.pieces } }
  else
    let before := (editing.written.lookup target).getD {}
    { editing with written := associate target (before.addLine plan.ending line) editing.written }

/-- Prints what comes behind a line. -/
def printAdded (editing : Editing) (plan : EditPlan) : Run Editing := do
  let add (editing : Editing) (addition : Addition) : Run Editing := do
    match addition with
    | .text text => return editing.print plan text
    | .file path =>
      let path := if path = letters "/dev/stdin" then ['-'] else path
      match ← contentOf path with
      | .ok [] => return editing
      | .ok text => return editing.print plan text
      | .error _ => return editing
    | .lineOf path =>
      let lines ← match editing.readers.lookup path with
        | some lines => pure lines
        | none =>
          match ← contentOf (if path = letters "/dev/stdin" then ['-'] else path) with
          | .ok text => pure (editLinesOf plan.ending text)
          | .error _ => pure []
      let next := { editing with readers := associate path (lines.drop 1) editing.readers }
      match lines with
      | line :: _ => return next.print plan (if line.ended then line.text ++ [plan.ending] else line.text)
      | [] => return next
  let shown ← editing.added.foldlM add editing
  return { shown with added := [] }

/-- Takes a line of the file, with those behind it. -/
def enterLine (editing : Editing) (line : EditLine) (rest : List EditLine) : EditLine × Editing :=
  (line, { editing with rest, number := editing.number + 1, changed := false })

/-- Enters a file. Files that are edited by themselves have their own numbers, ranges,
kept line and output. -/
def enterFile (editing : Editing) (plan : EditPlan) (name : Letters) : Editing :=
  if plan.apart then
    { editing with
      name, number := 0, ranges := [], readers := [], kept := {}, out := {}
      outs := if editing.name = [] then [] else editing.outs ++ [(editing.name, editing.out)] }
  else { editing with name }

/-- Takes the first line of the files that are still to come, if they have one. -/
def fromFiles? (plan : EditPlan) : List (Letters × List EditLine) → Editing → Option (EditLine × Editing)
  | [], _ => none
  | (name, lines) :: files, editing =>
    let entered := { editing.enterFile plan name with files }
    match lines with
    | line :: rest => some (entered.enterLine line rest)
    | [] => fromFiles? plan files entered

/-- Reads the next line, from the next file if the file has no more lines; nothing if there is none. -/
def nextLine? (editing : Editing) (plan : EditPlan) : Option (EditLine × Editing) :=
  match editing.rest with
  | line :: rest => some (editing.enterLine line rest)
  | [] => fromFiles? plan editing.files editing

end Editing

/-- Looks for a pattern in the line; what is looked for is remembered. -/
def EditPattern.resolve (pattern : EditPattern) (editing : Editing) : Option Regex × Editing :=
  match pattern.regex with
  | some regex => (some regex, { editing with sought := some regex })
  | none =>
    match editing.sought with
    | some regex => (some regex, editing)
    | none => (none, { editing with fault := some (letters "no previous regular expression") })

/-- Whether an address chooses the line, and the state after asking. -/
def Address.holds (address : Address) (plan : EditPlan) (editing : Editing) : Bool × Editing :=
  match address with
  | .line number => (editing.number == number, editing)
  | .last => (editing.isLast plan, editing)
  | .fits pattern =>
    let (regex?, after) := pattern.resolve editing
    (regex?.any fun regex => regex.fits pattern.mode editing.space.text, after)
  | .every first step => (first ≤ editing.number && (editing.number - first) % step == 0, editing)
  | .further _ => (false, editing)
  | .multiple _ => (false, editing)

/-- The last line of a range that begins at a line, if its number is known. -/
def Address.lastFrom? (address : Address) (number : Nat) : Option Nat :=
  match address with
  | .line other => some other
  | .every first step =>
    some (if number ≤ first then first
      else if step = 0 then number
      else first + (number - first + step - 1) / step * step)
  | .further count => some (number + count)
  | .multiple factor =>
    some (if factor = 0 then number else (number / factor + 1) * factor)
  | _ => none

/-- Whether a line lies in a range that is asked for at its line, and how far the range has come then. A
range from a numbered line on can begin at a later line, but only once. -/
def askRange (first second : Address) (plan : EditPlan) (state : RangeState) (editing : Editing) :
    Bool × RangeState × Editing :=
  let number := editing.number
  match state with
  | .within (some last) =>
    let isInside : Bool := match second with
      | .line _ => number ≤ last
      | _ => true
    (isInside, if last ≤ number then .closed else state, editing)
  | .within none =>
    let (closes, after) := second.holds plan editing
    (true, if closes then .closed else state, after)
  | _ =>
    let (starts, after) : Bool × Editing := match first, state with
      | .line _, .closed => (false, editing)
      | .line line, _ => (line ≤ number, editing)
      | first, _ => first.holds plan editing
    if !starts then
      (false, state, after)
    else match first, second with
      | .line line, .line last =>
        if last ≤ number then (number == line || number == last, .closed, after)
        else (true, .within (some last), after)
      | _, second =>
        match second.lastFrom? number with
        | some last => (true, if number < last then .within (some last) else .closed, after)
        | none =>
          let ends : Bool := match second with
            | .last => editing.isLast plan
            | _ => false
          (true, if ends then .closed else .within none, after)

/-- Whether a command at a place is for the line, and the state after asking. -/
def Chosen.ask (chosen : Chosen) (plan : EditPlan) (place : Nat) (editing : Editing) : Bool × Editing :=
  let (holds, after) : Bool × Editing := match chosen.first, chosen.second with
    | none, _ => (true, editing)
    | some first, none => first.holds plan editing
    | some first, some second =>
      let beginning : RangeState := match first with
        | .line 0 => .within none
        | _ => .before
      let (holds, state, after) :=
        askRange first second plan ((editing.ranges.lookup place).getD beginning) editing
      (holds, { after with ranges := associate place state after.ranges })
  (holds != chosen.negated, after)

/-- How the case of letters is changed that are put in: for all of them, and for the next one. -/
structure CaseState where
  all : CaseChange := .keep
  next : CaseChange := .keep

/-- A letter with its case changed. -/
def CaseChange.apply (change : CaseChange) (c : Char) : Char :=
  match change with
  | .keep => c
  | .upper => c.toUpper
  | .lower => c.toLower

/-- Letters with their case changed. -/
def CaseState.apply (state : CaseState) : Letters → Letters
  | [] => []
  | c :: cs =>
    (if state.next = .keep then state.all.apply c else state.next.apply c) :: cs.map state.all.apply

/-- What is put in for a match. -/
def replaced (replacement : List Replacement) (spot : Spot) : Letters :=
  (replacement.foldl
    (fun (state : Letters × CaseState) part =>
      let (text, cases) := state
      let add (piece : Letters) : Letters × CaseState :=
        if piece = [] then state else (text ++ cases.apply piece, { cases with next := .keep })
      match part with
      | .letter c => add [c]
      | .group 0 => add spot.taken
      | .group number => add (spot.group number)
      | .changeCase change => (text, { all := change })
      | .changeNext change => (text, { cases with next := change }))
    ([], {})).1

/-- A text with matches replaced, from the one with a number on, at most `fuel` steps; the second
part tells whether there was one. A match of nothing right behind a match does not count. -/
def substituted (regex : Regex) (mode : RegexMode) (replace : Spot → Letters) (all : Bool) :
    (fuel nth : Nat) → (before : Letters) → (behindMatch : Bool) → Letters → Letters × Bool
  | 0, _, _, _, text => (text, false)
  | fuel + 1, nth, before, behindMatch, text =>
    match regex.matchAt mode before text with
    | some spot =>
      let isEmpty := spot.reversed.isEmpty
      let counts := !(isEmpty && behindMatch)
      let shown := if counts ∧ nth ≤ 1 then replace spot else spot.taken
      let isDone := counts && nth ≤ 1 && !all
      let nextNth := if counts then nth - 1 else nth
      if isDone then
        (shown ++ spot.rest, true)
      else match isEmpty, spot.rest with
        | true, [] => (shown, counts && nth ≤ 1)
        | true, c :: cs =>
          let (others, found) := substituted regex mode replace all fuel nextNth (c :: before) false cs
          (shown ++ c :: others, found || (counts && nth ≤ 1))
        | false, rest =>
          let (others, found) :=
            substituted regex mode replace all fuel nextNth (spot.reversed ++ before) true rest
          (shown ++ others, found || (counts && nth ≤ 1))
    | none =>
      match text with
      | [] => ([], false)
      | c :: cs =>
        let (others, found) := substituted regex mode replace all fuel nth (c :: before) false cs
        (c :: others, found)

/-- The marks that show a letter. -/
def visibleLetter (c : Char) : Letters :=
  let named : List (Nat × Char) := [(7, 'a'), (8, 'b'), (12, 'f'), (10, 'n'), (13, 'r'), (9, 't'), (11, 'v'), (92, '\\')]
  match named.lookup c.toNat with
  | some name => ['\\', name]
  | none =>
    if 32 ≤ c.toNat ∧ c.toNat < 127 then [c]
    else
      let digits := Nat.toDigits 8 c.toNat
      '\\' :: List.replicate (3 - digits.length) '0' ++ digits

/-- A line with its letters made visible, in pieces of a width. -/
def visibleLine (width : Nat) (ending : Char) (text : Letters) : Letters :=
  let add (state : Letters × Nat) (c : Char) : Letters × Nat :=
    let marks := visibleLetter c
    if 0 < width ∧ width - 1 < state.2 + marks.length then
      (state.1 ++ letters "\\\n" ++ marks, marks.length)
    else (state.1 ++ marks, state.2 + marks.length)
  (text.foldl add ([], 0)).1 ++ ['$', ending]

/-- The commands behind the closing that belongs to an opening before them. -/
def behindBlock : (depth : Nat) → List (EditCommand × Nat) → List (EditCommand × Nat)
  | _, [] => []
  | depth, (command, _) :: rest =>
    match command.edit, depth with
    | .closing, 0 => rest
    | .closing, depth + 1 => behindBlock depth rest
    | .opening, depth => behindBlock (depth + 1) rest
    | _, depth => behindBlock depth rest

/-- The commands behind a label; an empty name stands for the end. -/
def behindLabel (name : Letters) : List (EditCommand × Nat) → List (EditCommand × Nat)
  | [] => []
  | (command, _) :: rest =>
    match command.edit with
    | .label other => if other = name ∧ name ≠ [] then rest else behindLabel name rest
    | _ => behindLabel name rest

/-- How many commands are carried out for a line at most. -/
def editLimit : Nat := 100000

/-- What a command prints. -/
def printedBy (runner : Runner) (command : Letters) : Run Letters := do
  match ← runner.program [letters "sh", letters "-c", command] with
  | .error _ => return []
  | .ok run =>
    let stream ← addStream (.pipe [])
    let _ ← inChild runner do
      connect output stream
      run
    match (← get).system.streams[stream]? with
    | some (.pipe text) => return text
    | _ => return []

/-- What comes of carrying out a command. -/
inductive EditStep where
  | goOn (rest : List (EditCommand × Nat)) (editing : Editing)
  /-- The line is done; it may be printed. -/
  | done (silently : Bool) (editing : Editing)

/-- Carries out a substitution. -/
def Substitution.carryOut (substitution : Substitution) (runner : Runner) (plan : EditPlan)
    (editing : Editing) : Run Editing := do
  let (regex?, editing) := substitution.pattern.resolve editing
  match regex? with
  | none => return editing
  | some regex =>
    let text := editing.space.text
    let (result, found) := substituted regex substitution.pattern.mode (replaced substitution.replacement)
      substitution.all (2 * text.length + 2) substitution.nth [] false text
    if !found then
      return editing
    let result ← if substitution.runs then do
        let shown ← printedBy runner result
        pure (if shown.getLast? = some '\n' then shown.dropLast else shown)
      else pure result
    let next := { editing with space := { editing.space with text := result }, changed := true }
    let next := if substitution.print then next.printSpace plan else next
    return match substitution.target with
      | some target => next.writeTo plan target next.space
      | none => next

/-- Carries out a command that is for the line, with those behind it. -/
def Edit.carryOut (edit : Edit) (runner : Runner) (plan : EditPlan) (command : EditCommand × Nat)
    (rest : List (EditCommand × Nat)) (editing : Editing) : Run EditStep := do
  let space := editing.space
  let goOn (editing : Editing) : Run EditStep := return .goOn rest editing
  let withText (text : Letters) : Editing := { editing with space := { space with text } }
  let firstLine : EditLine :=
    let first := space.text.takeWhile (· != plan.ending)
    { text := first, ended := space.ended || first.length < space.text.length }
  match edit with
  | .opening => goOn editing
  | .closing => goOn editing
  | .nothing => goOn editing
  | .label _ => goOn editing
  | .substitute substitution => goOn (← substitution.carryOut runner plan editing)
  | .transliterate pairs => goOn (withText (space.text.map fun c => (pairs.lookup c).getD c))
  | .delete => return .done true editing
  | .deleteFirst =>
    let left := space.text.dropWhile (· != plan.ending)
    return .done true (if left = [] then editing else { withText (left.drop 1) with again := true })
  | .clear => goOn (withText [])
  | .print => goOn (editing.printSpace plan)
  | .printFirst => goOn { editing with out := editing.out.addLine plan.ending firstLine }
  | .list width =>
    goOn (editing.print plan (visibleLine (width.getD plan.width) plan.ending space.text))
  | .number => goOn (editing.print plan (digits editing.number ++ [plan.ending]))
  | .fileName => goOn (editing.print plan (editing.name ++ [plan.ending]))
  | .quit silently status =>
    return .done silently { editing with ended := some status, added := if silently then [] else editing.added }
  | .append addition => goOn { editing with added := editing.added ++ [addition] }
  | .insert text => goOn (editing.print plan (text.dropLast ++ [plan.ending]))
  | .change text =>
    let isWithin : Bool := match command.1.chosen.second, editing.ranges.lookup command.2 with
      | some _, some (.within _) => !command.1.chosen.negated
      | _, _ => false
    return .done true (if isWithin then editing else editing.print plan (text.dropLast ++ [plan.ending]))
  | .write target firstOnly =>
    goOn (editing.writeTo plan target (if firstOnly then firstLine else space))
  | .run [] =>
    let shown ← printedBy runner space.text
    goOn (withText (if shown.getLast? = some '\n' then shown.dropLast else shown))
  | .run line => goOn (editing.print plan (← printedBy runner line))
  | .next =>
    if editing.isLast plan then
      return .done false editing
    let shown := if plan.quiet then editing else editing.printSpace plan
    let shown ← shown.printAdded plan
    match shown.nextLine? plan with
    | some (line, after) => goOn { after with space := line }
    | none => return .done false shown
  | .join =>
    if editing.isLast plan then
      return .done false editing
    let shown ← editing.printAdded plan
    match shown.nextLine? plan with
    | some (line, after) =>
      goOn { after with space := { text := space.text ++ plan.ending :: line.text, ended := line.ended } }
    | none => return .done false shown
  | .keep behind =>
    goOn { editing with
      kept := if behind then { space with text := editing.kept.text ++ plan.ending :: space.text } else space }
  | .recall behind =>
    goOn { editing with
      space := if behind then { editing.kept with text := space.text ++ plan.ending :: editing.kept.text }
        else editing.kept }
  | .exchange => goOn { editing with space := editing.kept, kept := space }
  | .branch name after =>
    let goes := after.all (· == editing.changed)
    let next := if after.isSome then { editing with changed := false } else editing
    return .goOn (if goes then behindLabel name plan.commands else rest) next

/-- Carries out those of all commands that are left on the line, at most `fuel` of them; the second
part tells that the line is not printed. -/
def carryOut (runner : Runner) (plan : EditPlan) :
    (fuel : Nat) → List (EditCommand × Nat) → Editing → Run (Editing × Bool)
  | 0, _, editing => return (editing, false)
  | _, [], editing => return (editing, false)
  | fuel + 1, command :: rest, editing => do
    let (holds, editing) := command.1.chosen.ask plan command.2 editing
    if editing.fault.isSome then
      return (editing, true)
    if !holds then
      match command.1.edit with
      | .opening => carryOut runner plan fuel (behindBlock 0 rest) editing
      | _ => carryOut runner plan fuel rest editing
    else
      match ← command.1.edit.carryOut runner plan command rest editing with
      | .goOn rest editing => carryOut runner plan fuel rest editing
      | .done silently editing => return (editing, silently)

/-- Edits lines, in at most `fuel` rounds. -/
def editLines (runner : Runner) (plan : EditPlan) : (fuel : Nat) → Editing → Run Editing
  | 0, editing => return editing
  | fuel + 1, editing => do
    let begun? : Option Editing :=
      if editing.again then some { editing with again := false }
      else (editing.nextLine? plan).map fun (line, after) => { after with space := line }
    match begun? with
    | none => return editing
    | some begun =>
      let (after, silently) ← carryOut runner plan editLimit plan.commands begun
      if after.fault.isSome then
        return after
      let shown := if plan.quiet ∨ silently then after else after.printSpace plan
      let done ← shown.printAdded plan
      if done.ended.isSome then return done else editLines runner plan fuel done

/-- Puts a new file with a text in place of what a path names, which goes to another path if one is given;
the file is a program if what it replaces was one. -/
def replaceWhole (path : Letters) (copy? : Option Letters) (text : Letters) : Run (Except FileFault Unit) := do
  match (← disk).locate (← aimAtName path) with
  | .error fault => return .error fault
  | .ok place =>
    let isProgram := (← disk).programs.contains place
    match copy? with
    | none => changeSystem fun system => system.dropName place
    | some copy =>
      match (← disk).openFile (← aimAtName copy) with
      | .error fault => return .error fault
      | .ok (goal, _) => changeSystem fun system => system.moveTo place goal
    let disk ← disk
    setDisk
      { disk.put place (.file (bytesOf text)) with
        programs := if isProgram then place :: disk.programs else disk.programs }
    return .ok ()

/-- Where the copy of a file goes that is edited in place: the ending is put behind its name, or the
name in place of stars. -/
def copyPath (ending path : Letters) : Letters :=
  let name := ((Text.splitOn '/' path).getLast?).getD []
  let directory := path.take (path.length - name.length)
  if ending.contains '*' then
    let copy := ending.flatMap fun c => if c = '*' then name else [c]
    if copy.contains '/' then copy else directory ++ copy
  else directory ++ name ++ ending

/-- A part of a script, with how messages name it. -/
structure ScriptPiece where
  text : Letters
  /-- The file it was read from. -/
  file : Option Letters

/-- The message on a fault in a script that consists of pieces, with line feeds between them. -/
def scriptMessage (pieces : List ScriptPiece) (script : Letters) (fault : EditFault) : Letters :=
  match fault.rest with
  | none =>
    if letters "can't" <+: fault.reason then fault.reason
    else letters "-e expression #1, char 0: " ++ fault.reason
  | some rest =>
    let locate (state : Nat × Nat × Option Letters) (piece : ScriptPiece) : Nat × Nat × Option Letters :=
      let (left, number, found) := state
      match found with
      | some _ => state
      | none =>
        let number := if piece.file.isNone then number + 1 else number
        if left ≤ piece.text.length then
          (left, number, some (match piece.file with
            | some file =>
              letters "file " ++ file ++ letters " line " ++ digits (((piece.text.take left).count '\n') + 1) ++ letters ": "
            | none =>
              letters "-e expression #" ++ digits number ++ letters ", char " ++ digits left ++ letters ": "))
        else (left - piece.text.length - 1, number, none)
    ((pieces.foldl locate (script.length - rest.length, 0, none)).2.2).getD [] ++ fault.reason

/-- Edits files line by line. -/
def sed : Utility := fun runner arguments =>
  let kinds : OptionKinds :=
    { plain := "nErszuDPBF", valued := "efl", loose := "i"
      long := [("quiet", 'n'), ("silent", 'n'), ("expression", 'e'), ("regexp-extended", 'E'),
        ("in-place", 'i'), ("file", 'f'), ("separate", 's'), ("null-data", 'z'), ("zero-terminated", 'z'),
        ("line-length", 'l'), ("unbuffered", 'u'), ("debug", 'D'), ("posix", 'P'), ("sandbox", 'B'),
        ("follow-symlinks", 'F'), ("binary", 'D')] }
  withOptions "sed" kinds 1 arguments fun parsed => do
    let given := parsed.options.filter fun option => option.1 = 'e' ∨ option.1 = 'f'
    let (pieces, operands) : List ScriptPiece × List Letters ←
      if given.isEmpty then
        pure ((parsed.operands.take 1).map fun text => { text, file := none }, parsed.operands.drop 1)
      else do
        let pieces ← given.filterMapM fun (option, text) => do
          if option ≠ 'f' then
            return some { text, file := none }
          match ← contentOf text with
          | .ok content =>
            return some { text := if content.getLast? = some '\n' then content.dropLast else content, file := some text }
          | .error fault =>
            warn "sed" (letters "couldn't open file " ++ plainly text fault)
            return none
        pure (pieces, parsed.operands)
    if pieces.length < given.length then
      return 1
    if pieces.isEmpty then
      let _ ← emit errors (letters "Usage: sed [OPTION]... \x7bscript-only-if-no-other-script\x7d [input-file]...\n")
      return 1
    let script := ['\n'].intercalate (pieces.map ScriptPiece.text)
    match readEditScript { extended := parsed.has 'E' || parsed.has 'r' } script with
    | .error fault =>
      warn "sed" (scriptMessage pieces script fault)
      return 1
    | .ok commands =>
      let isSilent := script = letters "#n" || letters "#n\n" <+: script
      let inPlace := parsed.value? 'i'
      let plan : EditPlan :=
        { commands := commands.zipIdx
          quiet := parsed.has 'n' || isSilent
          apart := parsed.has 's' || inPlace.isSome
          ending := if parsed.has 'z' then '\x00' else '\n'
          width := ((parsed.value? 'l').bind natural?).getD 70 }
      let targets := commands.filterMap fun command => match command.edit with
        | .write target _ => some target
        | .substitute substitution => substitution.target
        | _ => none
      for target in targets do
        unless target = letters "/dev/stdout" do
          match ← writeWhole target [] false with
          | .ok _ => pure ()
          | .error fault =>
            warn "sed" (letters "couldn't open file " ++ plainly target fault)
            return 4
      let read (state : List (Letters × Letters) × Nat) (path : Letters) : Run (List (Letters × Letters) × Nat) := do
        let (contents, status) := state
        if status = 4 ∧ inPlace.isNone then
          return state
        match ← contentOf path with
        | .ok content => return (contents ++ [(path, content)], status)
        | .error .isDirectory =>
          warn "sed" (if inPlace.isSome then letters "couldn't edit " ++ path ++ letters ": not a regular file"
            else letters "read error on " ++ path ++ letters ": Is a directory")
          return (contents, 4)
        | .error fault =>
          warn "sed" (letters "can't read " ++ plainly path fault)
          return (contents, max status 2)
      let (contents, status) ← (if operands.isEmpty then [['-']] else operands).foldlM read ([], 0)
      let files := contents.map fun (path, content) => (path, editLinesOf plan.ending content)
      let rounds := contents.foldl (fun rounds (_, content) => rounds + content.length + 1) 2
      let done ← editLines runner plan rounds { name := [], files }
      if done.ended.isSome ∧ done.name = ['-'] then
        giveBack (done.rest.foldl (fun count line => count + line.text.length + (if line.ended then 1 else 0)) 0)
      for (target, printed) in done.written do
        let _ ← writeWhole target printed.all false
      match inPlace with
      | some ending =>
        for (path, printed) in done.outs ++ (if done.fault.isSome then [] else [(done.name, done.out)]) do
          if path ≠ [] then
            let copy? := if ending = [] then none else some (copyPath ending path)
            let path ← if parsed.has 'F' then letters <$> aim path else pure path
            match ← replaceWhole path copy? printed.all with
            | .ok _ => pure ()
            | .error fault =>
              warn "sed" (letters "cannot rename " ++ plainly path fault)
              return 4
      | none =>
        let last := if done.ended.isSome then done.out.close plan.ending else done.out
        say ((done.outs.map (·.2.close plan.ending |>.all)).flatten ++ last.all)
      match done.fault with
      | some reason =>
        warn "sed" (letters "-e expression #1, char 0: " ++ reason)
        return 1
      | none =>
        match done.ended with
        | some (status + 1) => return status + 1
        | _ => return status

end MonitorBench.Shell
