import MonitorBench.Shell.Regex.Reader
import MonitorBench.Shell.Utility.Basic

/-!
# Utilities that print lines one after the other

These print files as they are or in another order, their beginnings and ends, with numbers
or marks, or in lines of another width; one counts what there is of them.
-/

set_option autoImplicit false

namespace MonitorBench.Shell

/-! ## Printing files -/

/-- The pieces of a text that end with a mark; only the last one can lack it. -/
def markedPieces (mark : Char) (text : Letters) : List Letters :=
  let pieces := Text.splitOn mark text
  pieces.dropLast.map (· ++ [mark]) ++ (match pieces.getLast? with
    | some [] => []
    | some last => [last]
    | none => [])

/-- The pieces of a text that end with a mark, without the marks. -/
def barePieces (mark : Char) (text : Letters) : List Letters :=
  let pieces := Text.splitOn mark text
  if pieces.getLast? = some [] then pieces.dropLast else pieces

/-- The lines of a text with their line feeds. -/
def wholeLines (text : Letters) : List Letters :=
  markedPieces '\n' text

/-- How files are shown. -/
structure FileShow where
  numbered : Bool := false
  /-- Whether only lines that are not empty are numbered. -/
  filledOnly : Bool := false
  /-- Whether the ends of lines are shown. -/
  ends : Bool := false
  /-- Whether empty lines behind an empty line are dropped. -/
  squeeze : Bool := false
  tabs : Bool := false
  /-- Whether letters that cannot be printed are shown by marks. -/
  visible : Bool := false

/-- How far the showing of files has come. -/
structure FileShowState where
  /-- The number of the last line. -/
  count : Nat := 0
  wasEmpty : Bool := false
  /-- Whether the last line lacks its line feed. -/
  isOpen : Bool := false
  shown : List Letters := []

/-- The marks for a letter of another kind. -/
def visibleMarks (c : Char) : Letters :=
  let control (code : Nat) : Letters := ['^', Char.ofNat (if code = 127 then 63 else code + 64)]
  let low (code : Nat) : Letters := if code < 32 ∨ code = 127 then control code else [Char.ofNat code]
  if c = '\n' ∨ c = '\t' then [c]
  else if c.toNat < 128 then low c.toNat
  else letters "M-" ++ low (c.toNat - 128)

/-- Shows a line. -/
def FileShow.apply (mode : FileShow) (state : FileShowState) (line : Letters) : FileShowState :=
  let content := line.takeWhile (· != '\n')
  let hasEnd : Bool := content.length < line.length
  let isEmpty := content.isEmpty && hasEnd && !state.isOpen
  if mode.squeeze ∧ state.wasEmpty ∧ isEmpty then
    state
  else
    let takesNumber := mode.numbered && !state.isOpen && !(mode.filledOnly && isEmpty)
    let count := if takesNumber then state.count + 1 else state.count
    let start := if takesNumber then padLeft 6 (digits count) ++ ['\t'] else []
    let seen := if mode.visible then content.flatMap visibleMarks else content
    let seen := if mode.tabs then seen.flatMap fun c => if c = '\t' then ['^', 'I'] else [c] else seen
    let seen := if mode.ends ∧ hasEnd ∧ !mode.visible ∧ seen.getLast? = some '\r' then seen.dropLast ++ ['^', 'M']
      else seen
    let dollar := if mode.ends ∧ hasEnd then ['$'] else []
    { count, wasEmpty := isEmpty, isOpen := !hasEnd
      shown := (start ++ seen ++ dollar ++ line.drop content.length) :: state.shown }

/-- Where a channel leads, if that is a file. -/
def channelPlace? (channel : Nat) : Run (Option Location) := do
  match ← streamOf channel with
  | some (_, .file place _ _) => return some place
  | _ => return none

/-- Where an operand is, if it is a file. -/
def operandPlace? (path : Letters) : Run (Option Location) := do
  if path = ['-'] then channelPlace? input else return ((← disk).locate (← aim path)).toOption

/-- Prints files one after the other. -/
def cat : Utility := fun _ arguments =>
  let kinds : OptionKinds :=
    { plain := "nbsEuvTAet"
      long := [("number", 'n'), ("number-nonblank", 'b'), ("squeeze-blank", 's'), ("show-ends", 'E'),
        ("show-nonprinting", 'v'), ("show-tabs", 'T'), ("show-all", 'A')] }
  withOptions "cat" kinds 1 arguments fun parsed => do
    let target ← channelPlace? output
    let mode : FileShow :=
      { numbered := parsed.has 'n' || parsed.has 'b', filledOnly := parsed.has 'b'
        ends := parsed.has 'E' || parsed.has 'A' || parsed.has 'e'
        squeeze := parsed.has 's', tabs := parsed.has 'T' || parsed.has 'A' || parsed.has 't'
        visible := parsed.has 'v' || parsed.has 'A' || parsed.has 'e' || parsed.has 't' }
    let isPlain := !mode.numbered && !mode.ends && !mode.squeeze && !mode.tabs && !mode.visible
    let present (state : Nat × FileShowState) (path : Letters) : Run (Nat × FileShowState) := do
      let (status, showing) := state
      let place ← operandPlace? path
      match ← contentOf path with
      | .error fault =>
        warn "cat" (plainly path fault)
        return (1, showing)
      | .ok content =>
        if place.isSome ∧ place = target ∧ content ≠ [] then
          warn "cat" (path ++ letters ": input file is output file")
          return (1, showing)
        let after := if isPlain then { showing with shown := [content] }
          else (wholeLines content).foldl mode.apply { showing with shown := [] }
        if ← emit output after.shown.reverse.flatten then
          return (status, after)
        else
          warn "cat" (letters "write error: Bad file descriptor")
          return (1, after)
    let operands := if parsed.operands.isEmpty then [['-']] else parsed.operands
    return (← operands.foldlM present (0, {})).1

/-- The pieces of a text that separators end, or that they begin; at most `fuel` letters. -/
def separatedPieces (separator : Letters) (before : Bool) : (fuel : Nat) → (piece : Letters) → Letters → List Letters
  | 0, piece, text => [piece.reverse ++ text]
  | _, piece, [] => if piece = [] then [] else [piece.reverse]
  | fuel + 1, piece, c :: cs =>
    match if separator = [] then none else Text.after? separator (c :: cs) with
    | some rest =>
      if before then
        let others := separatedPieces separator before fuel separator.reverse rest
        if piece = [] then others else piece.reverse :: others
      else (piece.reverse ++ separator) :: separatedPieces separator before fuel [] rest
    | none => separatedPieces separator before fuel (c :: piece) cs

/-- Prints files with the lines in the other order. -/
def tac : Utility := fun _ arguments =>
  let kinds : OptionKinds :=
    { plain := "br", valued := "s", long := [("before", 'b'), ("separator", 's'), ("regex", 'r')] }
  withOptions "tac" kinds 1 arguments fun parsed => do
    let (contents, status) ← contentsOf "tac"
      (fun path fault => letters "failed to open " ++ quoted path ++ letters (" for reading: " ++ reasonOf fault))
      parsed.operands
    let separator := match parsed.value? 's' with
      | some [] => ['\x00']
      | some separator => separator
      | none => ['\n']
    for (_, content) in contents do
      say (separatedPieces separator (parsed.has 'b') (content.length + 1) [] content).reverse.flatten
    return status

/-- Prints lines with their letters in the other order. -/
def rev : Utility := fun _ arguments =>
  withOptions "rev" {} 1 arguments fun parsed => do
    let (contents, status) ← contentsOf "rev" (onPath "cannot open " · ·) parsed.operands
    for (_, content) in contents do
      say (['\n'].intercalate ((Text.splitOn '\n' content).map List.reverse))
    return status

/-- Copies the input to the output and to files. -/
def tee : Utility := fun _ arguments =>
  withOptions "tee" { plain := "ai", long := [("append", 'a')] } 1 arguments fun parsed => do
    let text := (← takeAll input).getD []
    say text
    forOperands parsed.operands fun path => do
      let disk ← disk
      let aimed ← aim path
      let place := disk.locate aimed
      match place.toOption.bind special? with
      | some (.stream _) => return 0
      | some (.channel channel) =>
        let _ ← emit channel text
        return 0
      | none =>
        let written := if parsed.has 'a' then disk.append aimed (bytesOf text)
          else disk.write aimed (bytesOf text)
        match written with
        | .ok disk =>
          setDisk disk
          return 0
        | .error fault =>
          warn "tee" (plainly path fault)
          return 1

/-! ## Beginnings and ends -/

/-- How much is shown of a file: a count of lines or bytes, and whether it is what is left out. -/
structure Portion where
  count : Nat := 10
  ofBytes : Bool := false
  rest : Bool := false

/-- The number that a unit stands for. -/
def unit? (text : Letters) : Option Nat :=
  let power (base : Nat) (name : Char) : Option Nat :=
    ("KMGTPEZY".toList.idxOf? name.toUpper).map fun place => Nat.pow base (place + 1)
  match text with
  | [] => some 1
  | ['b'] => some 512
  | [name] => if name = 'k' ∨ name.isUpper then power 1024 name else if name = 'm' then power 1024 name else none
  | [name, 'B'] => power 1000 name
  | [name, 'i', 'B'] => power 1024 name
  | _ => none

/-- The number of bytes or lines that a text gives, possibly with a unit. -/
def amount? (text : Letters) : Option Nat :=
  let digits := text.takeWhile Char.isDigit
  return (← if digits = [] ∧ text ≠ [] then some 1 else natural? digits) * (← unit? (text.drop digits.length))

/-- Reads the option in the old style, which is a number behind a dash, perhaps with letters behind. -/
def expandOldCount (mayBegin : Bool) : List Letters → List Letters
  | ('-' :: c :: cs) :: rest =>
    if c.isDigit then
      let count := (c :: cs).takeWhile Char.isDigit
      let marks := (c :: cs).drop count.length
      let option := if marks.contains 'c' then 'c' else 'n'
      let flags := marks.filter fun mark => mark == 'q' || mark == 'v' || mark == 'z'
      ('-' :: option :: count) :: (flags.map fun flag => ['-', flag]) ++ rest
    else
      ('-' :: c :: cs) :: rest
  | ('+' :: c :: cs) :: rest =>
    if mayBegin ∧ c.isDigit ∧ rest.length ≤ 1 then
      let count := (c :: cs).takeWhile Char.isDigit
      let option := if ((c :: cs).drop count.length).contains 'c' then 'c' else 'n'
      ('-' :: option :: '+' :: count) :: rest
    else ('+' :: c :: cs) :: rest
  | arguments => arguments

/-- Prints a portion of each file, with titles if there are several. -/
def printPortions (name : String) (sign : Char) (cut : Portion → Char → Letters → Letters)
    (arguments : List Letters) : Run Nat :=
  let kinds : OptionKinds :=
    { plain := "qvfzF", valued := "nc"
      long := [("lines", 'n'), ("bytes", 'c'), ("quiet", 'q'), ("silent", 'q'), ("verbose", 'v'),
        ("zero-terminated", 'z')] }
  withOptions name kinds 1 (expandOldCount (name = "tail") arguments) fun parsed => do
    let portion? (option : Char × Letters) : Option Portion :=
      match option.2 with
      | [] => none
      | c :: digits =>
        let signed := c = '-' || c = '+'
        let text := if signed then digits else c :: digits
        if text = [] then none
        else (amount? text).map fun count => { count, ofBytes := option.1 = 'c', rest := c = sign }
    let counts := parsed.options.filter fun option => option.1 = 'n' ∨ option.1 = 'c'
    match counts.find? fun option => (portion? option).isNone with
    | some (option, text) =>
      let what := if option = 'c' then "bytes" else "lines"
      warn name (letters ("invalid number of " ++ what ++ ": ") ++ quoted text)
      return 1
    | none =>
      let portion : Portion := (counts.getLast?.bind portion?).getD {}
      let ending := if parsed.has 'z' then '\x00' else '\n'
      let operands := if parsed.operands.isEmpty then [['-']] else parsed.operands
      let titled := match parsed.lastOf? ['q', 'v'] with
        | some 'q' => false
        | some _ => true
        | none => 2 ≤ operands.length
      let present (state : Nat × Bool) (path : Letters) : Run (Nat × Bool) := do
        let title (isFirst : Bool) : Run Unit := do
          if titled then
            say ((if isFirst then [] else ['\n']) ++ letters "==> "
              ++ (if path = ['-'] then letters "standard input" else path) ++ letters " <==\n")
        match ← contentOf path with
        | .error .isDirectory =>
          title state.2
          warn name (onPath "error reading " path .isDirectory)
          return (1, false)
        | .error fault =>
          warn name (letters "cannot open " ++ quoted path ++ letters " for reading: " ++ letters (reasonOf fault))
          return (1, state.2)
        | .ok content =>
          title state.2
          let shown := cut portion ending content
          if path = ['-'] ∧ name = "head" then
            giveBack (content.length - shown.length)
          say shown
          return (state.1, false)
      return (← operands.foldlM present (0, true)).1

/-- Prints the beginnings of files. -/
def head : Utility := fun _ arguments =>
  let cut (portion : Portion) (ending : Char) (content : Letters) : Letters :=
    if portion.ofBytes then
      content.take (if portion.rest then content.length - portion.count else portion.count)
    else
      let lines := markedPieces ending content
      (lines.take (if portion.rest then lines.length - portion.count else portion.count)).flatten
  printPortions "head" '-' cut arguments

/-- Prints the ends of files. -/
def tail : Utility := fun _ arguments =>
  let cut (portion : Portion) (ending : Char) (content : Letters) : Letters :=
    if portion.ofBytes then
      content.drop (if portion.rest then portion.count - 1 else content.length - portion.count)
    else
      let lines := markedPieces ending content
      (lines.drop (if portion.rest then portion.count - 1 else lines.length - portion.count)).flatten
  printPortions "tail" '+' cut arguments

/-! ## Counts -/

/-- The column behind a letter; tabs go to columns that are multiples of eight. -/
def columnBehind (column : Nat) (c : Char) : Nat :=
  if c = '\t' then column + 8 - column % 8
  else if c = '\x08' then column - 1
  else if c = '\r' then 0
  else column + 1

/-- The width of a text, in which letters that cannot be printed take no place. -/
def shownWidth (line : Letters) : Nat :=
  (line.foldl
    (fun (state : Nat × Nat) c =>
      let column :=
        if c = '\t' ∨ c = '\r' ∨ c = '\x0c' then (if c = '\t' then columnBehind state.1 c else 0)
        else if 32 ≤ c.toNat ∧ c.toNat < 127 then state.1 + 1
        else state.1
      (column, max state.2 column))
    (0, 0)).2

/-- The counts of a text: lines, words, letters, bytes, and the width of its longest line. -/
def countsOf (content : Letters) : List Nat :=
  let words := (content.foldl
    (fun (state : Nat × Bool) c =>
      if isSpace c then (state.1, false)
      else if state.2 then state else (state.1 + 1, true))
    (0, false)).1
  let longest := (linesOf content).foldl (fun longest line => max longest (shownWidth line)) 0
  [content.count '\n', words, content.length, content.length, longest]

/-- Prints the counts of files. -/
def wc : Utility := fun _ arguments =>
  let kinds : OptionKinds :=
    { plain := "lwcmL", valued := "T"
      long := [("lines", 'l'), ("words", 'w'), ("bytes", 'c'), ("chars", 'm'), ("max-line-length", 'L'),
        ("total", 'T')] }
  withOptions "wc" kinds 1 arguments fun parsed => do
    let given (option : Char) : Bool := parsed.has option
    let all := !(given 'l' || given 'w' || given 'c' || given 'm' || given 'L')
    let chosen := [all || given 'l', all || given 'w', given 'm', all || given 'c', given 'L']
    let operands := if parsed.operands.isEmpty then [['-']] else parsed.operands
    let isRegular (path : Letters) : Run Bool := do
      if path = ['-'] then return (← channelPlace? input).isSome
      else match (← disk).find? (← aim path) with
        | some .directory => return false
        | _ => return true
    let regular ← operands.mapM isRegular
    let read (state : List (Letters × List Nat) × Nat) (path : Letters) :
        Run (List (Letters × List Nat) × Nat) := do
      match ← contentOf path with
      | .ok content => return (state.1 ++ [(path, countsOf content)], state.2)
      | .error fault =>
        warn "wc" (plainly path fault)
        return (if fault = .isDirectory then state.1 ++ [(path, [0, 0, 0, 0, 0])] else state.1, 1)
    let firstFails := !(operands.headD []).isEmpty && operands.head? != some ['-']
      && !(← disk).holds (← aim (operands.headD []))
    let (rows, status) ← operands.foldlM read ([], 0)
    let sums := rows.foldl
      (fun sums row => (List.zip sums (row.2.zipIdx)).map fun (sum, count, place) =>
        if place = 4 then max sum count else sum + count)
      [0, 0, 0, 0, 0]
    let totals := parsed.value? 'T'
    let withTotal : Bool := match totals.map String.ofList with
      | some "always" => true
      | some "only" => true
      | some "never" => false
      | _ => 2 ≤ operands.length
    let isOnly := totals = some (letters "only")
    let width :=
      if isOnly ∨ (chosen.count true = 1 ∧ operands.length = 1) ∨ firstFails then 1
      else
        let size := (digits (sums[3]?.getD 0)).length
        if regular.all id then size else max 7 size
    let line (counts : List Nat) (name : Letters) : Letters :=
      let shown := (List.zip chosen counts).filterMap fun (isChosen, count) =>
        if isChosen then some (padLeft width (digits count)) else none
      [' '].intercalate shown ++ (if name = [] then [] else ' ' :: name) ++ ['\n']
    unless isOnly do
      for (path, counts) in rows do
        say (line counts (if parsed.operands.isEmpty then [] else path))
    if withTotal then
      say (line sums (if isOnly then [] else letters "total"))
    return status

/-! ## Numbers before lines -/

/-- In which form numbers stand before lines. -/
structure NumberForm where
  width : Nat := 6
  /-- Whether the number stands at the left of its field. -/
  left : Bool := false
  zeros : Bool := false

/-- A number in a form. -/
def NumberForm.text (form : NumberForm) (number : Int) : Letters :=
  let text := digits number.natAbs
  let sign : Letters := if number < 0 then ['-'] else []
  let space := form.width - (text.length + sign.length)
  if form.left then sign ++ text ++ List.replicate space ' '
  else if form.zeros then sign ++ List.replicate space '0' ++ text
  else List.replicate space ' ' ++ sign ++ text

/-- Which lines of a part of a page are numbered. -/
inductive NumberStyle where
  | all
  | filled
  | none
  | fitting (regex : Regex)

/-- The style that a text describes. -/
def numberStyle? (text : Letters) : Option NumberStyle :=
  match text with
  | ['a'] => some .all
  | ['t'] => some .filled
  | ['n'] => some .none
  | 'p' :: pattern => (Regex.parse {} pattern).toOption.map .fitting
  | _ => Option.none

/-- Whether a line is numbered. -/
def NumberStyle.counts (style : NumberStyle) (line : Letters) : Bool :=
  match style with
  | .all => true
  | .filled => !line.isEmpty
  | .none => false
  | .fitting regex => regex.fits {} line

/-- What holds for the numbers of lines. -/
structure Numbering where
  /-- The styles of heads, bodies and feet of pages. -/
  styles : List NumberStyle
  form : NumberForm
  between : Letters
  first : Int
  step : Int
  /-- How many empty lines are numbered as one. -/
  joined : Nat
  /-- Whether a new part of a page begins with the first number. -/
  restarts : Bool
  /-- The mark of which a line consists that begins a part of a page. -/
  delimiter : Letters

/-- Prints a line with its number, perhaps; the state is the next number, the part of the page, and how many
empty lines there were since the last number. -/
def Numbering.apply (numbering : Numbering) (state : Int × Nat × Nat × List Letters) (line : Letters) :
    Int × Nat × Nat × List Letters :=
  let (number, part, blanks, shown) := state
  let mark (count : Nat) : Letters := (List.replicate count numbering.delimiter).flatten
  let enter (part : Nat) : Int × Nat × Nat × List Letters :=
    (if numbering.restarts then numbering.first else number, part, 0, ['\n'] :: shown)
  if numbering.delimiter ≠ [] ∧ line = mark 3 then enter 0
  else if numbering.delimiter ≠ [] ∧ line = mark 2 then enter 1
  else if numbering.delimiter ≠ [] ∧ line = mark 1 then enter 2
  else
    let style := numbering.styles[part]?.getD .filled
    let isAll : Bool := match style with
      | .all => true
      | _ => false
    let isBlank := line.isEmpty
    let waits := isAll && isBlank && blanks + 1 < numbering.joined
    if style.counts line ∧ !waits then
      (number + numbering.step, part, 0,
        (numbering.form.text number ++ numbering.between ++ line ++ ['\n']) :: shown)
    else
      let space := List.replicate (numbering.form.width + numbering.between.length) ' '
      (number, part, if waits then blanks + 1 else 0, (space ++ line ++ ['\n']) :: shown)

/-- Prints lines with numbers. -/
def nl : Utility := fun _ arguments =>
  let kinds : OptionKinds :=
    { plain := "p", valued := "bdfhilnsvw"
      long := [("body-numbering", 'b'), ("section-delimiter", 'd'), ("footer-numbering", 'f'),
        ("header-numbering", 'h'), ("line-increment", 'i'), ("join-blank-lines", 'l'),
        ("number-format", 'n'), ("no-renumber", 'p'), ("number-separator", 's'),
        ("starting-line-number", 'v'), ("number-width", 'w')] }
  withOptions "nl" kinds 1 arguments fun parsed => do
    let style? (option : Char) (usual : NumberStyle) : Option NumberStyle :=
      match parsed.value? option with
      | some text => numberStyle? text
      | none => some usual
    let number? (option : Char) (usual : Int) : Option Int :=
      match parsed.value? option with
      | some text => integer? text
      | none => some usual
    let form? : Option NumberForm := match (parsed.value? 'n').map String.ofList with
      | none => some {}
      | some "rn" => some {}
      | some "ln" => some { left := true }
      | some "rz" => some { zeros := true }
      | _ => none
    let numbering? : Option Numbering := do
      let styles := [← style? 'h' .none, ← style? 'b' .filled, ← style? 'f' .none]
      let width ← number? 'w' 6
      let joined ← number? 'l' 1
      if width ≤ 0 ∨ joined ≤ 0 then
        failure
      return {
        styles, form := { (← form?) with width := width.toNat }
        between := (parsed.value? 's').getD ['\t'], first := ← number? 'v' 1, step := ← number? 'i' 1
        joined := joined.toNat, restarts := !parsed.has 'p'
        delimiter := match parsed.value? 'd' with
          | some [c] => [c, ':']
          | some text => text
          | none => letters "\\:" }
    match numbering? with
    | none => misuse "nl" (letters "invalid argument") 1
    | some numbering =>
      let (contents, status) ← contentsOf "nl" plainly parsed.operands
      let lines := contents.flatMap fun (_, content) => linesOf content
      say ((lines.foldl numbering.apply (numbering.first, 1, 0, [])).2.2.2).reverse.flatten
      return status

/-! ## Widths of lines -/

/-- How lines are folded. -/
structure Folding where
  width : Nat := 80
  /-- Whether letters are counted, and not columns. -/
  ofBytes : Bool := false
  /-- Whether lines are cut behind blanks if possible. -/
  atBlanks : Bool := false

namespace Folding

/-- The column behind a letter. -/
def behind (folding : Folding) (column : Nat) (c : Char) : Nat :=
  if folding.ofBytes then column + 1 else columnBehind column c

/-- Adds a letter to a line that is not yet printed, given in the other order with its column; pieces of
it are printed when it becomes too long. At most `fuel` pieces. -/
def add (folding : Folding) : (fuel : Nat) → (line : Letters) → (column : Nat) → Char → Letters × Nat × Letters
  | 0, line, column, c => (c :: line, folding.behind column c, [])
  | fuel + 1, line, column, c =>
    let next := folding.behind column c
    if next ≤ folding.width then (c :: line, next, [])
    else
      let tail := line.takeWhile fun d => !(d == ' ' || d == '\t')
      let kept := line.drop tail.length
      if folding.atBlanks ∧ kept ≠ [] then
        let (line, column, printed) :=
          folding.add fuel tail (tail.reverse.foldl folding.behind 0) c
        (line, column, kept.reverse ++ '\n' :: printed)
      else if line = [] then ([c], next, [])
      else
        let (after, column, printed) := folding.add fuel [] 0 c
        (after, column, line.reverse ++ '\n' :: printed)

/-- A text with its lines folded. -/
def apply (folding : Folding) (text : Letters) : Letters :=
  let step (state : List Letters × Letters × Nat) (c : Char) : List Letters × Letters × Nat :=
    let (shown, line, column) := state
    if c = '\n' then (('\n' :: line).reverse :: shown, [], 0)
    else
      let (line, column, printed) := folding.add (line.length + 2) line column c
      (printed :: shown, line, column)
  let (shown, line, _) := text.foldl step ([], [], 0)
  (line.reverse :: shown).reverse.flatten

end Folding

/-- The arguments with a number behind a dash made the value of an option. -/
def expandWidth (option : Char) (argument : Letters) : Letters :=
  match argument with
  | '-' :: c :: cs => if c.isDigit then '-' :: option :: c :: cs else argument
  | argument => argument

/-- Folds lines that are too long. -/
def fold : Utility := fun _ arguments =>
  let kinds : OptionKinds :=
    { plain := "bs", valued := "w", long := [("bytes", 'b'), ("spaces", 's'), ("width", 'w')] }
  withOptions "fold" kinds 1 (arguments.map (expandWidth 'w')) fun parsed => do
    let width? : Option Nat := match parsed.value? 'w' with
      | some text => (natural? text).filter (0 < ·)
      | none => some 80
    match width? with
    | none =>
      let text := (parsed.value? 'w').getD []
      warn "fold" (letters "invalid number of columns: " ++ quoted text
        ++ (if natural? text = some 0 then letters ": Numerical result out of range" else []))
      return 1
    | some width =>
      let folding : Folding := { width, ofBytes := parsed.has 'b', atBlanks := parsed.has 's' }
      let (contents, status) ← contentsOf "fold" plainly parsed.operands
      for (_, content) in contents do
        say (folding.apply content)
      return status

/-- The columns to which tabs go. -/
structure TabStops where
  /-- Single columns, or none. -/
  columns : List Nat := []
  /-- The distance of the columns behind them, if there are any. -/
  distance : Option Nat := none
  /-- Whether the distance counts from the last single column. -/
  fromLast : Bool := false

/-- The next column behind one, if there is any. -/
def TabStops.next? (stops : TabStops) (column : Nat) : Option Nat :=
  match stops.columns.find? (column < ·) with
  | some stop => some stop
  | none =>
    stops.distance.map fun distance =>
      let start := if stops.fromLast then (stops.columns.getLast?).getD 0 else 0
      column + (distance - (column - start) % distance)

/-- The columns that texts describe; a single number is a distance. -/
def tabStops? (texts : List Letters) : Option TabStops := do
  let pieces := (texts.flatMap fun text =>
    (text.map fun c => if c = ' ' then ',' else c) |> Text.splitOn ',').filter (· != [])
  let read (stops : TabStops) (piece : Letters) : Option TabStops :=
    match piece with
    | '/' :: rest => do return { stops with distance := some (← natural? rest) }
    | '+' :: rest => do return { stops with distance := some (← natural? rest), fromLast := true }
    | rest => do return { stops with columns := stops.columns ++ [← natural? rest] }
  let stops ← pieces.foldlM read {}
  let isRising := (List.zip stops.columns (stops.columns.drop 1)).all fun (one, other) => decide (one < other)
  if stops.columns.contains 0 ∨ stops.distance = some 0 ∨ !isRising then
    failure
  return match stops.columns, stops.distance with
    | [], none => { distance := some 8 }
    | [distance], none => { distance := some distance }
    | _, _ => stops

/-- The options for the columns of tabs among arguments, with numbers behind dashes as their values. -/
def tabKinds (plain : String) (long : List (String × Char)) : OptionKinds :=
  { plain, valued := "t", long := ("tabs", 't') :: long }

/-- What is told if the options describe no columns. -/
def tabFault (parsed : Parsed) : Letters :=
  let text := (parsed.value? 't').getD []
  if natural? text = some 0 then letters "tab size cannot be 0"
  else letters "tab size contains invalid character(s): " ++ quoted text

/-- A line with its tabs made blanks. -/
def expandLine (stops : TabStops) (initialOnly : Bool) (line : Letters) : Letters :=
  let step (state : List Letters × Nat × Bool) (c : Char) : List Letters × Nat × Bool :=
    let (shown, column, goesOn) := state
    if c = '\t' ∧ goesOn then
      let next := (stops.next? column).getD (column + 1)
      (List.replicate (next - column) ' ' :: shown, next, true)
    else
      ([c] :: shown, if c = '\x08' then column - 1 else column + 1, goesOn && (!initialOnly || c == ' '))
  ((line.foldl step ([], 0, true)).1).reverse.flatten

/-- Makes tabs blanks. -/
def expand : Utility := fun _ arguments =>
  withOptions "expand" (tabKinds "i" [("initial", 'i')]) 1 (arguments.map (expandWidth 't')) fun parsed => do
    match tabStops? ((parsed.options.filter (·.1 == 't')).map Prod.snd) with
    | none =>
      warn "expand" (tabFault parsed)
      return 1
    | some stops =>
      let (contents, status) ← contentsOf "expand" plainly parsed.operands
      for (_, content) in contents do
        say (['\n'].intercalate ((Text.splitOn '\n' content).map (expandLine stops (parsed.has 'i'))))
      return status

/-- How far making blanks tabs has come in a line. -/
structure TabbingState where
  column : Nat := 0
  /-- The blanks that are not yet shown. -/
  pending : Letters := []
  /-- Whether one blank stands right before a column of tabs. -/
  blankBefore : Bool := false
  wasBlank : Bool := true
  goesOn : Bool := true
  shown : List Letters := []

/-- Shows the blanks that are left, then a letter. -/
def TabbingState.flush (state : TabbingState) (c : Char) : TabbingState :=
  let blanks := if 1 < state.pending.length ∧ state.blankBefore then '\t' :: state.pending.drop 1 else state.pending
  { state with
    pending := [], blankBefore := if state.pending = [] then state.blankBefore else false
    shown := [c] :: blanks :: state.shown }

/-- Goes on with a letter. -/
def TabbingState.step (stops : TabStops) (whole : Bool) (state : TabbingState) (c : Char) : TabbingState :=
  let isBlank := c == ' ' || c == '\t'
  let ends (state : TabbingState) : TabbingState :=
    { state with wasBlank := isBlank, goesOn := state.goesOn && (whole || isBlank) }
  if !state.goesOn then { state with shown := [c] :: state.shown }
  else if !isBlank then
    ends ({ state with column := if c = '\x08' then state.column - 1 else state.column + 1 }.flush c)
  else match stops.next? state.column with
    | none => { state with goesOn := false }.flush c
    | some next =>
      if c = '\t' then
        let kept := if state.blankBefore then ['\t'] else []
        ends ({ state with column := next, pending := kept }.flush '\t')
      else
        let column := state.column + 1
        if !(state.wasBlank && column == next) then
          { state with
            column, pending := state.pending ++ [c], wasBlank := true
            blankBefore := state.blankBefore || column == next }
        else
          let kept := if state.blankBefore then ['\t'] else []
          ends ({ state with column, pending := kept }.flush '\t')

/-- A line with its blanks made tabs where that is possible. -/
def tabbedLine (stops : TabStops) (whole : Bool) (line : Letters) : Letters :=
  let last := line.foldl (TabbingState.step stops whole) {}
  let blanks := if 1 < last.pending.length ∧ last.blankBefore then '\t' :: last.pending.drop 1 else last.pending
  (blanks :: last.shown).reverse.flatten

/-- Makes blanks tabs. -/
def unexpand : Utility := fun _ arguments =>
  let kinds := tabKinds "af" [("all", 'a'), ("first-only", 'f')]
  withOptions "unexpand" kinds 1 (arguments.map (expandWidth 't')) fun parsed => do
    match tabStops? ((parsed.options.filter (·.1 == 't')).map Prod.snd) with
    | none =>
      warn "unexpand" (tabFault parsed)
      return 1
    | some stops =>
      let whole := (parsed.has 'a' || parsed.has 't') && !parsed.has 'f'
      let (contents, status) ← contentsOf "unexpand" plainly parsed.operands
      for (_, content) in contents do
        say (['\n'].intercalate ((Text.splitOn '\n' content).map (tabbedLine stops whole)))
      return status

end MonitorBench.Shell
