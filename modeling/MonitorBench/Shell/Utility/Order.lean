import MonitorBench.Shell.Utility.Lines
import MonitorBench.Text.Hexadecimal

/-!
# Utilities on the order of lines

Lines are put in order by the whole of them or by keys, each of which compares a part of
the line in a way of its own. Others drop lines that are repeated, compare or join files
that are in order, or put names in an order that pairs of them ask for.
-/

set_option autoImplicit false

namespace MonitorBench.Shell

/-! ## Ways to compare -/

/-- How two texts are ordered letter by letter. -/
def compareLetters (left right : Letters) : Ordering :=
  if left = right then .eq else if comesBefore left right then .lt else .gt

/-- Whether a letter separates fields when nothing else is laid down. -/
def isFieldBlank (c : Char) : Bool :=
  c == ' ' || c == '\t' || c == '\n'

/-- The number at the front of a text: whether it is below zero, the whole part and the places. -/
def leadingNumber (text : Letters) : Bool × Nat × Letters :=
  let trimmed := text.dropWhile isFieldBlank
  let (negative, unsigned) : Bool × Letters := match trimmed with
    | '-' :: rest => (true, rest)
    | rest => (false, rest)
  let whole := unsigned.takeWhile Char.isDigit
  let places := match unsigned.drop whole.length with
    | '.' :: rest => rest.takeWhile Char.isDigit
    | _ => []
  let places := (places.reverse.dropWhile (· == '0')).reverse
  let value := Nat.ofDigitChars 10 whole 0
  (negative && !(value = 0 && places = []), value, places)

/-- How two numbers at the front of texts are ordered. -/
def compareNumbers (left right : Letters) : Ordering :=
  let (leftDown, leftWhole, leftPlaces) := leadingNumber left
  let (rightDown, rightWhole, rightPlaces) := leadingNumber right
  let magnitude := (compare leftWhole rightWhole).then (compareLetters leftPlaces rightPlaces)
  match leftDown, rightDown with
  | false, false => magnitude
  | true, true => magnitude.swap
  | true, false => .lt
  | false, true => .gt

/-- The rank of the unit behind the number at the front of a text; below zero if the number is. -/
def unitRank (text : Letters) : Int :=
  let trimmed := text.dropWhile isFieldBlank
  let (negative, unsigned) : Bool × Letters := match trimmed with
    | '-' :: rest => (true, rest)
    | rest => (false, rest)
  let number := unsigned.takeWhile fun c => c.isDigit || c == '.'
  if number.any fun c => '0' < c ∧ c.isDigit then
    let rank : Nat := match unsigned.drop number.length with
      | 'k' :: _ => 1
      | c :: _ => match "KMGTPEZYRQ".toList.idxOf? c with
        | some place => place + 1
        | none => 0
      | [] => 0
    if negative then - Int.ofNat rank else Int.ofNat rank
  else 0

/-- The number of a month that a text begins with; zero if it begins with none. -/
def monthRank (text : Letters) : Nat :=
  let name := String.ofList (((text.dropWhile isFieldBlank).take 3).map Char.toUpper)
  match ["JAN", "FEB", "MAR", "APR", "MAY", "JUN", "JUL", "AUG", "SEP", "OCT", "NOV", "DEC"].idxOf? name with
  | some place => place + 1
  | none => 0

/-- A number with an exponent at the front of a text: an integer and the power of ten it is multiplied
with. -/
structure FloatText where
  value : Int
  power : Int

/-- A value that a text can begin with, in the order of these values. -/
inductive LeadingValue where
  | nothing
  | noNumber
  | low
  | number (float : FloatText)
  | high

/-- The value at the front of a text. -/
def leadingValue (text : Letters) : LeadingValue :=
  let trimmed := text.dropWhile isSpace
  let (negative, unsigned) : Bool × Letters := match trimmed with
    | '-' :: rest => (true, rest)
    | '+' :: rest => (false, rest)
    | rest => (false, rest)
  let name := String.ofList ((unsigned.take 3).map Char.toLower)
  let hexadecimal? : Option Nat := match unsigned with
    | '0' :: x :: rest =>
      let digits := rest.takeWhile fun c => (Text.hexDigit? c).isSome
      if (x = 'x' ∨ x = 'X') ∧ digits ≠ [] then Text.valueIn? 16 digits else none
    | _ => none
  let whole := unsigned.takeWhile Char.isDigit
  let behind := unsigned.drop whole.length
  let places : Letters := match behind with
    | '.' :: rest => rest.takeWhile Char.isDigit
    | _ => []
  let behind := match behind with
    | '.' :: rest => rest.drop places.length
    | rest => rest
  if let some value := hexadecimal? then
    .number { value := if negative then - Int.ofNat value else Int.ofNat value, power := 0 }
  else if whole = [] ∧ places = [] then
    if name = "inf" then (if negative then .low else .high) else if name = "nan" then .noNumber else .nothing
  else
    let exponent : Int := match behind with
      | c :: rest =>
        if c = 'e' ∨ c = 'E' then
          let (down, digits) : Bool × Letters := match rest with
            | '-' :: digits => (true, digits)
            | '+' :: digits => (false, digits)
            | digits => (false, digits)
          let value := Int.ofNat (Nat.ofDigitChars 10 (digits.takeWhile Char.isDigit) 0)
          if down then -value else value
        else 0
      | [] => 0
    let value := Int.ofNat (Nat.ofDigitChars 10 (whole ++ places) 0)
    .number { value := if negative then -value else value, power := exponent - Int.ofNat places.length }

/-- How two numbers with exponents are ordered; exponents beyond all bounds count as bounds. -/
def FloatText.compare (left right : FloatText) : Ordering :=
  let low := max (min left.power right.power) (-5000)
  let scaled (float : FloatText) : Int := float.value * Int.ofNat (Nat.pow 10 (min (float.power - low) 5000).toNat)
  Ord.compare (scaled left) (scaled right)

/-- How the values at the front of texts are ordered. -/
def compareValues (left right : Letters) : Ordering :=
  let rank (value : LeadingValue) : Nat := match value with
    | .nothing => 0
    | .noNumber => 1
    | .low => 2
    | .number _ => 3
    | .high => 4
  match leadingValue left, leadingValue right with
  | .number one, .number other => one.compare other
  | one, other => compare (rank one) (rank other)

/-! ### Names with versions -/

/-- The rank of the letter at the front of the name of a version. -/
def versionRank : Letters → Int
  | [] => -1
  | c :: _ =>
    if c.isDigit then 0
    else if c.isAlpha then Int.ofNat c.toNat
    else if c = '~' then -2
    else Int.ofNat (c.toNat + 256)

/-- How names are ordered in which letters and numbers take turns, in at most `fuel` steps. -/
def compareTurns : (fuel : Nat) → Letters → Letters → Ordering
  | 0, _, _ => .eq
  | fuel + 1, left, right =>
    let isOther (text : Letters) : Bool := text.head?.any fun c => !c.isDigit
    if left = [] ∧ right = [] then .eq
    else if isOther left ∨ isOther right then
      if versionRank left = versionRank right then compareTurns fuel (left.drop 1) (right.drop 1)
      else compare (versionRank left) (versionRank right)
    else
      let number (text : Letters) : Nat := Nat.ofDigitChars 10 (text.takeWhile Char.isDigit) 0
      if number left = number right then
        compareTurns fuel (left.dropWhile Char.isDigit) (right.dropWhile Char.isDigit)
      else compare (number left) (number right)

/-- Whether letters are endings of a file, each of which begins with a point and a letter; `fuel` bounds
the number of them. -/
def areEndings : (fuel : Nat) → Letters → Bool
  | 0, text => text.isEmpty
  | _, [] => true
  | fuel + 1, '.' :: c :: rest =>
    (c.isAlpha || c == '~') && areEndings fuel (rest.dropWhile fun c => c.isAlphanum || c == '~')
  | _, _ => false

/-- A name of a version without the endings of a file. -/
def withoutEndings (text : Letters) : Letters :=
  match (List.range text.length).find? fun count => areEndings text.length (text.drop (count + 1)) with
  | some count => text.take (count + 1)
  | none => text

/-- How names with versions are ordered. -/
def compareVersions (left right : Letters) : Ordering :=
  let dots : List Letters := [['.'], ['.', '.']]
  let rank (text : Letters) : Nat :=
    if text = [] then 0
    else match dots.idxOf? text with
      | some place => place + 1
      | none => if text.head? = some '.' then 3 else 4
  let fuel := left.length + right.length + 1
  if rank left = rank right then
    let first := compareTurns fuel (withoutEndings left) (withoutEndings right)
    first.then (compareTurns fuel left right)
  else compare (rank left) (rank right)

/-! ## Keys -/

/-- How the part of a line that a key takes is compared. -/
inductive Comparison where
  | letters
  | number
  | value
  | human
  | month
  | version
  deriving DecidableEq

/-- How parts of lines are ordered. -/
structure SortWay where
  comparison : Comparison := .letters
  reverse : Bool := false
  fold : Bool := false
  /-- Whether only blanks, letters and digits count. -/
  dictionary : Bool := false
  /-- Whether only letters that can be printed count. -/
  printable : Bool := false
  /-- Whether blanks before the part do not count. -/
  trimsStart : Bool := false
  /-- Whether blanks before the end of the part do not count. -/
  trimsEnd : Bool := false
  deriving DecidableEq

namespace SortWay

/-- A way with what a letter asks for; the letter stands at the beginning or at the end of a key. -/
def add (way : SortWay) (atStart atEnd : Bool) (c : Char) : Option SortWay :=
  match c with
  | 'b' => some { way with trimsStart := way.trimsStart || atStart, trimsEnd := way.trimsEnd || atEnd }
  | 'd' => some { way with dictionary := true }
  | 'f' => some { way with fold := true }
  | 'i' => some { way with printable := true }
  | 'r' => some { way with reverse := true }
  | 'g' => some { way with comparison := .value }
  | 'h' => some { way with comparison := .human }
  | 'M' => some { way with comparison := .month }
  | 'n' => some { way with comparison := .number }
  | 'V' => some { way with comparison := .version }
  | _ => none

/-- How a way orders two texts. -/
def compare (way : SortWay) (left right : Letters) : Ordering :=
  let counted (text : Letters) : Letters :=
    let kept := text.filter fun c =>
      (!way.dictionary || c.isAlphanum || isFieldBlank c)
        && (!way.printable || (32 ≤ c.toNat && c.toNat < 127))
    if way.fold then kept.map Char.toUpper else kept
  let order := match way.comparison with
    | .letters => compareLetters (counted left) (counted right)
    | .number => compareNumbers (counted left) (counted right)
    | .value => compareValues (counted left) (counted right)
    | .human =>
      (Ord.compare (unitRank (counted left)) (unitRank (counted right))).then
        (compareNumbers (counted left) (counted right))
    | .month => Ord.compare (monthRank (counted left)) (monthRank (counted right))
    | .version => compareVersions (counted left) (counted right)
  if way.reverse then order.swap else order

end SortWay

/-- A part of a line that lines are ordered by. -/
structure SortKey where
  /-- The number of fields and of letters in the next one that stand before the part. -/
  first : Nat × Nat := (0, 0)
  /-- The number of fields and of letters in the next one that end with the part. -/
  last : Option (Nat × Nat) := none
  way : SortWay := {}

/-- What is left of a text behind a number of fields; `full` tells whether the separator behind the last of
them is passed, too. -/
def behindFields (separator : Option Char) (full : Bool) : (count : Nat) → Letters → Letters
  | 0, text => text
  | count + 1, text =>
    let rest := match separator with
      | some c =>
        let left := text.dropWhile (· != c)
        if 0 < count ∨ full then left.drop 1 else left
      | none => (text.dropWhile isFieldBlank).dropWhile fun c => !isFieldBlank c
    behindFields separator full count rest

/-- The part of a line that a key takes. -/
def SortKey.part (key : SortKey) (separator : Option Char) (line : Letters) : Letters :=
  let trim (trims : Bool) (text : Letters) : Letters := if trims then text.dropWhile isFieldBlank else text
  let start := (trim key.way.trimsStart (behindFields separator true key.first.1 line)).drop key.first.2
  let behind := match key.last with
    | none => []
    | some (fields, 0) => behindFields separator false (fields + 1) line
    | some (fields, count) => (trim key.way.trimsEnd (behindFields separator true fields line)).drop count
  start.take (start.length - behind.length)

/-- The key that a text describes: places in lines, and letters for how they are compared. -/
def sortKey? (base : SortWay) (text : Letters) : Option SortKey := do
  let place (text : Letters) : Option (Nat × Option Nat × Letters) := do
    let digits := text.takeWhile Char.isDigit
    let field ← (natural? digits).filter (0 < ·)
    match text.drop digits.length with
    | '.' :: rest =>
      let digits := rest.takeWhile Char.isDigit
      return (field, some (← natural? digits), rest.drop digits.length)
    | rest => return (field, none, rest)
  let (field, letter, rest) ← place text
  if letter = some 0 then
    failure
  let marks := rest.takeWhile (· != ',')
  let way ← marks.foldlM (fun (way : SortWay) c => way.add true false c) {}
  let first := (field - 1, letter.getD 1 - 1)
  let key ← match rest.drop marks.length with
    | _ :: after => do
      let (field, letter, more) ← place after
      let way ← more.foldlM (fun (way : SortWay) c => way.add false true c) way
      pure { first, last := some (field - 1, letter.getD 0), way : SortKey }
    | [] => pure { first, way : SortKey }
  return if key.way = {} then { key with way := base } else key

/-! ## Lines in order -/

/-- Lists of lines merged: the first line of all that comes before the others is taken, at most `fuel`
times. -/
def mergedLines (before : Letters → Letters → Bool) : (fuel : Nat) → List (List Letters) → List Letters
  | 0, _ => []
  | fuel + 1, lists =>
    let best := (lists.zipIdx).foldl
      (fun (best : Option (Letters × Nat)) (list, place) => match list.head?, best with
        | some line, some (other, _) => if before other line then best else some (line, place)
        | some line, none => some (line, place)
        | none, best => best)
      none
    match best with
    | some (line, place) => line :: mergedLines before fuel (lists.modify place (List.drop 1))
    | none => []

/-- A place in a line in the old style, where fields and letters are counted from zero, in the new one. -/
def oldPlace (isEnd : Bool) (text : Letters) : Letters :=
  let field := text.takeWhile Char.isDigit
  let number (text : Letters) : Nat := Nat.ofDigitChars 10 text 0
  match text.drop field.length with
  | '.' :: rest =>
    let letter := rest.takeWhile Char.isDigit
    let shift := if isEnd then 0 else 1
    digits (number field + 1) ++ '.' :: digits (number letter + shift) ++ rest.drop letter.length
  | rest => digits (number field + (if isEnd then 0 else 1)) ++ rest

/-- The arguments with the keys in the old style, which begin with a plus sign, in the new one. -/
def expandOldKeys : List Letters → List Letters
  | [] => []
  | ('+' :: c :: cs) :: ('-' :: d :: ds) :: rest =>
    if c.isDigit ∧ d.isDigit then
      letters "-k" :: (oldPlace false (c :: cs) ++ ',' :: oldPlace true (d :: ds)) :: expandOldKeys rest
    else if c.isDigit then letters "-k" :: oldPlace false (c :: cs) :: ('-' :: d :: ds) :: expandOldKeys rest
    else ('+' :: c :: cs) :: ('-' :: d :: ds) :: expandOldKeys rest
  | ('+' :: c :: cs) :: rest =>
    if c.isDigit then letters "-k" :: oldPlace false (c :: cs) :: expandOldKeys rest
    else ('+' :: c :: cs) :: expandOldKeys rest
  | argument :: rest => argument :: expandOldKeys rest

/-- The options for ordering lines. -/
def sortOptions : OptionKinds :=
  { plain := "bdfghiMnrVcCmsuzR", valued := "kotSTp"
    long := [("numeric-sort", 'n'), ("general-numeric-sort", 'g'), ("human-numeric-sort", 'h'),
      ("month-sort", 'M'), ("version-sort", 'V'), ("reverse", 'r'), ("unique", 'u'), ("ignore-case", 'f'),
      ("ignore-leading-blanks", 'b'), ("dictionary-order", 'd'), ("ignore-nonprinting", 'i'),
      ("key", 'k'), ("field-separator", 't'), ("output", 'o'), ("stable", 's'), ("merge", 'm'),
      ("check", 'c'), ("zero-terminated", 'z'), ("parallel", 'p'), ("buffer-size", 'S'),
      ("temporary-directory", 'T')] }

/-- Prints lines in order. -/
def sort : Utility := fun _ arguments =>
  let plainly? (argument : Letters) : Letters :=
    match String.ofList argument with
    | "--check=quiet" => letters "-C"
    | "--check=silent" => letters "-C"
    | "--check=diagnose-first" => letters "-c"
    | "--sort=numeric" => letters "-n"
    | "--sort=general-numeric" => letters "-g"
    | "--sort=human-numeric" => letters "-h"
    | "--sort=month" => letters "-M"
    | "--sort=version" => letters "-V"
    | _ => argument
  withOptions "sort" sortOptions 2 (expandOldKeys (arguments.map plainly?)) fun parsed => do
    let refuse (message : Letters) : Run Nat := do
      warn "sort" message
      return 2
    let base : SortWay := parsed.options.foldl (fun way (option, _) => (way.add true true option).getD way) {}
    let separator? : Except Letters (Option Char) := match parsed.value? 't' with
      | none => .ok none
      | some [c] => .ok (some c)
      | some ['\\', '0'] => .ok (some '\x00')
      | some [] => .error (letters "empty tab")
      | some text => .error (letters "multi-character tab " ++ quoted text)
    let keyTexts := (parsed.options.filter (·.1 == 'k')).map Prod.snd
    match separator?, keyTexts.mapM (sortKey? base), keyTexts.find? fun text => (sortKey? base text).isNone with
    | .error message, _, _ => refuse message
    | _, none, text => refuse (letters "invalid field specification " ++ quoted (text.getD []))
    | .ok separator, some keys, _ =>
      let hasWay : Bool := { base with reverse := false } != ({} : SortWay)
      let ways := if keys.isEmpty ∧ hasWay then [({ way := base } : SortKey)] else keys
      let ending := if parsed.has 'z' then '\x00' else '\n'
      let ended (lines : List Letters) : Letters := lines.flatMap (· ++ [ending])
      let isUnique := parsed.has 'u'
      let byKeys (left right : Letters) : Ordering :=
        ways.foldl
          (fun order key => order.then (key.way.compare (key.part separator left) (key.part separator right)))
          .eq
      let last (left right : Letters) : Ordering :=
        let order := compareLetters left right
        if base.reverse then order.swap else order
      let whole (left right : Letters) : Ordering :=
        if ways.isEmpty then last left right
        else if parsed.has 's' ∨ isUnique then byKeys left right
        else (byKeys left right).then (last left right)
      match parsed.operands[1]? with
      | some extra =>
        if parsed.has 'c' ∨ parsed.has 'C' then
          return ← refuse (letters "extra operand " ++ quoted extra ++ letters " not allowed with -c")
      | none => pure ()
      let (contents, status) ←
        contentsOf "sort" (fun path fault =>
          letters (if fault = .isDirectory then "read failed: " else "cannot read: ") ++ plainly path fault)
          parsed.operands
      if status ≠ 0 then
        return 2
      if parsed.has 'c' ∨ parsed.has 'C' then
        let lines := contents.flatMap fun (_, content) => barePieces ending content
        let isWrong (pair : (Letters × Letters) × Nat) : Bool :=
          match whole pair.1.1 pair.1.2 with
          | .gt => true
          | .eq => isUnique
          | .lt => false
        match ((List.zip lines (lines.drop 1)).zipIdx 2).find? isWrong with
        | some ((_, line), number) =>
          unless parsed.has 'C' do
            warn "sort" ((parsed.operands.head?).getD ['-'] ++ ':' :: digits number ++ letters ": disorder: " ++ line)
          return 1
        | none => return 0
      let lists := contents.map fun (_, content) => barePieces ending content
      let sorted := if parsed.has 'm' then
          mergedLines (fun left right => (whole left right).isLE) (lists.flatten.length + 1) lists
        else lists.flatten.mergeSort fun left right => (whole left right).isLE
      let kept := if isUnique then
          (sorted.foldl (fun kept line => match kept with
            | before :: _ => if whole before line == .eq then kept else line :: kept
            | [] => [line]) []).reverse
        else sorted
      match parsed.value? 'o' with
      | some path =>
        match (← disk).write (← aim path) (bytesOf (ended kept)) with
        | .ok disk =>
          setDisk disk
          return 0
        | .error fault => refuse (letters "open failed: " ++ plainly path fault)
      | none =>
        say (ended kept)
        return 0

/-! ## Lines that are repeated -/

/-- Neighbours of a list that are equal, put together. -/
def runsOf (same : Letters → Letters → Bool) (lines : List Letters) : List (List Letters) :=
  ((lines.foldl
    (fun (found : List (List Letters)) line => match found with
      | run :: rest =>
        if (run.getLast?).any (same · line) then (line :: run) :: rest else [line] :: found
      | [] => [[line]])
    []).map List.reverse).reverse

/-- Prints lines without those that are equal to the line before. -/
def uniq : Utility := fun _ arguments =>
  let kinds : OptionKinds :=
    { plain := "cdDuiz", valued := "fswa"
      long := [("count", 'c'), ("repeated", 'd'), ("unique", 'u'), ("ignore-case", 'i'), ("skip-fields", 'f'),
        ("skip-chars", 's'), ("check-chars", 'w'), ("zero-terminated", 'z'), ("all-repeated", 'a')] }
  let separateAll (argument : Letters) : Letters :=
    if argument = letters "--all-repeated" then letters "-D" else expandWidth 'f' argument
  withOptions "uniq" kinds 1 (arguments.map separateAll) fun parsed => do
    let number? (option : Char) : Option (Option Nat) :=
      match parsed.value? option with
      | none => some none
      | some text => (natural? text).map some
    match parsed.operands[2]? with
    | some extra => return ← misuse "uniq" (letters "extra operand " ++ quoted extra) 1
    | none => pure ()
    match number? 'f', number? 's', number? 'w' with
    | some fields, some skipped, some width =>
      let ending := if parsed.has 'z' then '\x00' else '\n'
      let (contents, status) ← contentsOf "uniq" plainly (parsed.operands.take 1)
      let lines := contents.flatMap fun (_, content) => barePieces ending content
      let compared (line : Letters) : Letters :=
        let behind := (behindFields none true (fields.getD 0) line).drop (skipped.getD 0)
        let part := match width with
          | some width => behind.take width
          | none => behind
        if parsed.has 'i' then part.map Char.toLower else part
      let groups := runsOf (fun left right => compared left == compared right) lines
      let isAll := parsed.has 'D' || parsed.has 'a'
      let chosen := groups.filter fun group =>
        (!(parsed.has 'd' || isAll) || 1 < group.length) && (!parsed.has 'u' || group.length = 1)
      let texts : List (List Letters) := chosen.map fun group =>
        if isAll then group
        else if parsed.has 'c' then [padLeft 7 (digits group.length) ++ ' ' :: group.headD []]
        else group.take 1
      let method := (parsed.value? 'a').getD []
      let blank : List Letters := [[]]
      let shown := if method = letters "separate" then blank.intercalate texts
        else if method = letters "prepend" then texts.flatMap (blank ++ ·)
        else texts.flatten
      let text := shown.flatMap (· ++ [ending])
      match parsed.operands[1]? with
      | some path =>
        if path = ['-'] then
          say text
          return status
        match (← disk).write (← aim path) (bytesOf text) with
        | .ok disk =>
          setDisk disk
          return status
        | .error fault =>
          warn "uniq" (plainly path fault)
          return 1
      | none =>
        say text
        return status
    | _, _, _ =>
      warn "uniq" (((parsed.value? 'f').getD []) ++ letters ": invalid number of fields to skip")
      return 1

/-! ## Files in order -/

/-- How far two files in order have been compared, from line to line. -/
structure Comparing where
  /-- The lines that are shown, each with its column. -/
  shown : List (Letters × Nat) := []
  /-- Whether a line was in one file only. -/
  differs : Bool := false
  /-- The files that were found not to be in order. -/
  disorders : List Nat := []

/-- Compares files in order line by line, in at most `fuel` steps; `isChecked` tells whether the order is
checked from the beginning or not at all, and otherwise from the first difference on. -/
def compareInOrder (isChecked : Option Bool) : (fuel : Nat) → (before : List (Option Letters)) →
    List Letters → List Letters → Comparing → Comparing
  | 0, _, _, _, state => state
  | fuel + 1, before, left, right, state =>
    let order : Option Ordering := match left.head?, right.head? with
      | some one, some other => some (compareLetters one other)
      | some _, none => some .lt
      | none, some _ => some .gt
      | none, none => none
    match order with
    | none => state
    | some order =>
      let differs := state.differs || order != .eq
      let row : Letters × Nat := match order with
        | .eq => (left.headD [], 3)
        | .lt => (left.headD [], 1)
        | .gt => (right.headD [], 2)
      let advancesLeft := order != .gt
      let advancesRight := order != .lt
      let checks := isChecked.getD differs
      let wrong (advances : Bool) (lines : List Letters) (previous : Option Letters) : Bool :=
        checks && advances && (match lines with
          | one :: other :: _ => compareLetters one other == .gt
          | [one] => previous.any fun other => compareLetters other one == .gt
          | [] => false)
      let previousLeft := (before[0]?).join
      let previousRight := (before[1]?).join
      let disorders := state.disorders
        ++ (if wrong advancesLeft left previousLeft ∧ !state.disorders.contains 1 then [1] else [])
        ++ (if wrong advancesRight right previousRight ∧ !state.disorders.contains 2 then [2] else [])
      let next : Comparing := { shown := row :: state.shown, differs, disorders }
      if isChecked = some true ∧ !disorders.isEmpty then next
      else compareInOrder isChecked fuel
        [if advancesLeft then left.head? else previousLeft, if advancesRight then right.head? else previousRight]
        (if advancesLeft then left.drop 1 else left) (if advancesRight then right.drop 1 else right) next

/-- Compares two files in order line by line. -/
def comm : Utility := fun _ arguments =>
  let kinds : OptionKinds :=
    { plain := "123znct", valued := "O"
      long := [("output-delimiter", 'O'), ("zero-terminated", 'z'), ("nocheck-order", 'n'),
        ("check-order", 'c'), ("total", 't')] }
  withOptions "comm" kinds 1 arguments fun parsed => do
    match parsed.operands with
    | [one, other] =>
      let (contents, status) ← contentsOf "comm" plainly [one, other]
      if status ≠ 0 then
        return 1
      let lists := contents.map fun (_, content) => linesOf content
      let isChecked := if parsed.has 'c' then some true else if parsed.has 'n' then some false else none
      let (left, right) := (lists[0]?.getD [], lists[1]?.getD [])
      let state := compareInOrder isChecked (left.length + right.length + 1) [none, none] left right {}
      let between := (parsed.value? 'O').getD ['\t']
      let isHidden (column : Nat) : Bool := parsed.has (Char.ofNat (48 + column))
      for (line, column) in state.shown.reverse do
        unless isHidden column do
          let before := ((List.range (column - 1)).filter fun earlier => !isHidden (earlier + 1)).length
          say ((List.replicate before between).flatten ++ line ++ ['\n'])
      if parsed.has 't' then
        let count (column : Nat) : Letters := digits (state.shown.filter (·.2 == column)).length
        say (count 1 ++ between ++ count 2 ++ between ++ count 3 ++ between ++ letters "total\n")
      for file in state.disorders do
        warn "comm" (letters "file " ++ digits file ++ letters " is not in sorted order")
      if !state.disorders.isEmpty then
        unless parsed.has 'c' do
          warn "comm" (letters "input is not in sorted order")
        return 1
      return 0
    | [] => misuse "comm" (letters "missing operand") 1
    | [one] => misuse "comm" (letters "missing operand after " ++ quoted one) 1
    | _ :: _ :: extra :: _ => misuse "comm" (letters "extra operand " ++ quoted extra) 1

/-- Where a field of a joined line comes from. -/
inductive JoinedField where
  | common
  | field (file number : Nat)

/-- What lines are joined by. -/
structure Joining where
  /-- The fields of the files that are compared, from zero on. -/
  keys : Nat × Nat := (0, 0)
  separator : Option Char := none
  fold : Bool := false
  /-- What stands for a field that is missing. -/
  missing : Letters := []
  /-- The fields that are shown. -/
  format : Option (List JoinedField) := none
  /-- How many fields of each file are shown otherwise, if that is laid down. -/
  counts : Option (Nat × Nat) := none

namespace Joining

/-- The fields of a line. -/
def fields (joining : Joining) (line : Letters) : List Letters :=
  match joining.separator with
  | some c => Text.splitOn c line
  | none =>
    ((line.foldl
      (fun (state : List Letters × Bool) c =>
        let (fields, inside) := state
        if isFieldBlank c then (fields, false)
        else match fields, inside with
          | field :: rest, true => ((c :: field) :: rest, true)
          | fields, _ => ([c] :: fields, true))
      ([], false)).1.map List.reverse).reverse

/-- The field of a line that is compared. -/
def key (joining : Joining) (file : Nat) (line : Letters) : Letters :=
  let place := if file = 1 then joining.keys.1 else joining.keys.2
  let text := ((joining.fields line)[place]?).getD []
  if joining.fold then text.map Char.toLower else text

/-- Shows lines that belong together, or one that is alone. -/
def shown (joining : Joining) (left right : Option Letters) : Letters :=
  let between : Letters := [joining.separator.getD ' ']
  let fieldsOf (line : Option Letters) : List Letters := (line.map joining.fields).getD []
  let others (line : Option Letters) (key : Nat) (count : Option Nat) : List Letters :=
    let fields := fieldsOf line
    let counted := match count with
      | some count => fields.take count ++ List.replicate (count - fields.length) []
      | none => fields
    counted.eraseIdx key
  let common : Letters := match left, right with
    | some line, _ => ((joining.fields line)[joining.keys.1]?).getD []
    | none, some line => ((joining.fields line)[joining.keys.2]?).getD []
    | none, none => []
  let orMissing (text : Letters) : Letters := if text = [] then joining.missing else text
  let pieces := match joining.format with
    | some format => format.map fun field => orMissing (match field with
      | .common => common
      | .field 1 number => ((fieldsOf left)[number]?).getD []
      | .field _ number => ((fieldsOf right)[number]?).getD [])
    | none => (common :: others left joining.keys.1 (joining.counts.map Prod.fst)
        ++ others right joining.keys.2 (joining.counts.map Prod.snd)).map orMissing
  between.intercalate pieces ++ ['\n']

/-- Joins lines of files in order, in at most `fuel` steps; tests tell whether lines that are alone in a file
are shown, and whether lines that belong together are. -/
def lines (joining : Joining) (showsLeft showsRight showsPairs : Bool) : (fuel : Nat) →
    List Letters → List Letters → List Letters
  | 0, _, _ => []
  | fuel + 1, left, right =>
    let single (isShown : Bool) (text : Letters) : List Letters := if isShown then [text] else []
    match left, right with
    | [], [] => []
    | one :: rest, [] =>
      single showsLeft (joining.shown (some one) none) ++ joining.lines showsLeft showsRight showsPairs fuel rest []
    | [], other :: rest =>
      single showsRight (joining.shown none (some other)) ++ joining.lines showsLeft showsRight showsPairs fuel [] rest
    | one :: leftRest, other :: rightRest =>
      let leftKey := joining.key 1 one
      let rightKey := joining.key 2 other
      match compareLetters leftKey rightKey with
      | .lt =>
        single showsLeft (joining.shown (some one) none)
          ++ joining.lines showsLeft showsRight showsPairs fuel leftRest (other :: rightRest)
      | .gt =>
        single showsRight (joining.shown none (some other))
          ++ joining.lines showsLeft showsRight showsPairs fuel (one :: leftRest) rightRest
      | .eq =>
        let lefts := (one :: leftRest).takeWhile fun line => joining.key 1 line == leftKey
        let rights := (other :: rightRest).takeWhile fun line => joining.key 2 line == rightKey
        (if showsPairs then
            lefts.flatMap fun one => rights.map fun other => joining.shown (some one) (some other)
          else [])
          ++ joining.lines showsLeft showsRight showsPairs fuel ((one :: leftRest).drop lefts.length)
            ((other :: rightRest).drop rights.length)

end Joining

/-- The fields that a text asks for. -/
def joinedFields? (text : Letters) : Option (List JoinedField) :=
  let pieces := (Text.splitOn ',' (text.map fun c => if isFieldBlank c then ',' else c)).filter (· != [])
  pieces.mapM fun piece =>
    match piece with
    | ['0'] => some .common
    | file :: '.' :: number =>
      if file = '1' ∨ file = '2' then
        (natural? number).bind fun n => if n = 0 then none else some (.field (file.toNat - 48) (n - 1))
      else none
    | _ => none

/-- Joins the lines of two files that have a field in common. -/
def join : Utility := fun _ arguments =>
  let kinds : OptionKinds :=
    { plain := "iz", valued := "12jtaveo", long := [("ignore-case", 'i'), ("header", 'H'), ("nocheck-order", 'z')] }
  withOptions "join" kinds 1 arguments fun parsed => do
    let number? (option : Char) : Option Nat :=
      match (parsed.value? option).or (parsed.value? 'j') with
      | none => some 0
      | some text => (natural? text).bind fun n => if n = 0 then none else some (n - 1)
    let format? : Option (Option (List JoinedField)) := match parsed.value? 'o' with
      | none => some none
      | some text => if text = letters "auto" then some none else (joinedFields? text).map some
    match parsed.operands, number? '1', number? '2', format? with
    | [one, other], some first, some second, some format =>
      let (contents, status) ← contentsOf "join" plainly [one, other]
      if status ≠ 0 then
        return 1
      let lists := contents.map fun (_, content) => linesOf content
      let separator : Option Char := (parsed.value? 't').bind List.head?
      let (left, right) := (lists[0]?.getD [], lists[1]?.getD [])
      let joining : Joining :=
        { keys := (first, second), separator, fold := parsed.has 'i', missing := (parsed.value? 'e').getD [], format }
      let counts : Option (Nat × Nat) :=
        if parsed.value? 'o' = some (letters "auto") then
          some ((joining.fields (left.headD [])).length, (joining.fields (right.headD [])).length)
        else none
      let joining := { joining with counts }
      let isAsked (option : Char) (file : Char) : Bool := parsed.options.any fun given => given = (option, [file])
      let onlySingles := parsed.options.any (·.1 == 'v')
      for line in joining.lines (isAsked 'a' '1' || isAsked 'v' '1') (isAsked 'a' '2' || isAsked 'v' '2')
          (!onlySingles) (left.length + right.length + 1) left right do
        say line
      return 0
    | [], _, _, _ => misuse "join" (letters "missing operand") 1
    | [one], _, _, _ => misuse "join" (letters "missing operand after " ++ quoted one) 1
    | _, _, _, _ => misuse "join" (letters "invalid field specifier") 1

/-! ## Orders that pairs ask for -/

/-- Takes names from a queue, at most `fuel` of them. A name joins the queue when the last of those that
come before it was taken; `counts` tells how many of them are left. What is left of the counts is given,
too. -/
def takeInOrder (pairs : List (Letters × Letters)) : (fuel : Nat) → (queue : List Letters) →
    (counts : List (Letters × Nat)) → List Letters × List (Letters × Nat)
  | 0, _, counts => ([], counts)
  | _, [], counts => ([], counts)
  | fuel + 1, name :: queue, counts =>
    let behind := ((pairs.filter (·.1 == name)).map Prod.snd).reverse
    let release (state : List Letters × List (Letters × Nat)) (other : Letters) :
        List Letters × List (Letters × Nat) :=
      let left := ((state.2.lookup other).getD 1) - 1
      (if left = 0 then state.1 ++ [other] else state.1, associate other left state.2)
    let (queue, counts) := behind.foldl release (queue, counts)
    let (others, last) := takeInOrder pairs fuel queue counts
    (name :: others, last)

/-- Pairs of the members of a list, one after the other. -/
def inPairs : List Letters → List (Letters × Letters)
  | one :: other :: rest => (one, other) :: inPairs rest
  | _ => []

/-- Prints names in an order that pairs of them ask for. -/
def tsort : Utility := fun _ arguments =>
  withOptions "tsort" {} 1 arguments fun parsed => do
    let (contents, status) ← contentsOf "tsort" plainly (parsed.operands.take 1)
    if status ≠ 0 then
      return 1
    let words := contents.flatMap fun (_, content) =>
      ((Text.splitOn ' ' (content.map fun c => if isSpace c then ' ' else c)).filter (· != []))
    if words.length % 2 = 1 then
      warn "tsort" ((parsed.operands.headD ['-']) ++ letters ": input contains an odd number of tokens")
      return 1
    let names := (words.mergeSort comesBefore).eraseDups
    let pairs := (inPairs words).filter fun pair => pair.1 != pair.2
    let counts := names.map fun name => (name, (pairs.filter (·.2 == name)).length)
    let free := (counts.filter (·.2 == 0)).map Prod.fst
    let (order, left) := takeInOrder pairs (names.length + 1) free counts
    let loop := (left.filter (0 < ·.2)).map Prod.fst
    say (unlines order)
    unless loop.isEmpty do
      warn "tsort" ((parsed.operands.headD ['-']) ++ letters ": input contains a loop:")
      for name in loop do
        warn "tsort" name
      say (unlines loop)
    return if loop.isEmpty then 0 else 1

end MonitorBench.Shell
