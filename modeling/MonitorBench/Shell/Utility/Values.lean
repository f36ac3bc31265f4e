import MonitorBench.Shell.Condition
import MonitorBench.Shell.Print
import MonitorBench.Shell.Regex.Reader
import MonitorBench.Shell.Utility.Basic

/-!
# Utilities that compute or print something

These print a value that follows from their arguments or from the variables that they are
told: rows of numbers, parts of paths, the value of an expression, or the variables.
-/

set_option autoImplicit false

namespace MonitorBench.Shell

/-! ## Rows of numbers -/

/-- A number for a row, as an integer and how many of its digits are places. -/
structure RowNumber where
  value : Int
  places : Nat
  /-- How many places are shown. -/
  shownPlaces : Nat := 0
  /-- How many letters the number takes when it is shown. -/
  width : Int := 0

/-- The power of ten behind a number in a row, and whether there is one. -/
def rowExponent? (text : Letters) : Option Int :=
  match text with
  | [] => some 0
  | c :: digits => if c = 'e' ∨ c = 'E' then integer? digits else none

/-- The number for a row that a text gives. -/
def rowNumber? (text : Letters) : Option RowNumber :=
  let bare := text.dropWhile fun c => isSpace c || c == '+'
  let (negative, unsigned) : Bool × Letters := match bare with
    | '-' :: rest => (true, rest)
    | rest => (false, rest)
  let sign (value : Nat) : Int := if negative then - Int.ofNat value else Int.ofNat value
  match unsigned with
  | '0' :: x :: c :: cs =>
    if x = 'x' ∨ x = 'X' then (Text.valueIn? 16 (c :: cs)).map fun value => { value := sign value, places := 0 }
    else plain bare unsigned sign
  | unsigned => plain bare unsigned sign
where
  /-- A number in the usual form. -/
  plain (bare unsigned : Letters) (sign : Nat → Int) : Option RowNumber := do
    let whole := unsigned.takeWhile Char.isDigit
    let (fraction?, rest) : Option Letters × Letters := match unsigned.drop whole.length with
      | '.' :: rest => (some (rest.takeWhile Char.isDigit), rest.dropWhile Char.isDigit)
      | rest => (none, rest)
    let fraction := fraction?.getD []
    if whole = [] ∧ fraction = [] then
      failure
    let exponent ← rowExponent? rest
    let value := Nat.ofDigitChars 10 (whole ++ fraction) 0
    let places := Int.ofNat fraction.length - exponent
    let shown : Nat :=
      if exponent < 0 then fraction.length + exponent.natAbs else fraction.length - min fraction.length exponent.toNat
    let pointWidth : Int :=
      if fraction?.isNone then 0 else if fraction = [] then -1 else if whole = [] then 1 else 0
    let lessPoint : Int := if exponent < 0 ∧ (fraction?.isNone ∨ fraction = []) then 1 else 0
    let width := Int.ofNat (bare.length - rest.length) + pointWidth + lessPoint + Int.ofNat exponent.natAbs
    return {
      value := sign (value * Nat.pow 10 (-places).toNat), places := places.toNat, shownPlaces := shown
      width := if rest = [] then width - Int.ofNat exponent.natAbs - lessPoint else width }

/-- A number with places as text, with as many of them as are given. -/
def decimalText (places shown : Nat) (value : Int) : Letters :=
  let ratio : Ratio := { numerator := value.natAbs, denominator := Nat.pow 10 places }
  (if value < 0 then ['-'] else []) ++ ratio.places shown false

/-- The options at the front of the arguments for a row of numbers, in which a dash can also begin a
number, and the numbers; at most `fuel` options. -/
def splitRow : (fuel : Nat) → List Letters → List Letters × List Letters
  | 0, rest => ([], rest)
  | _, [] => ([], [])
  | fuel + 1, argument :: rest =>
    let isOption : Bool := match argument with
      | '-' :: c :: _ => !(c.isDigit || c == '.')
      | _ => false
    let takes := if argument = ['-', 's'] ∨ argument = ['-', 'f'] then 1 else 0
    if argument = ['-', '-'] then ([], rest)
    else if isOption then
      let (options, operands) := splitRow fuel (rest.drop takes)
      (argument :: rest.take takes ++ options, operands)
    else ([], argument :: rest)

/-- The text behind the first directive of a format, and what is wrong with the directive. -/
def behindDirective (format : Letters) : Letters × Option String :=
  let rest := format.drop 1
  let flags := rest.takeWhile "-+ #0'".toList.contains
  let layout := (rest.drop flags.length).takeWhile fun c => c.isDigit || c == '.'
  match (rest.drop (flags.length + layout.length)).dropWhile (· == 'L') with
  | [] => ([], some "ends in %")
  | c :: after => (after, if "aefgAEFG".toList.contains c then none else some ("has unknown %" ++ c.toString ++ " directive"))

/-- The places of directives in a format, at most `fuel` letters of it: the texts from them on. -/
def directives : (fuel : Nat) → Letters → List Letters
  | 0, _ => []
  | fuel + 1, '%' :: '%' :: rest => directives fuel rest
  | fuel + 1, '%' :: rest => ('%' :: rest) :: directives fuel rest
  | fuel + 1, _ :: rest => directives fuel rest
  | _, [] => []

/-- What is wrong with a format for numbers in a row. -/
def rowFormatFault? (format : Letters) : Option Letters :=
  let name := letters "format " ++ quoted format ++ [' ']
  match directives (format.length + 1) format with
  | [] => some (name ++ letters "has no % directive")
  | [one] => (behindDirective one).2.map fun fault => name ++ letters fault
  | one :: _ =>
    some (name ++ letters (((behindDirective one).2).getD "has too many % directives"))

/-- Prints a row of numbers. -/
def seq : Utility := fun _ arguments =>
  let (options, operands) := splitRow arguments.length arguments
  let kinds : OptionKinds :=
    { plain := "w", valued := "sf", long := [("equal-width", 'w'), ("separator", 's'), ("format", 'f')] }
  withOptions "seq" kinds 1 options fun parsed => do
    let bounds? : Option (Letters × Letters × Letters) := match operands with
      | [last] => some (['1'], ['1'], last)
      | [first, last] => some (first, ['1'], last)
      | [first, step, last] => some (first, step, last)
      | _ => none
    match bounds? with
    | none =>
      match operands[3]? with
      | some extra => misuse "seq" (letters "extra operand " ++ quoted extra) 1
      | none => misuse "seq" (letters "missing operand") 1
    | some (firstText, stepText, lastText) =>
      match rowNumber? firstText, rowNumber? stepText, rowNumber? lastText with
      | some first, some step, some last =>
        if step.value = 0 then
          return ← misuse "seq" (letters "invalid Zero increment value: " ++ quoted stepText) 1
        if parsed.has 'w' ∧ parsed.has 'f' then
          return ← misuse "seq" (letters "format string may not be specified when printing equal width strings") 1
        match (parsed.value? 'f').bind rowFormatFault? with
        | some fault => return ← misuse "seq" fault 1
        | none => pure ()
        let places := max first.places (max step.places last.places)
        let scaled (number : RowNumber) : Int := number.value * Int.ofNat (Nat.pow 10 (places - number.places))
        let (low, stride, high) := (scaled first, scaled step, scaled last)
        let count : Nat :=
          if 0 < stride then (if high < low then 0 else ((high - low) / stride).toNat + 1)
          else (if low < high then 0 else ((low - high) / (-stride)).toNat + 1)
        let shown := max first.shownPlaces step.shownPlaces
        let firstWidth := first.width + Int.ofNat (shown - first.shownPlaces)
          + (if first.shownPlaces = 0 ∧ 0 < shown then 1 else 0)
        let lastWidth := last.width + (Int.ofNat shown - Int.ofNat last.shownPlaces)
          + (if 0 < last.shownPlaces ∧ shown = 0 then -1 else if last.shownPlaces = 0 ∧ 0 < shown then 1 else 0)
        let width := if parsed.has 'w' then (max firstWidth lastWidth).toNat else 0
        let text (n : Nat) : Letters :=
          let value := low + stride * Int.ofNat n
          match parsed.value? 'f', decimalText places shown value with
          | some format, _ => (printFormat format [decimalText places places value]).out
          | none, '-' :: cs => '-' :: List.replicate (width - cs.length - 1) '0' ++ cs
          | none, cs => List.replicate (width - cs.length) '0' ++ cs
        let texts := (List.range count).map text
        unless texts.isEmpty do
          say (((parsed.value? 's').getD ['\n']).intercalate texts ++ ['\n'])
        return 0
      | first?, step?, _ =>
        let wrong := if first?.isNone then firstText else if step?.isNone then stepText else lastText
        misuse "seq" (letters "invalid floating point argument: " ++ quoted wrong) 1

/-! ## Parts of paths and words -/

/-- Prints the last name of a path. -/
def basename : Utility := fun _ arguments =>
  let kinds : OptionKinds :=
    { plain := "az", valued := "s", mixed := false, long := [("multiple", 'a'), ("suffix", 's'), ("zero", 'z')] }
  withOptions "basename" kinds 1 arguments fun parsed => do
    let ending := if parsed.has 'z' then '\x00' else '\n'
    let nameOf (ending path : Letters) : Letters :=
      let trimmed := letters (Path.withoutSlashes (spelled path))
      let name := if trimmed.all (· == '/') then (if trimmed.isEmpty then [] else ['/'])
        else (Text.splitOn '/' trimmed).getLast?.getD []
      if ending ≠ [] ∧ ending ≠ name ∧ ending.reverse.isPrefixOf name.reverse then
        name.take (name.length - ending.length)
      else name
    match parsed.operands with
    | [] => misuse "basename" (letters "missing operand") 1
    | operands =>
      if parsed.has 'a' ∨ parsed.has 's' then
        for path in operands do
          say (nameOf ((parsed.value? 's').getD []) path ++ [ending])
        return 0
      else match operands with
        | _ :: _ :: extra :: _ =>
          misuse "basename" (letters "extra operand " ++ quoted extra) 1
        | path :: rest =>
          say (nameOf (rest.headD []) path ++ [ending])
          return 0
        | [] => return 1

/-- Prints a path without its last name. -/
def dirname : Utility := fun _ arguments =>
  withOptions "dirname" { plain := "z", long := [("zero", 'z')] } 1 arguments fun parsed => do
    if parsed.operands.isEmpty then
      return ← misuse "dirname" (letters "missing operand") 1
    for path in parsed.operands do
      let trimmed := letters (Path.withoutSlashes (spelled path))
      let before := (trimmed.reverse.dropWhile (· != '/')).reverse
      let above :=
        if before.isEmpty then ['.']
        else if before.all (· == '/') then ['/']
        else (before.reverse.dropWhile (· == '/')).reverse
      say (above ++ (if parsed.has 'z' then ['\x00'] else ['\n']))
    return 0

/-- The letters of a text whose backslashes count, and whether the printing ends there; at most `fuel`
steps of it. -/
def unescapedText : (fuel : Nat) → Letters → Letters × Bool
  | 0, _ => ([], false)
  | _, [] => ([], false)
  | fuel + 1, '\\' :: c :: rest =>
    let more (letter : Letters) (after : Letters) : Letters × Bool :=
      let (others, ends) := unescapedText fuel after
      (letter ++ others, ends)
    let code (base : Nat) (digits : Letters) : Letters := [Char.ofNat ((Text.valueIn? base digits).getD 0 % 256)]
    if c = 'c' then ([], true)
    else if c = 'x' then
      let digits := (rest.take 2).takeWhile fun d => (Text.hexDigit? d).isSome
      if digits = [] then more ['\\', 'x'] rest else more (code 16 digits) (rest.drop digits.length)
    else if c = '0' then
      let digits := (rest.take 3).takeWhile isOctal
      more (code 8 digits) (rest.drop digits.length)
    else if isOctal c then
      let digits := ((c :: rest).take 3).takeWhile isOctal
      more (code 8 digits) ((c :: rest).drop digits.length)
    else match controlLetter? c with
      | some control => more [control] rest
      | none => more ['\\', c] rest
  | fuel + 1, c :: rest =>
    let (others, ends) := unescapedText fuel rest
    (c :: others, ends)

/-- The words at the front that are options for printing words, and the others. -/
def splitEchoOptions : List Letters → Letters × List Letters
  | [] => ([], [])
  | word :: words =>
    let flags := word.drop 1
    if word.head? = some '-' ∧ flags ≠ [] ∧ flags.all "neE".toList.contains then
      let (others, rest) := splitEchoOptions words
      (flags ++ others, rest)
    else ([], word :: words)

/-- Prints arguments as they are, or with the meaning of backslashes. -/
def plainEcho : Utility := fun _ arguments => do
  let (flags, words) := splitEchoOptions arguments
  let text := [' '].intercalate words
  let escapes := (flags.reverse.find? fun flag => flag != 'n') = some 'e'
  let (shown, ends) := if escapes then unescapedText (text.length + 1) text else (text, false)
  say (if ends ∨ flags.contains 'n' then shown else shown ++ ['\n'])
  return 0

/-- Prints arguments with a format. -/
def plainPrintf : Utility := fun _ arguments => do
  match arguments with
  | [] => misuse "printf" (letters "missing operand") 1
  | format :: arguments =>
    let printing := printFormat format arguments
    say printing.out
    for warning in printing.warnings do
      warn "printf" (quoted warning)
    match printing.fault with
    | some fault =>
      warn "printf" fault
      return 1
    | none => return if printing.warnings.isEmpty then 0 else 1

/-- Prints the variables that programs are told, or some of them. -/
def printenv : Utility := fun _ arguments => do
  let process ← process
  let told := process.bindings.filterMap fun (name, binding) =>
    if binding.exported then binding.value.map fun value => (name, value) else none
  if arguments.isEmpty then
    say (unlines (told.map fun (name, value) => name ++ '=' :: value))
    return 0
  else
    forOperands arguments fun name =>
      match told.lookup name with
      | some value => do
        say (value ++ ['\n'])
        return 0
      | none => return 1

/-- Prints the path of the place. -/
def plainPwd : Utility := fun _ _ => do
  say (letters ((← disk).homePath ++ "\n"))
  return 0

/-- Lets a condition decide on the status. -/
def plainTest (name : String) : Utility := fun _ arguments => do
  let words? : Option (List Letters) :=
    if name = "[" then (if arguments.getLast? = some [']'] then some arguments.dropLast else none)
    else some arguments
  match words? with
  | none =>
    warn name (letters "missing ']'")
    return 2
  | some words =>
    let session ← get
    match conditionHolds { system := session.system } words with
    | .ok holds => return if holds then 0 else 1
    | .error fault =>
      warn name fault.message
      return 2

/-! ## The value of an expression -/

/-- Why words are no expression. -/
inductive ExprFault where
  | missing
  | unexpected (word : Letters)
  | missingAfter (word : Letters)
  | noInteger
  | byZero
  | noClosing (word : Letters)
  | wrongPattern (fault : RegexFault)

/-- What comes of reading an expression: its value and the words that are left. -/
abbrev ExprReading := Except ExprFault (Letters × List Letters)

/-- Whether a value counts as nothing. -/
def isNull (value : Letters) : Bool :=
  value.isEmpty || (integer? value == some 0)

/-- The integer that a value is; it has no plus sign. -/
def exprInteger? (value : Letters) : Option Int :=
  if value.head? = some '+' then none else integer? value

/-- What a text that begins with a match gives: the group that was marked, or the length. -/
def matchValue (text pattern : Letters) : Except ExprFault Letters :=
  match Regex.parse {} pattern with
  | .error fault => .error (.wrongPattern fault)
  | .ok regex =>
    .ok (match regex.matchAt {} [] text with
      | some found => if 0 < regex.groups then found.group 1 else digits found.taken.length
      | none => if 0 < regex.groups then [] else ['0'])

/-- Reads a word by itself, a match, or an expression in parentheses. -/
def readExprPrimary (whole : List Letters → ExprReading) : List Letters → ExprReading
  | [] => .error .missing
  | ['('] :: rest => do
    match ← whole rest with
    | (value, [')'] :: after) => return (value, after)
    | (_, word :: _) => throw (.noClosing word)
    | (_, []) => throw (.noClosing [])
  | word :: rest =>
    match String.ofList word, rest with
    | "length", text :: after => .ok (digits text.length, after)
    | "match", text :: pattern :: after => (matchValue text pattern).map fun value => (value, after)
    | "index", text :: set :: after =>
      .ok (digits (match text.findIdx? set.contains with
        | some place => place + 1
        | none => 0), after)
    | "substr", text :: start :: count :: after =>
      match integer? start, integer? count with
      | some start, some count =>
        .ok (if start ≤ 0 ∨ count ≤ 0 then [] else (text.drop (start.toNat - 1)).take count.toNat, after)
      | _, _ => .ok ([], after)
    | "+", quotedWord :: after => .ok (quotedWord, after)
    | ")", _ => .error (.unexpected word)
    | _, _ => .ok (word, rest)

/-- The levels of operators between values, the tightest first. -/
def exprLevels : List (List String) :=
  [[":"], ["*", "/", "%"], ["+", "-"], ["<", "<=", "=", "==", "!=", ">=", ">"], ["&"], ["|"]]

/-- The value that an operator gives. -/
def exprApply (operator : String) (left right : Letters) : Except ExprFault Letters := do
  let truth (condition : Bool) : Letters := if condition then ['1'] else ['0']
  let integers (f : Int → Int → Except ExprFault Int) : Except ExprFault Letters :=
    match exprInteger? left, exprInteger? right with
    | some m, some n => do return Text.integerChars (← f m n)
    | _, _ => throw .noInteger
  let compares (test : Ordering → Bool) : Letters :=
    match exprInteger? left, exprInteger? right with
    | some m, some n => truth (test (compare m n))
    | _, _ => truth (test (if left = right then .eq else if comesBefore left right then .lt else .gt))
  match operator with
  | ":" => matchValue left right
  | "*" => integers fun m n => .ok (m * n)
  | "/" => integers fun m n => if n = 0 then .error .byZero else .ok (m.tdiv n)
  | "%" => integers fun m n => if n = 0 then .error .byZero else .ok (m.tmod n)
  | "+" => integers fun m n => .ok (m + n)
  | "-" => integers fun m n => .ok (m - n)
  | "<" => return compares (· == .lt)
  | "<=" => return compares (· != .gt)
  | "=" => return compares (· == .eq)
  | "==" => return compares (· == .eq)
  | "!=" => return compares (· != .eq)
  | ">=" => return compares (· != .lt)
  | ">" => return compares (· == .gt)
  | "&" => return if isNull left ∨ isNull right then ['0'] else left
  | _ => return if !isNull left then left else if !isNull right then right else ['0']

/-- Goes on with a left value as long as operators of a level follow, in at most `fuel` steps. -/
def readExprRow (next : List Letters → ExprReading) (operators : List String) :
    (fuel : Nat) → Letters → List Letters → ExprReading
  | 0, left, words => .ok (left, words)
  | fuel + 1, left, words =>
    match words with
    | word :: rest =>
      if operators.contains (String.ofList word) then do
        if rest.isEmpty then
          throw (.missingAfter word)
        let (right, after) ← next rest
        readExprRow next operators fuel (← exprApply (String.ofList word) left right) after
      else
        .ok (left, words)
    | [] => .ok (left, [])

/-- Reads an expression, at most `fuel` levels deep. -/
def readExpr : (fuel : Nat) → List Letters → ExprReading
  | 0, _ => .error .missing
  | fuel + 1, words =>
    let level (next : List Letters → ExprReading) (operators : List String) (words : List Letters) :
        ExprReading := do
      let (left, rest) ← next words
      readExprRow next operators rest.length left rest
    exprLevels.foldl level (readExprPrimary (readExpr fuel)) words

/-- Prints the value of an expression. -/
def expr : Utility := fun _ arguments => do
  let refuse (message : Letters) : Run Nat := do
    warn "expr" message
    return 2
  let words := match arguments with
    | ['-', '-'] :: rest => rest
    | rest => rest
  if words.isEmpty then
    return ← misuse "expr" (letters "missing operand") 2
  match readExpr (words.length + 1) words with
  | .ok (value, []) =>
    say (value ++ ['\n'])
    return if isNull value then 1 else 0
  | .ok (_, word :: _) => refuse (letters "syntax error: unexpected argument " ++ quoted word)
  | .error .missing => refuse (letters "syntax error: missing argument")
  | .error (.unexpected word) => refuse (letters "syntax error: unexpected " ++ quoted word)
  | .error (.missingAfter word) => refuse (letters "syntax error: missing argument after " ++ quoted word)
  | .error .noInteger => refuse (letters "non-integer argument")
  | .error .byZero => refuse (letters "division by zero")
  | .error (.wrongPattern fault) => refuse (letters fault.message)
  | .error (.noClosing []) => refuse (letters "syntax error: expecting ')' after " ++ quoted ((words.getLast?).getD []))
  | .error (.noClosing word) => refuse (letters "syntax error: expecting ')' instead of " ++ quoted word)

end MonitorBench.Shell
