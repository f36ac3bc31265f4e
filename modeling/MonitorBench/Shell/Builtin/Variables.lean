import MonitorBench.Shell.Condition
import MonitorBench.Shell.Startup

/-!
# Commands on variables and arguments

These are part of the shell because they change its process: they set variables, mark them,
forget them, read them from a channel, and replace or inspect the arguments.
-/

set_option autoImplicit false

namespace MonitorBench.Shell

/-- A command that is part of the shell; it is told whether its status is tested. -/
abbrev Builtin := Runner → (tested : Bool) → List Letters → Run Nat

namespace Builtin

/-- Reads options in one argument, behind its dash. The letters of options with a value stand before
a colon. -/
def readCluster (allowed : Letters) : Letters → List Letters → Run (List (Char × Letters) × List Letters)
  | [], rest => return ([], rest)
  | c :: cs, rest => do
    match allowed.idxOf? c with
    | none => fail (letters "Illegal option -" ++ [c])
    | some place =>
      if allowed[place + 1]? = some ':' then
        match cs, rest with
        | [], value :: rest => return ([(c, value)], rest)
        | [], [] => fail (letters "No arg for -" ++ [c] ++ letters " option")
        | value, rest => return ([(c, value)], rest)
      else
        let (others, after) ← readCluster allowed cs rest
        return ((c, []) :: others, after)

/-- Reads options at the front of arguments, at most `fuel` of them. -/
def readFront (allowed : Letters) : (fuel : Nat) → List Letters → Run (List (Char × Letters) × List Letters)
  | 0, arguments => return ([], arguments)
  | fuel + 1, arguments =>
    match arguments with
    | ['-', '-'] :: rest => return ([], rest)
    | ('-' :: c :: cs) :: rest => do
      let (options, after) ← readCluster allowed (c :: cs) rest
      let (others, last) ← readFront allowed fuel after
      return (options ++ others, last)
    | rest => return ([], rest)

/-- The options at the front of arguments, and the other arguments. -/
def options (allowed : String) (arguments : List Letters) : Run (List (Char × Letters) × List Letters) :=
  readFront allowed.toList (arguments.length + 1) arguments

/-- The greatest number that an argument can be. -/
def greatestNumber : Nat := 2147483647

/-- The number that an argument is. -/
def needNumber (text : Letters) : Run Nat :=
  match operandInteger text with
  | .ok n =>
    if 0 ≤ n ∧ n ≤ greatestNumber then return n.toNat
    else fail (letters "Illegal number: " ++ text)
  | .error _ => fail (letters "Illegal number: " ++ text)

/-- Prints letters; a channel that takes nothing is a failure. -/
def print (name : String) (text : Letters) : Run Nat := do
  if ← emit output text then
    return 0
  else
    complain (letters (name ++ ": I/O error"))
    return 1

/-- A text in single quotes, of which those in the text stand between double quotes; at most `fuel`
pieces of it. -/
def shownUpTo : (fuel : Nat) → Letters → Letters
  | 0, _ => []
  | fuel + 1, text =>
    let front := text.takeWhile (· != '\'')
    let rest := text.drop front.length
    let quotes := rest.takeWhile (· == '\'')
    let after := rest.drop quotes.length
    let start := '\'' :: front ++ ['\'']
    if rest = [] then start
    else start ++ '"' :: quotes ++ ['"'] ++ (if after = [] then [] else shownUpTo fuel after)

/-- A text in quotes as the shell shows it. -/
def shown (text : Letters) : Letters :=
  shownUpTo (text.length + 1) text

/-- Prints variables with a word in front of each. -/
def showVariables (name word : String) (choose : Variable → Bool) : Run Nat := do
  let process ← process
  let sorted := (process.bindings.filter fun (_, binding) => choose binding).mergeSort
    fun left right => comesBefore left.1 right.1
  let start := if word = "" then [] else letters word ++ [' ']
  print name (sorted.flatMap fun (name, binding) =>
    start ++ name ++ (match binding.value with
      | some value => '=' :: shown value
      | none => []) ++ ['\n'])

/-- Complains of a text that is no name of a variable. -/
def needName (name : Letters) : Run Unit := do
  unless isName name do
    fail (name ++ letters ": bad variable name")

/-- Marks variables, which may be set at the same time. -/
def mark (name : String) (f : Variable → Variable) (choose : Variable → Bool) : Builtin := fun _ _ arguments => do
  let (found, names) ← options "p" arguments
  if names.isEmpty ∨ !found.isEmpty then
    showVariables name name choose
  else
    for text in names do
      let (key, value) := Text.cut '=' text
      needName key
      match value with
      | some value => setVariable key value
      | none => pure ()
      changeVariable key f
    return 0

/-- Lets programs be told variables. -/
def exportVariables : Builtin :=
  mark "export" (fun binding => { binding with exported := true }) (·.exported)

/-- Fixes variables. -/
def readonly : Builtin :=
  mark "readonly" (fun binding => { binding with fixed := true }) (·.fixed)

/-- Forgets variables or functions. -/
def unset : Builtin := fun _ _ arguments => do
  let (found, names) ← options "vf" arguments
  for name in names do
    if found.any (·.1 == 'f') then
      change fun process => { process with functions := dissociate name process.functions }
    else
      needName name
      unsetVariable name
  return 0

/-- Lets variables get their old values at the end of the function. -/
def declareLocal : Builtin := fun _ _ arguments => do
  if (← process).locals.isEmpty then
    fail (letters "not in a function")
  for text in arguments do
    let (name, value) := Text.cut '=' text
    needName name
    saveVariable name
    match value with
    | some value => setVariable name value
    | none => pure ()
  return 0

/-- Lists the options. -/
def listOptions (asCommands : Bool) : Run Nat := do
  let process ← process
  let isOn (name : String) : Bool := optionNames.any fun (c, text) => text == name && process.has c
  if asCommands then
    print "set" (unlines (optionList.map fun name =>
      letters ("set " ++ (if isOn name then "-o " else "+o ") ++ name)))
  else
    print "set" (letters "Current option settings\n" ++ unlines (optionList.map fun name =>
      letters name ++ List.replicate (16 - name.length) ' ' ++ letters (if isOn name then "on" else "off")))

/-- Sets options and arguments, or lists variables. -/
def setOptions : Builtin := fun _ _ arguments => do
  match arguments with
  | [] => showVariables "set" "" fun binding => binding.value.isSome
  | [['-', 'o']] => listOptions false
  | [['+', 'o']] => listOptions true
  | arguments =>
    let process ← process
    match readShellOptions false (arguments.length + 1) arguments { options := process.options } with
    | .error message => fail message
    | .ok (read, rest) =>
      if read.options.contains 'm' then
        complain (letters "can't access tty; job control turned off")
      change ({ · with options := read.options.filter (· != 'm') })
      if !rest.isEmpty ∨ read.ended then
        change ({ · with arguments := rest, optionPlace := (1, 0) })
      return 0

/-- Drops arguments from the front; there have to be as many. -/
def shift : Builtin := fun _ _ arguments => do
  let count ← match arguments with
    | [] => pure 1
    | text :: _ => needNumber text
  if (← process).arguments.length < count then
    fail (letters "can't shift that many")
  change fun process => { process with arguments := process.arguments.drop count, optionPlace := (1, 0) }
  return 0

/-! ## Reading a line -/

/-- A line while it is cut into a number of fields. -/
structure LineFields where
  /-- The fields before, the last one first. -/
  done : List Letters := []
  /-- The field so far, the last letter first. -/
  current : Letters := []
  spaced : Bool := false
  /-- How many fields can still be ended. -/
  more : Nat
  /-- How long the last field is without the separators at its end. -/
  kept : Option Nat := none

/-- Goes on with a letter; one that was escaped separates nothing. -/
def LineFields.add (separators : Letters) (fields : LineFields) (letter : Char × Bool) : LineFields :=
  let (c, escaped) := letter
  if escaped then
    { fields with current := c :: fields.current, spaced := false }
  else
    let separates := separators.contains c
    let isSpace := separates && standardSeparators.contains c
    if fields.more = 0 then
      let added := { fields with current := c :: fields.current }
      if isSpace then
        { added with kept := fields.kept.or (some fields.current.length) }
      else
        { added with kept := if separates ∧ fields.spaced then fields.kept else none, spaced := false }
    else if fields.spaced ∧ isSpace then
      fields
    else if fields.spaced ∧ separates then
      { fields with spaced := false }
    else if separates then
      if isSpace ∧ fields.current.isEmpty then
        fields
      else if fields.more = 1 then
        { fields with
          current := c :: fields.current, spaced := isSpace, more := 0, kept := some fields.current.length }
      else
        { fields with
          done := fields.current.reverse :: fields.done, current := [], spaced := isSpace
          more := fields.more - 1 }
    else
      { fields with current := c :: fields.current, spaced := false }

/-- The fields of a line, at most as many as there are names. -/
def lineFields (separators : Letters) (count : Nat) (line : List (Char × Bool)) : List Letters :=
  let cut := line.foldl (LineFields.add separators) { more := count }
  let last := match cut.kept with
    | some length => cut.current.reverse.take length
    | none => cut.current.reverse
  (if last.isEmpty then cut.done else last :: cut.done).reverse

/-- The letters of a line with backslashes taken as escapes, how many letters were used, and whether
the line was ended. -/
def readEscapedLine (raw : Bool) : Letters → List (Char × Bool) → Nat → List (Char × Bool) × Nat × Bool
  | [], taken, used => (taken.reverse, used, false)
  | '\n' :: _, taken, used => (taken.reverse, used + 1, true)
  | '\\' :: c :: rest, taken, used =>
    if raw then readEscapedLine raw (c :: rest) (('\\', false) :: taken) (used + 1)
    else if c = '\n' then readEscapedLine raw rest taken (used + 2)
    else readEscapedLine raw rest ((c, true) :: taken) (used + 2)
  | c :: rest, taken, used =>
    if c = '\\' ∧ !raw then (taken.reverse, used + 1, false)
    else readEscapedLine raw rest (if c = '\x00' then taken else (c, false) :: taken) (used + 1)

/-- Reads a line into variables. -/
def read : Builtin := fun _ _ arguments => do
  let (found, names) ← options "p:r" arguments
  if names.isEmpty then
    fail (letters "arg count")
  let (line, used, ended) := readEscapedLine (found.any (·.1 == 'r')) ((← remaining input).getD []) [] 0
  consume input used
  let fields := lineFields (← process).separators names.length line
  for (name, place) in names.zipIdx do
    needName name
    setVariable name (fields[place]?.getD [])
  return if ended then 0 else 1

/-! ## Options among arguments -/

/-- What looking for the next option finds. -/
structure FoundOption where
  letter : Char
  value : Option Letters
  message : Option Letters := none
  /-- The place of the next argument, and the place in the last one. -/
  next : Nat × Nat
  /-- Whether there is no option left. -/
  isLast : Bool := false

/-- Looks for the next option among arguments. -/
def nextOption (allowed : Letters) (arguments : List Letters) (place : Nat × Nat) : FoundOption :=
  let (index, offset) := place
  let current := if index ≤ 1 ∨ offset = 0 then [] else (arguments[index - 2]?.getD []).drop offset
  let silent := allowed.head? = some ':'
  let found (c : Char) (rest : Letters) (index : Nat) : FoundOption :=
    let word := arguments[index - 2]?.getD []
    let next := (index, word.length - rest.length)
    match allowed.idxOf? c with
    | none =>
      if silent then { letter := '?', value := some [c], next }
      else { letter := '?', value := none, message := some (letters "Illegal option -" ++ [c, '\n']), next }
    | some position =>
      if allowed[position + 1]? = some ':' then
        match rest, arguments[index - 1]? with
        | [], none =>
          if silent then { letter := ':', value := some [c], next }
          else
            { letter := '?', value := none, next
              message := some (letters "No arg for -" ++ [c] ++ letters " option\n") }
        | [], some value => { letter := c, value := some value, next := (index + 1, 0) }
        | value, _ => { letter := c, value := some value, next := (index, 0) }
      else
        { letter := c, value := some [], next }
  match current with
  | c :: rest => found c rest index
  | [] =>
    match arguments[index - 1]? with
    | some ['-', '-'] => { letter := '?', value := none, next := (index + 1, 0), isLast := true }
    | some ('-' :: c :: rest) => found c rest (index + 1)
    | _ => { letter := '?', value := none, next := (index, 0), isLast := true }

/-- Puts the next option among arguments into a variable. -/
def getopts : Builtin := fun _ _ arguments => do
  match arguments with
  | allowed :: name :: given =>
    let process ← process
    let searched := if given.isEmpty then process.arguments else given
    let place := if searched.length + 1 < process.optionPlace.1 then (1, 0) else process.optionPlace
    let found := nextOption allowed searched place
    match found.message with
    | some message => let _ ← emit errors message
    | none => pure ()
    unless found.isLast do
      match found.value with
      | some value => setVariable (letters "OPTARG") value
      | none => unsetVariable (letters "OPTARG")
    setVariable (letters "OPTIND") (digits found.next.1)
    change ({ · with optionPlace := found.next })
    needName name
    setVariable name [found.letter]
    return if found.isLast then 1 else 0
  | _ => fail (letters "Usage: getopts optstring var [arg...]")

end Builtin

end MonitorBench.Shell
