import MonitorBench.Shell.Awk.Machine

/-!
# The functions that every program on records has

Most of them take values and give one; some look for a regular expression, change a place,
fill a table or work on what is read and printed. What stands for an argument is therefore
known both by its value and by where it could be put.
-/

set_option autoImplicit false

namespace MonitorBench.Shell.Awk

/-- Where a value can be put. -/
inductive Place where
  | name (name : String)
  | element (table : Nat) (key : Key)
  | field (number : Nat)

/-- Gives a place a value. -/
def putAt (place : Place) (value : Value) : Act Unit := do
  match place with
  | .name name => setName name value
  | .element number key =>
    let (table, _) := ((← get).table number).find key true
    setTable number (table.put key value)
  | .field number => setField number value

/-- The value that a place has; an element is made if there is none. -/
def valueAt (place : Place) : Act Value := do
  match place with
  | .name name => return (← get).valueOf name
  | .element number key =>
    let (table, _) := ((← get).table number).find key true
    setTable number table
    return table.value key
  | .field number => return (← get).field number

/-- What an argument is. -/
structure Operand where
  /-- The regular expression that it is. -/
  regex : Option Letters
  /-- The name that it is. -/
  name : Option String
  value : Act Value
  place : Act Place

/-- The text of an argument. -/
def Operand.text (operand : Operand) : Act Letters := do
  textOf (← operand.value)

/-- The regular expression that a text is. -/
def compile (text : Letters) : Act Regex := do
  match regexOf text with
  | .ok regex => return regex
  | .error fault => stopRunning (patternMessage text fault)

/-- The regular expression that an argument gives. -/
def Operand.pattern (operand : Operand) : Act Regex := do
  match operand.regex with
  | some text => compile text
  | none => compile (← operand.text)

/-! ## Formats -/

/-- What printing with a format has come to. -/
structure Formatting where
  out : List Letters := []
  values : List Value
  /-- How many directives were carried out. -/
  count : Nat := 0
  fault : Option Letters := none

/-- A value in a layout of a kind; nothing if there is no such kind. -/
def setValue? (conversion : Letters) (layout : Layout) (kind : Char) (value : Value) : Option Letters :=
  if kind = 's' then
    some (layout.setText (value.toText conversion))
  else if kind = 'c' then
    match value.settled with
    | .number number =>
      let code := (truncated number (-2147483648) 2147483647) % 256
      some (layout.fill [Char.ofNat code.toNat])
    | other => some (layout.fill [((other.toText conversion).head?).getD '\x00'])
  else if "dioxXu".toList.contains kind then
    some (setWhole layout kind value.toNumber)
  else if "eEfFgG".toList.contains kind then
    some (setNumber layout kind value.toNumber)
  else
    none

/-- Prints values with a format, in at most `fuel` steps; `conversion` is for numbers as texts. -/
def formatFrom (conversion : Letters) : (fuel : Nat) → Letters → Formatting → Formatting
  | 0, _, state => state
  | _, [], state => state
  | fuel + 1, '%' :: '%' :: rest, state => formatFrom conversion fuel rest { state with out := ['%'] :: state.out }
  | fuel + 1, '%' :: rest, state =>
    let missing := { state with fault := some (letters "not enough arguments passed to ") }
    let wrong := { state with
      fault := some (letters "improper conversion(number " ++ digits (state.count + 1) ++ letters ") in ") }
    match readDirective? rest with
    | none => if state.values.isEmpty then missing else wrong
    | some directive =>
      let takeStar (asked : Bool) (values : List Value) : Option (Int × List Value) :=
        if asked then
          match values with
          | value :: others => some (truncated value.toNumber (-2147483647) 2147483647, others)
          | [] => none
        else some (0, values)
      let found : Option (Layout × Value × List Value) := do
        let (width, behindWidth) ← takeStar directive.width.isNone state.values
        let (precision, behind) ← takeStar directive.precision.isNone behindWidth
        let base := (Layout.withFlags directive.flags).withWidth (match directive.width with
          | some width => width
          | none => widthGiven width)
        let layout := { base with precision := match directive.precision with
          | some precision => precision
          | none => if precision < 0 then none else some (min fieldLimit precision.toNat) }
        let value ← behind.head?
        return (layout, value, behind.tail)
      match found with
      | none => missing
      | some (layout, value, values) =>
        match setValue? conversion layout directive.kind value with
        | none => wrong
        | some text =>
          formatFrom conversion fuel directive.rest
            { out := text :: state.out, values, count := state.count + 1 }
  | fuel + 1, c :: rest, state => formatFrom conversion fuel rest { state with out := [c] :: state.out }

/-- The text that a format gives, and what is wrong; `name` is that of the function. -/
def formatted (name : String) (values : List Value) : Act (Letters × Option Letters) := do
  match values with
  | [] => return ([], none)
  | format :: others =>
    let machine ← get
    let text := machine.text format
    let state := formatFrom machine.conversion (text.length + 1) text { values := others }
    return (state.out.reverse.flatten,
      state.fault.map fun fault => fault ++ letters name ++ letters "(\"" ++ text ++ letters "\")")

/-! ## Replacing -/

/-- What stands in the place of a match, in at most `fuel` steps. -/
def replacement (taken : Letters) : (fuel : Nat) → Letters → Letters
  | 0, text => text
  | _, [] => []
  | fuel + 1, '\\' :: '\\' :: '&' :: rest => '\\' :: taken ++ replacement taken fuel rest
  | fuel + 1, '\\' :: '\\' :: '\\' :: '&' :: rest => '\\' :: '&' :: replacement taken fuel rest
  | fuel + 1, '\\' :: '&' :: rest => '&' :: replacement taken fuel rest
  | fuel + 1, '&' :: rest => taken ++ replacement taken fuel rest
  | fuel + 1, c :: rest => c :: replacement taken fuel rest

/-- A text with matches replaced, the first or all, and how many there were; at most `fuel` of them.
`behind` tells that something was matched directly before, where nothing is no match. -/
def replaceMatches (regex : Regex) (value : Letters) (all : Bool) :
    (fuel : Nat) → (behind : Bool) → (before text : Letters) → Letters × Nat
  | 0, _, _, text => (text, 0)
  | fuel + 1, behind, before, text =>
    match findMatch? regex before text with
    | none => (text, 0)
    | some (passed, taken, rest) =>
      let goOn (behind : Bool) (shown : Letters) (count : Nat) (before text : Letters) : Letters × Nat :=
        let (more, others) := replaceMatches regex value all fuel behind before text
        (shown ++ more, others + count)
      let put := replacement taken (value.length + 1) value
      let earlier := passed.reverse ++ before
      if !all then
        (passed ++ put ++ rest, 1)
      else if taken = [] then
        let (shown, count) : Letters × Nat := if behind ∧ passed = [] then ([], 0) else (passed ++ put, 1)
        match rest with
        | [] => (shown, count)
        | c :: after => goOn false (shown ++ [c]) count (c :: earlier) after
      else
        goOn true (passed ++ put) 1 (taken.reverse ++ earlier) rest

/-- Replaces matches in a place. -/
def substitute (all : Bool) (operands : List Operand) : Act Value := do
  match operands with
  | pattern :: value :: targets =>
    let regex ← pattern.pattern
    let value ← value.text
    let place ← match targets with
      | target :: _ => target.place
      | [] => pure (Place.field 0)
    let text ← textOf (← valueAt place)
    let (changed, count) := replaceMatches regex value all (text.length + 2) false [] text
    if count ≠ 0 then
      putAt place (.text changed)
    return ofNat count
  | _ => return .unset

/-! ## Texts and tables -/

/-- The integer of 32 bits that a number is cut to. -/
def shortOf (value : Float) : Int :=
  if value.isNaN then 0
  else (Int32.ofInt (truncated value (-9223372036854775807) 9223372036854775807)).toInt

/-- A part of a text, from a place on, with a number of letters. A place before the text adds to that
number. -/
def part (text : Letters) (start : Float) (length? : Option Float) : Letters :=
  let first := shortOf start
  match length? with
  | none => text.drop (first - 1).toNat
  | some length =>
    let count := shortOf length
    let most := if first < 0 then (Int32.ofInt (count - first)).toInt else count
    (text.drop (first - 1).toNat).take most.toNat

/-- Where a text stands in another one, counted from one on; zero if nowhere. -/
def placeOf (sought : Letters) : (place : Nat) → Letters → Nat
  | place, [] => if sought = [] then place else 0
  | place, c :: cs => if sought <+: c :: cs then place else placeOf sought (place + 1) cs

/-- Fills a table with the pieces of a text. -/
def fill (operands : List Operand) : Act Value := do
  match operands with
  | text :: table :: separators =>
    let text ← text.text
    let pieces ← match separators with
      | [] => piecesOf ((← get).global "FS") text
      | separator :: _ =>
        match separator.regex with
        | some pattern =>
          let regex ← compile pattern
          pure ((Separator.regex regex).pieces text)
        | none => piecesOf (← separator.text) text
    match table.name with
    | some name => setTable (← tableOf name) (Table.ofRow (pieces.map .given))
    | none => pure ()
    return ofNat pieces.length
  | _ => return .unset

/-- Looks for a regular expression in a text. -/
def matchIn (operands : List Operand) : Act Value := do
  match operands with
  | text :: pattern :: _ =>
    let text ← text.text
    let regex ← pattern.pattern
    let (start, length) : Value × Value := match findMatch? regex [] text with
      | some (passed, taken, _) => (ofNat (passed.length + 1), ofNat taken.length)
      | none => (ofNat 0, .number (-1.0))
    putGlobal "RSTART" start
    putGlobal "RLENGTH" length
    return start
  | _ => return .unset

/-- How long a text is, or how many keys a table has. -/
def lengthOf (operands : List Operand) : Act Value := do
  let machine ← get
  match operands with
  | [] => return ofNat (machine.text machine.record).length
  | operand :: _ =>
    match operand.name.bind machine.binding? with
    | some (.table number) => return ofNat (machine.table number).size
    | _ => return ofNat (← operand.text).length

/-! ## Files and commands -/

/-- Closes what was printed to or read from under a name. -/
def close (name : Letters) : Act Value := do
  let supply? := (← get).supplies.find? (·.name == name)
  modify fun machine => { machine with supplies := machine.supplies.filter (·.name != name) }
  match (← get).sinks.lookup name, supply? with
  | some sink, _ => return ofNat (← closeSink name sink)
  | none, some supply => return ofNat supply.status
  | none, none => return .number (-1.0)

/-- Runs a command, and gives its status. -/
def system (command : Letters) : Act Value := do
  flush
  flushFiles fun _ => true
  let status ← runCommand command (pure ())
  return ofNat (if 128 < status ∧ status < 192 then status + 128 else status)

/-- Shows what was printed, or gives a file what was printed for it. -/
def fflush (operands : List Operand) : Act Value := do
  let name ← match operands with
    | operand :: _ => operand.text
    | [] => pure []
  if name = [] ∨ name = letters "/dev/stdout" then
    flush
    return ofNat 0
  else
    flushFiles fun other => other == name
    return if (← get).sinks.any (·.1 == name) then ofNat 0 else .number (-1.0)

/-- A number from zero on and below one. -/
def random : Act Value := do
  let machine ← get
  let next := (machine.random * 6364136223846793005 + 1442695040888963407) % 18446744073709551616
  set { machine with random := next }
  return .number (Float.scaleB (Float.ofNat (next / 2048)) (-53))

/-- Lets random numbers come of another number, and gives the one before. -/
def seedRandom (operands : List Operand) : Act Value := do
  let seed ← match operands with
    | operand :: _ => operand.value
    | [] => pure (.number 0.0)
  let machine ← get
  set { machine with seed, random := (truncated seed.toNumber 0 18446744073709551615).toNat }
  return machine.seed

/-- The functions of one number. -/
def ofNumber? (name : String) : Option (Float → Float) :=
  match name with
  | "sin" => some Float.sin
  | "cos" => some Float.cos
  | "exp" => some Float.exp
  | "log" => some Float.log
  | "sqrt" => some Float.sqrt
  | "int" => some fun x => if x < 0.0 then x.ceil else x.floor
  | _ => none

/-- The result of a function that every program has. -/
def callBuiltin (name : String) (operands : List Operand) : Act Value := do
  match name, operands with
  | "length", operands => lengthOf operands
  | "sub", operands => substitute false operands
  | "gsub", operands => substitute true operands
  | "split", operands => fill operands
  | "match", operands => matchIn operands
  | "fflush", operands => fflush operands
  | "srand", operands => seedRandom operands
  | "rand", _ => random
  | "systime", _ => return ofNat 0
  | "substr", text :: start :: lengths =>
    let text ← text.text
    let start := (← start.value).toNumber
    match lengths with
    | [] => return .text (part text start none)
    | length :: _ => return .text (part text start (some (← length.value).toNumber))
  | "index", [text, sought] =>
    let text ← text.text
    let sought ← sought.text
    return ofNat (placeOf sought 1 text)
  | "sprintf", operands =>
    let values ← operands.mapM (·.value)
    match ← formatted "sprintf" values with
    | (text, none) => return .text text
    | (_, some fault) => stopRunning fault
  | "atan2", [y, x] =>
    let y := (← y.value).toNumber
    return .number (Float.atan2 y (← x.value).toNumber)
  | "toupper", operand :: _ => return .text ((← operand.text).map Char.toUpper)
  | "tolower", operand :: _ => return .text ((← operand.text).map Char.toLower)
  | "close", operand :: _ => close (← operand.text)
  | "system", operand :: _ => system (← operand.text)
  | name, operand :: _ =>
    match ofNumber? name with
    | some f => return .number (f (← operand.value).toNumber)
    | none => return .unset
  | _, [] => return .unset

end MonitorBench.Shell.Awk
