import MonitorBench.Shell.Awk.Builtin

/-!
# Running programs on records

Expressions are evaluated from the left to the right, and where a value will be put is found
before the value. A function gets values by copying, and tables as they are; it is given
the ways to call functions, which lie less and less deep.
-/

set_option autoImplicit false

namespace MonitorBench.Shell.Awk

/-- A way to call functions by their names. -/
abbrev Caller := String → List Operand → Act Value

namespace Expression

/-- The regular expression that an expression is. -/
def regex? : Expression → Option Letters
  | .regex pattern => some pattern
  | _ => none

/-- The name that an expression is. -/
def name? : Expression → Option String
  | .named given => some given
  | _ => none

/-- Whether nothing is written. -/
def isOmitted : Expression → Bool
  | .omitted => true
  | _ => false

end Expression

/-- The place of an element. -/
def elementPlace (name : String) (operands : List Operand) : Act Place := do
  let values ← operands.mapM (·.value)
  let number ← tableOf name
  let key := (← get).keyOf values
  return .element number key

/-- Whether a table has an element with a key. -/
def hasElement (name : String) (operands : List Operand) : Act Bool := do
  let values ← operands.mapM (·.value)
  let number ← tableOf name
  let machine ← get
  let (table, found) := (machine.table number).find (machine.keyOf values) false
  setTable number table
  return found

/-- Whether a regular expression is found in a text. -/
def isFound (pattern text : Letters) : Act Bool := do
  let regex ← compile pattern
  return regex.fits {} text

/-- Reads a record; `name` names where it is read from, and `place` is where it is put. -/
def readRecord (origin : Origin) (name : Letters) (place : Option Place) : Act Value := do
  let given ← match origin with
    | .main => do
      let text ← nextText 100000
      if text.isSome then countRecord
      pure (some text)
    | origin => takeFrom origin name
  match given with
  | none => return .number (-1.0)
  | some none => return ofNat 0
  | some (some text) =>
    match place with
    | some place => putAt place (.given text)
    | none => setRecord (.given text)
    return ofNat 1

mutual

/-- The value of an expression. -/
def evaluate (call : Caller) : Expression → Act Value
  | .omitted => return .unset
  | .number value => return .number value
  | .text value => return .text value
  | .regex text => do
    let machine ← get
    return .ofBool (← isFound text (machine.text machine.record))
  | .named name => do return (← get).valueOf name
  | .element table keys => do valueAt (← elementPlace table (operandsOf call keys))
  | .field number => do
    let number ← fieldNumber (← evaluate call number)
    return (← get).field number
  | .group inner => evaluate call inner
  | .assign place value => do
    let place ← locate call place
    let value ← evaluate call value
    putAt place value
    return value
  | .update place operation value => do
    let place ← locate call place
    let right := (← evaluate call value).toNumber
    let left := (← valueAt place).toNumber
    let result := Value.number (operation.apply left right)
    putAt place result
    return result
  | .step place up before => do
    let place ← locate call place
    let old := (← valueAt place).toNumber
    let new := if up then old + 1.0 else old - 1.0
    putAt place (.number new)
    return .number (if before then new else old)
  | .calculate operation left right => do
    let left := (← evaluate call left).toNumber
    let right := (← evaluate call right).toNumber
    return .number (operation.apply left right)
  | .negative inner => do return .number (-(← evaluate call inner).toNumber)
  | .positive inner => do return .number (← evaluate call inner).toNumber
  | .not inner => do return .ofBool !(← evaluate call inner).holds
  | .compare comparison left right => do
    let left ← evaluate call left
    let right ← evaluate call right
    return .ofBool (comparison.accepts (compareValues (← get).conversion left right))
  | .fits negated text pattern => do
    let text ← textOf (← evaluate call text)
    let pattern ← match pattern.regex? with
      | some regex => pure regex
      | none => textOf (← evaluate call pattern)
    return .ofBool ((← isFound pattern text) != negated)
  | .both left right => do
    if (← evaluate call left).holds then return .ofBool (← evaluate call right).holds else return .ofBool false
  | .either left right => do
    if (← evaluate call left).holds then return .ofBool true else return .ofBool (← evaluate call right).holds
  | .choose condition yes no => do
    if (← evaluate call condition).holds then evaluate call yes else evaluate call no
  | .join left right => do
    let left ← textOf (← evaluate call left)
    let right ← textOf (← evaluate call right)
    return .text (left ++ right)
  | .has keys table => do return .ofBool (← hasElement table (operandsOf call keys))
  | .call function arguments => call function (operandsOf call arguments)
  | .builtin function arguments => callBuiltin function (operandsOf call arguments)
  | .read origin source place => do
    let place ← if place.isOmitted then pure none else some <$> locate call place
    let name ← textOf (← evaluate call source)
    readRecord origin name place

/-- The place that an expression stands for. -/
def locate (call : Caller) : Expression → Act Place
  | .named name => return .name name
  | .element table keys => elementPlace table (operandsOf call keys)
  | .field number => do return .field (← fieldNumber (← evaluate call number))
  | .group inner => locate call inner
  | _ => stop (letters "line 1: syntax error at or near =")

/-- What arguments are. -/
def operandsOf (call : Caller) : List Expression → List Operand
  | [] => []
  | argument :: arguments =>
    { regex := argument.regex?, name := argument.name?, value := evaluate call argument
      place := locate call argument } :: operandsOf call arguments

end

/-! ## Statements -/

/-- How often the body of a loop is run. -/
def roundsLimit : Nat := 10000000

/-- Runs the body of a loop, and tells whether the loop goes on. -/
def runBody (body : Act Unit) : Act Bool := do
  try
    body
    return true
  catch
    | .leaveLoop => return false
    | .nextRound => return true
    | jump => throw jump

/-- Runs a round as long as it tells to go on, at most `fuel` times. -/
def runRounds (round : Act Bool) : (fuel : Nat) → Act Unit
  | 0 => return
  | fuel + 1 => do
    if ← round then runRounds round fuel else return

/-- Prints values, or the record if there are none. -/
def printValues (values : List Value) (outlet : Outlet) (target : Letters) : Act Unit := do
  let machine ← get
  let format := machine.global "OFMT"
  let shown := if values.isEmpty then [machine.record] else values
  let texts := shown.map (·.toText format)
  printTo outlet target ((machine.global "OFS").intercalate texts ++ machine.global "ORS")

mutual

/-- Carries out a statement. -/
def execute (call : Caller) : Statement → Act Unit
  | .evaluate value => do
    let _ ← evaluate call value
  | .print values outlet target => do
    let values ← (operandsOf call values).mapM (·.value)
    let target ← textOf (← evaluate call target)
    printValues values outlet target
  | .format values outlet target => do
    let values ← (operandsOf call values).mapM (·.value)
    let target ← textOf (← evaluate call target)
    let (text, fault) ← formatted "printf" values
    printTo outlet target text
    match fault with
    | some fault => stopRunning fault
    | none => return
  | .block statements => executeAll call statements
  | .choose condition yes no => do
    if (← evaluate call condition).holds then execute call yes else execute call no
  | .loop condition body =>
    runRounds (do
      if (← evaluate call condition).holds then runBody (execute call body) else return false) roundsLimit
  | .loopAfter body condition =>
    runRounds (do
      if ← runBody (execute call body) then return (← evaluate call condition).holds else return false)
      roundsLimit
  | .count start condition step body => do
    execute call start
    runRounds (do
      if condition.isOmitted || (← evaluate call condition).holds then
        if ← runBody (execute call body) then
          execute call step
          return true
      return false) roundsLimit
  | .forKeys name table body => do
    let number ← tableOf table
    let (keys, known) := ((← get).table number).keys
    setTable number known
    let round (goesOn : Bool) (key : Letters) : Act Bool := do
      if goesOn then
        setName name (.text key)
        runBody (execute call body)
      else return false
    let _ ← keys.foldlM round true
  | .leaveLoop => throw .leaveLoop
  | .nextRound => throw .nextRound
  | .nextRecord => throw .nextRecord
  | .nextFile => throw .nextFile
  | .leave status => do
    unless status.isOmitted do
      let value := (← evaluate call status).toNumber
      let code := (truncated value (-2147483647) 2147483647) % 256
      modify ({ · with status := code.toNat })
    throw .leave
  | .giveBack value => do throw (.giveBack (← evaluate call value))
  | .delete table keys => do
    match ← elementPlace table (operandsOf call keys) with
    | .element number key => setTable number (((← get).table number).erase key)
    | _ => return
  | .clear table => do setTable (← tableOf table) {}

/-- Carries out statements. -/
def executeAll (call : Caller) : List Statement → Act Unit
  | [] => return
  | statement :: statements => do
    execute call statement
    executeAll call statements

end

/-! ## Functions -/

/-- How deep calls of functions can lie. -/
def depthLimit : Nat := 1000

/-- What the parameters of a function stand for in a call. -/
def bindParameters (function : Function) : List String → List Operand → Act (List (String × Binding))
  | [], _ => return []
  | parameter :: parameters, operands => do
    let newTable : Act Binding := do
      let number := (← get).tables.length
      setTable number {}
      return .table number
    let binding ← if function.tables.contains parameter then
        match operands.head?.bind Operand.name with
        | some name => pure (Binding.table (← tableOf name))
        | none => newTable
      else match operands with
        | operand :: _ => pure (Binding.value (← operand.value))
        | [] => pure (Binding.value .unset)
    return (parameter, binding) :: (← bindParameters function parameters operands.tail)

/-- Calls a function, at most `depth` levels deep. -/
def callAt : (depth : Nat) → Caller
  | 0, _, _ => stopRunning (letters "function call nesting too deep")
  | depth + 1, name, operands => do
    let machine ← get
    match machine.program.functions.find? (·.name == name) with
    | none => return .unset
    | some function =>
      let bindings ← bindParameters function function.parameters operands
      let locals := (← get).locals
      modify ({ · with locals := bindings })
      let restore : Act Unit := modify ({ · with locals })
      try
        execute (callAt depth) function.body
        restore
        return .unset
      catch jump =>
        restore
        match jump with
        | .giveBack value => return value
        | jump => throw jump

/-- Calls a function. -/
def callFunction : Caller := callAt depthLimit

end MonitorBench.Shell.Awk
