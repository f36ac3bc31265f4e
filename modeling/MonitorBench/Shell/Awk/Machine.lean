import MonitorBench.Shell.Awk.Grammar
import MonitorBench.Shell.Awk.Table
import MonitorBench.Shell.Utility.Basic

/-!
# The state in which a program on records runs

Names stand for values or for tables. The record that was read last is cut into fields; a
change of a field changes the record, and the other way round. Some names stand for what
the program is told of the record, or tell how records are cut. What is printed is kept
until another program has to see it.
-/

set_option autoImplicit false

namespace MonitorBench.Shell.Awk

/-- What a name stands for. -/
inductive Binding where
  | value (value : Value)
  /-- The table with a number. -/
  | table (number : Nat)

/-- Where something is printed under a name. -/
inductive Sink where
  /-- The output. -/
  | output
  /-- A stream with a number, and what it has not got yet, the last piece first. -/
  | file (stream : Nat) (pending : List Letters)
  /-- A command, and what it will read, the last piece first. -/
  | command (pending : List Letters)

/-- What is left to read of a file or of what a command printed. -/
structure Supply where
  origin : Origin
  name : Letters
  rest : Letters
  /-- The status of the command. -/
  status : Nat := 0

/-- The state in which a program runs. -/
structure Machine where
  runner : Runner
  /-- The name that the program goes by. -/
  name : String
  program : Program
  globals : List (String × Binding) := []
  locals : List (String × Binding) := []
  tables : List (Nat × Table) := []
  record : Value := .given []
  fields : List Value := []
  /-- The operand that is looked at next. -/
  operand : Nat := 1
  /-- What is left of the file that is read. -/
  current : Option Letters := none
  /-- Whether an operand named a file. -/
  opened : Bool := false
  /-- Whether there is nothing left to read. -/
  exhausted : Bool := false
  /-- What was printed and not shown, the last piece first. -/
  pending : List Letters := []
  /-- Where something is printed, what was used last in front. -/
  sinks : List (Letters × Sink) := [(letters "/dev/stdout", .output)]
  supplies : List Supply := []
  /-- The numbers of the ranges that are open. -/
  ranges : List Nat := []
  seed : Value := .number 0.0
  /-- What the next random number comes of. -/
  random : Nat := 0
  status : Nat := 0

/-- How a statement ends more than itself. -/
inductive Jump where
  | leaveLoop
  | nextRound
  | nextRecord
  | nextFile
  | leave
  | giveBack (value : Value)
  /-- Something that cannot go on is told of, and ends the program. -/
  | fault (message : Letters)

/-- Something that a program does. -/
abbrev Act := ExceptT Jump (StateT Machine Run)

/-! ## Names -/

/-- What a name stands for, if that is known. -/
def Machine.binding? (machine : Machine) (name : String) : Option Binding :=
  (machine.locals.lookup name).or (machine.globals.lookup name)

/-- The value of a name. -/
def Machine.valueOf (machine : Machine) (name : String) : Value :=
  match machine.binding? name with
  | some (.value value) => value
  | _ => .unset

/-- The machine in which a name stands for something. -/
def Machine.bind (machine : Machine) (name : String) (binding : Binding) : Machine :=
  if machine.locals.any (·.1 == name) then
    { machine with locals := associate name binding machine.locals }
  else
    { machine with globals := associate name binding machine.globals }

/-- The format of numbers that become texts. -/
def Machine.conversion (machine : Machine) : Letters :=
  match machine.globals.lookup "CONVFMT" with
  | some (.value value) => value.toText (letters "%.6g")
  | _ => letters "%.6g"

/-- A value as a text. -/
def Machine.text (machine : Machine) (value : Value) : Letters :=
  value.toText machine.conversion

/-- The text of a global name. -/
def Machine.global (machine : Machine) (name : String) : Letters :=
  match machine.globals.lookup name with
  | some (.value value) => machine.text value
  | _ => []

/-- A value as a text. -/
def textOf (value : Value) : Act Letters :=
  return (← get).text value

/-- Something that cannot go on. -/
def stop {α : Type} (message : Letters) : Act α :=
  throw (.fault message)

/-- Something is wrong while the program runs. -/
def stopRunning {α : Type} (message : Letters) : Act α := do
  let machine ← get
  stop (letters "run time error: " ++ message ++ letters "\n\tFILENAME=\"" ++ machine.global "FILENAME"
    ++ letters "\" FNR=" ++ machine.global "FNR" ++ letters " NR=" ++ machine.global "NR")

/-- The number of the table that a name stands for, which is made if there is none. -/
def tableOf (name : String) : Act Nat := do
  let machine ← get
  match machine.binding? name with
  | some (.table number) => return number
  | _ =>
    let number := machine.tables.length
    set ({ machine with tables := machine.tables ++ [(number, ({} : Table))] }.bind name (.table number))
    return number

/-- The table with a number. -/
def Machine.table (machine : Machine) (number : Nat) : Table :=
  (machine.tables.lookup number).getD ({} : Table)

/-- Puts a table in place of the one with a number. -/
def setTable (number : Nat) (table : Table) : Act Unit :=
  modify fun machine => { machine with tables := associate number table machine.tables }

/-- The key that a value is. -/
def Machine.key (machine : Machine) (value : Value) : Key :=
  match value with
  | .number number => match integer? number with
    | some n => .number n
    | none => .text (machine.text value)
  | value => .text (machine.text value)

/-- The key that some values are together. -/
def Machine.keyOf (machine : Machine) (values : List Value) : Key :=
  match values with
  | [value] => machine.key value
  | values => .text ((machine.global "SUBSEP").intercalate (values.map machine.text))

/-! ## Records and fields -/

/-- The pieces of a text between matches of a regular expression that are not empty, at most `fuel` of
them. -/
def splitByRegex (regex : Regex) : (fuel : Nat) → (piece before text : Letters) → List Letters
  | 0, piece, _, text => [piece.reverse ++ text]
  | fuel + 1, piece, before, text =>
    match findMatch? regex before text with
    | none => [piece.reverse ++ text]
    | some (passed, taken, rest) =>
      if taken = [] then
        match rest with
        | [] => [piece.reverse ++ text]
        | c :: after =>
          splitByRegex regex fuel (c :: passed.reverse ++ piece) (c :: passed.reverse ++ before) after
      else
        (piece.reverse ++ passed)
          :: splitByRegex regex fuel [] (taken.reverse ++ passed.reverse ++ before) rest

/-- The words of a text between blanks, tabulators and line feeds. -/
def blankFields (text : Letters) : List Letters :=
  (text.splitBy fun c d => isBlank c == isBlank d).filter fun piece => !(piece.head?.any isBlank)

/-- What cuts a text into pieces. -/
inductive Separator where
  | blanks
  /-- Every letter is a piece. -/
  | nothing
  | regex (regex : Regex)

/-- The separator that a text stands for. -/
def separatorOf (text : Letters) : Except PatternFault Separator :=
  match text with
  | [] => .ok .nothing
  | [' '] => .ok .blanks
  | [c] => .ok (.regex (Regex.ofText [c]))
  | text => (regexOf text).map .regex

/-- The pieces into which a text is cut. -/
def Separator.pieces (separator : Separator) (text : Letters) : List Letters :=
  if text = [] then [] else
  match separator with
  | .blanks => blankFields text
  | .nothing => text.map fun c => [c]
  | .regex pattern => splitByRegex pattern (text.length + 1) [] [] text

/-- The pieces into which a separator cuts a text. -/
def piecesOf (separator text : Letters) : Act (List Letters) := do
  match separatorOf separator with
  | .ok separator => return separator.pieces text
  | .error fault => stopRunning (patternMessage separator fault)

/-- The value of a global name becomes another one, with no other effect. -/
def putGlobal (name : String) (value : Value) : Act Unit :=
  modify fun machine => { machine with globals := associate name (.value value) machine.globals }

/-- A number as a value. -/
def ofNat (n : Nat) : Value := .number (Float.ofNat n)

/-- Makes a text the record. -/
def setRecord (value : Value) : Act Unit := do
  let machine ← get
  let text := machine.text value
  let pieces ← piecesOf (machine.global "FS") text
  modify ({ · with record := value, fields := pieces.map .given })
  putGlobal "NF" (ofNat pieces.length)

/-- Makes the record of its fields. -/
def rebuild (fields : List Value) : Act Unit := do
  let machine ← get
  let record : Value := match fields with
    | [field] => field
    | fields => .text ((machine.global "OFS").intercalate (fields.map machine.text))
  modify ({ · with record, fields })
  putGlobal "NF" (ofNat fields.length)

/-- The greatest number of a field. -/
def fieldsLimit : Nat := 100000

/-- The number that a value gives a field. -/
def fieldNumber (value : Value) : Act Nat := do
  let number := value.toNumber
  let n := truncated number (-9223372036854775808) 9223372036854775807
  if number < 0.0 ∨ number.isNaN then
    stopRunning (letters "negative field index $" ++ formatNumber (letters "%.6g") number)
  if Int.ofNat fieldsLimit < n then
    stopRunning (letters "program limit exceeded: maximum number of fields size=100000")
  return n.toNat

/-- The value of a field. -/
def Machine.field (machine : Machine) (number : Nat) : Value :=
  match number with
  | 0 => machine.record
  | number + 1 => (machine.fields[number]?).getD (.text [])

/-- Gives a field a value. -/
def setField (number : Nat) (value : Value) : Act Unit := do
  match number with
  | 0 => setRecord (.given (← textOf value))
  | number + 1 =>
    let fields := (← get).fields
    let enough := fields ++ List.replicate (number + 1 - fields.length) (.text [])
    rebuild (enough.set number value)

/-- Gives a name a value. -/
def setName (name : String) (value : Value) : Act Unit := do
  let machine ← get
  let isLocal := machine.locals.any (·.1 == name)
  match machine.binding? name with
  | some (.table _) => stop (letters "line 1: illegal reference to array " ++ name.toList)
  | _ => set (machine.bind name (.value value))
  if name = "NF" ∧ !isLocal then
    if value.toNumber < 0.0 then
      stopRunning (letters "negative value assigned to NF")
    let count ← fieldNumber value
    let fields := machine.fields
    rebuild (fields.take count ++ List.replicate (count - fields.length) (.text []))

/-! ## What is printed -/

/-- Shows what was printed. -/
def flush : Act Unit := do
  let _ ← (emit output (← get).pending.reverse.flatten : Run Bool)
  modify ({ · with pending := [] })

/-- Gives files what was printed for them, those of them that are chosen by their names. -/
def flushFiles (chosen : Letters → Bool) : Act Unit := do
  let sinks ← (← get).sinks.mapM fun (name, sink) => do
    match sink with
    | .file stream pending =>
      if chosen name then
        let _ ← (emitTo stream pending.reverse.flatten : Run Bool)
        return (name, Sink.file stream [])
      else return (name, sink)
    | sink => return (name, sink)
  modify ({ · with sinks })

/-- Runs a command, with something done first in its process, and gives its status. -/
def runCommand (command : Letters) (first : Run Unit) : Act Nat := do
  let runner := (← get).runner
  let run : Run Nat := do
    match ← runner.program [letters "/bin/sh", letters "-c", command] with
    | .ok run => inChild runner do
      first
      run
    | .error _ => return 127
  run

/-- The number of a stream to which a path leads. -/
def openSink (path : Letters) (appends : Bool) : Run (Except FileFault Nat) := do
  let opened (path : Letters) : Run (Except FileFault Nat) := do
    match ← openStream (if appends then .append else .overwrite) path with
    | .ok stream => return .ok (← addStream stream)
    | .error fault => return .error fault
  let place := (← disk).locate (← aim path)
  match place.toOption.bind special? with
  | some (.stream stream) => return .ok (← addStream stream)
  | some (.channel target) =>
    match ← streamOf target with
    | some (_, .file place _ _) => opened (letters (Disk.pathOf place))
    | some (number, _) => return .ok number
    | none => return .error .notFound
  | none => opened path

/-- Opens a sink with a name. -/
def openedSink (outlet : Outlet) (name : Letters) : Act Sink := do
  if outlet = .command then
    flush
    return .command []
  else
    match ← (openSink name (outlet == .append) : Run (Except FileFault Nat)) with
    | .ok stream => return .file stream []
    | .error fault =>
      stop (letters "cannot open \"" ++ name ++ letters "\" for output (" ++ letters (reasonOf fault) ++ [')'])

/-- Prints a text. -/
def printTo (outlet : Outlet) (target text : Letters) : Act Unit := do
  let print : Act Unit := modify fun machine => { machine with pending := text :: machine.pending }
  if outlet = .output then
    print
  else if outlet ≠ .command ∧ target = letters "/dev/stderr" then
    let _ ← (emit errors text : Run Bool)
  else
    let sink ← match (← get).sinks.lookup target with
      | some sink => pure sink
      | none => openedSink outlet target
    let used ← match sink with
      | .output =>
        print
        pure Sink.output
      | .file stream pending => pure (Sink.file stream (text :: pending))
      | .command pending => pure (Sink.command (text :: pending))
    modify fun machine => { machine with sinks := (target, used) :: dissociate target machine.sinks }

/-- Closes a sink, and gives the status of its command. -/
def closeSink (name : Letters) (sink : Sink) : Act Nat := do
  modify fun machine => { machine with sinks := dissociate name machine.sinks }
  match sink with
  | .output =>
    flush
    return 0
  | .file stream pending =>
    let _ ← (emitTo stream pending.reverse.flatten : Run Bool)
    return 0
  | .command pending =>
    runCommand name do
      connect input (← addStream (.pipe pending.reverse.flatten))

/-- Closes everything to which something was printed, what was used last first. -/
def closeAll : Act Unit := do
  for (name, sink) in (← get).sinks do
    let _ ← closeSink name sink
  flush

/-! ## What is read -/

/-- Splits off the first record of a text that is not empty. -/
def splitRecord (separator : Letters) (text : Letters) : Except PatternFault (Letters × Letters) :=
  let byLetter (c : Char) : Letters × Letters :=
    (text.takeWhile (· != c), (text.dropWhile (· != c)).drop 1)
  match separator with
  | [] => .ok (paragraph (text.length + 1) [] text)
  | [c] => .ok (byLetter c)
  | separator => (regexOf separator).map fun regex => splitAt regex (text.length + 1) [] text
where
  /-- Splits at the first empty lines. -/
  paragraph : (fuel : Nat) → (reversed : Letters) → Letters → Letters × Letters
    | 0, reversed, rest => (reversed.reverse, rest)
    | _, reversed, [] => (reversed.reverse, [])
    | _, reversed, ['\n'] => (reversed.reverse, [])
    | fuel + 1, reversed, c :: rest =>
      if c = '\n' ∧ rest.head? = some '\n' then (reversed.reverse, rest.dropWhile (· == '\n'))
      else paragraph fuel (c :: reversed) rest
  /-- Splits at the first match that is not empty. -/
  splitAt (regex : Regex) : (fuel : Nat) → (reversed : Letters) → Letters → Letters × Letters
    | 0, reversed, rest => (reversed.reverse ++ rest, [])
    | fuel + 1, reversed, rest =>
      match findMatch? regex reversed rest with
      | none => (reversed.reverse ++ rest, [])
      | some (passed, [], c :: after) => splitAt regex fuel (c :: passed.reverse ++ reversed) after
      | some (passed, taken, after) =>
        if taken = [] then (reversed.reverse ++ rest, []) else (reversed.reverse ++ passed, after)

/-- The first record of a text and what is left of it, if there is one. -/
def takeRecord (text : Letters) : Act (Option (Letters × Letters)) := do
  let separator := (← get).global "RS"
  let start := if separator = [] then text.dropWhile (· == '\n') else text
  if start = [] then
    return none
  match splitRecord separator start with
  | .ok found => return some found
  | .error fault => stopRunning (patternMessage separator fault)

/-- Everything that the input holds. -/
def inputText : Act Letters := do
  return (← (takeAll input : Run (Option Letters))).getD []

/-- Whether a path is the input. -/
def isInput (path : Letters) : Bool :=
  path == ['-'] || path == letters "/dev/stdin"

/-- The name and the value that an operand sets. -/
def settingOf? (operand : Letters) : Option (String × Letters) :=
  match Text.cut '=' operand with
  | (name, some value) => if isName name then some (String.ofList name, unescape value) else none
  | _ => none

/-- Goes on to the next file, at most `fuel` operands further, and tells whether there is one. -/
def openNext : (fuel : Nat) → Act Bool
  | 0 => return false
  | fuel + 1 => do
    let machine ← get
    let count := (machine.valueOf "ARGC").toNumber
    if machine.exhausted then
      return false
    else if Float.ofNat machine.operand < count then
      set { machine with operand := machine.operand + 1 }
      let table := machine.table (match machine.globals.lookup "ARGV" with
        | some (.table number) => number
        | _ => 0)
      let key := Key.number machine.operand
      let operand := machine.text (table.value key)
      match settingOf? operand with
      | some (name, value) =>
        setName name (.given value)
        openNext fuel
      | none =>
        if operand = [] then
          openNext fuel
        else
          modify ({ · with opened := true })
          putGlobal "FILENAME" (.given operand)
          putGlobal "FNR" (ofNat 0)
          if isInput operand then
            let text ← inputText
            modify ({ · with current := some text })
            return true
          match ← (contentOf operand : Run (Except FileFault Letters)) with
          | .ok text =>
            modify ({ · with current := some text })
            return true
          | .error fault =>
            stop (letters "cannot open \"" ++ operand ++ letters "\" (" ++ letters (reasonOf fault) ++ [')'])
    else if machine.opened then
      set { machine with exhausted := true }
      return false
    else
      set { machine with opened := true }
      putGlobal "FILENAME" (.given ['-'])
      let text ← inputText
      modify ({ · with current := some text })
      return true

/-- The next record, going through at most `fuel` files. -/
def nextText : (fuel : Nat) → Act (Option Letters)
  | 0 => return none
  | fuel + 1 => do
    let machine ← get
    let found ← match machine.current with
      | some text => takeRecord text
      | none => pure none
    match found with
    | some (record, rest) =>
      modify ({ · with current := some rest })
      return some record
    | none =>
      modify ({ · with current := none })
      if ← openNext 100000 then nextText fuel else return none

/-- Counts a record. -/
def countRecord : Act Unit := do
  for name in ["NR", "FNR"] do
    let value := (← get).valueOf name
    putGlobal name (.number (value.toNumber + 1.0))

/-- The supply with a name, which is opened if it is not. -/
def supplyOf (origin : Origin) (name : Letters) : Act (Option Supply) := do
  match (← get).supplies.find? fun supply => supply.origin == origin && supply.name == name with
  | some supply => return some supply
  | none =>
    let supply? : Option Supply ← if origin = .command then do
        flush
        let stream ← (addStream (.pipe []) : Run Nat)
        let status ← runCommand name (connect output stream)
        let session ← (get : Run Session)
        pure (match session.system.streams[stream]? with
          | some (.pipe rest) => some { origin, name, rest, status }
          | _ => some { origin, name, rest := [], status })
      else if isInput name then do
        pure (some { origin, name, rest := ← inputText })
      else
        match ← (contentOf name : Run (Except FileFault Letters)) with
        | .ok rest => pure (some { origin, name, rest })
        | .error _ => pure none
    match supply? with
    | some supply =>
      modify fun machine => { machine with supplies := machine.supplies ++ [supply] }
      return some supply
    | none => return none

/-- Takes a record from a supply; nothing in nothing if there is no such supply. -/
def takeFrom (origin : Origin) (name : Letters) : Act (Option (Option Letters)) := do
  match ← supplyOf origin name with
  | none => return none
  | some supply =>
    match ← takeRecord supply.rest with
    | none => return some none
    | some (record, rest) =>
      modify fun machine =>
        { machine with supplies := machine.supplies.map fun other =>
            if other.origin == origin && other.name == name then { other with rest } else other }
      return some (some record)

end MonitorBench.Shell.Awk
