import MonitorBench.Shell.Awk.Pattern

/-!
# The grammar of programs on records

An expression is read from the operators that bind least to those that bind most. Beside
the tree of a program its reading gives which names stand for tables: a name that is used
as one, and a name that is handed on where a function uses what it is given as one.
-/

set_option autoImplicit false

namespace MonitorBench.Shell.Awk

/-- A name in a function, or outside of all of them. -/
abbrev Scoped := Option String × String

/-- A name that is handed on to a function at a place among its arguments. -/
structure Handing where
  name : Scoped
  function : String
  place : Nat

/-- How far the reading of a program has come. -/
structure Source where
  lexemes : List Lexeme
  /-- The line of the last token. -/
  line : Nat := 1
  /-- The function that is read. -/
  function : Option (String × List String) := none
  /-- How many loops the statement is in. -/
  loops : Nat := 0
  /-- Whether the statement runs for a record. -/
  hasRecord : Bool := false
  /-- The names that are used as tables. -/
  tables : List Scoped := []
  handings : List Handing := []
  /-- The functions that are called, and with how many arguments. -/
  calls : List (String × Nat × Nat) := []
  /-- How many ranges were read. -/
  ranges : Nat := 0
  /-- How many parentheses are open. -/
  depth : Nat := 0

/-- Something that reads a part of a program. -/
abbrev Reading := StateT Source (Except Letters)

/-- What a token looks like. -/
def Token.shown : Token → Letters
  | .number value => ({} : Layout).setFloat 'g' value
  | .quoted value => value
  | .regex text => '/' :: text ++ ['/']
  | .name text => text.toList
  | .callee text => text.toList
  | .builtin text => text.toList
  | .word text => text.toList
  | .mark text => text.toList
  | .outlet .append => letters ">>"
  | .outlet .command => ['|']
  | .outlet _ => ['>']
  | .lineEnd => letters "end of line"
  | .wrong message => message

/-- What is wrong on the line that is read. -/
def misread {α : Type} (message : Letters) : Reading α := do
  let source ← get
  throw (letters "line " ++ (toString source.line).toList ++ letters ": " ++ message)

/-- The next token stands where it cannot. -/
def unexpected {α : Type} : Reading α := do
  let source ← get
  let wrongAt (token : Token) : Reading α :=
    let endsStatement := token.isMark ";" || token.isMark "\x7d" || (match token with
      | .lineEnd => true
      | _ => false)
    if endsStatement ∧ source.depth ≠ 0 then misread (letters "missing ) near " ++ token.shown)
    else misread (letters "syntax error at or near " ++ token.shown)
  match source.lexemes with
  | [] => wrongAt .lineEnd
  | lexeme :: _ =>
    set { source with line := lexeme.line }
    match lexeme.token with
    | .wrong message => throw message
    | token => wrongAt token

/-- The next token. -/
def peek : Reading (Option Token) :=
  return (← get).lexemes.head?.map Lexeme.token

/-- Passes the next token. -/
def skip : Reading Unit :=
  modify fun source =>
    { source with
      lexemes := source.lexemes.drop 1
      line := (source.lexemes.head?.map Lexeme.line).getD source.line
      depth := match source.lexemes.head? with
        | some lexeme =>
          if lexeme.token.isMark "(" then source.depth + 1
          else if lexeme.token.isMark ")" then source.depth - 1
          else source.depth
        | none => source.depth }

/-- Whether the next token is a mark. -/
def sees (mark : String) : Reading Bool :=
  return (← peek).any (·.isMark mark)

/-- Passes a mark if it is next. -/
def passes (mark : String) : Reading Bool := do
  if ← sees mark then
    skip
    return true
  return false

/-- Passes a mark that has to be next. -/
def need (mark : String) : Reading Unit := do
  unless ← passes mark do unexpected

/-- Passes a word if it is next. -/
def passesWord (word : String) : Reading Bool := do
  if (← peek).any (·.isWord word) then
    skip
    return true
  return false

/-- Passes the ends of lines. -/
def skipLines : Reading Unit :=
  modify fun source =>
    { source with lexemes := source.lexemes.dropWhile fun lexeme => match lexeme.token with
        | .lineEnd => true
        | _ => false }

/-- Reads a name that has to be next. -/
def readName : Reading String := do
  match ← peek with
  | some (.name text) =>
    skip
    return text
  | _ => unexpected

/-- Where a name belongs to. -/
def scopeOf (name : String) : Reading Scoped := do
  match (← get).function with
  | some (function, parameters) => return (if parameters.contains name then some function else none, name)
  | none => return (none, name)

/-- Notes that a name is used as a table. -/
def noteTable (name : String) : Reading Unit := do
  let entry ← scopeOf name
  modify fun source =>
    { source with tables := if source.tables.contains entry then source.tables else entry :: source.tables }

/-- Does a step as long as it gives something, at most `fuel` times. -/
def repeatedly {α : Type} (step : α → Reading (Option α)) : (fuel : Nat) → α → Reading α
  | 0, value => return value
  | fuel + 1, value => do
    match ← step value with
    | some next => repeatedly step fuel next
    | none => return value

/-- How many tokens are left. -/
def size : Reading Nat :=
  return (← get).lexemes.length + 1

/-- Reads values with commas between them; there is at least one. -/
def readList (whole : Reading Expression) : Reading (List Expression) := do
  let first ← whole
  let step (values : List Expression) : Reading (Option (List Expression)) := do
    if ← passes "," then return some (values ++ [← whole]) else return none
  repeatedly step (← size) [first]

/-- Reads the arguments of a function between parentheses. -/
def readArguments (whole : Reading Expression) : Reading (List Expression) := do
  need "("
  if ← passes ")" then
    return []
  let arguments ← readList whole
  need ")"
  return arguments

/-- Notes which names are handed on to a function. -/
def noteCall (function : String) (arguments : List Expression) : Reading Unit := do
  for (argument, place) in arguments.zipIdx do
    match argument with
    | .named name =>
      let entry ← scopeOf name
      modify fun source => { source with handings := { name := entry, function, place } :: source.handings }
    | _ => pure ()
  modify fun source =>
    { source with calls := (function, arguments.length, source.line) :: source.calls }

/-! ## Expressions -/

/-- Reads the call of a function that every program has. -/
def readBuiltin (whole : Reading Expression) (name : String) : Reading Expression := do
  let bare := !(← sees "(") && (name == "length" || name == "srand" || name == "rand" || name == "systime")
  if !(← sees "(") ∧ name ≠ "length" then
    unexpected
  let arguments ← if bare then pure [] else readArguments whole
  match builtins.lookup name with
  | some (least, greatest) =>
    if arguments.length < least ∨ greatest < arguments.length then
      misread (if name = "sprintf" then letters "no arguments in call to sprintf"
        else letters "wrong number of arguments in call to " ++ name.toList)
  | none => pure ()
  match name, arguments with
  | "split", _ :: .named table :: _ => noteTable table
  | "split", _ => unexpected
  | "sub", [_, _, target] => unless target.isPlace do unexpected
  | "gsub", [_, _, target] => unless target.isPlace do unexpected
  | _, _ => pure ()
  return .builtin name arguments

/-- Reads what begins with a parenthesis. -/
def readGroup (whole : Reading Expression) : Reading Expression := do
  need "("
  let values ← readList whole
  need ")"
  match values with
  | [value] => return .group value
  | keys =>
    if ← passesWord "in" then
      let table ← readName
      noteTable table
      return .has keys table
    else
      unexpected

/-- Reads a name, and the keys behind it. -/
def readNamed (whole : Reading Expression) : Reading Expression := do
  let name ← readName
  if ← passes "[" then
    noteTable name
    let keys ← readList whole
    need "]"
    return .element name keys
  else
    return .named name

/-- The operator that a token is in front of a value. -/
def signOf (token : Option Token) : Option (Expression → Expression) :=
  match token with
  | some (.mark "!") => some .not
  | some (.mark "-") => some .negative
  | some (.mark "+") => some .positive
  | _ => none

/-- Reads what counts a place up or down, behind the place. -/
def readCounted (place : Expression) : Reading Expression := do
  if ← passes "++" then
    return .step place true false
  else if ← passes "--" then
    return .step place false false
  else
    return place

/-- Reads the number of a field, in at most `fuel` steps. A field in the place of the number is counted
before the field that it numbers. -/
def readFieldNumber (inner : Reading Expression) : (fuel : Nat) → Reading Expression
  | 0 => unexpected
  | fuel + 1 => do
    match signOf (← peek) with
    | some sign =>
      skip
      return sign (← readFieldNumber inner fuel)
    | none =>
      let number ← if ← passes "$" then
          pure (Expression.field (← readFieldNumber inner fuel))
        else inner
      if number.isField then readCounted number else return number

/-- Reads the smallest expressions except for those that begin with a dollar or with `getline`. -/
def readAtom (whole : Reading Expression) : Reading Expression := do
  match ← peek with
  | some (.number value) =>
    skip
    return .number value
  | some (.quoted value) =>
    skip
    return .text value
  | some (.regex text) =>
    skip
    match regexOf text with
    | .ok _ => return .regex text
    | .error fault => misread (patternMessage text fault)
  | some (.name _) => readNamed whole
  | some (.callee name) =>
    skip
    let arguments ← readArguments whole
    noteCall name arguments
    return .call name arguments
  | some (.builtin name) =>
    skip
    readBuiltin whole name
  | some (.mark "(") => readGroup whole
  | _ => unexpected

/-- Reads a step in front of a place, or what else a dollar can stand before. -/
def readStepped (whole : Reading Expression) : Reading Expression := do
  match ← peek with
  | some (.mark "++") =>
    skip
    let place ← readPlace
    return .step place true true
  | some (.mark "--") =>
    skip
    let place ← readPlace
    return .step place false true
  | _ => readAtom whole
where
  /-- Reads a place. -/
  readPlace : Reading Expression := do
    let place ← match ← peek with
      | some (.mark "$") =>
        skip
        pure (Expression.field (← readFieldNumber (readAtom whole) (← size)))
      | some (.mark "(") => readAtom whole
      | some (.name _) => readAtom whole
      | _ => unexpected
    if place.isPlace then return place else unexpected

/-- Reads the place behind `getline`, if one is there. -/
def readTarget (whole : Reading Expression) : Reading Expression := do
  match ← peek with
  | some (.name _) => readNamed whole
  | some (.mark "$") =>
    skip
    return .field (← readFieldNumber (readStepped whole) (← size))
  | _ => return .omitted

/-- Reads a value without operators, except for those that count up or down; `operand` reads what a file
is named by. -/
def readSimple (whole operand : Reading Expression) : Reading Expression := do
  let value ← match ← peek with
    | some (.mark "$") =>
      skip
      pure (Expression.field (← readFieldNumber (readStepped whole) (← size)))
    | some (.word "getline") =>
      skip
      let place ← readTarget whole
      if ← passes "<" then
        pure (Expression.read .file (← operand) place)
      else
        pure (Expression.read .main .omitted place)
    | _ => readStepped whole
  if value.isPlace then readCounted value else return value

/-- Reads signs and powers, in at most `fuel` steps. What is behind a sign is read with the commands whose
output is read, unless a power is asked for. -/
def readPower (whole : Reading Expression) : (fuel : Nat) → (withCommands : Bool) → Reading Expression
  | 0, _ => unexpected
  | fuel + 1, withCommands => do
    match signOf (← peek) with
    | some sign =>
      skip
      return sign (← readPower whole fuel true)
    | none =>
      let base ← readSimple whole (readPower whole fuel false)
      let power ← if ← passes "^" then
          pure (Expression.calculate .power base (← readPower whole fuel false))
        else pure base
      let step (command : Expression) : Reading (Option Expression) := do
        match (← get).lexemes with
        | bar :: word :: _ =>
          if bar.token.isMark "|" ∧ word.token.isWord "getline" then
            skip
            skip
            return some (.read .command command (← readTarget whole))
          else return none
        | _ => return none
      if withCommands then repeatedly step (← size) power else return power

/-- Reads operands with operators of one rank between them, from the left to the right. -/
def readChain (operators : List (String × (Expression → Expression → Expression)))
    (operand : Reading Expression) : Reading Expression := do
  let step (left : Expression) : Reading (Option Expression) := do
    match ← peek with
    | some (.mark text) =>
      match operators.lookup text with
      | some combine =>
        skip
        return some (combine left (← operand))
      | none => return none
    | _ => return none
  repeatedly step (← size) (← operand)

/-- Whether a value can begin with a token. -/
def Token.beginsValue : Token → Bool
  | .number _ => true
  | .quoted _ => true
  | .regex _ => true
  | .name _ => true
  | .callee _ => true
  | .builtin _ => true
  | .mark text => ["(", "$", "!", "++", "--", "-", "+"].contains text
  | .word text => text == "getline"
  | _ => false

/-- The operation that a mark does on what a place has. -/
def updates : List (String × Operation) :=
  [("+=", .add), ("-=", .subtract), ("*=", .multiply), ("/=", .divide), ("%=", .remainder), ("^=", .power)]

/-- Reads values that are joined, or what a place gets. -/
def readJoined (whole : Reading Expression) : Reading Expression := do
  let factor : Reading Expression := do readPower whole (← size) true
  let term := readChain
    [("*", .calculate .multiply), ("/", .calculate .divide), ("%", .calculate .remainder)] factor
  let sum := readChain [("+", .calculate .add), ("-", .calculate .subtract)] term
  let first ← sum
  match ← peek with
  | some (.mark text) =>
    if first.isPlace then
      if text = "=" then
        skip
        return .assign first (← whole)
      match updates.lookup text with
      | some operation =>
        skip
        return .update first operation (← whole)
      | none => pure ()
  | _ => pure ()
  let step (left : Expression) : Reading (Option Expression) := do
    if (← peek).any Token.beginsValue then return some (.join left (← sum)) else return none
  repeatedly step (← size) first

/-- Reads an expression, at most `fuel` levels deep. -/
def readExpression : (fuel : Nat) → Reading Expression
  | 0 => unexpected
  | fuel + 1 => do
    let whole := readExpression fuel
    let compared := readChain
      [("<", .compare .less), ("<=", .compare .lessOrEqual), ("==", .compare .equal),
       ("!=", .compare .notEqual), (">", .compare .greater), (">=", .compare .greaterOrEqual)]
      (readJoined whole)
    let matched := readChain [("~", .fits false), ("!~", .fits true)] compared
    let member : Reading Expression := do
      let step (left : Expression) : Reading (Option Expression) := do
        if ← passesWord "in" then
          let table ← readName
          noteTable table
          return some (.has [left] table)
        else return none
      repeatedly step (← size) (← matched)
    let condition ← readChain [("||", .either)] (readChain [("&&", .both)] member)
    if ← passes "?" then
      skipLines
      let yes ← whole
      skipLines
      need ":"
      skipLines
      return .choose condition yes (← whole)
    else
      return condition

/-- Reads an expression. -/
def readValue : Reading Expression := do
  readExpression (← size)

/-! ## Statements -/

/-- Passes what ends a statement. -/
def readSeparator : Reading Unit := do
  match ← peek with
  | some .lineEnd => skip
  | some (.mark ";") => skip
  | some (.mark "\x7d") => return
  | none => return
  | _ => unexpected

/-- Whether a statement can end with what is next. -/
def endsHere : Reading Bool := do
  match ← peek with
  | some .lineEnd => return true
  | some (.mark ";") => return true
  | some (.mark "\x7d") => return true
  | none => return true
  | _ => return false

/-- Reads a value if one is there before the statement ends. -/
def readOptional : Reading Expression := do
  if ← endsHere then return .omitted else readValue

/-- How many tokens stand between a parenthesis, which was passed, and the one that closes it. -/
def widthOfGroup : (depth : Nat) → List Lexeme → Nat
  | _, [] => 0
  | depth, lexeme :: rest =>
    if lexeme.token.isMark "(" then widthOfGroup (depth + 1) rest + 1
    else if lexeme.token.isMark ")" then
      match depth with
      | 0 => 0
      | depth + 1 => widthOfGroup depth rest + 1
    else widthOfGroup depth rest + 1

/-- Reads what is printed, which can stand between parentheses as a whole. -/
def readPrinted : Reading (List Expression) := do
  let isOutlet (token : Option Token) : Bool := match token with
    | some (.outlet _) => true
    | _ => false
  if (← endsHere) || isOutlet (← peek) then
    return []
  match (← get).lexemes with
  | first :: rest =>
    let behind := (rest.drop (widthOfGroup 0 rest + 1)).head?.map Lexeme.token
    let ends : Bool := match behind with
      | none => true
      | some .lineEnd => true
      | some (.outlet _) => true
      | some (.mark text) => text == ";" || text == "\x7d"
      | _ => false
    if first.token.isMark "(" ∧ ends then readArguments readValue else readList readValue
  | [] => return []

/-- Reads a statement that prints, behind its word. -/
def readPrint (formatted : Bool) : Reading Statement := do
  let values ← readPrinted
  if formatted ∧ values.isEmpty then
    misread (letters "no arguments in call to printf")
  let (outlet, target) : Outlet × Expression ← match ← peek with
    | some (.outlet outlet) =>
      skip
      pure (outlet, ← readValue)
    | _ => pure (Outlet.output, Expression.omitted)
  readSeparator
  return if formatted then .format values outlet target else .print values outlet target

/-- Reads what is done in a loop. -/
def inLoop (body : Reading Statement) : Reading Statement := do
  modify fun source => { source with loops := source.loops + 1 }
  let statement ← body
  modify fun source => { source with loops := source.loops - 1 }
  return statement

/-- Reads a condition between parentheses. -/
def readCondition : Reading Expression := do
  need "("
  let condition ← readValue
  need ")"
  return condition

/-- Reads a value as a statement, or nothing if a mark is next. -/
def readPart (mark : String) : Reading Statement := do
  if ← sees mark then return .block [] else return .evaluate (← readValue)

/-- Reads a loop behind its word, `for`. -/
def readFor (statement : Reading Statement) : Reading Statement := do
  need "("
  match (← get).lexemes.map Lexeme.token with
  | .name name :: .word "in" :: .name table :: .mark ")" :: _ =>
    for _ in [0, 1, 2, 3] do skip
    noteTable table
    skipLines
    return .forKeys name table (← inLoop statement)
  | _ =>
    let start ← readPart ";"
    need ";"
    let condition ← if ← sees ";" then pure Expression.omitted else readValue
    need ";"
    let step ← readPart ")"
    need ")"
    skipLines
    return .count start condition step (← inLoop statement)

/-- Reads a statement that leaves something, behind its word. -/
def readJump (word : String) : Reading (Option Statement) := do
  let source ← get
  match word with
  | "break" =>
    if source.loops = 0 then misread (letters "break statement outside of loop")
    return some .leaveLoop
  | "continue" =>
    if source.loops = 0 then misread (letters "continue statement outside of loop")
    return some .nextRound
  | "next" =>
    unless source.hasRecord do misread (letters "improper use of next")
    return some .nextRecord
  | "nextfile" =>
    unless source.hasRecord do misread (letters "improper use of nextfile")
    return some .nextFile
  | "exit" => return some (.leave (← readOptional))
  | "return" =>
    if source.function.isNone then misread (letters "return outside function body")
    return some (.giveBack (← readOptional))
  | "delete" =>
    let table ← readName
    noteTable table
    if ← passes "[" then
      let keys ← readList readValue
      need "]"
      return some (.delete table keys)
    else
      return some (.clear table)
  | _ => return none

/-- Reads the statements of a block, whose opening brace has been passed. -/
def readBlock (statement : Reading Statement) : Reading Statement := do
  let step (statements : List Statement) : Reading (Option (List Statement)) := do
    match ← peek with
    | some (.mark "\x7d") => return none
    | none =>
      modify fun source => { source with line := source.line + 1 }
      misread (letters "missing \x7d near end of file")
    | _ => return some ((← statement) :: statements)
  let statements ← repeatedly step (← size) []
  need "\x7d"
  skipLines
  return .block statements.reverse

/-- Reads a statement that begins with a word; `statement` reads what it consists of. -/
def readWorded (statement : Reading Statement) (word : String) : Reading Statement := do
  match word with
  | "print" => readPrint false
  | "printf" => readPrint true
  | "if" =>
    let condition ← readCondition
    skipLines
    let yes ← statement
    if ← passesWord "else" then
      skipLines
      return .choose condition yes (← statement)
    else
      return .choose condition yes (.block [])
  | "while" =>
    let condition ← readCondition
    if ← passes ";" then
      return .loop condition (.block [])
    skipLines
    return .loop condition (← inLoop statement)
  | "do" =>
    skipLines
    let body ← inLoop statement
    skipLines
    unless ← passesWord "while" do unexpected
    let condition ← readCondition
    readSeparator
    return .loopAfter body condition
  | "for" => readFor statement
  | word =>
    match ← readJump word with
    | some jump =>
      readSeparator
      return jump
    | none => unexpected

/-- Reads a statement, at most `fuel` levels deep. -/
def readStatement : (fuel : Nat) → Reading Statement
  | 0 => unexpected
  | fuel + 1 => do
    match ← peek with
    | some (.mark "\x7b") =>
      skip
      readBlock (readStatement fuel)
    | some (.mark ";") =>
      skip
      return .block []
    | some .lineEnd =>
      skip
      return .block []
    | some (.word "getline") =>
      let value ← readValue
      readSeparator
      return .evaluate value
    | some (.word word) =>
      if ["BEGIN", "END", "function", "else", "in"].contains word then
        unexpected
      else
        skip
        readWorded (readStatement fuel) word
    | _ =>
      let value ← readValue
      readSeparator
      return .evaluate value

/-- Reads a block that has to be next. -/
def readBody : Reading Statement := do
  need "\x7b"
  readBlock (readStatement (← size))

/-! ## Programs -/

/-- Reads a function, behind its word. -/
def readFunction : Reading Function := do
  let name ← match ← peek with
    | some (.name text) => pure text
    | some (.callee text) => pure text
    | _ => unexpected
  skip
  need "("
  let parameters : List String ← if ← sees ")" then pure [] else do
    let step (names : List String) : Reading (Option (List String)) := do
      if ← passes "," then return some (names ++ [← readName]) else return none
    repeatedly step (← size) [← readName]
  need ")"
  skipLines
  modify fun source => { source with function := some (name, parameters), hasRecord := false }
  let body ← readBody
  modify fun source => { source with function := none }
  return { name, parameters, body }

/-- Reads the condition of a rule. -/
def readOccasion : Reading Occasion := do
  match ← peek with
  | some (.mark "\x7b") => return .always
  | some (.word "BEGIN") =>
    skip
    return .first
  | some (.word "END") =>
    skip
    return .last
  | _ =>
    let start ← readValue
    if ← passes "," then
      let finish ← readValue
      let number := (← get).ranges
      modify fun source => { source with ranges := number + 1 }
      return .range number start finish
    else
      return .chosen start

/-- Reads a rule. -/
def readRule : Reading Rule := do
  let occasion ← readOccasion
  let needsBody : Bool := match occasion with
    | .first => true
    | .last => true
    | _ => false
  modify fun source => { source with hasRecord := !needsBody }
  if needsBody ∨ (← sees "\x7b") then
    return { occasion, body := some (← readBody) }
  else
    readSeparator
    return { occasion, body := none }

/-- The names that stand for tables, from those that are used as tables on. -/
def spreadTables (functions : List Function) (handings : List Handing) : (fuel : Nat) → List Scoped → List Scoped
  | 0, tables => tables
  | fuel + 1, tables =>
    let linked : List (Scoped × Scoped) := handings.filterMap fun handing =>
      (functions.find? (·.name == handing.function)).bind fun function =>
        (function.parameters[handing.place]?).map fun parameter =>
          (handing.name, (some handing.function, parameter))
    let next := linked.foldl
      (fun (known : List Scoped) (one, other) =>
        let withOther := if known.contains one ∧ !known.contains other then other :: known else known
        if withOther.contains other ∧ !withOther.contains one then one :: withOther else withOther)
      tables
    if next.length = tables.length then tables else spreadTables functions handings fuel next

/-- Reads a program. -/
def readProgram : Reading (Program × List Scoped) := do
  let step (program : Program) : Reading (Option Program) := do
    match ← peek with
    | none => return none
    | some .lineEnd =>
      skip
      return some program
    | some (.mark ";") =>
      skip
      return some program
    | some (.mark "\x7d") => misread (letters "extra '\x7d'")
    | some (.word "function") =>
      skip
      let function ← readFunction
      if program.functions.any (·.name == function.name) then
        misread (letters "redefinition of " ++ function.name.toList)
      return some { program with functions := program.functions ++ [function] }
    | _ => return some { program with rules := program.rules ++ [← readRule] }
  let program ← repeatedly step (← size) {}
  let source ← get
  for (name, count, line) in source.calls.reverse do
    match program.functions.find? (·.name == name) with
    | none => throw (letters "line " ++ (toString (source.line + 1)).toList ++ letters ": function " ++ name.toList
        ++ letters " never defined")
    | some function =>
      if function.parameters.length < count then
        throw (letters "line " ++ (toString line).toList ++ letters ": too many arguments in call to " ++ name.toList)
  let tables := spreadTables program.functions source.handings (source.handings.length + 1) source.tables
  let functions := program.functions.map fun function =>
    { function with tables := function.parameters.filter fun name => tables.contains (some function.name, name) }
  return ({ program with functions }, tables)

/-- The program that a text is, or what is wrong with it. -/
def parse (text : Letters) : Except Letters Program := do
  let ((program, _), _) ← readProgram.run { lexemes := tokens text }
  return program

end MonitorBench.Shell.Awk
