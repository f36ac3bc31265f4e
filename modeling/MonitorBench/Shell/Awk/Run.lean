import MonitorBench.Shell.Awk.Evaluation

/-!
# The utility that runs programs on records

The program is the first operand, or what files hold that options name. Rules for the
beginning are carried out first, then the others for each record, and those for the end at
last, also where the program was left before.
-/

set_option autoImplicit false

namespace MonitorBench.Shell.Awk

/-- What the arguments ask for. -/
structure Request where
  separator : Option Letters := none
  settings : List Letters := []
  files : List Letters := []
  operands : List Letters := []

/-- Reads the arguments, at most `fuel` of them. -/
def readRequest : (fuel : Nat) → List Letters → Request → Except Letters Request
  | 0, _, request => .ok request
  | fuel + 1, arguments, request =>
    match arguments with
    | ['-', '-'] :: rest => .ok { request with operands := rest }
    | ('-' :: c :: cs) :: rest =>
      let valued (take : Letters → Request) : Except Letters Request :=
        match cs, rest with
        | [], value :: others => readRequest fuel others (take value)
        | [], [] => .error (letters "option -" ++ [c] ++ letters " lacks argument")
        | value, others => readRequest fuel others (take value)
      match c with
      | 'F' => valued fun value => { request with separator := some value }
      | 'v' => valued fun value => { request with settings := request.settings ++ [value] }
      | 'f' => valued fun value => { request with files := request.files ++ [value] }
      | _ => .error (letters "not an option: -" ++ c :: cs)
    | operands => .ok { request with operands }

/-- Rules that are carried out on one occasion. -/
def runRules (rules : List Rule) : Act Unit :=
  rules.forM fun rule => match rule.body with
    | some body => execute callFunction body
    | none => printValues [] .output []

/-- Whether a rule is for the record. -/
def isChosen (occasion : Occasion) : Act Bool := do
  match occasion with
  | .first => return false
  | .last => return false
  | .always => return true
  | .chosen condition => return (← evaluate callFunction condition).holds
  | .range number start finish =>
    let isOpen := (← get).ranges.contains number
    if isOpen || (← evaluate callFunction start).holds then
      let ends := (← evaluate callFunction finish).holds
      modify fun machine =>
        let others := machine.ranges.erase number
        { machine with ranges := if ends then others else number :: others }
      return true
    else
      return false

/-- Carries out the rules for the record. -/
def runRecord (rules : List Rule) : Act Unit := do
  try
    for rule in rules do
      if ← isChosen rule.occasion then
        runRules [rule]
  catch
    | .nextRecord => return
    | .nextFile => modify ({ · with current := none })
    | jump => throw jump

/-- How many records can be read. -/
def recordsLimit : Nat := 10000000

/-- Does something that can be left. -/
def canBeLeft (action : Act Unit) : Act Bool := do
  try
    action
    return true
  catch
    | .leave => return false
    | jump => throw jump

/-- Carries out a program. -/
def runProgram : Act Unit := do
  let rules := (← get).program.rules
  let isFirst (rule : Rule) : Bool := match rule.occasion with
    | .first => true
    | _ => false
  let isLast (rule : Rule) : Bool := match rule.occasion with
    | .last => true
    | _ => false
  let others := rules.filter fun rule => !isFirst rule && !isLast rule
  let goesOn ← canBeLeft (runRules (rules.filter isFirst))
  let hasInput := rules.any fun rule => !isFirst rule
  if goesOn ∧ hasInput then
    let _ ← canBeLeft (runRounds (do
      match ← nextText 100000 with
      | some text =>
        countRecord
        setRecord (.given text)
        runRecord others
        return true
      | none => return false) recordsLimit)
  let _ ← canBeLeft (runRules (rules.filter isLast))

/-- The names that are known at the beginning. -/
def firstGlobals : List (String × Binding) :=
  let text (name value : String) : String × Binding := (name, .value (.text (letters value)))
  let zero (name : String) : String × Binding := (name, .value (.number 0.0))
  [text "FS" " ", text "OFS" " ", text "RS" "\n", text "ORS" "\n", text "SUBSEP" "\x1c", text "CONVFMT" "%.6g",
   text "OFMT" "%.6g", zero "NF", zero "NR", zero "FNR", text "FILENAME" ""]

/-- The state in which a program begins. -/
def firstMachine (runner : Runner) (name : String) (program : Program) (operands : List Letters)
    (environment : List (Letters × Letters)) : Machine :=
  let put (table : Table) (key : Key) (value : Letters) : Table := ((table.find key true).1).put key (.given value)
  let arguments := (letters name :: operands).zipIdx.foldl
    (fun (table : Table) (argument, place) => put table (.number place) argument) {}
  let named := environment.foldl
    (fun (table : Table) (name, value) => put table (.text name) value) {}
  { runner, name, program
    globals := firstGlobals ++
      [("ARGV", .table 0), ("ENVIRON", .table 1), ("ARGC", .value (ofNat (operands.length + 1)))]
    tables := [(0, arguments), (1, named)] }

/-- Runs what a program does, and gives its status. -/
def perform (action : Act Unit) (machine : Machine) : Run Nat := do
  let (result, after) ← action.run.run machine
  let fault : Option Letters := match result with
    | .error (.fault message) => some message
    | _ => none
  match fault with
  | some message =>
    let _ ← emit errors (letters machine.name ++ letters ": " ++ message ++ ['\n'])
  | none => pure ()
  let _ ← closeAll.run.run after
  return if fault.isSome then 2 else after.status

/-- Sets what options ask for. -/
def applyRequest (request : Request) : Act Unit := do
  match request.separator with
  | some separator => setName "FS" (.given (unescape separator))
  | none => pure ()
  for setting in request.settings do
    match settingOf? setting with
    | some (name, value) => setName name (.given value)
    | none => stop (letters "improper assignment: -v " ++ setting)

/-- The text of a program that files hold. -/
def programText (files : List Letters) : Run (Except Letters Letters) := do
  let read (text : Except Letters Letters) (path : Letters) : Run (Except Letters Letters) := do
    match text with
    | .error message => return .error message
    | .ok text =>
      match ← contentOf path with
      | .ok content => return .ok (text ++ content ++ ['\n'])
      | .error fault =>
        return .error (letters "cannot open \"" ++ path ++ letters "\" (" ++ letters (reasonOf fault) ++ [')'])
  files.foldlM read (.ok [])

/-- What is told of how the utility is used. -/
def usage (name : String) : String :=
  "Usage: " ++ name ++ " [Options] [Program] [file ...]\n\nProgram:\n" ++
  "    The -f option value is the name of a file containing program text.\n" ++
  "    If no -f option is given, a \"--\" ends option processing; the following\n" ++
  "    parameters are the program text.\n\nOptions:\n" ++
  "    -f program-file  Program  text is read from file instead of from the\n" ++
  "                     command-line.  Multiple -f options are accepted.\n" ++
  "    -F value         sets the field separator, FS, to value.\n" ++
  "    -v var=value     assigns value to program variable var.\n" ++
  "    --               unambiguous end of options.\n\n" ++
  "    Implementation-specific options are prefixed with \"-W\".  They can be\n" ++
  "    abbreviated:\n\n" ++
  "    -W version       show version information and exit.\n" ++
  "    -W compat        pre-POSIX 2001.\n" ++
  "    -W dump          show assembler-like listing of program and exit.\n" ++
  "    -W help          show this message and exit.\n" ++
  "    -W interactive   set unbuffered output, line-buffered input.\n" ++
  "    -W exec file     use file as program as well as last option.\n" ++
  "    -W posix         stricter POSIX checking.\n" ++
  "    -W random=number set initial random seed.\n" ++
  "    -W sprintf=number adjust size of sprintf buffer.\n" ++
  "    -W usage         show this message and exit.\n"

/-- The utility, under the name by which it is called. -/
def utility (name : String) : Utility := fun runner arguments => do
  let refuse (message : Letters) : Run Nat := do
    warn name message
    return 2
  match readRequest (arguments.length + 1) arguments {} with
  | .error message => refuse message
  | .ok request =>
    let source ← match request.files, request.operands with
      | [], [] =>
        if arguments.isEmpty then
          let _ ← emit errors (letters (usage name))
        return 0
      | [], text :: operands => pure (Except.ok (text, operands))
      | files, operands => pure ((← programText files).map fun text => (text, operands))
    match source with
    | .error message => refuse message
    | .ok (text, operands) =>
      match parse text with
      | .error message => refuse message
      | .ok program =>
        let process ← process
        let environment := process.bindings.filterMap fun (name, binding) =>
          if binding.exported then binding.value.map fun value => (name, value) else none
        perform (do
          applyRequest request
          runProgram) (firstMachine runner name program operands environment)

end MonitorBench.Shell.Awk
