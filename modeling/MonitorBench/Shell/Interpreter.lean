import MonitorBench.Shell.Builtin.Control

/-!
# Running commands

A simple command sets variables, redirects channels and runs a function, a command that is
part of the shell, or a program in a process of its own. Variables that are set in front of
a command are set for it alone, unless it is part of the shell in a strict sense. Other
commands run those that they consist of. With an option, a failure that nothing tests ends
the process.
-/

set_option autoImplicit false

namespace MonitorBench.Shell

/-- Makes a status that of the last command. -/
def settle (status : Nat) : Run Nat := do
  change ({ · with status })
  return status

/-- Makes a status that of the last command; a failure that is not tested may end the process. -/
def settleStrictly (runner : Runner) (tested : Bool) (status : Nat) : Run Nat := do
  let _ ← settle status
  deliver runner
  if status ≠ 0 ∧ !tested ∧ (← process).has 'e' then
    throw (.leave status)
  return status

/-! ## Simple commands -/

/-- The words behind those that only say that a name means no function; nothing if they are words of a
command of their own. -/
def behindCommand? : (fuel : Nat) → List Letters → Option (List Letters)
  | 0, _ => none
  | _, [] => none
  | fuel + 1, word :: rest =>
    match word with
    | ['-', '-'] => if rest.isEmpty then none else some rest
    | '-' :: c :: cs => if (c :: cs).all (· == 'p') then behindCommand? fuel rest else none
    | _ => some (word :: rest)

/-- The words of a command, and whether its name means no function. -/
def withoutCommand : (fuel : Nat) → List Letters → List Letters × Bool
  | 0, words => (words, false)
  | fuel + 1, words =>
    match words with
    | name :: rest =>
      if name = letters "command" then
        match behindCommand? (rest.length + 1) rest with
        | some words => ((withoutCommand fuel words).1, true)
        | none => (words, false)
      else (words, false)
    | [] => ([], false)

/-- The commands whose arguments can set variables. -/
def declaringNames : List String := ["export", "local", "readonly"]

/-- Expands the words of a command one after the other. -/
def expandCommand (runner : Runner) (words : List Word) : Run (List Letters) :=
  let expand (before : List Letters) (word : Word) : Run (List Letters) := do
    let declares := ((withoutCommand before.length before).1.head?).any fun name =>
      declaringNames.contains (String.ofList name)
    match if declares then assignment? word else none with
    | some (name, value) =>
      return before ++ [name ++ '=' :: (← expandText runner { tilde := .inValue } value)]
    | none => return before ++ (← expandFields runner word)
  words.foldlM expand []

/-- What a simple command runs. -/
inductive Callee where
  | nothing
  | function (body : Command)
  | builtin (name : String) (run : Builtin) (special : Bool)
  | program

/-- What words run; `plain` tells that the name means no function. -/
def calleeOf (process : Process) (words : List Letters) (plain : Bool) : Callee :=
  match words with
  | [] => .nothing
  | name :: _ =>
    let text := String.ofList name
    match if plain then none else process.functions.lookup name with
    | some function => .function function.body
    | none =>
      match Builtin.table.lookup text with
      | some run => .builtin text run (specialNames.contains text)
      | none => .program

/-- Expands the value of a variable. -/
def expandValue (runner : Runner) (value : Word) : Run Letters :=
  expandText runner { tilde := .inValue } value

/-- Sets variables, with what is done to each of them. -/
def setAll (runner : Runner) (assignments : List (Letters × Word)) (also : Letters → Run Unit) :
    Run (List Letters) :=
  assignments.mapM fun (name, value) => do
    let text ← expandValue runner value
    setVariable name text
    also name
    return name ++ '=' :: text

/-- Does something after which the variables that it saves get their old values. -/
def withSaved (action : Run Nat) : Run Nat := do
  change fun process => { process with locals := [] :: process.locals }
  andFinally action do
    match (← process).locals with
    | saved :: outer =>
      restoreVariables saved
      change ({ · with locals := outer })
    | [] => return

/-- In how many functions a command can be. -/
def callLimit : Nat := 1000

/-- Runs a function with arguments. -/
def callFunction (runner : Runner) (tested : Bool) (body : Command) (arguments : List Letters) : Run Nat := do
  let before ← process
  if callLimit ≤ before.calls then
    fail (letters "Maximum function recursion depth (" ++ digits callLimit ++ letters ") reached")
  change ({ · with arguments, loops := 0, calls := before.calls + 1, optionPlace := (1, 0) })
  let result ← attempt (runner.command tested body)
  change fun process =>
    { process with
      arguments := before.arguments, loops := before.loops, calls := before.calls
      optionPlace := before.optionPlace }
  match result with
  | .ok status => return status
  | .error (.back status) => return status
  | .error flow => throw flow

/-- Runs a command that is part of the shell. A fault is a failure, unless it is part of the shell in a
strict sense. -/
def callBuiltin (runner : Runner) (tested : Bool) (name : String) (run : Builtin) (strict : Bool)
    (arguments : List Letters) : Run Nat := do
  let command := (← process).command
  change ({ · with command := some (letters name) })
  let result ← attempt (run runner tested arguments)
  change ({ · with command })
  match result with
  | .ok status => return status
  | .error .fault => if strict then throw .fault else return 2
  | .error flow => throw flow

/-- Runs a program in a process of its own. -/
def callProgram (runner : Runner) (words : List Letters) : Run Nat := do
  match ← runner.program words with
  | .ok run => inChild runner run
  | .error fault =>
    complain (words.headD [] ++ letters ": " ++ letters (reasonOr "not found" fault))
    return if fault = notPermitted then 126 else 127

/-- Shows a command before it runs, if that is asked for, to where messages went before it. -/
def traceCommand (messages : Option Nat) (words : List Letters) : Run Unit := do
  let process ← process
  if process.has 'x' ∧ !words.isEmpty then
    match messages with
    | some stream => let _ ← emitTo stream (process.value "PS4" ++ [' '].intercalate words ++ ['\n'])
    | none => return

/-- Runs a simple command. -/
def runSimple (runner : Runner) (tested : Bool) (line : Nat) (assignments : List (Letters × Word))
    (words : List Word) (redirections : List Redirection) : Run Nat := do
  change ({ · with line, lastOutputStatus := 0 })
  let expanded ← expandCommand runner words
  let (called, plain) := withoutCommand expanded.length expanded
  let arguments := called.drop 1
  let callee := calleeOf (← process) called plain
  let strict : Bool := match callee with
    | .builtin _ _ special => special && !plain
    | _ => false
  let becomes : Bool := match callee with
    | .builtin name _ _ => name = "exec"
    | _ => false
  let isLocal : Bool := match callee with
    | .nothing => false
    | _ => !strict
  let exporting (name : Letters) : Run Unit :=
    changeVariable name fun binding => { binding with exported := true }
  let also (name : Letters) : Run Unit :=
    if isLocal ∨ (becomes ∧ !arguments.isEmpty) then exporting name else return
  let saving : Run Unit := if isLocal then assignments.forM fun (name, _) => saveVariable name else return
  let messages := (← process).channels.lookup errors
  let failed : Run Nat := if strict then throw .fault else return 2
  let run : Run Nat := redirected runner redirections failed becomes do
    saving
    let shown ← setAll runner assignments also
    traceCommand messages (shown ++ expanded)
    match callee with
    | .nothing => return (← process).lastOutputStatus
    | .function body => callFunction runner tested body arguments
    | .builtin name builtin _ => callBuiltin runner tested name builtin strict arguments
    | .program => callProgram runner called
  if isLocal then withSaved run else run

/-! ## Loops and choices -/

/-- Does something inside of a loop more. -/
def inLoop (action : Run Nat) : Run Nat := do
  let loops := (← process).loops
  change ({ · with loops := loops + 1 })
  andFinally action (change ({ · with loops }))

/-- How a round of a loop ended. -/
inductive Round where
  | done (status : Nat)
  /-- The loop begins again. -/
  | again
  /-- The loop ends. -/
  | finished

/-- Does a round of a loop. -/
def round (action : Run Nat) : Run Round := do
  match ← attempt action with
  | .ok status => return .done status
  | .error (.loop again levels) =>
    if 1 < levels then throw (.loop again (levels - 1))
    else return if again then .again else .finished
  | .error flow => throw flow

/-- Repeats a body as long as, or until, a condition succeeds, at most `fuel` times. -/
def repeatBody (condition body : Run Nat) (untilSuccess : Bool) : (fuel : Nat) → (status : Nat) → Run Nat
  | 0, status => return status
  | fuel + 1, status => do
    match ← round condition with
    | .finished => return status
    | .again => repeatBody condition body untilSuccess fuel status
    | .done tested =>
      if (tested == 0) = untilSuccess then
        return status
      else
        match ← round body with
        | .finished => return 0
        | .again => repeatBody condition body untilSuccess fuel 0
        | .done status => repeatBody condition body untilSuccess fuel status

/-- Repeats a body for each of some texts. -/
def repeatEach (name : Letters) (body : Run Nat) : List Letters → (status : Nat) → Run Nat
  | [], status => return status
  | text :: texts, _ => do
    setVariable name text
    match ← round body with
    | .finished => return 0
    | .again => repeatEach name body texts 0
    | .done status => repeatEach name body texts status

/-- How often a loop is repeated at most. -/
def roundLimit : Nat := 1000000

/-- Runs the command of the first case with a pattern that matches. -/
def runSelect (runner : Runner) (tested : Bool) (subject : Letters) :
    List (List Word × Option Command) → Run Nat
  | [] => return 0
  | (patterns, body) :: cases => do
    let found ← patterns.foldlM
      (fun found pattern => do
        if found then return true
        else return isMatch (← expandPattern runner pattern) subject)
      false
    if found then
      match body with
      | some body => runner.command tested body
      | none => return 0
    else
      runSelect runner tested subject cases

/-! ## Processes for commands -/

/-- Runs commands of which each reads what the one before it prints, and gives the status of the last. -/
def runPipeline (runner : Runner) (tested : Bool) : (source : Option Nat) → List Command → Run Nat
  | _, [] => return 0
  | source, command :: commands => do
    let sink ← if commands.isEmpty then pure none else pure (some (← addStream (.pipe [])))
    let status ← inChild runner do
      match source with
      | some stream => connect input stream
      | none => pure ()
      match sink with
      | some stream => connect output stream
      | none => pure ()
      runner.command tested command
    if commands.isEmpty then return status else runPipeline runner tested sink commands

/-- Puts a command into the background, where it waits to run. -/
def runBackground (command : Command) : Run Unit := do
  let child ← childProcess
  let stream ← addStream .null
  let child := { child with channels := associate input stream child.channels, loops := 0 }
  modify fun session =>
    { session with
      system := { session.system with
        jobs := session.system.jobs ++ [(child.number, .waiting child session.system.disk.home command)] }
      process :=
        { session.process with
          lastJob := some child.number, jobs := session.process.jobs ++ [child.number] } }

/-- Runs a command of any kind. -/
def runAny (runner : Runner) (tested : Bool) : Command → Run Nat
  | .simple line assignments words redirections => do
    settleStrictly runner tested (← runSimple runner tested line assignments words redirections)
  | .pipeline commands => do settleStrictly runner tested (← runPipeline runner tested none commands)
  | .apart line body redirections => do
    change ({ · with line })
    let connections ← redirections.mapM (expandRedirection runner)
    let status ← inChild runner do
      connections.forM (connectAs runner)
      runner.command tested body
    settleStrictly runner tested status
  | .background command => do
    runBackground command
    settle 0
  | .negation command => do
    let status ← runner.command true command
    settle (if status = 0 then 1 else 0)
  | .both first second => do
    let status ← runner.command true first
    if status = 0 then runner.command tested second else return status
  | .either first second => do
    let status ← runner.command true first
    if status = 0 then return status else runner.command tested second
  | .sequence first second => do
    let _ ← runner.command tested first
    runner.command tested second
  | .redirected line command redirections => do
    change ({ · with line })
    let failed := settleStrictly runner tested 2
    settle (← redirected runner redirections failed false (runner.command tested command))
  | .choice condition body otherwise => do
    if (← runner.command true condition) = 0 then
      runner.command tested body
    else match otherwise with
      | some command => runner.command tested command
      | none => settle 0
  | .loop untilSuccess condition body => do
    let rounds := repeatBody (runner.command true condition) (runner.command tested body) untilSuccess roundLimit 0
    settle (← inLoop rounds)
  | .each line name words body => do
    change ({ · with line })
    let texts ← expandAll runner words
    settle (← inLoop (repeatEach name (runner.command tested body) texts 0))
  | .select line subject cases => do
    change ({ · with line })
    let text ← expandText runner { tilde := .atStart } subject
    settle (← runSelect runner tested text cases)
  | .definition name _ body => do
    change fun process => { process with functions := associate name { body } process.functions }
    settle 0

/-- Runs a command; if its status is tested, failure does not end the process. With an option, commands
are only read. -/
def runCommand (runner : Runner) (tested : Bool) (command : Command) : Run Nat := do
  let process ← process
  if process.has 'n' then return process.status else runAny runner tested command

/-! ## Scripts -/

/-- Runs the lines of a script that are left, at most `fuel` of them; `status` is that of the script
so far. -/
def runLines (runner : Runner) (tested : Bool) : (fuel : Nat) → Source → (status : Nat) → Run Nat
  | 0, _, status => return status
  | fuel + 1, source, status => do
    let session ← get
    match readLine { source with nextNumber := session.system.nextDocument, aliases := session.process.aliases } with
    | .error misreading =>
      change ({ · with line := misreading.line })
      fail (letters "Syntax error: " ++ letters misreading.reason)
    | .ok (none, _) => return status
    | .ok (some command, after) =>
      modify fun session =>
        { session with
          system := { session.system with
            documents := after.documents ++ session.system.documents
            nextDocument := after.nextNumber } }
      let next := { after with documents := [] }
      match command with
      | none => runLines runner tested fuel next status
      | some command =>
        let status ← runner.command tested command
        runLines runner tested fuel next status

/-- Runs a script. -/
def runScript (runner : Runner) (tested : Bool) (text : Letters) : Run Nat :=
  runLines runner tested (text.length + 1) { rest := text } 0

/-- The ways to run what lies inside of words and commands, at most `depth` levels deep. What lies
deeper ends the process like a stack that is full. -/
def runner : (depth : Nat) → Runner
  | 0 =>
    { expand := fun _ _ => throw (.killed 11)
      command := fun _ _ => throw (.killed 11)
      script := fun _ _ => throw (.killed 11)
      program := fun _ => throw (.killed 11) }
  | depth + 1 =>
    { expand := fun manner word session => expandWord (runner depth) manner word session
      command := fun tested command session => runCommand (runner depth) tested command session
      script := fun tested text session => runScript (runner depth) tested text session
      program := fun words session => programOf (runner depth) words session }

end MonitorBench.Shell
