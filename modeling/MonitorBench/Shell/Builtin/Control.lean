import MonitorBench.Shell.Builtin.Variables
import MonitorBench.Shell.Print
import MonitorBench.Shell.Program

/-!
# Commands on the course of a script

These are part of the shell because they end loops, functions and the process, run texts as
scripts, lay down what is done at signals, send them, wait for commands in the background,
move to another place, or tell what a name means.
-/

set_option autoImplicit false

namespace MonitorBench.Shell

namespace Builtin

/-- Prints arguments. -/
def echo : Builtin := fun _ _ arguments => print "echo" (echoed arguments)

/-- Prints arguments with a format. -/
def printf : Builtin := fun _ _ arguments => do
  let (_, rest) ← options "" arguments
  match rest with
  | [] => fail (letters "usage: printf format [arg ...]")
  | format :: arguments =>
    let printing := printFormat format arguments
    let status ← print "printf" printing.out
    for warning in printing.warnings do
      complain warning
    match printing.fault with
    | some fault => fail fault
    | none => return if printing.warnings.isEmpty then status else 1

/-- Lets a condition decide on the status. -/
def test (bracket : Bool) : Builtin := fun _ _ arguments => do
  if bracket ∧ arguments.getLast? ≠ some [']'] then
    fail (letters "missing ]")
  let session ← get
  match conditionHolds { system := session.system } (if bracket then arguments.dropLast else arguments) with
  | .ok holds => return if holds then 0 else 1
  | .error fault => fail fault.message

/-- The path that is shown of the place where the process stands. -/
def shownPlace : Run Letters :=
  return (← process).shown.getD (letters (← disk).homePath)

/-- Prints the place. -/
def pwd : Builtin := fun _ _ arguments => do
  let (given, _) ← options "LP" arguments
  let place ← if (given.getLast?.map Prod.fst) = some 'P' then pure (letters (← disk).homePath) else shownPlace
  print "pwd" (place ++ ['\n'])

/-- The paths that can be meant by a path to move to, with whether the place is shown afterwards: but for
paths that begin with a slash or with dots, those below the directories that a variable lists. -/
def movesTo (process : Process) (target : Letters) : List (Letters × Bool) :=
  let first := target.takeWhile (· != '/')
  if first = [] ∨ first = ['.'] ∨ first = ['.', '.'] then [(target, false)]
  else
    let below := (Text.splitOn ':' (process.value "CDPATH")).filterMap fun directory =>
      if directory = [] then none
      else some (directory ++ (if directory.getLast? = some '/' then [] else ['/']) ++ target, true)
    below ++ [(target, false)]

/-- The path that a path from a start is when dots and names before two dots are left out. -/
def withoutDots (start path : Letters) : Letters :=
  let isWhole := path.head? = some '/'
  let base := if isWhole then path else start
  let root := if letters "//" <+: base ∧ base[2]? ≠ some '/' then letters "//" else ['/']
  let add (names : List Letters) (name : Letters) : List Letters :=
    if name = [] ∨ name = ['.'] then names
    else if name = ['.', '.'] then names.dropLast
    else names ++ [name]
  let names := (if isWhole then [] else Text.splitOn '/' start) ++ Text.splitOn '/' path
  root ++ ['/'].intercalate (names.foldl add [])

/-- Moves to another place. -/
def cd : Builtin := fun _ _ arguments => do
  let (given, rest) ← options "LP" arguments
  let process ← process
  let back := rest.head? = some ['-']
  let target := if back then process.value "OLDPWD" else rest.headD (process.value "HOME")
  let system := (← get).system
  let disk := system.disk
  let directory? (path : Letters) : Option Location :=
    match disk.locate (system.aim true (if path = [] then "." else spelled path)) with
    | .ok place => if disk.entry? place = some .directory then some place else none
    | .error _ => none
  let old ← shownPlace
  let (path, shows) := ((movesTo process target).find? fun (path, _) => (directory? path).isSome).getD (target, false)
  let isPhysical := (given.getLast?.map Prod.fst) == some 'P'
  let shown := withoutDots old path
  match directory? (if isPhysical then path else shown) with
  | none => fail (letters "can't cd to " ++ target)
  | some place =>
    setDisk { disk with home := place }
    let physical := letters (Disk.pathOf place)
    let path := if isPhysical then physical else shown
    change ({ · with shown := if path = physical then none else some path })
    setVariable (letters "OLDPWD") old
    setVariable (letters "PWD") path
    for name in ["OLDPWD", "PWD"] do
      changeVariable (letters name) fun binding => { binding with exported := true }
    if back ∨ shows then print "cd" (path ++ ['\n']) else return 0

/-- Ends loops, or lets one begin again. -/
def leaveLoops (again : Bool) : Builtin := fun _ _ arguments => do
  let levels ← match arguments with
    | [] => pure 1
    | text :: _ =>
      let n ← needNumber text
      if n = 0 then
        fail (letters "Illegal number: " ++ text)
      pure n
  let loops := (← process).loops
  if loops = 0 then return 0 else throw (.loop again (min levels loops))

/-- Ends a function. -/
def leaveFunction : Builtin := fun _ _ arguments => do
  let status ← match arguments with
    | [] => pure (← process).status
    | text :: _ => needNumber text
  throw (.back status)

/-- Ends the process. -/
def exit : Builtin := fun _ _ arguments => do
  let status ← match arguments with
    | [] => pure (← process).status
    | text :: _ => needNumber text
  throw (.leave status)

/-- Runs arguments as a script. -/
def eval : Builtin := fun runner tested arguments =>
  runner.script tested ([' '].intercalate arguments)

/-- Runs a file as a script in the same process. -/
def source : Builtin := fun runner tested arguments => do
  match arguments with
  | [] => return 0
  | path :: _ =>
    let process ← process
    let disk ← disk
    let system := (← get).system
    let candidates := if path.contains '/' then [path]
      else process.searchPlaces.map fun directory => if directory = [] then path else directory ++ '/' :: path
    match candidates.findSome? fun candidate => (disk.read (system.aim true (spelled candidate))).toOption with
    | some content =>
      let loops := process.loops
      change ({ · with command := some path })
      match ← attempt (runner.script tested (lettersOf content)) with
      | .ok status => return status
      | .error (.back status) =>
        change ({ · with loops })
        return status
      | .error flow => throw flow
    | none =>
      if path.contains '/' then
        let reason := match disk.read (system.aim true (spelled path)) with
          | .error fault => reasonOr "No such file" fault
          | .ok _ => ""
        fail (letters "cannot open " ++ path ++ letters ": " ++ letters reason)
      else
        fail (path ++ letters ": not found")

/-- Becomes another program. -/
def exec : Builtin := fun runner _ arguments => do
  match arguments with
  | [] => return 0
  | name :: _ =>
    match ← runner.program arguments with
    | .ok run =>
      change fun process => { process with traps := dissociate "EXIT" process.traps }
      throw (.leave (← run))
    | .error fault =>
      complain (name ++ letters ": " ++ letters (reasonOr "not found" fault))
      throw (.leave (if fault = notPermitted then 126 else 127))

/-- Lays down what is done at signals and at the end, or lists it. -/
def trap : Builtin := fun _ _ arguments => do
  let (_, rest) ← options "" arguments
  let lay (action : Option Letters) (names : List Letters) : Run Nat := do
    for text in names do
      match (signalNumber? text).bind signalName? with
      | none =>
        let _ ← emit errors (letters "trap: " ++ text ++ letters ": bad trap\n")
        return 1
      | some name =>
        change fun process =>
          { process with traps := match action with
              | some action => associate name action process.traps
              | none => dissociate name process.traps }
    return 0
  match rest with
  | [] =>
    let traps := (← process).traps
    let shownTraps := ("EXIT" :: signalNames).filterMap fun name =>
      (traps.lookup name).map fun action =>
        letters "trap -- " ++ shown action ++ letters (" " ++ name ++ "\n")
    print "trap" shownTraps.flatten
  | first :: others =>
    if others.isEmpty ∨ (isNumber first ∧ (signalNumber? first).isSome) then lay none rest
    else lay (if first = ['-'] then none else some first) others

/-- What is told of the use of sending signals. -/
def killUsage : Letters :=
  letters "Usage: kill [-s sigspec | -signum | -sigspec] [pid | job]... or\nkill -l [exitstatus]"

/-- Sends a signal to the process with a number, and tells whether there is one. -/
def sendTo (signal target : Nat) : Run Bool := do
  let session ← get
  let system := session.system
  match system.jobs.lookup target with
  | some (.waiting _ _ _) =>
    unless signal = 0 ∨ isHarmless signal do
      set { session with
        system := { system with jobs := associate target (.ended (128 + signal) false) system.jobs } }
    return true
  | some (.ended _ _) => return false
  | none =>
    if target ≠ 0 ∧ target < system.nextProcess then
      unless signal = 0 do send signal target
      return true
    else
      return false

/-- The command in the background that a text names behind a percent sign: by its place, or the last
one. -/
def jobOf (text : Letters) : Run Nat := do
  let process ← process
  let found := match text with
    | '%' :: c :: cs =>
      if isNumber (c :: cs) then process.jobs[Nat.ofDigitChars 10 (c :: cs) 0 - 1]?
      else if [['%'], ['+']].contains (c :: cs) then process.jobs.getLast?
      else none
    | _ => process.jobs.getLast?
  match found with
  | some job => return job
  | none => fail (letters "No such job: " ++ text)

/-- Sends a signal to processes, or tells the names of signals. -/
def kill : Builtin := fun runner _ arguments => do
  let sendAll (signal : Nat) (targets : List Letters) : Run Nat := do
    if targets.isEmpty then
      fail killUsage
    let status ← targets.foldlM (fun (status : Nat) text => do
      let target ← match text with
        | '%' :: _ => jobOf text
        | '-' :: rest => needNumber rest
        | text => needNumber text
      if ← sendTo signal target then
        return status
      else
        complain (letters "No such process\n")
        return 1) 0
    deliver runner
    return status
  match arguments with
  | [] => fail killUsage
  | ['-', 'l'] :: rest =>
    match rest with
    | [] => print "kill" ('0' :: '\n' :: unlines (signalNames.map String.toList))
    | text :: _ =>
      let number ← needNumber text
      let signal := if 128 < number then number - 128 else number
      match if signal = 0 then none else signalName? signal with
      | some name => print "kill" (letters name ++ ['\n'])
      | none => fail (letters "invalid signal number or exit status: " ++ text)
  | ['-', 's'] :: name :: targets =>
    match signalNumber? name with
    | some signal => sendAll signal targets
    | none => fail (letters "invalid signal number or name: " ++ name)
  | ['-', '-'] :: targets => sendAll 15 targets
  | ('-' :: c :: cs) :: targets =>
    match signalNumber? (c :: cs) with
    | some signal => sendAll signal targets
    | none => fail (letters "Illegal option -" ++ [c])
  | targets => sendAll 15 targets

/-- Runs a command in the background that is still to run, and gives its status. -/
def finishJob (runner : Runner) (target : Nat) : Run (Option Nat) := do
  let jobs := (← get).system.jobs
  let settle (status : Nat) : Run Unit :=
    modify fun session =>
      { session with
        system := { session.system with jobs := associate target (.ended status true) session.system.jobs } }
  match jobs.lookup target with
  | none => return none
  | some (.ended status _) =>
    settle status
    return some status
  | some (.waiting child place command) =>
    settle 0
    let ended ← inProcess runner child place (runner.command false command)
    settle (endStatus ended)
    return some (endStatus ended)

/-- Runs commands in the background that are still to run. -/
def finishJobs (runner : Runner) (targets : List Nat) : Run Unit :=
  targets.forM fun target => do
    let _ ← finishJob runner target

/-- Waits for commands in the background. -/
def wait : Builtin := fun runner _ arguments => do
  let (_, rest) ← options "" arguments
  match rest with
  | [] =>
    finishJobs runner (← process).jobs
    return 0
  | targets =>
    targets.foldlM (fun _ text => do
      let process ← process
      let target ← match text with
        | '%' :: _ => jobOf text
        | text => needNumber text
      match ← if process.jobs.contains target then finishJob runner target else pure none with
      | none => return 127
      | some status =>
        if 128 < status then
          reportSignal (.error (.killed (status - 128)))
        return status) 0

/-! ## What names mean -/

/-- What a name means to the shell. -/
inductive Meaning where
  | keyword
  | abbreviation (value : Letters)
  | function
  | builtin (special : Bool)
  | program (path : Letters)
  | nothing

/-- The commands that are part of the shell but not in a strict sense. -/
def plainNames : List String :=
  ["[", "alias", "bg", "cd", "chdir", "command", "echo", "false", "fg", "getopts", "hash", "jobs",
   "kill", "printf", "pwd", "read", "test", "true", "type", "ulimit", "umask", "unalias", "wait"]

/-- What a name means. -/
def meaningOf (name : Letters) : Run Meaning := do
  let process ← process
  let text := String.ofList name
  if keywords.contains text then return .keyword
  else match process.aliases.lookup name, process.functions.lookup name with
    | some value, _ => return .abbreviation value
    | none, some _ => return .function
    | none, none =>
      if specialNames.contains text then return .builtin true
      else if plainNames.contains text then return .builtin false
      else if name.contains '/' then
        return if (← disk).holds (← aim name) ∨ (← programAt name).isOk then .program name else .nothing
      else match ← findProgram name with
        | .ok (path, _) => return .program path
        | .error _ => return .nothing

/-- Tells what names mean; the status is 127 if one of them means nothing. -/
def describe : Builtin := fun _ _ arguments =>
  arguments.foldlM (fun status name => do
    let tell (text : String) : Run Nat := do
      let _ ← print "type" (name ++ letters text ++ ['\n'])
      return status
    match ← meaningOf name with
    | .keyword => tell " is a shell keyword"
    | .abbreviation value =>
      let _ ← print "type" (name ++ letters " is an alias for " ++ value ++ ['\n'])
      return status
    | .function => tell " is a shell function"
    | .builtin true => tell " is a special shell builtin"
    | .builtin false => tell " is a shell builtin"
    | .program path =>
      let _ ← print "type" (name ++ letters " is " ++ path ++ ['\n'])
      return status
    | .nothing =>
      let _ ← tell ": not found"
      return 127) 0

/-- Tells in short what a name means. -/
def describeShortly : Builtin := fun runner tested arguments => do
  let (found, rest) ← options "pvV" arguments
  match rest with
  | [] => return 0
  | name :: _ =>
    if found.any (·.1 == 'V') then
      describe runner tested [name]
    else
      match ← meaningOf name with
      | .nothing => return 127
      | .abbreviation value => print "command" (letters "alias " ++ name ++ '=' :: shown value ++ ['\n'])
      | .program path => print "command" (path ++ ['\n'])
      | _ => print "command" (name ++ ['\n'])

/-- Looks for programs; a name that finds none is a failure. -/
def hash : Builtin := fun _ _ arguments => do
  let (_, names) ← options "rv" arguments
  names.foldlM (fun status name => do
    match ← meaningOf name with
    | .nothing =>
      complain (name ++ letters ": not found")
      return 1
    | _ => return status) 0

/-- Lays down names that stand for the beginnings of commands, or lists them. -/
def setAlias : Builtin := fun _ _ arguments => do
  let line (name value : Letters) : Letters := name ++ '=' :: shown value ++ ['\n']
  let aliases := (← process).aliases
  match arguments with
  | [] => print "alias" (aliases.flatMap fun (name, value) => line name value)
  | arguments =>
    arguments.foldlM (fun status text => do
      match Text.cut '=' text with
      | (name, some value) =>
        change fun process => { process with aliases := associate name value process.aliases }
        return status
      | (name, none) =>
        match (← process).aliases.lookup name with
        | some value =>
          let _ ← print "alias" (line name value)
          return status
        | none =>
          let _ ← emit errors (letters "alias: " ++ name ++ letters " not found\n")
          return 1) 0

/-- Forgets such names. -/
def forgetAlias : Builtin := fun _ _ arguments => do
  let (found, names) ← options "a" arguments
  if !found.isEmpty then
    change ({ · with aliases := [] })
    return 0
  else
    names.foldlM (fun status name => do
      if (← process).aliases.any (·.1 == name) then
        change fun process => { process with aliases := dissociate name process.aliases }
        return status
      else
        let _ ← emit errors (letters "unalias: " ++ name ++ letters " not found\n")
        return 1) 0

/-- The permissions that letters of a symbolic mode stand for. -/
def permissionBits (text : Letters) : Nat :=
  (if text.contains 'r' then 4 else 0) + (if text.contains 'w' then 2 else 0) + (if text.contains 'x' then 1 else 0)

/-- What is left of permissions after a change in symbols, if it is one. -/
def changedMode? (mode : Nat) (text : Letters) : Option Nat :=
  let parts := (Text.splitOn ',' text)
  parts.foldlM (fun mode part =>
    let who := part.takeWhile fun c => "ugoa".toList.contains c
    match part.drop who.length with
    | operator :: letters =>
      if "=+-".toList.contains operator ∧ letters.all fun c => "rwx".toList.contains c then
        let isFor (c : Char) : Bool := who.isEmpty || who.contains 'a' || who.contains c
        let bits := permissionBits letters
        let apply (old : Nat) (c : Char) : Nat :=
          if !isFor c then old
          else if operator = '=' then bits
          else if operator = '+' then old ||| bits
          else old &&& (7 - bits)
        some (apply (mode / 64 % 8) 'u' * 64 + apply (mode / 8 % 8) 'g' * 8 + apply (mode % 8) 'o')
      else none
    | [] => none) mode

/-- Sets or tells what is taken from the permissions of new files. -/
def umask : Builtin := fun _ _ arguments => do
  let (found, rest) ← options "S" arguments
  let mask := (← process).mask
  match rest with
  | [] =>
    if found.isEmpty then
      let octal := Nat.toDigits 8 mask
      print "umask" (List.replicate (4 - octal.length) '0' ++ octal ++ ['\n'])
    else
      let symbols (bits : Nat) : Letters :=
        (if bits / 4 % 2 = 0 then ['r'] else []) ++ (if bits / 2 % 2 = 0 then ['w'] else [])
          ++ (if bits % 2 = 0 then ['x'] else [])
      print "umask" (letters "u=" ++ symbols (mask / 64) ++ letters ",g=" ++ symbols (mask / 8)
        ++ letters ",o=" ++ symbols mask ++ ['\n'])
  | text :: _ =>
    if text.head?.any Char.isDigit then
      if text.all isOctal then
        change ({ · with mask := (Text.valueIn? 8 text).getD 0 % 512 })
        return 0
      else
        fail (letters "Illegal number: " ++ text)
    else
      match changedMode? (511 - mask) text with
      | some mode =>
        change ({ · with mask := 511 - mode })
        return 0
      | none => fail (letters "Illegal mode: " ++ text)

/-- Tells the time that was used, which is none. -/
def times : Builtin := fun _ _ _ =>
  print "times" (letters "0m0.000000s 0m0.000000s\n0m0.000000s 0m0.000000s\n")

/-- Tells a limit, of which there is none. -/
def ulimit : Builtin := fun _ _ arguments => do
  let asks := arguments.all fun argument => argument.head? = some '-'
  if asks then print "ulimit" (letters "unlimited\n") else return 0

/-- Lists the commands in the background, of which none is shown. -/
def jobs : Builtin := fun _ _ _ => return 0

/-- There is no command to go on with. -/
def resume : Builtin := fun _ _ _ => fail (letters "No current job")

/-- The commands that are part of the shell. -/
def table : List (String × Builtin) :=
  [(".", source), (":", fun _ _ _ => return 0), ("[", test true), ("alias", setAlias), ("bg", resume),
   ("break", leaveLoops false), ("cd", cd), ("chdir", cd), ("command", describeShortly),
   ("continue", leaveLoops true), ("echo", echo), ("eval", eval), ("exec", exec), ("exit", exit),
   ("export", exportVariables), ("false", fun _ _ _ => return 1), ("fg", resume), ("getopts", getopts),
   ("hash", hash), ("jobs", jobs), ("kill", kill), ("local", declareLocal), ("printf", printf),
   ("pwd", pwd), ("read", read), ("readonly", readonly), ("return", leaveFunction), ("set", setOptions),
   ("shift", shift), ("test", test false), ("times", times), ("trap", trap),
   ("true", fun _ _ _ => return 0), ("type", describe), ("ulimit", ulimit), ("umask", umask),
   ("unalias", forgetAlias), ("unset", unset), ("wait", wait)]

end Builtin

end MonitorBench.Shell
