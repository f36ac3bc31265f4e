import MonitorBench.Disk.Basic
import MonitorBench.Shell.Tree
import MonitorBench.Text.Decimal

/-!
# Processes and what they share

A script runs in a process, and commands of it can run in processes of their own. What a
process changes of itself, such as variables and channels, no other process sees; the disk,
the open files and the pipes are shared. A channel leads to a stream, and several channels
may lead to the same one. A command ends with a status, or it ends more than itself: a
loop, a function, or the process.
-/

set_option autoImplicit false

namespace MonitorBench.Shell

/-- What a channel can lead to. -/
inductive Stream where
  /-- Takes everything and holds nothing. -/
  | null
  /-- Takes nothing and holds nothing. -/
  | full
  /-- A directory, which can only be opened. -/
  | directory
  /-- A file at a location; what is written goes to the position, or behind the end. -/
  | file (place : Location) (position : Nat) (appends : Bool)
  /-- What was written and not yet read. -/
  | pipe (content : Letters)

/-- A variable. -/
structure Variable where
  /-- The value; a variable can be known without having one. -/
  value : Option Letters := none
  /-- Whether programs that are started are told the variable. -/
  exported : Bool := false
  /-- Whether the variable can no longer be changed. -/
  fixed : Bool := false

/-- A function. -/
structure Function where
  body : Command

/-- What a process has of its own. -/
structure Process where
  /-- The number of the process. -/
  number : Nat
  /-- The number of the process in which the script began. -/
  first : Nat
  /-- The number of the process that started that one. -/
  parent : Nat
  /-- The name that the script goes by. -/
  name : Letters
  arguments : List Letters
  /-- The number of the stream that a channel leads to. -/
  channels : List (Nat × Nat)
  bindings : List (Letters × Variable) := []
  functions : List (Letters × Function) := []
  aliases : List (Letters × Letters) := []
  /-- The letters of the options that are on. -/
  options : List Char := []
  /-- The status of the last command. -/
  status : Nat := 0
  /-- The status of the last command whose output was put in. -/
  lastOutputStatus : Nat := 0
  /-- The number of the last command in the background. -/
  lastJob : Option Nat := none
  /-- The numbers of the commands in the background that the process can wait for. -/
  jobs : List Nat := []
  /-- What is done at a signal or at the end. -/
  traps : List (String × Letters) := []
  /-- The line of the command that runs. -/
  line : Nat := 1
  /-- The command that is named in messages. -/
  command : Option Letters := none
  /-- How many loops the command is in. -/
  loops : Nat := 0
  /-- How many functions the command is in. -/
  calls : Nat := 0
  /-- For each function that runs, the variables to set again after it, with their old values. -/
  locals : List (List (Letters × Option Variable)) := []
  /-- The argument that is looked at next for options, and the place in it. -/
  optionPlace : Nat × Nat := (1, 0)
  /-- What is taken from the permissions of new files. -/
  mask : Nat := 18
  /-- The path that is shown of the place where the process stands, if it was reached by another one than
  that of its location. -/
  shown : Option Letters := none

/-- A command in the background. -/
inductive JobState where
  /-- It has still to run, in a process and at a place. -/
  | waiting (process : Process) (place : Location) (command : Command)
  /-- It ended; what was waited for can be forgotten. -/
  | ended (status : Nat) (waitedFor : Bool)

/-- What a name on the disk stands for if it has no file or directory of its own. -/
inductive Link where
  /-- Whatever a path leads to from the directory of the name. -/
  | soft (path : Letters)
  /-- The file at a location, which has another name there. -/
  | hard (place : Location)
  deriving DecidableEq

/-- What processes share. -/
structure System where
  /-- The disk; its home is the place where the process that runs stands. -/
  disk : Disk
  streams : List Stream := []
  /-- The texts of here-documents. -/
  documents : List (Nat × Word) := []
  /-- The number for the next here-document. -/
  nextDocument : Nat := 0
  /-- The number for the next process. -/
  nextProcess : Nat := 2
  jobs : List (Nat × JobState) := []
  /-- The signals that were sent and have not arrived, with the numbers of their processes. -/
  signals : List (Nat × Nat) := []
  /-- The names on the disk that stand for something else; an empty file takes the place of each. -/
  links : List (Location × Link) := []
  /-- How many files lost their names while they were open. -/
  nameless : Nat := 0

/-- The process that runs, and what it shares with others. -/
structure Session where
  system : System
  process : Process

/-- How a command ends more than itself. -/
inductive Flow where
  /-- It ends loops, or the innermost of them only begins again. -/
  | loop (again : Bool) (levels : Nat)
  /-- It ends a function. -/
  | back (status : Nat)
  /-- It ends the process. -/
  | leave (status : Nat)
  /-- A fault, which ends the process unless a command takes it as its own. -/
  | fault
  /-- A signal ends the process. -/
  | killed (signal : Nat)

/-- Something that a process does. -/
abbrev Run := ExceptT Flow (StateM Session)

/-- The process that runs. -/
def process : Run Process :=
  return (← get).process

/-- Changes the process that runs. -/
def change (f : Process → Process) : Run Unit :=
  modify fun session => { session with process := f session.process }

/-- The disk. -/
def disk : Run Disk :=
  return (← get).system.disk

/-- Puts another disk in place of the disk. -/
def setDisk (disk : Disk) : Run Unit :=
  modify fun session => { session with system := { session.system with disk } }

/-- Changes a list of pairs so that a key has a value. -/
def associate {α β : Type} [BEq α] (key : α) (value : β) (pairs : List (α × β)) : List (α × β) :=
  if pairs.any (·.1 == key) then
    pairs.map fun pair => if pair.1 == key then (key, value) else pair
  else
    pairs ++ [(key, value)]

/-- A list of pairs without a key. -/
def dissociate {α β : Type} [BEq α] (key : α) (pairs : List (α × β)) : List (α × β) :=
  pairs.filter (·.1 != key)

/-! ## Channels and streams -/

/-- Adds a stream, and gives its number. -/
def addStream (stream : Stream) : Run Nat := do
  let session ← get
  let number := session.system.streams.length
  set { session with system := { session.system with streams := session.system.streams ++ [stream] } }
  return number

/-- Lets a channel lead to a stream. -/
def connect (channel stream : Nat) : Run Unit :=
  change fun process => { process with channels := associate channel stream process.channels }

/-- Lets a channel lead nowhere. -/
def disconnect (channel : Nat) : Run Unit :=
  change fun process => { process with channels := dissociate channel process.channels }

/-- The number of the stream that a channel leads to, and the stream. -/
def streamOf (channel : Nat) : Run (Option (Nat × Stream)) := do
  let session ← get
  return do
    let number ← session.process.channels.lookup channel
    let stream ← session.system.streams[number]?
    return (number, stream)

/-- Puts another stream in place of one. -/
def setStream (number : Nat) (stream : Stream) : Run Unit :=
  modify fun session =>
    { session with
      system := { session.system with streams := session.system.streams.set number stream } }

/-- Bytes written over others from a position on, with zeros before it if they end earlier. -/
def overwritten (content : Bytes) (position : Nat) (bytes : Bytes) : Bytes :=
  content.take position ++ List.replicate (position - content.length) 0 ++ bytes
    ++ content.drop (position + bytes.length)

/-- Writes letters to a stream with a number, and tells whether that went well. -/
def emitTo (number : Nat) (text : Letters) : Run Bool := do
  match (← get).system.streams[number]? with
  | none => return text.isEmpty
  | some .null => return true
  | some .full => return text.isEmpty
  | some .directory => return text.isEmpty
  | some (.pipe content) =>
    setStream number (.pipe (content ++ text))
    return true
  | some (.file place position appends) =>
    let disk ← disk
    match disk.entry? place with
    | some (.file content) =>
      let start := if appends then content.length else position
      unless text.isEmpty do
        setDisk (disk.put place (.file (overwritten content start (bytesOf text))))
        setStream number (.file place (start + text.length) appends)
      return true
    | _ => return true

/-- Writes letters to a channel, and tells whether that went well. -/
def emit (channel : Nat) (text : Letters) : Run Bool := do
  match ← streamOf channel with
  | none => return text.isEmpty
  | some (number, _) => emitTo number text

/-- What a channel still holds, if it can be read. -/
def remaining (channel : Nat) : Run (Option Letters) := do
  match ← streamOf channel with
  | some (_, .null) => return some []
  | some (_, .full) => return some []
  | some (_, .pipe content) => return some content
  | some (_, .file place position _) =>
    match Disk.entry? (← disk) place with
    | some (.file content) => return some (lettersOf (content.drop position))
    | _ => return some []
  | _ => return none

/-- Takes as many letters as are given from what a channel holds. -/
def consume (channel count : Nat) : Run Unit := do
  match ← streamOf channel with
  | some (number, .pipe content) => setStream number (.pipe (content.drop count))
  | some (number, .file place position appends) =>
    setStream number (.file place (position + count) appends)
  | _ => return

/-- Takes everything that a channel holds. -/
def takeAll (channel : Nat) : Run (Option Letters) := do
  match ← remaining channel with
  | some text =>
    consume channel text.length
    return some text
  | none => return none

/-- The channel that programs read from. -/
def input : Nat := 0

/-- The channel that programs print to. -/
def output : Nat := 1

/-- The channel for messages. -/
def errors : Nat := 2

/-- The letters of a number. -/
def digits (n : Nat) : Letters :=
  (Text.natural n).toList

/-- Tells what is wrong, with the name of the script, the line and the command. -/
def complain (message : Letters) : Run Unit := do
  let process ← process
  let command := match process.command with
    | some name => name ++ letters ": "
    | none => []
  let _ ← emit errors
    (process.name ++ letters ": " ++ digits process.line ++ letters ": " ++ command ++ message ++ ['\n'])

/-- Tells what is wrong, which is a fault. -/
def fail {α : Type} (message : Letters) : Run α := do
  complain message
  throw .fault

/-! ## Variables -/

/-- The value of a variable. -/
def Process.lookup (process : Process) (name : Letters) : Option Letters :=
  (process.bindings.lookup name).bind Variable.value

/-- The value of a variable, which may be empty. -/
def Process.value (process : Process) (name : String) : Letters :=
  (process.lookup name.toList).getD []

/-- Whether an option is on. -/
def Process.has (process : Process) (option : Char) : Bool :=
  process.options.contains option

/-- Puts a variable into the process, whatever there was. -/
def putVariable (name : Letters) (binding : Variable) : Run Unit :=
  change fun process => { process with bindings := associate name binding process.bindings }

/-- Changes what there is of a variable. -/
def changeVariable (name : Letters) (f : Variable → Variable) : Run Unit := do
  putVariable name (f (((← process).bindings.lookup name).getD {}))

/-- Sets a variable. One that is fixed cannot be set. -/
def setVariable (name value : Letters) : Run Unit := do
  let process ← process
  let old := (process.bindings.lookup name).getD {}
  if old.fixed then
    fail (name ++ letters ": is read only")
  putVariable name { old with value := some value, exported := old.exported || process.has 'a' }
  if name = letters "OPTIND" then
    let index := (Text.ofDigits? value).map UInt64.toNat
    change ({ · with optionPlace := (max 1 (index.getD 1), 0) })

/-- Makes a variable unknown. -/
def unsetVariable (name : Letters) : Run Unit := do
  if (((← process).bindings.lookup name).getD {}).fixed then
    fail (name ++ letters ": is read only")
  change fun process => { process with bindings := dissociate name process.bindings }

/-- Remembers a variable so that it gets its old value at the end of the innermost function. -/
def saveVariable (name : Letters) : Run Unit :=
  change fun process =>
    match process.locals with
    | [] => process
    | saved :: outer =>
      if saved.any (·.1 == name) then process
      else { process with locals := ((name, process.bindings.lookup name) :: saved) :: outer }

/-- Gives variables their old values. -/
def restoreVariables (saved : List (Letters × Option Variable)) : Run Unit :=
  change fun process =>
    { process with
      bindings := saved.foldl
        (fun bindings (name, old) => match old with
          | some old => associate name old bindings
          | none => dissociate name bindings)
        process.bindings }

/-! ## Signals -/

/-- The names of signals, by their numbers from one on. -/
def signalNames : List String :=
  ["HUP", "INT", "QUIT", "ILL", "TRAP", "ABRT", "BUS", "FPE", "KILL", "USR1", "SEGV", "USR2",
   "PIPE", "ALRM", "TERM", "16", "CHLD", "CONT", "STOP", "TSTP", "TTIN", "TTOU", "URG",
   "XCPU", "XFSZ", "VTALRM", "PROF", "WINCH", "IO", "PWR", "SYS", "32", "33", "RTMIN", "RTMIN+1",
   "RTMIN+2", "RTMIN+3", "RTMIN+4", "RTMIN+5", "RTMIN+6", "RTMIN+7", "RTMIN+8", "RTMIN+9",
   "RTMIN+10", "RTMIN+11", "RTMIN+12", "RTMIN+13", "RTMIN+14", "RTMIN+15", "RTMAX-14", "RTMAX-13",
   "RTMAX-12", "RTMAX-11", "RTMAX-10", "RTMAX-9", "RTMAX-8", "RTMAX-7", "RTMAX-6", "RTMAX-5",
   "RTMAX-4", "RTMAX-3", "RTMAX-2", "RTMAX-1", "RTMAX"]

/-- What ended a process, by the signals from one on. -/
def signalReports : List String :=
  ["Hangup", "", "Quit", "Illegal instruction", "Trace/breakpoint trap", "Aborted", "Bus error",
   "Floating point exception", "Killed", "User defined signal 1", "Segmentation fault",
   "User defined signal 2", "", "Alarm clock", "Terminated", "Stack fault"]

/-- The name of a signal; zero is the end of a process. -/
def signalName? (signal : Nat) : Option String :=
  if signal = 0 then some "EXIT" else signalNames[signal - 1]?

/-- The number of a signal that a text names. -/
def signalNumber? (text : Letters) : Option Nat :=
  if isNumber text then
    (Text.ofDigits? text).bind fun n => if n.toNat ≤ 64 then some n.toNat else none
  else
    let name := spelled (text.map Char.toUpper)
    if name = "EXIT" then some 0
    else (signalNames.findIdx? (· == name)).map (· + 1)

/-- The signals that do nothing unless they are awaited. -/
def isHarmless (signal : Nat) : Bool :=
  [17, 18, 19, 20, 21, 22, 23, 28].contains signal

/-- Sends a signal to a process. -/
def send (signal target : Nat) : Run Unit :=
  modify fun session =>
    { session with
      system := { session.system with signals := session.system.signals ++ [(target, signal)] } }

end MonitorBench.Shell
