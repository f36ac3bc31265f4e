import MonitorBench.Shell.Field
import MonitorBench.Shell.Grammar
import MonitorBench.Shell.System

/-!
# Running in processes

The parts of a script contain each other: words contain commands, commands contain words
and whole scripts. A runner gives the ways to run what lies inside. A command that changes
nothing of the process runs in a process of its own, which begins as a copy; when it ends,
its status is all that is left of it, but for what processes share.
-/

set_option autoImplicit false

namespace MonitorBench.Shell

/-- Before which names a tilde stands for a home. -/
inductive Tilde where
  | nowhere
  /-- At the beginning. -/
  | atStart
  /-- At the beginning and behind colons. -/
  | inValue
  deriving DecidableEq

/-- In which manner a word is expanded. -/
structure Manner where
  /-- Whether it stands between double quotes. -/
  quoted : Bool := false
  /-- Whether what it stands for is cut into fields. -/
  splits : Bool := false
  /-- Whether it belongs to a parameter, so that its letters count as put in. -/
  inParameter : Bool := false
  tilde : Tilde := .nowhere

/-- Ways to run what lies inside of words and commands. -/
structure Runner where
  /-- What a word stands for. -/
  expand : Manner → Word → Run (List Sign)
  /-- Runs a command; if its status is tested, failure does not end the process. -/
  command : (tested : Bool) → Command → Run Nat
  /-- Runs a script. -/
  script : (tested : Bool) → Letters → Run Nat
  /-- The program that the first of some words names, ready to run with the others as arguments. -/
  program : List Letters → Run (Except FileFault (Run Nat))

/-- The status with which a process ends; it has one byte. -/
def endStatus : Except Flow Nat → Nat
  | .ok status => status % 256
  | .error (.leave status) => status % 256
  | .error (.back status) => status % 256
  | .error (.loop _ _) => 0
  | .error .fault => 2
  | .error (.killed signal) => 128 + signal

/-- Does something, and tells how it went. -/
def attempt {α : Type} (action : Run α) : Run (Except Flow α) :=
  fun session =>
    let (result, after) := action session
    (.ok result, after)

/-- Does something, then something else however it went. -/
def andFinally {α : Type} (action : Run α) (last : Run Unit) : Run α := do
  let result ← attempt action
  last
  match result with
  | .ok value => return value
  | .error flow => throw flow

/-- What is done at a signal, if something is laid down. -/
def Process.trap? (process : Process) (name : String) : Option Letters :=
  process.traps.lookup name

/-- Does what is laid down for the end of the process. -/
def runExitTrap (runner : Runner) (result : Except Flow Nat) : Run (Except Flow Nat) := do
  match result with
  | .error (.killed signal) => return .error (.killed signal)
  | result =>
    let status := endStatus result
    match (← process).trap? "EXIT" with
    | none => return result
    | some action =>
      change fun process => { process with traps := dissociate "EXIT" process.traps, status, loops := 0 }
      match ← attempt (runner.script false action) with
      | .error (.leave last) => return .error (.leave last)
      | .error (.killed signal) => return .error (.killed signal)
      | .error .fault => return .error .fault
      | _ => return .error (.leave status)

/-- Lets the signals arrive that were sent to the process. -/
def deliver (runner : Runner) : Run Unit := do
  let session ← get
  let own := session.process.number
  let (mine, others) := session.system.signals.partition (·.1 == own)
  set { session with system := { session.system with signals := others } }
  for (_, signal) in mine do
    let name := (signalName? signal).getD ""
    match (← process).trap? name with
    | none => unless signal = 0 ∨ isHarmless signal do throw (.killed signal)
    | some action =>
      if name = "KILL" then
        throw (.killed signal)
      unless action.isEmpty do
        let status := (← process).status
        let _ ← runner.script false action
        change ({ · with status })

/-- The process as it begins as a copy of the one that runs. That one forgets a command in the
background that it has waited for. -/
def childProcess : Run Process := do
  let session ← get
  let system := session.system
  let process := session.process
  let number := system.nextProcess
  let wasWaitedFor (job : Nat) : Bool := match system.jobs.lookup job with
    | some (.ended _ waitedFor) => waitedFor
    | _ => false
  set { session with
    system := { system with nextProcess := number + 1 }
    process := { process with jobs := process.jobs.eraseP wasWaitedFor } }
  return { process with
    number
    parent := process.number
    jobs := []
    traps := process.traps.filter fun (_, action) => action.isEmpty }

/-- Does something in another process, and gives how that ended. -/
def inProcess (runner : Runner) (child : Process) (place : Location) (action : Run Nat) :
    Run (Except Flow Nat) := do
  let before ← get
  let home := before.system.disk.home
  set { before with
    system := { before.system with disk := { before.system.disk with home := place } }
    process := child }
  let ended ← attempt do
    let status ← action
    deliver runner
    return status
  let ended ← runExitTrap runner ended
  let after ← get
  set { after with
    system := { after.system with disk := { after.system.disk with home } }
    process := before.process }
  return ended

/-- What a signal that ended a process is reported as. -/
def reportSignal (ended : Except Flow Nat) : Run Unit := do
  match ended with
  | .error (.killed signal) =>
    match signalReports[signal - 1]? with
    | some report => unless report = "" do let _ ← emit errors (letters report ++ ['\n'])
    | none => return
  | _ => return

/-- Does something in a process of its own, and gives its status. -/
def inChild (runner : Runner) (action : Run Nat) : Run Nat := do
  let child ← childProcess
  let ended ← inProcess runner child (← disk).home action
  reportSignal ended
  deliver runner
  return endStatus ended

end MonitorBench.Shell
