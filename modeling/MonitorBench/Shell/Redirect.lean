import MonitorBench.Fault
import MonitorBench.Shell.Expansion

/-!
# Redirections

A redirection lets a channel lead to a file, to where another channel leads, to the text of
a here-document, or nowhere. All words of the redirections of a command are expanded before
the first of them is carried out; they are carried out in order, and those before one that
fails stay carried out. After the command its channels lead where they led before.
-/

set_option autoImplicit false

namespace MonitorBench.Shell

/-- A redirection whose words are expanded. -/
inductive Connection where
  | path (channel : Nat) (opening : Opening) (path : Letters)
  /-- To where another channel leads; without one, nowhere. -/
  | duplicate (channel : Nat) (target : Option Nat)
  /-- To a text, which is expanded when the redirection is carried out. -/
  | text (channel : Nat) (text : Word)

/-- What programs say of a fault of a file. -/
def reasonOf : FileFault → String
  | .notFound => "No such file or directory"
  | .isDirectory => "Is a directory"
  | .notDirectory => "Not a directory"
  | .alreadyExists => "File exists"
  | .deviceFull => "No space left on device"
  | .nameTooLong => "File name too long"
  | .invalidPath => "Invalid argument"
  | fault => fault.message

/-- What the shell says of a path that leads nowhere, and of other faults. -/
def reasonOr (missing : String) : FileFault → String
  | .notFound => missing
  | .notDirectory => missing
  | fault => reasonOf fault

/-- Expands the word of a redirection. -/
def expandRedirection (runner : Runner) : Redirection → Run Connection
  | .path channel opening word =>
    return .path channel opening (← expandText runner { tilde := .atStart } word)
  | .duplicate channel target => do
    let text := (← expandFields runner target).headD []
    match text with
    | ['-'] => return .duplicate channel none
    | [digit] =>
      if digit.isDigit then return .duplicate channel (some (digit.toNat - 48))
      else fail (letters "Syntax error: Bad fd number")
    | _ => fail (letters "Syntax error: Bad fd number")
  | .here channel number => do
    return .text channel (((← get).system.documents.lookup number).getD [])

/-- What a path is opened as when it is a device. -/
inductive Special where
  | stream (stream : Stream)
  /-- Where a channel leads. -/
  | channel (channel : Nat)

/-- The device at a location. -/
def special? (place : Location) : Option Special :=
  match place with
  | ["dev", "null"] => some (.stream .null)
  | ["dev", "full"] => some (.stream .full)
  | ["dev", "stdin"] => some (.channel 0)
  | ["dev", "stdout"] => some (.channel 1)
  | ["dev", "stderr"] => some (.channel 2)
  | ["dev", "fd", channel] => (Text.ofDigits? channel.toList).map fun n => .channel n.toNat
  | _ => none

/-- Opens a path as a stream for a channel. -/
def openStream (opening : Opening) (path : Letters) : Run (Except FileFault Stream) := do
  let disk ← disk
  let text ← aim path
  let forOutput (keep appends : Bool) : Run (Except FileFault Stream) :=
    match disk.openFile text with
    | .error fault => return .error fault
    | .ok (place, content) => do
      setDisk (disk.put place (.file (if keep then content else [])))
      return .ok (.file place 0 appends)
  match opening with
  | .input =>
    match disk.locate text with
    | .error fault => return .error fault
    | .ok place =>
      match disk.entry? place with
      | none => return .error .notFound
      | some .directory => return .ok .directory
      | some (.file _) => return .ok (.file place 0 false)
  | .both => forOutput true false
  | .append => forOutput true true
  | .overwrite => forOutput false false
  | .replace =>
    if (← process).has 'C' ∧ (disk.read text).isOk then return .error .alreadyExists
    else forOutput false false

/-- Lets a channel lead to where another one leads. -/
def connectLike (channel target : Nat) : Run Bool := do
  match ← streamOf target with
  | some (number, _) =>
    connect channel number
    return true
  | none => return false

/-- Lets a channel lead to a path. -/
def connectPath (channel : Nat) (opening : Opening) (path : Letters) : Run Unit := do
  let complaint (fault : FileFault) : Run Unit :=
    match opening with
    | .input => fail (letters "cannot open " ++ path ++ letters ": " ++ letters (reasonOr "No such file" fault))
    | _ =>
      fail (letters "cannot create " ++ path ++ letters ": " ++ letters (reasonOr "Directory nonexistent" fault))
  let openAt (path : Letters) : Run Unit := do
    match ← openStream opening path with
    | .ok stream => connect channel (← addStream stream)
    | .error fault => complaint fault
  let place := (← disk).locate (← aim path)
  match place.toOption.bind special? with
  | some (.stream stream) => connect channel (← addStream stream)
  | some (.channel target) =>
    match ← streamOf target with
    | some (_, .file place _ _) => openAt (letters (Disk.pathOf place))
    | some (number, _) => connect channel number
    | none => complaint .notFound
  | none => openAt path

/-- Carries out a redirection. -/
def connectAs (runner : Runner) : Connection → Run Unit
  | .path channel opening path => connectPath channel opening path
  | .duplicate channel none => disconnect channel
  | .duplicate channel (some target) => do
    unless ← connectLike channel target do
      fail (digits target ++ letters ": Bad file descriptor")
  | .text channel word => do
    let text ← expandText runner { quoted := true } word
    connect channel (← addStream (.pipe text))

/-- Does something with redirections, and gives its status. If one of them fails nothing is done, and
`failed` gives the status; `keep` tells whether the redirections stay. -/
def redirected (runner : Runner) (redirections : List Redirection) (failed : Run Nat) (keep : Bool)
    (action : Run Nat) : Run Nat := do
  if redirections.isEmpty then
    return ← action
  let connections ← redirections.mapM (expandRedirection runner)
  let channels := (← process).channels
  let restore : Run Unit := change fun process => { process with channels }
  match ← attempt (connections.forM (connectAs runner)) with
  | .ok _ => andFinally action (unless keep do restore)
  | .error _ =>
    restore
    change ({ · with status := 2 })
    failed

end MonitorBench.Shell
