import MonitorBench.Shell.Redirect

/-!
# What utilities have in common

A utility is a program that is given arguments. Those that begin with a dash are options,
alone or several in one argument, some with a value; the others are operands. A utility
prints, tells what is wrong, and ends with a status.
-/

set_option autoImplicit false

namespace MonitorBench.Shell

/-- A program that scripts can start. -/
abbrev Utility := Runner → List Letters → Run Nat

/-- The options of a utility. -/
structure OptionKinds where
  /-- Those without a value. -/
  plain : String := ""
  /-- Those with a value. -/
  valued : String := ""
  /-- Those with a value if one stands in the same argument, behind an equals sign if the name is long. -/
  loose : String := ""
  /-- Long names of options. -/
  long : List (String × Char) := []
  /-- Whether options can follow operands. -/
  mixed : Bool := true

/-- The options and operands of a utility. -/
structure Parsed where
  /-- The options in order, with their values. -/
  options : List (Char × Letters) := []
  operands : List Letters := []

namespace Parsed

/-- Whether an option was given. -/
def has (parsed : Parsed) (option : Char) : Bool :=
  parsed.options.any (·.1 == option)

/-- The value of an option that was given last. -/
def value? (parsed : Parsed) (option : Char) : Option Letters :=
  parsed.options.reverse.lookup option

/-- The last of some options that was given. -/
def lastOf? (parsed : Parsed) (options : List Char) : Option Char :=
  (parsed.options.reverse.find? fun option => options.contains option.1).map Prod.fst

end Parsed

/-- Reads the options that stand in one argument, behind its dash. -/
def parseCluster (kinds : OptionKinds) : Letters → List Letters → Parsed →
    Except Letters (Parsed × List Letters)
  | [], arguments, parsed => .ok (parsed, arguments)
  | c :: cs, arguments, parsed =>
    let adding (value : Letters) : Parsed := { parsed with options := parsed.options ++ [(c, value)] }
    if kinds.plain.toList.contains c then
      parseCluster kinds cs arguments (adding [])
    else if kinds.loose.toList.contains c then
      .ok (adding cs, arguments)
    else if kinds.valued.toList.contains c then
      match cs, arguments with
      | [], value :: rest => .ok (adding value, rest)
      | [], [] => .error (letters "option requires an argument -- '" ++ [c, '\''])
      | value, rest => .ok (adding value, rest)
    else
      .error (letters "invalid option -- '" ++ [c, '\''])

/-- Reads a long option, without its dashes. The beginning of a name is enough if no other option has it. -/
def parseLong (kinds : OptionKinds) (text : Letters) (arguments : List Letters) (parsed : Parsed) :
    Except Letters (Parsed × List Letters) :=
  let name := text.takeWhile (· != '=')
  let starting := (kinds.long.filter fun (long, _) => name <+: long.toList).map Prod.snd
  let option? := (kinds.long.lookup (String.ofList name)).or
    (if starting.eraseDups.length = 1 then starting.head? else none)
  match option? with
  | none => .error (letters "unrecognized option '--" ++ text ++ ['\''])
  | some c =>
    let adding (value : Letters) : Parsed := { parsed with options := parsed.options ++ [(c, value)] }
    if kinds.loose.toList.contains c then
      .ok (adding (text.drop (name.length + 1)), arguments)
    else if kinds.valued.toList.contains c then
      match text.drop name.length, arguments with
      | _ :: value, rest => .ok (adding value, rest)
      | [], value :: rest => .ok (adding value, rest)
      | [], [] => .error (letters "option '--" ++ name ++ letters "' requires an argument")
    else if name.length < text.length then
      .error (letters "option '--" ++ name ++ letters "' doesn't allow an argument")
    else
      .ok (adding [], arguments)

/-- Reads arguments, at most `fuel` of them. -/
def parseUpTo (kinds : OptionKinds) : (fuel : Nat) → List Letters → Parsed → Except Letters Parsed
  | 0, _, parsed => .ok parsed
  | _, [], parsed => .ok parsed
  | fuel + 1, argument :: rest, parsed =>
    match argument with
    | ['-', '-'] => .ok { parsed with operands := parsed.operands ++ rest }
    | '-' :: '-' :: text => do
      let (next, after) ← parseLong kinds text rest parsed
      parseUpTo kinds fuel after next
    | '-' :: c :: cs => do
      let (next, after) ← parseCluster kinds (c :: cs) rest parsed
      parseUpTo kinds fuel after next
    | operand =>
      if kinds.mixed then
        parseUpTo kinds fuel rest { parsed with operands := parsed.operands ++ [operand] }
      else
        .ok { parsed with operands := parsed.operands ++ operand :: rest }

/-- Prints letters. -/
def say (text : Letters) : Run Unit := do
  let _ ← emit output text

/-- Tells what is wrong, in the name of a utility. -/
def warn (name : String) (message : Letters) : Run Unit := do
  let _ ← emit errors (letters name ++ letters ": " ++ message ++ ['\n'])

/-- Tells what is wrong with the arguments, and gives a status. -/
def misuse (name : String) (message : Letters) (status : Nat) : Run Nat := do
  warn name message
  let _ ← emit errors (letters ("Try '" ++ name ++ " --help' for more information.\n"))
  return status

/-- Does something with the options and operands among arguments; `status` is that of misuse. -/
def withOptions (name : String) (kinds : OptionKinds) (status : Nat) (arguments : List Letters)
    (action : Parsed → Run Nat) : Run Nat := do
  match parseUpTo kinds (arguments.length + 1) arguments {} with
  | .ok parsed => action parsed
  | .error message => misuse name message status

/-- A text in single quotes, as messages show it. -/
def quoted (text : Letters) : Letters :=
  '\'' :: text ++ ['\'']

/-- A message on a path with its reason. -/
def onPath (start : String) (path : Letters) (fault : FileFault) : Letters :=
  letters start ++ quoted path ++ letters ": " ++ letters (reasonOf fault)

/-- The content of an operand: a file, or for a dash what the input still holds. -/
def contentOf (path : Letters) : Run (Except FileFault Letters) := do
  if path = ['-'] then
    match ← takeAll input with
    | some text => return .ok text
    | none =>
      return match ← streamOf input with
        | some _ => .error .isDirectory
        | none => .error (.other "Bad file descriptor")
  else
    let place := (← disk).locate (← aim path)
    match place.toOption.bind special? with
    | some (.stream _) => return .ok []
    | some (.channel channel) => return .ok ((← takeAll channel).getD [])
    | none => return ((← disk).read (← aim path)).map lettersOf

/-- The contents of operands, or of the input if there are none; of a fault is told in a way of its
own. The status is 0 if there was no fault. -/
def contentsOf (name : String) (tell : Letters → FileFault → Letters) (operands : List Letters) :
    Run (List (Letters × Letters) × Nat) := do
  let read (state : List (Letters × Letters) × Nat) (path : Letters) : Run (List (Letters × Letters) × Nat) := do
    match ← contentOf path with
    | .ok content => return (state.1 ++ [(path, content)], state.2)
    | .error fault =>
      warn name (tell path fault)
      return (state.1, 1)
  (if operands.isEmpty then [['-']] else operands).foldlM read ([], 0)

/-- Gives back letters that were taken from the input last; a pipe takes none back. -/
def giveBack (count : Nat) : Run Unit := do
  match ← streamOf input with
  | some (number, .file place position appends) => setStream number (.file place (position - count) appends)
  | _ => return

/-- Writes a text into a file, or behind what it holds; some paths are channels. -/
def writeWhole (path text : Letters) (appends : Bool) : Run (Except FileFault Unit) := do
  let disk ← disk
  let aimed ← aim path
  match (disk.locate aimed).toOption.bind special? with
  | some (.stream .full) => return if text.isEmpty then .ok () else .error .deviceFull
  | some (.stream _) => return .ok ()
  | some (.channel channel) =>
    let _ ← emit channel text
    return .ok ()
  | none =>
    match if appends then disk.append aimed (bytesOf text) else disk.write aimed (bytesOf text) with
    | .ok disk =>
      setDisk disk
      return .ok ()
    | .error fault => return .error fault

/-- A message on a path, which stands by itself. -/
def plainly (path : Letters) (fault : FileFault) : Letters :=
  path ++ letters ": " ++ letters (reasonOf fault)

/-- The lines of a text, without their line feeds. -/
def linesOf (text : Letters) : List Letters :=
  match (Text.splitOn '\n' text).reverse with
  | [] :: lines => lines.reverse
  | lines => lines.reverse

/-- Lines with their line feeds. -/
def unlines (lines : List Letters) : Letters :=
  lines.flatMap (· ++ ['\n'])

/-- The number that digits give. -/
def natural? (text : Letters) : Option Nat :=
  if isNumber text then some (Nat.ofDigitChars 10 text 0) else none

/-- The integer that a text gives, with an optional minus sign. -/
def integer? (text : Letters) : Option Int :=
  match text with
  | '-' :: rest => (natural? rest).map fun n => - Int.ofNat n
  | '+' :: rest => (natural? rest).map Int.ofNat
  | rest => (natural? rest).map Int.ofNat

/-- A text at the right of a field. -/
def padLeft (width : Nat) (text : Letters) : Letters :=
  List.replicate (width - text.length) ' ' ++ text

/-- A text with every occurrence of a mark replaced. -/
def replaceAll (mark value : Letters) : (fuel : Nat) → Letters → Letters
  | 0, text => text
  | _, [] => []
  | fuel + 1, c :: cs =>
    match if mark = [] then none else Text.after? mark (c :: cs) with
    | some rest => value ++ replaceAll mark value fuel rest
    | none => c :: replaceAll mark value fuel cs

/-- Does something for each operand, and gives the greatest of the statuses. -/
def forOperands (operands : List Letters) (action : Letters → Run Nat) : Run Nat :=
  operands.foldlM (fun status operand => return max status (← action operand)) 0

end MonitorBench.Shell
