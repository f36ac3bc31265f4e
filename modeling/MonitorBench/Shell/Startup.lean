import MonitorBench.Shell.Utility.Basic

/-!
# How a shell begins

A shell is given options, then a script: as an argument, as the path of a file, or as what
it reads. What follows are the name that the script goes by and its arguments. The shell
begins with the variables that programs are told and with a few of its own.
-/

set_option autoImplicit false

namespace MonitorBench.Shell

/-- The options by their letters, in the order in which they are shown, with their names. -/
def optionNames : List (Char × String) :=
  [('p', "privileged"), ('u', "nounset"), ('b', "notify"), ('a', "allexport"), ('C', "noclobber"), ('E', "emacs"),
   ('V', "vi"), ('v', "verbose"), ('x', "xtrace"), ('s', "stdin"), ('n', "noexec"),
   ('m', "monitor"), ('i', "interactive"), ('I', "ignoreeof"), ('f', "noglob"), ('e', "errexit")]

/-- The names of options in the order in which they are listed. -/
def optionList : List String :=
  ["errexit", "noglob", "ignoreeof", "interactive", "monitor", "noexec", "stdin", "xtrace",
   "verbose", "vi", "emacs", "noclobber", "allexport", "notify", "nounset", "privileged",
   "nolog", "debug"]

/-- Options with one of them turned on or off. -/
def withOption (option : Char) (on : Bool) (options : List Char) : List Char :=
  optionNames.filterMap fun (c, _) =>
    if (if c = option then on else options.contains c) then some c else none

/-- Options with one of them, given by its name, turned on or off. -/
def withOptionName? (name : Letters) (on : Bool) (options : List Char) : Option (List Char) :=
  if name = letters "nolog" ∨ name = letters "debug" then some options
  else (optionNames.find? fun (_, text) => text.toList == name).map fun (c, _) => withOption c on options

/-- What the options of a shell say. -/
structure ShellOptions where
  options : List Char := []
  /-- Whether the script is an argument. -/
  asArgument : Bool := false
  /-- Whether the options ended with a mark that also stands for no arguments. -/
  ended : Bool := false

/-- Reads the options in one argument, behind its sign; `atStart` allows that the script is an
argument. -/
def readOptionLetters (atStart on : Bool) : Letters → List Letters → ShellOptions →
    Except Letters (ShellOptions × List Letters)
  | [], arguments, read => .ok (read, arguments)
  | c :: cs, arguments, read =>
    if c = 'c' ∧ atStart then
      readOptionLetters atStart on cs arguments { read with asArgument := true }
    else if c = 'l' ∧ atStart then
      readOptionLetters atStart on cs arguments read
    else if c = 'o' then
      match arguments with
      | name :: rest =>
        match withOptionName? name on read.options with
        | some options => readOptionLetters atStart on cs rest { read with options }
        | none => .error (letters "Illegal option -o " ++ name)
      | [] => readOptionLetters atStart on cs [] read
    else if optionNames.any (·.1 == c) then
      readOptionLetters atStart on cs arguments { read with options := withOption c on read.options }
    else
      .error (letters "Illegal option -" ++ [c])

/-- Reads options at the front of arguments, at most `fuel` of them, and gives the other arguments. -/
def readShellOptions (atStart : Bool) : (fuel : Nat) → List Letters → ShellOptions →
    Except Letters (ShellOptions × List Letters)
  | 0, arguments, read => .ok (read, arguments)
  | fuel + 1, arguments, read =>
    match arguments with
    | ['-'] :: rest =>
      let kept := if atStart then read.options else read.options.filter fun c => c ≠ 'x' ∧ c ≠ 'v'
      .ok ({ read with options := kept }, rest)
    | ['-', '-'] :: rest => .ok ({ read with ended := true }, rest)
    | ('-' :: cs) :: rest => do
      let (next, after) ← readOptionLetters atStart true cs rest read
      readShellOptions atStart fuel after next
    | ('+' :: cs) :: rest => do
      let (next, after) ← readOptionLetters atStart false cs rest read
      readShellOptions atStart fuel after next
    | rest => .ok (read, rest)

/-- Where programs are looked for if nothing else is laid down. -/
def standardPath : Letters :=
  letters "/usr/local/sbin:/usr/local/bin:/usr/sbin:/usr/bin:/sbin:/bin"

/-- Lets the process begin anew as a shell. -/
def beginShell : Run Unit := do
  let session ← get
  let process := session.process
  let told := process.bindings.filterMap fun (name, binding) =>
    if binding.exported ∧ isName name then
      binding.value.map fun value => (name, ({ value := some value, exported := true } : Variable))
    else none
  let physical := letters session.system.disk.homePath
  let given := ((told.lookup (letters "PWD")).bind Variable.value).getD []
  let leads := given.head? = some '/' &&
    (session.system.disk.locate (session.system.aim true (spelled given))).toOption == some session.system.disk.home
  let place := if leads then given else physical
  let own (name : String) (value : Letters) : Letters × Variable := (letters name, { value := some value })
  let standard (bindings : List (Letters × Variable)) : List (Letters × Variable) :=
    [own "PS1" (letters "# "), own "PS2" (letters "> "), own "PS4" (letters "+ "),
     own "OPTIND" ['1'], own "IFS" [' ', '\t', '\n'], own "PPID" (digits process.parent),
     (letters "PWD", { value := some place, exported := true })].foldl
      (fun bindings (name, binding) => associate name binding bindings)
      (if bindings.any (·.1 == letters "PATH") then bindings else bindings ++ [own "PATH" standardPath])
  set { session with
    process :=
      { number := process.number, first := process.number, parent := process.parent
        name := letters "sh", arguments := [], channels := process.channels
        bindings := standard told, mask := process.mask
        shown := if place = physical then none else some place
        traps := process.traps.filter fun (_, action) => action.isEmpty } }

/-- Tells why a shell does not begin, and ends it. -/
def refuseStart (message : Letters) : Run Nat := do
  change ({ · with line := 0 })
  fail message

/-- Runs a script that is the content of a file. -/
def runFile (runner : Runner) (path : Letters) : Run Nat := do
  match (← disk).read (← aim path) with
  | .ok content => runner.script false (lettersOf content)
  | .error .isDirectory => return 0
  | .error fault =>
    change ({ · with name := letters "sh" })
    refuseStart (letters "cannot open " ++ path ++ letters ": " ++ letters (reasonOr "No such file" fault))

/-- Runs a shell with arguments. -/
def shell : Utility := fun runner arguments => do
  beginShell
  match readShellOptions true (arguments.length + 1) arguments {} with
  | .error message => refuseStart message
  | .ok (read, rest) =>
    let fromInput := read.options.contains 's' || rest.isEmpty
    change ({ · with options := read.options })
    let readInput : Run Nat := do
      match ← takeAll input with
      | some text => runner.script false text
      | none => return (← process).status
    match read.asArgument, rest with
    | true, [] => refuseStart (letters "-c requires an argument")
    | true, text :: names =>
      match names with
      | name :: arguments => change ({ · with name, arguments })
      | [] => pure ()
      let status ← runner.script false text
      if read.options.contains 's' then readInput else return status
    | false, path :: others =>
      if fromInput then
        change ({ · with arguments := path :: others })
        readInput
      else
        change ({ · with name := path, arguments := others })
        runFile runner path
    | false, [] =>
      change fun process => { process with options := withOption 's' true process.options }
      readInput

end MonitorBench.Shell
