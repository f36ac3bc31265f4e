import MonitorBench.Shell.Utility.Basic

/-!
# Utilities that start programs

These start other programs, with other variables or with arguments that they read; one
waits, and one names a file that is not there yet.
-/

set_option autoImplicit false

namespace MonitorBench.Shell

/-- Does nothing but succeed. -/
def succeed : Utility := fun _ _ => return 0

/-- Does nothing but fail. -/
def failing : Utility := fun _ _ => return 1

/-- Waits for a time. -/
def sleep : Utility := fun _ arguments => do
  let isTime (text : Letters) : Bool :=
    let digits := text.takeWhile fun c => c.isDigit || c == '.'
    digits.any Char.isDigit && [[], ['s'], ['m'], ['h'], ['d']].contains (text.drop digits.length)
  match arguments with
  | [] => misuse "sleep" (letters "missing operand") 1
  | arguments =>
    match arguments.find? fun text => !isTime text with
    | some text => misuse "sleep" (letters "invalid time interval " ++ quoted text) 1
    | none => return 0

/-- Tells programs only of what is left of the variables after forgetting some. -/
def tellOnly (keep : Letters → Bool) : Run Unit :=
  change fun process =>
    { process with
      bindings := process.bindings.map fun (name, binding) =>
        (name, { binding with exported := binding.exported && keep name }) }

/-- Splits the words that set variables off from the front. -/
def splitSettings : List Letters → List (Letters × Letters) × List Letters
  | [] => ([], [])
  | word :: words =>
    match Text.cut '=' word with
    | (name, some value) =>
      let (settings, rest) := splitSettings words
      ((name, value) :: settings, rest)
    | (_, none) => ([], word :: words)

/-- Starts a program with other variables. -/
def env : Utility := fun runner arguments =>
  let arguments := arguments.map fun argument => if argument = ['-'] then ['-', 'i'] else argument
  let kinds : OptionKinds :=
    { plain := "i", valued := "u", mixed := false, long := [("ignore-environment", 'i'), ("unset", 'u')] }
  withOptions "env" kinds 125 arguments fun parsed => do
    if parsed.has 'i' then
      tellOnly fun _ => false
    let forgotten := (parsed.options.filter (·.1 == 'u')).map Prod.snd
    tellOnly fun name => !forgotten.contains name
    let (settings, words) := splitSettings parsed.operands
    for (name, value) in settings do
      putVariable name { value := some value, exported := true }
    match words with
    | [] =>
      let process ← process
      say (unlines (process.bindings.filterMap fun (name, binding) =>
        if binding.exported then binding.value.map fun value => name ++ '=' :: value else none))
      return 0
    | name :: _ =>
      match ← runner.program words with
      | .ok run => run
      | .error fault =>
        warn "env" (onPath "" name fault)
        return if fault = .notFound then 127 else 126

/-- The words of a text, between blanks and line feeds, with quotes and backslashes; a quote that is
not closed in its line is reported. -/
def readItems : (fuel : Nat) → (word : Option Letters) → Letters → Except Char (List Letters)
  | 0, word, _ => .ok (word.map List.reverse).toList
  | _, word, [] => .ok (word.map List.reverse).toList
  | fuel + 1, word, c :: rest =>
    if c = ' ' ∨ c = '\t' ∨ c = '\n' then do
      return (word.map List.reverse).toList ++ (← readItems fuel none rest)
    else if c = '\\' then
      match rest with
      | d :: after => readItems fuel (some (d :: word.getD [])) after
      | [] => .ok (word.map List.reverse).toList
    else if c = '\'' ∨ c = '"' then
      let inner := rest.takeWhile (· != c)
      if inner.length = rest.length ∨ inner.contains '\n' then .error c
      else readItems fuel (some (inner.reverse ++ word.getD [])) (rest.drop (inner.length + 1))
    else
      readItems fuel (some (c :: word.getD [])) rest

/-- A list in pieces of a length, at most `fuel` of them. -/
def chunks {α : Type} (length : Nat) : (fuel : Nat) → List α → List (List α)
  | 0, _ => []
  | _, [] => []
  | fuel + 1, list => list.take length :: chunks length fuel (list.drop length)

/-- Starts a program with arguments that are read. -/
def xargs : Utility := fun runner arguments =>
  let kinds : OptionKinds := { plain := "0rtx", valued := "nILdPs", mixed := false }
  withOptions "xargs" kinds 1 arguments fun parsed => do
    let text := (← takeAll input).getD []
    let words := if parsed.operands.isEmpty then [letters "echo"] else parsed.operands
    let read : Except Char (List Letters) :=
      if parsed.has '0' then .ok ((Text.splitOn '\x00' text).filter (· != []))
      else match parsed.value? 'd' with
        | some delimiter =>
          let pieces := Text.splitOn (delimiter.headD '\n') text
          .ok (if pieces.getLast? = some [] then pieces.dropLast else pieces)
        | none =>
          if parsed.has 'I' then
            .ok (((linesOf text).map fun line => line.dropWhile fun c => c == ' ' || c == '\t').filter (· != []))
          else readItems (text.length + 1) none text
    let items ← match read with
      | .ok items => pure items
      | .error quote =>
        let name := if quote = '"' then "double" else "single"
        warn "xargs" (letters ("unmatched " ++ name
          ++ " quote; by default quotes are special to xargs unless you use the -0 option"))
        return 1
    let commands : List (List Letters) := match parsed.value? 'I', (parsed.value? 'n').bind natural? with
      | some mark, _ => items.map fun item => words.map fun word => replaceAll mark item (word.length + 1) word
      | none, some count => (chunks (max count 1) items.length items).map (words ++ ·)
      | none, none => if items.isEmpty ∧ parsed.has 'r' then [] else [words ++ items]
    let run (state : Nat × Bool) (words : List Letters) : Run (Nat × Bool) := do
      if state.2 then
        return state
      if parsed.has 't' then
        let _ ← emit errors ([' '].intercalate words ++ ['\n'])
      match ← runner.program words with
      | .error fault =>
        warn "xargs" ((words.headD []) ++ letters ": " ++ letters (reasonOf fault))
        return (if fault = .notFound then 127 else 126, true)
      | .ok run =>
        let status ← inChild runner do
          connect input (← addStream .null)
          run
        if status = 255 then
          warn "xargs" (words.headD [] ++ letters ": exited with status 255; aborting")
          return (124, true)
        return if status = 0 then state else (123, false)
    return (← commands.foldlM run (0, false)).1

/-- Makes a file, or a directory, with a name that nothing has. -/
def mktemp : Utility := fun _ arguments =>
  let kinds : OptionKinds :=
    { plain := "duqt", valued := "p", long := [("directory", 'd'), ("dry-run", 'u'), ("tmpdir", 'p')] }
  withOptions "mktemp" kinds 1 arguments fun parsed => do
    let session ← get
    let disk := session.system.disk
    let number := digits disk.entries.length
    let ending := List.replicate (10 - number.length) 'x' ++ number
    let path := match parsed.operands.head? with
      | some template =>
        let kept := (template.reverse.dropWhile (· == 'X')).reverse
        let name := kept ++ ending.drop (10 - min 10 (template.length - kept.length))
        match parsed.value? 'p' with
        | some directory => letters (Path.join (spelled directory) (spelled name))
        | none => if parsed.has 't' then letters "/tmp/" ++ name else name
      | none => (parsed.value? 'p').getD (letters "/tmp") ++ letters "/tmp." ++ ending
    match disk.locate (← aim path) with
    | .error fault =>
      warn "mktemp" (onPath "failed to create file via template " path fault)
      return 1
    | .ok place =>
      unless parsed.has 'u' do
        setDisk (disk.put place (if parsed.has 'd' then .directory else .file []))
      say (path ++ ['\n'])
      return 0

end MonitorBench.Shell
