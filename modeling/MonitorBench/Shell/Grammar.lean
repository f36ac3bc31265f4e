import MonitorBench.Shell.Token

/-!
# The grammar of scripts

Commands are separated by semicolons, ampersands and line feeds, joined by conditions and
pipes, and grouped by keywords and parentheses. A script is read one line of commands after
the other, so that what stands before a mistake can run before the mistake is found; a
command that goes over several lines counts as one line.
-/

set_option autoImplicit false

namespace MonitorBench.Shell

/-- The commands that are part of the shell in a strict sense: a mistake in using one ends it. -/
def specialNames : List String :=
  [".", ":", "break", "continue", "eval", "exec", "exit", "export", "local", "readonly", "return",
    "set", "shift", "times", "trap", "unset"]

/-- Where a list of commands stands. -/
inductive ListKind where
  /-- It is a line of the script. -/
  | line
  /-- It is part of a command and has to hold a command. -/
  | body
  /-- It is part of a command and may be empty. -/
  | optional
  deriving DecidableEq

/-- Whether a token closes or divides the command that a list is part of. -/
def Token.endsList : Token → Bool
  | .finish => true
  | .mark text => text == ")" || text == ";;"
  | .keyword text => ["do", "done", "elif", "else", "esac", "fi", "then", "\x7d"].contains text
  | _ => false

/-- The name and the value of a word that sets a variable. -/
def assignment? (word : Word) : Option (Letters × Word) :=
  match word with
  | .plain text :: pieces =>
    let name := text.takeWhile (· != '=')
    match text.drop name.length with
    | _ :: value =>
      if isName name then some (name, if value = [] then pieces else .plain value :: pieces) else none
    | [] => none
  | _ => none

/-- The letters of a word in which nothing is put in. -/
def Piece.text : Piece → Letters
  | .plain text => text
  | .firm text => text
  | .quoted pieces => pieces.flatMap fun
    | .plain text => text
    | .firm text => text
    | _ => []
  | _ => []

/-- Reads a token that has to be a certain keyword. -/
def needKeyword (inside : Inside) (name : String) (regard : Regard) : Reading Unit := do
  match ← readToken inside regard with
  | .keyword text => unless text = name do unexpected (.keyword text) (some (.keyword name))
  | token => unexpected token (some (.keyword name))

/-- Reads what a redirection leads to. -/
def readRedirection (inside : Inside) (channel : Nat) (mark : String) : Reading Redirection := do
  let isDocument := mark = "<<" || mark = "<<-"
  match ← readToken inside { delimiter := isDocument } with
  | .word pieces quoted =>
    if isDocument then
      let number := (← get).nextNumber
      let document : Awaited :=
        { number, delimiter := pieces.flatMap Piece.text, strip := mark = "<<-", raw := quoted }
      modify fun source =>
        { source with awaited := source.awaited ++ [document], nextNumber := number + 1 }
      return .here channel number
    else
      match mark with
      | ">" => return .path channel .replace pieces
      | ">|" => return .path channel .overwrite pieces
      | ">>" => return .path channel .append pieces
      | "<" => return .path channel .input pieces
      | "<>" => return .path channel .both pieces
      | _ => return .duplicate channel pieces
  | token => unexpected token none

/-- Reads the redirections behind a command. -/
def readRedirections (inside : Inside) : Reading (List Redirection) :=
  let step (read : List Redirection) : Reading (Sum (List Redirection) (List Redirection)) := do
    match ← readToken inside { keywords := true } with
    | .redirection channel mark => return .inl ((← readRedirection inside channel mark) :: read)
    | token =>
      putBack token
      return .inr read.reverse
  untilResult step []

/-- The parts of a simple command, each in reverse. -/
structure SimpleParts where
  assignments : List (Letters × Word) := []
  words : List Word := []
  redirections : List Redirection := []

/-- Reads the body of a function, after its name and a parenthesis. -/
def readDefinition (inside : Inside) (name : Word) : Reading Command := do
  match ← readToken inside {} with
  | .mark ")" => pure ()
  | token => unexpected token (some (.mark ")"))
  match name with
  | [.plain text] =>
    if isName text ∧ !specialNames.contains (String.ofList text) then
      return .definition text (← get).line (← inside.command)
    else
      misread "Bad function name"
  | _ => misread "Bad function name"

/-- Reads a simple command or the definition of a function. -/
def readSimple (inside : Inside) : Reading Command := do
  let line := (← get).line
  let step (parts : SimpleParts) : Reading (Sum SimpleParts Command) := do
    match ← readToken inside { aliases := parts.words.isEmpty } with
    | .word pieces _ =>
      match assignment? pieces, parts.words with
      | some assignment, [] =>
        return .inl { parts with assignments := assignment :: parts.assignments }
      | _, _ => return .inl { parts with words := pieces :: parts.words }
    | .redirection channel mark =>
      let redirection ← readRedirection inside channel mark
      return .inl { parts with redirections := redirection :: parts.redirections }
    | token =>
      match token, parts with
      | .mark "(", ⟨[], [name], []⟩ => return .inr (← readDefinition inside name)
      | _, _ =>
        putBack token
        return .inr (.simple line parts.assignments.reverse parts.words.reverse
          parts.redirections.reverse)
  untilResult step {}

/-- Reads a choice, after its first keyword. -/
def readChoice (inside : Inside) : Reading Command := do
  let branch : Reading (Command × Command) := do
    let condition ← inside.body
    needKeyword inside "then" {}
    return (condition, ← inside.body)
  let first ← branch
  let step (branches : List (Command × Command)) : Reading (Sum (List (Command × Command)) Command) := do
    let close (otherwise : Option Command) : Option Command :=
      branches.foldl (fun rest (condition, body) => some (.choice condition body rest)) otherwise
    match ← readToken inside {} with
    | .keyword "elif" => return .inl ((← branch) :: branches)
    | .keyword "else" =>
      let otherwise ← inside.body
      needKeyword inside "fi" {}
      return .inr ((close (some otherwise)).getD otherwise)
    | token =>
      putBack token
      needKeyword inside "fi" {}
      return .inr ((close none).getD first.2)
  untilResult step [first]

/-- Reads a loop, after its first keyword. -/
def readLoop (inside : Inside) (untilSuccess : Bool) : Reading Command := do
  let condition ← inside.body
  needKeyword inside "do" {}
  let body ← inside.body
  needKeyword inside "done" {}
  return .loop untilSuccess condition body

/-- Reads the words of a loop up to the end of the line. -/
def readWords (inside : Inside) : Reading (List Word) :=
  let step (words : List Word) : Reading (Sum (List Word) (List Word)) := do
    match ← readToken inside {} with
    | .word pieces _ => return .inl (pieces :: words)
    | .newline => return .inr words.reverse
    | .mark ";" => return .inr words.reverse
    | token => unexpected token none
  untilResult step []

/-- Reads a loop over words, after its first keyword. -/
def readEach (inside : Inside) (line : Nat) : Reading Command := do
  let regard : Regard := { newlines := true, keywords := true }
  match ← readToken inside {} with
  | .word [.plain name] false =>
    unless isName name do
      misread "Bad for loop variable"
    let words ← do
      match ← readToken inside regard with
      | .keyword "in" => readWords inside
      | token =>
        match token with
        | .mark ";" => pure ()
        | _ => putBack token
        pure [[.quoted [.parameter ['@'] .value]]]
    needKeyword inside "do" regard
    let body ← inside.body
    needKeyword inside "done" {}
    return .each line name words body
  | _ => misread "Bad for loop variable"

/-- The word that a token is as a pattern. -/
def Token.asPattern : Token → Word
  | .word pieces _ => pieces
  | .keyword text => [.plain text.toList]
  | _ => []

/-- Reads the patterns of a case up to the parenthesis; the first one has been read. -/
def readPatterns (inside : Inside) (first : Token) : Reading (List Word) :=
  let step (patterns : List Word) : Reading (Sum (List Word) (List Word)) := do
    match ← readToken inside {} with
    | .mark "|" => return .inl ((← readToken inside {}).asPattern :: patterns)
    | .mark ")" => return .inr patterns.reverse
    | token => unexpected token (some (.mark ")"))
  untilResult step [first.asPattern]

/-- Reads a selection by patterns, after its first keyword. -/
def readSelect (inside : Inside) (line : Nat) : Reading Command := do
  let regard : Regard := { newlines := true, keywords := true }
  match ← readToken inside {} with
  | .word subject _ =>
    needKeyword inside "in" regard
    let step (cases : List (List Word × Option Command)) :
        Reading (Sum (List (List Word × Option Command)) Command) := do
      match ← readToken inside regard with
      | .keyword "esac" => return .inr (.select line subject cases.reverse)
      | token =>
        let first ← match token with
          | .mark "(" => readToken inside {}
          | token => pure token
        let patterns ← readPatterns inside first
        let body ← inside.commands
        match ← readToken inside regard with
        | .mark ";;" => pure ()
        | .keyword "esac" => putBack (.keyword "esac")
        | token => unexpected token (some (.mark ";;"))
        return .inl ((patterns, body) :: cases)
    untilResult step []
  | token => unexpected token (some (.word [] false))

/-- Reads the commands between a bracket, which has been passed, and the token that closes it. -/
def readGroup (inside : Inside) (close : Token) : Reading Command := do
  let body ← inside.body
  match ← readToken inside {}, close with
  | .mark text, .mark needed =>
    unless text = needed do unexpected (.mark text) (some close)
  | .keyword text, .keyword needed =>
    unless text = needed do unexpected (.keyword text) (some close)
  | token, _ => unexpected token (some close)
  return body

/-- Reads a command that a token opens, if it opens one. -/
def readCompound? (inside : Inside) (line : Nat) : Token → Option (Reading Command)
  | .keyword "if" => some (readChoice inside)
  | .keyword "while" => some (readLoop inside false)
  | .keyword "until" => some (readLoop inside true)
  | .keyword "for" => some (readEach inside line)
  | .keyword "case" => some (readSelect inside line)
  | .keyword "\x7b" => some (readGroup inside (.keyword "\x7d"))
  | .mark "(" => some do return .apart line (← readGroup inside (.mark ")")) []
  | _ => none

/-- Reads a command. -/
def readCommand (inside : Inside) (newlines : Bool) : Reading Command := do
  let line := (← get).line
  let token ← readToken inside { newlines, keywords := true }
  match readCompound? inside line token with
  | some reading =>
    let command ← reading
    match command, ← readRedirections inside with
    | command, [] => return command
    | .apart line body _, redirections => return .apart line body redirections
    | command, redirections => return .redirected line command redirections
  | none =>
    match token with
    | .word _ _ =>
      putBack token
      readSimple inside
    | .redirection _ _ =>
      putBack token
      readSimple inside
    | token => unexpected token none

/-- Reads commands of which each reads what the one before it prints. -/
def readPipeline (inside : Inside) (newlines : Bool) : Reading Command := do
  let token ← readToken inside { newlines, keywords := true }
  let negated := token matches .keyword "!"
  unless negated do
    putBack token
  let first ← readCommand inside false
  let step (commands : List Command) : Reading (Sum (List Command) (List Command)) := do
    match ← readToken inside {} with
    | .mark "|" => return .inl ((← readCommand inside true) :: commands)
    | token =>
      putBack token
      return .inr commands.reverse
  let command := match ← untilResult step [first] with
    | [command] => command
    | commands => .pipeline commands
  return if negated then .negation command else command

/-- Reads pipelines that are joined by conditions. -/
def readConditions (inside : Inside) : Reading Command := do
  let first ← readPipeline inside false
  let step (command : Command) : Reading (Sum Command Command) := do
    match ← readToken inside {} with
    | .mark "&&" => return .inl (.both command (← readPipeline inside true))
    | .mark "||" => return .inl (.either command (← readPipeline inside true))
    | token =>
      putBack token
      return .inr command
  untilResult step first

/-- A command after others, if there are any. -/
def Command.after (command : Command) : Option Command → Command
  | none => command
  | some first => .sequence first command

/-- Reads a list of commands; what ends it is put back, but for the line feed that ends a line. -/
def readList (inside : Inside) (kind : ListKind) : Reading (Option Command) :=
  let isLine := kind = .line
  let step (state : Option Command × Bool) : Reading (Sum (Option Command × Bool) (Option Command)) := do
    let (found, mayEnd) := state
    let token ← readToken inside { newlines := !isLine, keywords := true }
    match token with
    | .newline =>
      readDocuments inside
      return .inr found
    | .finish =>
      readDocuments inside
      putBack .finish
      return .inr found
    | token =>
      putBack token
      if mayEnd ∧ token.endsList then
        return .inr found
      let command ← readConditions inside
      let separator ← readToken inside {}
      let command := match separator with
        | .mark "&" => Command.background command
        | _ => command
      let found := some (command.after found)
      match separator with
      | .mark "&" => return .inl (found, !isLine)
      | .mark ";" => return .inl (found, !isLine)
      | .newline =>
        putBack .newline
        return .inl (found, !isLine)
      | .finish =>
        readDocuments inside
        putBack .finish
        return .inr found
      | token =>
        if isLine then
          unexpected token none
        putBack token
        return .inr found
  untilResult step (none, kind = .optional)

/-- What can be read inside, at most `depth` levels deep. -/
def inside : (depth : Nat) → Inside
  | 0 =>
    { pieces := fun _ => misread "too many levels"
      commands := misread "too many levels"
      body := misread "too many levels"
      command := misread "too many levels" }
  | depth + 1 =>
    { pieces := fun place source => (Pieces.toWord <$> readPieces (inside depth) place) source
      commands := fun source => readList (inside depth) .optional source
      body := fun source => ((·.getD default) <$> readList (inside depth) .body) source
      command := fun source => readCommand (inside depth) true source }

/-- Reads the next line of commands. There is none at the end of the script. -/
def readLine : Reading (Option (Option Command)) := do
  modify ({ · with pushed := none })
  let found ← readList (inside ((← get).rest.length + 1)) .line
  match found, (← get).pushed with
  | none, some .finish => return none
  | found, _ => return some found

end MonitorBench.Shell
