import MonitorBench.Shell.Tree

/-!
# The text of a script while it is read

A script is read letter by letter from the front. A backslash before a line feed joins two
lines and is nothing by itself. A token can be put back, and the texts of here-documents
are kept under their numbers as soon as they are read. What is no script is reported with
the number of the line where that shows.
-/

set_option autoImplicit false

namespace MonitorBench.Shell

/-- Why a text is no script, and in which line that shows. -/
structure Misreading where
  line : Nat
  reason : String

/-- A token of a script. -/
inductive Token where
  /-- The end of the text. -/
  | finish
  | newline
  /-- A mark that separates or joins commands. -/
  | mark (text : String)
  /-- A word that opens, divides or closes a command. -/
  | keyword (text : String)
  /-- A word, and whether anything in it is quoted. -/
  | word (pieces : Word) (quoted : Bool)
  /-- The mark of a redirection. -/
  | redirection (channel : Nat) (mark : String)

/-- A here-document whose text is still to come. -/
structure Awaited where
  number : Nat
  /-- The line that ends it. -/
  delimiter : Letters
  /-- Whether tabs in front of its lines are dropped. -/
  strip : Bool
  /-- Whether its text stands as it is. -/
  raw : Bool

/-- A word that stood for the beginning of a command, while what it stands for is read. -/
structure AliasUse where
  name : Letters
  /-- How many letters are left behind what it stands for. -/
  left : Nat
  /-- Whether what it stands for ends in a blank, so that the next word can stand for something too. -/
  goesOn : Bool

/-- The state of reading a script. -/
structure Source where
  /-- What is still to be read. -/
  rest : Letters
  line : Nat := 1
  /-- A token that was put back. -/
  pushed : Option Token := none
  /-- The here-documents whose texts come after the line. -/
  awaited : List Awaited := []
  /-- The texts of here-documents by their numbers. -/
  documents : List (Nat × Word) := []
  /-- The number for the next here-document. -/
  nextNumber : Nat := 0
  /-- The words that stand for the beginnings of commands. -/
  aliases : List (Letters × Letters) := []
  /-- Those of them that are being read. -/
  inUse : List AliasUse := []

/-- Reads something from the front of a script. -/
abbrev Reading := StateT Source (Except Misreading)

/-- The text is no script. -/
def misread {α : Type} (reason : String) : Reading α := do
  throw { line := (← get).line, reason }

/-- What a token is called when it stands in a wrong place. -/
def Token.description : Token → String
  | .finish => "end of file"
  | .newline => "newline"
  | .mark text => "\"" ++ text ++ "\""
  | .keyword text => "\"" ++ text ++ "\""
  | .word _ _ => "word"
  | .redirection _ _ => "redirection"

/-- The text is no script because of a token, in whose place another one may be needed. -/
def unexpected {α : Type} (token : Token) (needed : Option Token) : Reading α :=
  misread (token.description ++ " unexpected" ++ match needed with
    | some needed => " (expecting " ++ needed.description ++ ")"
    | none => "")

/-- Drops what joins lines at the front, and counts the lines. -/
def dropJoins : Letters → Nat → Letters × Nat
  | '\\' :: '\n' :: rest, line => dropJoins rest (line + 1)
  | rest, line => (rest, line)

/-- The next letter, which stays where it is. -/
def peek : Reading (Option Char) := do
  let source ← get
  let (rest, line) := dropJoins source.rest source.line
  set { source with rest, line }
  return rest.head?

/-- Takes the next letter, even of what joins lines. -/
def takeRaw : Reading (Option Char) := do
  let source ← get
  match source.rest with
  | [] => return none
  | c :: rest =>
    set { source with rest, line := if c = '\n' then source.line + 1 else source.line }
    return some c

/-- Passes over the next letter. -/
def pass : Reading Unit := do
  let _ ← takeRaw

/-- Passes over the next letter if it is the given one, and tells whether it was. -/
def passIf (c : Char) : Reading Bool := do
  if (← peek) = some c then
    pass
    return true
  else
    return false

/-- Repeats a step until it gives a result, at most `fuel` times. -/
def repeatUpTo {σ α : Type} (step : σ → Reading (Sum σ α)) : (fuel : Nat) → σ → Reading α
  | 0, _ => misread "text not used up"
  | fuel + 1, state => do
    match ← step state with
    | .inl next => repeatUpTo step fuel next
    | .inr result => return result

/-- Repeats a step until it gives a result. Two steps without one take at least a letter, so the
letters that are left bound their number. -/
def untilResult {σ α : Type} (step : σ → Reading (Sum σ α)) (start : σ) : Reading α := do
  repeatUpTo step (2 * (← get).rest.length + 4) start

/-- Takes letters as long as they satisfy a condition. -/
def takeLetters (condition : Char → Bool) : Reading Letters :=
  let step (taken : Letters) : Reading (Sum Letters Letters) := do
    match ← peek with
    | some c =>
      if condition c then
        pass
        return .inl (c :: taken)
      else
        return .inr taken.reverse
    | none => return .inr taken.reverse
  untilResult step []

/-- Reads another text in place of this one, then goes on where this one was left. -/
def readAside {α : Type} (text : Letters) (line : Nat) (reading : Reading α) : Reading α := do
  let outer ← get
  set { outer with rest := text, line, pushed := none, awaited := [] }
  let result ← reading
  let inner ← get
  set { outer with documents := inner.documents, nextNumber := inner.nextNumber }
  return result

end MonitorBench.Shell
