import MonitorBench.Shell.Quoting

/-!
# Tokens of a script

Between blanks and comments stand marks, redirections and words. A single digit right
before the mark of a redirection is the channel that it redirects. Whether a word is a
keyword depends on where it stands, and so is asked when a token is read. A line feed ends
a line, and the texts of the here-documents that the line named follow behind it.
-/

set_option autoImplicit false

namespace MonitorBench.Shell

/-- The words that open, divide or close commands. -/
def keywords : List String :=
  ["!", "case", "do", "done", "elif", "else", "esac", "fi", "for", "if", "in", "then", "until",
    "while", "\x7b", "\x7d"]

/-- What a reader of tokens has to regard. -/
structure Regard where
  /-- Whether line feeds are passed over. -/
  newlines : Bool := false
  /-- Whether words can be keywords. -/
  keywords : Bool := false
  /-- Whether words can stand for the beginnings of commands; those that can be keywords can. -/
  aliases : Bool := false
  /-- Whether a word ends a here-document. -/
  delimiter : Bool := false

/-- Passes over blanks and a comment. -/
def passBlanks : Reading Unit := do
  let step (inComment : Bool) : Reading (Sum Bool Unit) := do
    if inComment then
      match (← get).rest with
      | [] => return .inr ()
      | c :: _ =>
        if c = '\n' then
          return .inr ()
        else
          pass
          return .inl true
    else
      match ← peek with
      | some c =>
        if c = ' ' ∨ c = '\t' then
          pass
          return .inl false
        else
          return if c = '#' then .inl true else .inr ()
      | none => return .inr ()
  untilResult step false

/-- Reads a mark that may stand twice. -/
def readMark (c : Char) : Reading Token := do
  pass
  if ← passIf c then
    return .mark (String.ofList [c, c])
  else
    return .mark (String.ofList [c])

/-- Reads the mark of a redirection. -/
def readRedirectionMark (channel : Option Nat) (c : Char) : Reading Token := do
  pass
  let mark ← if c = '>' then do
      if ← passIf '>' then pure ">>"
      else if ← passIf '|' then pure ">|"
      else if ← passIf '&' then pure ">&"
      else pure ">"
    else do
      if ← passIf '<' then
        if ← passIf '-' then pure "<<-" else pure "<<"
      else if ← passIf '&' then pure "<&"
      else if ← passIf '>' then pure "<>"
      else pure "<"
  return .redirection (channel.getD (if c = '>' then 1 else 0)) mark

/-- Reads a word, or a redirection with its channel. -/
def readWord (inside : Inside) (place : Place) : Reading Token := do
  let read ← readPieces inside place
  match read.toWord, ← peek with
  | [.plain [digit]], some c =>
    if digit.isDigit ∧ !read.quoted ∧ (c = '<' ∨ c = '>') then
      readRedirectionMark (some (digit.toNat - 48)) c
    else
      return .word read.toWord read.quoted
  | pieces, _ => return .word pieces read.quoted

/-- Reads a token from the text. -/
def readFresh (inside : Inside) (place : Place) : Reading Token := do
  passBlanks
  match ← peek with
  | none => return .finish
  | some c =>
    if c = '\n' then
      pass
      return .newline
    else if c = '&' ∨ c = '|' ∨ c = ';' then
      readMark c
    else if c = '(' ∨ c = ')' then
      pass
      return .mark (String.ofList [c])
    else if c = '<' ∨ c = '>' then
      readRedirectionMark none c
    else
      readWord inside place

/-- Whether a line goes on in the next one, because it ends in a backslash that counts. -/
def joinsNext (line : Letters) : Bool :=
  (line.reverse.takeWhile (· == '\\')).length % 2 == 1

/-- The letters of a line with its line feed, and the rest. -/
def cutLine (text : Letters) : Letters × Letters :=
  let line := text.takeWhile (· != '\n')
  (line ++ (text.drop line.length).take 1, text.drop (line.length + 1))

/-- Reads the lines of a here-document. -/
def readDocumentLines (awaited : Awaited) : Reading Letters := do
  let step (state : Letters × Bool) : Reading (Sum (Letters × Bool) Letters) := do
    let (taken, joined) := state
    let source ← get
    let text := if awaited.strip ∧ !joined then source.rest.dropWhile (· == '\t') else source.rest
    let (line, rest) := cutLine text
    set { source with rest, line := source.line + 1 }
    let content := line.takeWhile (· != '\n')
    if text = [] ∨ content = awaited.delimiter ∧ !joined then
      return .inr taken
    else
      return .inl (taken ++ line, !awaited.raw && joinsNext content)
  untilResult step ([], false)

/-- Reads the texts of the here-documents that are awaited. -/
def readDocuments (inside : Inside) : Reading Unit := do
  let awaited := (← get).awaited
  modify ({ · with awaited := [] })
  for document in awaited do
    let line := (← get).line
    let text ← readDocumentLines document
    let pieces ← if document.raw then pure [Piece.firm text]
      else readAside text line (inside.pieces .document)
    modify fun source => { source with documents := (document.number, pieces) :: source.documents }

/-- A word as a keyword, if it is one. -/
def Token.asKeyword : Token → Token
  | .word [.plain text] false =>
    let name := String.ofList text
    if keywords.contains name then .keyword name else .word [.plain text] false
  | token => token

/-- Puts what a word stands for as the beginning of a command in its place, if it stands for something
and is not itself part of that; tells whether it was so. -/
def replaceAlias (token : Token) : Reading Bool := do
  match token with
  | .word [.plain name] false =>
    let source ← get
    let inUse := source.inUse.filter fun use => use.left ≤ source.rest.length
    match if inUse.any (·.name == name) then none else source.aliases.lookup name with
    | some value =>
      let goesOn := value.getLast? = some ' ' || value.getLast? = some '\t'
      set { source with
        rest := value ++ source.rest
        inUse := { name, left := source.rest.length, goesOn } :: inUse }
      return true
    | none => return false
  | _ => return false

/-- Passes over blanks, and tells whether that led out of what a word stands for that ends in one. -/
def passBlanksOut : Reading Bool := do
  let before ← get
  passBlanks
  let left := (← get).rest.length
  return before.inUse.any fun use => use.goesOn && use.left < before.rest.length && left ≤ use.left

/-- Reads the next token. -/
def readToken (inside : Inside) (regard : Regard) : Reading Token := do
  let place : Place := if regard.delimiter then .delimiter false else .bare
  let step (aliases : Bool) : Reading (Sum Bool Token) := do
    let (token, aliases) ← match (← get).pushed with
      | some token =>
        modify ({ · with pushed := none })
        pure (token, aliases)
      | none =>
        let goesOn ← passBlanksOut
        let token ← readFresh inside place
        pure (token, aliases || goesOn)
    match token, regard.newlines with
    | .newline, true =>
      readDocuments inside
      return .inl (regard.keywords || regard.aliases)
    | token, _ =>
      match if regard.keywords then token.asKeyword else token with
      | .keyword name => return .inr (.keyword name)
      | token =>
        if aliases then
          if ← replaceAlias token then return .inl aliases else return .inr token
        else
          return .inr token
  untilResult step (regard.keywords || regard.aliases)

/-- Puts a token back. -/
def putBack (token : Token) : Reading Unit :=
  modify ({ · with pushed := some token })

end MonitorBench.Shell
