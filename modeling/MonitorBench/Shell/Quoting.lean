import MonitorBench.Shell.Source

/-!
# Words and what is quoted in them

The pieces of a word are read according to where they stand: by themselves, between braces
that belong to a parameter, between double quotes, in an arithmetic expression, or in a
here-document. The place decides which letters end the pieces, which quotes count, and
before which letters a backslash counts.
-/

set_option autoImplicit false

namespace MonitorBench.Shell

/-- Where pieces stand. -/
inductive Place where
  /-- In a word. -/
  | bare
  /-- Between the braces of a parameter. -/
  | braces
  /-- Between double quotes; these may stand between braces. -/
  | quotes (inBraces : Bool)
  /-- Between the braces of a parameter that is itself protected. -/
  | quotedBraces
  /-- In an arithmetic expression. -/
  | arithmetic
  /-- In a here-document. -/
  | document
  /-- In the word that ends a here-document, where nothing is put in. -/
  | delimiter (inQuotes : Bool)
  deriving DecidableEq

namespace Place

/-- Whether what stands there is protected. -/
def isProtected : Place → Bool
  | .bare => false
  | .braces => false
  | .delimiter inQuotes => inQuotes
  | _ => true

/-- Whether nothing is put in for parameters and commands. -/
def isLiteral : Place → Bool
  | .delimiter _ => true
  | _ => false

/-- Whether pieces end before a letter. -/
def stopsAt (place : Place) (c : Char) : Bool :=
  match place with
  | .bare => " \t\n<>();&|".toList.contains c
  | .delimiter false => " \t\n<>();&|".toList.contains c
  | _ => false

/-- Whether a backslash before a letter protects it and disappears. -/
def escapes (place : Place) (c : Char) : Bool :=
  if place.isProtected then
    c == '\\' || c == '$' || c == backquote || (c == '"' && place != .document)
      || (c == '}' && (place == .quotes true || place == .quotedBraces))
  else
    true

/-- What is missing if the text ends there. -/
def missing? : Place → Option String
  | .bare => none
  | .document => none
  | .delimiter false => none
  | .braces => some "Missing '\x7d'"
  | .arithmetic => some "Missing '))'"
  | _ => some "Unterminated quoted string"

end Place

/-- What can be read inside of a word or a command. -/
structure Inside where
  /-- Pieces at a place, with what ends them. -/
  pieces : Place → Reading Word
  /-- Commands one after the other up to what ends them, which is put back; there may be none. -/
  commands : Reading (Option Command)
  /-- Commands one after the other; without any, what comes next is in a wrong place. -/
  body : Reading Command
  /-- One command. -/
  command : Reading Command

/-- Pieces that were read. -/
structure Pieces where
  /-- The pieces, the last one first. -/
  pieces : List Piece := []
  /-- Letters after them, the last one first. -/
  text : Letters := []
  /-- Whether anything is quoted. -/
  quoted : Bool := false
  /-- Whether they end between quotes that have no effect but to protect a brace. -/
  inner : Bool := false
  /-- How many parentheses are open. -/
  depth : Nat := 0

namespace Pieces

/-- Adds a letter. -/
def letter (read : Pieces) (c : Char) : Pieces :=
  { read with text := c :: read.text }

/-- Adds a piece. -/
def piece (read : Pieces) (piece : Piece) : Pieces :=
  { read with
    pieces := piece :: (if read.text = [] then read.pieces else .plain read.text.reverse :: read.pieces)
    text := [] }

/-- Adds a piece that is quoted. -/
def quotedPiece (read : Pieces) (piece : Piece) : Pieces :=
  { read.piece piece with quoted := true }

/-- The pieces in order. -/
def toWord (read : Pieces) : Word :=
  (if read.text = [] then read.pieces else .plain read.text.reverse :: read.pieces).reverse

end Pieces

/-- The parameters with names of one letter that is no letter of a name. -/
def isSpecial (c : Char) : Bool :=
  "@*#?-$!".toList.contains c || c.isDigit

/-- Reads a row of pieces between single quotes, of which the first has been passed. -/
def readSingleQuoted : Reading Letters :=
  let step (taken : Letters) : Reading (Sum Letters Letters) := do
    match ← takeRaw with
    | none => misread "Unterminated quoted string"
    | some '\'' => return .inr taken.reverse
    | some c => return .inl (c :: taken)
  untilResult step []

/-- Reads the text of a command up to the quote that closes it. -/
def readBackquoted (place : Place) : Reading Letters :=
  let isEscaped (c : Char) : Bool :=
    c == '\\' || c == '$' || c == backquote || (c == '"' && place.isProtected)
  let step (taken : Letters) : Reading (Sum Letters Letters) := do
    match ← peek with
    | none => misread "EOF in backquote substitution"
    | some '\\' =>
      pass
      match ← takeRaw with
      | none => return .inl ('\\' :: taken)
      | some c => return .inl (if isEscaped c then c :: taken else c :: '\\' :: taken)
    | some c =>
      pass
      return if c = backquote then .inr taken.reverse else .inl (c :: taken)
  untilResult step []

/-- Reads a command that stands between parentheses, of which the first has been passed. -/
def readSubstituted (inside : Inside) : Reading (Option Command) := do
  let awaited := (← get).awaited
  modify ({ · with awaited := [] })
  let command ← inside.commands
  match (← get).pushed.getD .finish with
  | .mark ")" =>
    modify ({ · with awaited, pushed := none })
    return command
  | token => unexpected token (some (.mark ")"))

/-- A parameter between braces is not closed at a place. -/
def missingBrace {α : Type} (place : Place) : Reading α :=
  misread (if place.isProtected then "Unterminated quoted string" else "Missing '\x7d'")

/-- Reads what is made of a parameter, up to the brace that closes it. -/
def readUse (inside : Inside) (place : Place) : Reading Use := do
  let wordPlace : Place := if place.isProtected then .quotedBraces else .braces
  let malformed : Reading Use := do
    let _ ← inside.pieces wordPlace
    return .malformed
  let withWord (orEmpty : Bool) (c : Char) : Reading Use :=
    match c with
    | '-' => return .default orEmpty (← inside.pieces wordPlace)
    | '=' => return .assign orEmpty (← inside.pieces wordPlace)
    | '?' => return .demand orEmpty (← inside.pieces wordPlace)
    | '+' => return .alternative orEmpty (← inside.pieces wordPlace)
    | _ => malformed
  let trim (atEnd : Bool) (c : Char) : Reading Use := do
    let longest ← passIf c
    return .trim atEnd longest (← inside.pieces .braces)
  match ← peek with
  | none => missingBrace place
  | some c =>
    pass
    match c with
    | '}' => return .value
    | '%' => trim true c
    | '#' => trim false c
    | ':' =>
      match ← peek with
      | none => missingBrace place
      | some d =>
        pass
        withWord true d
    | _ => withWord false c

/-- Reads a parameter between braces, of which the first has been passed. -/
def readBraced (inside : Inside) (place : Place) : Reading Piece := do
  let wordPlace : Place := if place.isProtected then .quotedBraces else .braces
  let malformed (name : Letters) : Reading Piece := do
    let _ ← inside.pieces wordPlace
    return .parameter name .malformed
  let lengthOf (name : Letters) : Reading Piece := do
    if ← passIf '}' then return .parameter name .length else malformed name
  match ← peek with
  | some '#' =>
    pass
    match ← peek with
    | some c =>
      if isNameStart c then
        lengthOf (← takeLetters isNameLetter)
      else if c.isDigit then
        lengthOf (← takeLetters Char.isDigit)
      else
        let source ← get
        pass
        if c ≠ '}' && (← peek) = some '}' then
          if isSpecial c then lengthOf [c] else malformed [c]
        else
          set source
          return .parameter ['#'] (← readUse inside place)
    | none => missingBrace place
  | some c =>
    if isNameStart c then
      let name ← takeLetters isNameLetter
      return .parameter name (← readUse inside place)
    else if c.isDigit then
      let name ← takeLetters Char.isDigit
      return .parameter name (← readUse inside place)
    else if isSpecial c then
      pass
      return .parameter [c] (← readUse inside place)
    else
      malformed []
  | none => missingBrace place

/-- Reads what a dollar sign puts in; it may be nothing, and the sign stands for itself. -/
def readDollar (inside : Inside) (place : Place) : Reading (Option Piece) := do
  match ← peek with
  | some '(' =>
    pass
    if ← passIf '(' then
      return some (.number (← inside.pieces .arithmetic))
    else
      return some (.output (← readSubstituted inside))
  | some '{' =>
    pass
    return some (← readBraced inside place)
  | some c =>
    if isNameStart c then
      return some (.parameter (← takeLetters isNameLetter) .value)
    else if isSpecial c then
      pass
      return some (.parameter [c] .value)
    else
      return none
  | none => return none

/-- Reads what follows a backslash. -/
def readEscaped (place : Place) (read : Pieces) : Reading Pieces := do
  match ← takeRaw with
  | none => return read.piece (.firm ['\\'])
  | some c => return read.quotedPiece (.firm (if place.escapes c then [c] else ['\\', c]))

/-- Goes on with pieces after a double quote; without a result they are complete. -/
def readDoubleQuote (inside : Inside) (place : Place) (read : Pieces) : Reading (Sum Pieces Pieces) := do
  match place with
  | .bare => return .inl (read.quotedPiece (.quoted (← inside.pieces (.quotes false))))
  | .braces => return .inl (read.quotedPiece (.quoted (← inside.pieces (.quotes true))))
  | .delimiter false => return .inl (read.quotedPiece (.quoted (← inside.pieces (.delimiter true))))
  | .quotedBraces => return .inl { read with inner := !read.inner, quoted := true }
  | .arithmetic => return .inl (read.letter '"')
  | .document => return .inl (read.letter '"')
  | _ => return .inr read

/-- Goes on with pieces after a parenthesis in an arithmetic expression. -/
def readParenthesis (read : Pieces) (c : Char) : Reading (Sum Pieces Pieces) := do
  if c = '(' then
    return .inl { read.letter c with depth := read.depth + 1 }
  else if 0 < read.depth then
    return .inl { read.letter c with depth := read.depth - 1 }
  else if ← passIf ')' then
    return .inr read
  else
    return .inl (read.letter c)

/-- Reads pieces at a place, and what ends them unless that belongs to no word. -/
def readPieces (inside : Inside) (place : Place) : Reading Pieces :=
  let step (read : Pieces) : Reading (Sum Pieces Pieces) := do
    match ← peek with
    | none =>
      match place.missing? with
      | some reason => misread reason
      | none => return .inr read
    | some c =>
      if place.stopsAt c then
        return .inr read
      pass
      if c = '\\' then
        return .inl (← readEscaped place read)
      else if c = '"' then
        readDoubleQuote inside place read
      else if c = '\'' ∧ !place.isProtected then
        return .inl (read.quotedPiece (.firm (← readSingleQuoted)))
      else if c = backquote ∧ !place.isLiteral then
        let text ← readBackquoted place
        return .inl (read.piece (.output (← readAside text 1 inside.commands)))
      else if c = '$' ∧ !place.isLiteral then
        match ← readDollar inside place with
        | some piece => return .inl (read.piece piece)
        | none => return .inl (read.letter c)
      else if c = '}' ∧ (place = .braces ∨ place = .quotedBraces ∧ !read.inner) then
        return .inr read
      else if (c = '(' ∨ c = ')') ∧ place = .arithmetic then
        readParenthesis read c
      else
        return .inl (read.letter c)
  untilResult step {}

end MonitorBench.Shell
