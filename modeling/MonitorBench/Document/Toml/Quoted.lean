import MonitorBench.Text.Hexadecimal

/-!
# Quoted text in TOML

A text stands between quotes on one line or between triple quotes over several. Between
double quotes, escapes stand for characters, and a backslash at the end of a line joins it
to the next; between single quotes every character means itself. Each reader takes a text
whose opening quotes were taken, and gives it with what follows its closing quotes.
-/

set_option autoImplicit false

namespace MonitorBench.Document.Toml

/-- Whether a character is a space or a tab. -/
def isBlank (c : Char) : Bool :=
  c == ' ' || c == '\t'

/-- Whether a character may not stand in a text or a comment as it is. -/
def isControl (c : Char) : Bool :=
  (c.toNat < 32 && c != '\t') || c.toNat == 127

/-- The character with a code point, if there is one. -/
def charOf? (code : Nat) : Option Char :=
  if code.isValidChar then some (Char.ofNat code) else none

/-- Reads an escape whose backslash was taken. -/
def readEscape : List Char → Option (Char × List Char)
  | 'b' :: rest => some ('\x08', rest)
  | 't' :: rest => some ('\t', rest)
  | 'n' :: rest => some ('\n', rest)
  | 'f' :: rest => some ('\x0c', rest)
  | 'r' :: rest => some ('\r', rest)
  | 'e' :: rest => some ('\x1b', rest)
  | '"' :: rest => some ('"', rest)
  | '\\' :: rest => some ('\\', rest)
  | 'x' :: rest => numbered 2 rest
  | 'u' :: rest => numbered 4 rest
  | 'U' :: rest => numbered 8 rest
  | _ => none
where
  /-- The character whose code point is given by a number of digits. -/
  numbered (count : Nat) (cs : List Char) : Option (Char × List Char) :=
    if cs.length < count then
      none
    else do
      let code ← Text.valueIn? 16 (cs.take count)
      let c ← charOf? code
      return (c, cs.drop count)

/-- Reads between double quotes on one line. -/
def readBasic : Nat → List Char → Option (List Char × List Char)
  | 0, _ => none
  | fuel + 1, cs =>
    match cs with
    | [] => none
    | '"' :: rest => some ([], rest)
    | '\\' :: rest => do
      let (c, body) ← readEscape rest
      let (text, after) ← readBasic fuel body
      return (c :: text, after)
    | c :: rest =>
      if isControl c then
        none
      else do
        let (text, after) ← readBasic fuel rest
        return (c :: text, after)

/-- Reads between single quotes on one line. -/
def readLiteral : List Char → Option (List Char × List Char)
  | [] => none
  | '\'' :: rest => some ([], rest)
  | c :: rest =>
    if isControl c then
      none
    else do
      let (text, after) ← readLiteral rest
      return (c :: text, after)

/-- Drops blanks and line breaks. -/
def skipBreaks : List Char → List Char
  | '\n' :: cs => skipBreaks cs
  | '\r' :: '\n' :: cs => skipBreaks cs
  | c :: cs => if isBlank c then skipBreaks cs else c :: cs
  | [] => []

/-- What a line goes on with after a backslash at its end, if only blanks stand between. -/
def continued? (cs : List Char) : Option (List Char) :=
  match cs.dropWhile isBlank with
  | '\n' :: rest => some (skipBreaks rest)
  | '\r' :: '\n' :: rest => some (skipBreaks rest)
  | _ => none

/-- Up to two quotes that belong to the text when its closing quotes follow them. -/
def closingQuotes (quote : Char) (cs : List Char) : List Char × List Char :=
  let extra := (cs.take 2).takeWhile (· == quote)
  (extra, cs.drop extra.length)

/-- Reads between triple double quotes. -/
def readLongBasic : Nat → List Char → Option (List Char × List Char)
  | 0, _ => none
  | fuel + 1, cs =>
    match cs with
    | [] => none
    | '"' :: '"' :: '"' :: rest => some (closingQuotes '"' rest)
    | '\\' :: rest =>
      match continued? rest with
      | some body => readLongBasic fuel body
      | none => do
        let (c, body) ← readEscape rest
        let (text, after) ← readLongBasic fuel body
        return (c :: text, after)
    | '\r' :: '\n' :: rest => do
      let (text, after) ← readLongBasic fuel rest
      return ('\r' :: '\n' :: text, after)
    | c :: rest =>
      if isControl c && c != '\n' then
        none
      else do
        let (text, after) ← readLongBasic fuel rest
        return (c :: text, after)

/-- Reads between triple single quotes. -/
def readLongLiteral : List Char → Option (List Char × List Char)
  | [] => none
  | '\'' :: '\'' :: '\'' :: rest => some (closingQuotes '\'' rest)
  | '\r' :: '\n' :: rest => do
    let (text, after) ← readLongLiteral rest
    return ('\r' :: '\n' :: text, after)
  | c :: rest =>
    if isControl c && c != '\n' then
      none
    else do
      let (text, after) ← readLongLiteral rest
      return (c :: text, after)

/-- Drops the line break that may follow opening triple quotes. -/
def skipOpeningBreak : List Char → List Char
  | '\n' :: cs => cs
  | '\r' :: '\n' :: cs => cs
  | cs => cs

/-- Reads a text on one line, its quotes included. -/
def readShort? : List Char → Option (Option (List Char × List Char))
  | '"' :: rest => some (readBasic (rest.length + 1) rest)
  | '\'' :: rest => some (readLiteral rest)
  | _ => none

/-- Reads a text with its quotes; gives nothing when there is no quote. -/
def readQuoted? (cs : List Char) : Option (Option (List Char × List Char)) :=
  match cs with
  | '"' :: '"' :: '"' :: rest =>
    some (readLongBasic (rest.length + 1) (skipOpeningBreak rest))
  | '\'' :: '\'' :: '\'' :: rest => some (readLongLiteral (skipOpeningBreak rest))
  | _ => readShort? cs

end MonitorBench.Document.Toml
