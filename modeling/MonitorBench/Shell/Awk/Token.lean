import MonitorBench.Shell.Awk.Tree
import MonitorBench.Shell.Print
import MonitorBench.Text.Lines

/-!
# The tokens of a program on records

A program is read as a row of tokens. A slash begins a regular expression unless what is
before it is a value. In a statement that prints, an angle or a bar outside of parentheses
tells where it prints.
-/

set_option autoImplicit false

namespace MonitorBench.Shell.Awk

/-- A token. -/
inductive Token where
  | number (value : Float)
  | quoted (value : Letters)
  | regex (text : Letters)
  | name (text : String)
  /-- A name with a parenthesis directly behind it. -/
  | callee (text : String)
  | builtin (text : String)
  | word (text : String)
  | mark (text : String)
  | outlet (outlet : Outlet)
  | lineEnd
  /-- What cannot be read, with what is told of it. -/
  | wrong (message : Letters)

namespace Token

/-- Whether a token is a mark. -/
def isMark (token : Token) (text : String) : Bool :=
  match token with
  | .mark other => other == text
  | _ => false

/-- Whether a token is a word of its own. -/
def isWord (token : Token) (text : String) : Bool :=
  match token with
  | .word other => other == text
  | _ => false

/-- Whether a value can end with a token, so that a slash behind it divides. -/
def endsValue : Token → Bool
  | .number _ => true
  | .quoted _ => true
  | .regex _ => true
  | .name _ => true
  | .mark text => text == ")" || text == "]"
  | .word text => text == "getline"
  | _ => false

end Token

/-- A token with the line on which it stands. -/
structure Lexeme where
  token : Token
  line : Nat

/-- The words that are no names. -/
def words : List String :=
  ["BEGIN", "END", "function", "if", "else", "while", "for", "do", "break", "continue", "next", "nextfile",
   "exit", "return", "delete", "getline", "in", "print", "printf"]

/-- The functions that every program has, with the least and the greatest number of their arguments. -/
def builtins : List (String × Nat × Nat) :=
  [("atan2", 2, 2), ("close", 1, 1), ("cos", 1, 1), ("exp", 1, 1), ("fflush", 0, 1), ("gsub", 2, 3),
   ("index", 2, 2), ("int", 1, 1), ("length", 0, 1), ("log", 1, 1), ("match", 2, 2), ("mktime", 1, 1),
   ("rand", 0, 0), ("sin", 1, 1), ("split", 2, 3), ("sprintf", 1, 255), ("sqrt", 1, 1), ("srand", 0, 1),
   ("strftime", 0, 3), ("sub", 2, 3), ("substr", 2, 3), ("system", 1, 1), ("systime", 0, 0), ("tolower", 1, 1),
   ("toupper", 1, 1)]

/-- The letter that stands for what follows a backslash, and the rest. -/
def readEscaped? : Letters → Option (Char × Letters)
  | [] => none
  | c :: rest =>
    let hexadecimal := (rest.take 2).takeWhile fun d => (Text.hexDigit? d).isSome
    if isOctal c then some (readOctal (c :: rest))
    else if c = 'x' ∧ hexadecimal ≠ [] then
      some (Char.ofNat ((Text.valueIn? 16 hexadecimal).getD 0), rest.drop hexadecimal.length)
    else if c = '"' then some ('"', rest)
    else if c = 'e' then none
    else (controlLetter? c).map fun control => (control, rest)

/-- A text whose backslashes count, in at most `fuel` steps; a backslash without a meaning stays. -/
def unescapeSteps : (fuel : Nat) → Letters → Letters
  | 0, text => text
  | _, [] => []
  | fuel + 1, '\\' :: rest =>
    match readEscaped? rest with
    | some (c, after) => c :: unescapeSteps fuel after
    | none => '\\' :: unescapeSteps fuel rest
  | fuel + 1, c :: rest => c :: unescapeSteps fuel rest

/-- A text whose backslashes count. -/
def unescape (text : Letters) : Letters :=
  unescapeSteps (text.length + 1) text

/-- What stands in front of a quote, and what is behind it; a backslash protects the next letter, and a
line feed if one stands before it. -/
def splitAtQuote : Letters → Option (Letters × Letters)
  | [] => none
  | '"' :: rest => some ([], rest)
  | '\n' :: _ => none
  | '\\' :: '\n' :: rest => splitAtQuote rest
  | '\\' :: c :: rest => (splitAtQuote rest).map fun (inner, after) => ('\\' :: c :: inner, after)
  | c :: rest => (splitAtQuote rest).map fun (inner, after) => (c :: inner, after)

/-- Where in a regular expression a letter stands. -/
inductive RegexPlace where
  | outside
  /-- Directly behind an opening bracket, or behind the mark that negates. -/
  | opening (negated : Bool)
  | inside
  deriving DecidableEq

/-- What stands in front of the slash that ends a regular expression, and what is behind it. -/
def splitAtSlash : RegexPlace → Letters → Option (Letters × Letters)
  | _, [] => none
  | _, '\n' :: _ => none
  | place, '\\' :: '/' :: rest =>
    (splitAtSlash (if place = .outside then .outside else .inside) rest).map fun (inner, after) =>
      ('/' :: inner, after)
  | place, '\\' :: c :: rest =>
    (splitAtSlash (if place = .outside then .outside else .inside) rest).map fun (inner, after) =>
      ('\\' :: c :: inner, after)
  | place, c :: rest =>
    let more (next : RegexPlace) : Option (Letters × Letters) :=
      (splitAtSlash next rest).map fun (inner, after) => (c :: inner, after)
    match place with
    | .outside =>
      if c = '/' then some ([], rest)
      else more (if c = '[' then .opening false else .outside)
    | .opening negated => more (if c = '^' ∧ !negated then .opening true else .inside)
    | .inside => more (if c = ']' then .outside else .inside)

/-- The number at the front of a text that begins with a digit or a point, and the rest. -/
def readNumber? (text : Letters) : Option (Float × Letters) :=
  match text with
  | '.' :: c :: _ => if c.isDigit then readDecimalFloat? text else none
  | c :: _ => if c.isDigit then readDecimalFloat? text else none
  | [] => none

/-- The text without blanks, line feeds and comments at its front, and how many lines they end. -/
def skipBlanks : (fuel : Nat) → Letters → Letters × Nat
  | 0, text => (text, 0)
  | _, [] => ([], 0)
  | fuel + 1, c :: rest =>
    if c = '\n' then
      let (after, lines) := skipBlanks fuel rest
      (after, lines + 1)
    else if isSpace c then skipBlanks fuel rest
    else if c = '#' then skipBlanks fuel (rest.dropWhile (· != '\n'))
    else match c, rest with
      | '\\', '\n' :: after =>
        let (last, lines) := skipBlanks fuel after
        (last, lines + 1)
      | c, rest => (c :: rest, 0)

/-- The marks, the longer ones first. -/
def marks : List String :=
  ["++", "--", "+=", "-=", "*=", "/=", "%=", "^=", "==", "<=", ">=", "!=", "!~", "&&", "||", "+", "-", "*", "/", "%",
   "^", "=", "<", ">", "!", "~", "?", ":", ",", ";", "(", ")", "[", "]", "\x7b", "\x7d", "$", "|"]

/-- How far the reading of tokens has come. -/
structure Scanning where
  rest : Letters
  line : Nat := 1
  previous : Token := .lineEnd
  /-- How many parentheses are open. -/
  depth : Nat := 0
  /-- Whether a statement that prints is read whose outlet has not been found. -/
  prints : Bool := false

namespace Scanning

/-- The first of the marks that stands at the front, and the rest; an equals sign behind a slash counts
only where a slash divides. -/
def mark? (scanning : Scanning) : Option (String × Letters) :=
  marks.findSome? fun mark => (Text.after? mark.toList scanning.rest).map fun rest => (mark, rest)

/-- What a token is followed by: blanks and line feeds are passed behind some tokens. -/
def passing (scanning : Scanning) (token : Token) (rest : Letters) : Scanning :=
  let openers := ["\x7b", ",", ";", "&&", "||"]
  let passes := match token with
    | .lineEnd => true
    | .mark text => openers.contains text
    | .word text => text == "do" || text == "else"
    | _ => false
  let (after, lines) := if passes then skipBlanks (rest.length + 1) rest else (rest, 0)
  let ends := match token with
    | .lineEnd => true
    | .mark text => text == ";" || text == "\x7d" || text == "\x7b"
    | _ => false
  let begins := token.isWord "print" || token.isWord "printf"
  let isOutlet := match token with
    | .outlet _ => true
    | _ => false
  { rest := after
    line := scanning.line + lines
    previous := token
    depth := if begins then 0 else if token.isMark "(" then scanning.depth + 1
      else if token.isMark ")" then scanning.depth - 1 else scanning.depth
    prints := begins || (scanning.prints && !ends && !isOutlet) }

/-- What is told of a text that is not closed in its line. -/
def runaway (scanning : Scanning) (kind : String) (text : Letters) : Token :=
  .wrong (letters "line " ++ (toString scanning.line).toList ++ letters ": runaway " ++ letters kind
    ++ (text.takeWhile (· != '\n')).take 10 ++ letters " ...")

/-- What is told of a letter that nothing begins with. -/
def strange (scanning : Scanning) (c : Char) : Token :=
  .wrong ((toString scanning.line).toList ++ letters ": unexpected character '" ++ [c, '\''])

/-- The next token, and what follows it; there is none at the end. A regular expression directly behind a
mark that counts loses its first letter. -/
def next (scanning : Scanning) : Option Lexeme × Scanning :=
  let blanks := scanning.rest.takeWhile fun c => isSpace c && c != '\n'
  let start := { scanning with rest := scanning.rest.drop blanks.length }
  let give (token : Token) (rest : Letters) (more : Nat) : Option Lexeme × Scanning :=
    (some { token, line := scanning.line }, { scanning with line := scanning.line + more }.passing token rest)
  match start.rest with
  | [] => (none, start)
  | '#' :: rest => (none, { start with rest := rest.dropWhile (· != '\n') })
  | '\\' :: '\n' :: rest => (none, { start with rest, line := scanning.line + 1 })
  | '\n' :: rest => give .lineEnd rest 1
  | '"' :: rest =>
    match splitAtQuote rest with
    | some (inner, after) => give (.quoted (unescape inner)) after 0
    | none => give (start.runaway "string constant \"" rest) [] 0
  | c :: rest =>
    if c.isDigit ∨ c = '.' then
      match readNumber? (c :: rest) with
      | some (value, after) => give (.number value) after 0
      | none => give (start.strange c) [] 0
    else if isNameStart c then
      let name := (c :: rest).takeWhile isNameLetter
      let after := rest.drop (name.length - 1)
      let text := String.ofList name
      if words.contains text then give (.word text) after 0
      else if (builtins.lookup text).isSome then give (.builtin text) after 0
      else if after.head? = some '(' then give (.callee text) after 0
      else give (.name text) after 0
    else if c = '/' ∧ !scanning.previous.endsValue then
      let counts := scanning.previous.isMark "++" || scanning.previous.isMark "--"
      let text := if counts then rest.drop 1 else rest
      match splitAtSlash .outside text with
      | some (inner, after) => give (.regex inner) after 0
      | none => give (start.runaway "regular expression /" text) [] 0
    else
      let redirects := scanning.prints && scanning.depth == 0
      match start.mark? with
      | none => give (start.strange c) [] 0
      | some (mark, after) =>
        if redirects ∧ c = '>' then
          match rest with
          | '>' :: last => give (.outlet .append) last 0
          | last => give (.outlet .file) last 0
        else if redirects ∧ mark = "|" then give (.outlet .command) after 0
        else give (.mark mark) after 0

end Scanning

/-- The tokens from a place on, at most `fuel` of them. -/
def tokensFrom : (fuel : Nat) → Scanning → List Lexeme
  | 0, _ => []
  | fuel + 1, scanning =>
    match scanning.next with
    | (some lexeme, after) => lexeme :: tokensFrom fuel after
    | (none, after) => if after.rest = [] then [] else tokensFrom fuel after

/-- The tokens of a program; behind what cannot be read there are none. -/
def tokens (text : Letters) : List Lexeme :=
  let (rest, lines) := skipBlanks (text.length + 1) text
  tokensFrom (text.length + 1) { rest, line := lines + 1 }

end MonitorBench.Shell.Awk
