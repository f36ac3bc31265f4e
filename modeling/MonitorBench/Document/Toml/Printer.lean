import MonitorBench.Document.Value
import MonitorBench.Text.Decimal
import MonitorBench.Document.Toml.Quoted

/-!
# Writing TOML

A document is written table by table: first the fields of a table that are no tables, one
line each, then a header for each field that is one. Fields without a value are left out.
A list of several values takes a line for each. A text takes the plainest quotes that can
hold it, and escapes only when no quotes can.
-/

set_option autoImplicit false

namespace MonitorBench.Document.Toml

/-- The length of the longest run of a character. -/
def longestRun (c : Char) (cs : List Char) : Nat :=
  (cs.foldl
    (fun (longest, current) d =>
      if d = c then (max longest (current + 1), current + 1) else (longest, 0))
    (0, 0)).1

/-- What a text asks of its quotes. -/
structure Needs where
  /-- It has a control character other than a tab or a line feed. -/
  control : Bool
  /-- It has a backslash. -/
  backslash : Bool
  /-- It has a line feed. -/
  newline : Bool
  /-- The longest run of double quotes. -/
  doubleQuotes : Nat
  /-- The longest run of single quotes. -/
  singleQuotes : Nat

/-- What the characters of a text ask of its quotes. -/
def Needs.ofChars (cs : List Char) : Needs :=
  { control := cs.any fun c => isControl c && c != '\n'
    backslash := cs.contains '\\'
    newline := cs.contains '\n'
    doubleQuotes := longestRun '"' cs
    singleQuotes := longestRun '\'' cs }

/-- The ways to quote a text. -/
inductive Quoting where
  | basic
  | literal
  | longBasic
  | longLiteral
  deriving DecidableEq

/-- The plainest way to quote a text that asks for something. -/
def Needs.quoting (needs : Needs) : Quoting :=
  if ¬needs.control ∧ ¬needs.backslash ∧ needs.doubleQuotes = 0 ∧ ¬needs.newline then
    .basic
  else if ¬needs.control ∧ needs.singleQuotes = 0 ∧ ¬needs.newline then
    .literal
  else if ¬needs.control ∧ ¬needs.backslash ∧ needs.doubleQuotes ≤ 2 then
    .longBasic
  else if ¬needs.control ∧ needs.singleQuotes ≤ 2 then
    .longLiteral
  else if needs.newline then
    .longBasic
  else
    .basic

/-- A number of four hexadecimal digits. -/
def fourDigits (n : Nat) : List Char :=
  [n / 4096, n / 256, n / 16, n].map fun part => (Nat.digitChar (part % 16)).toUpper

/-- The escape for a character that has one, and otherwise the character. -/
def escapeChar (c : Char) : List Char :=
  if c = '\\' then ['\\', '\\']
  else if c = '\n' then ['\\', 'n']
  else if c = '\r' then ['\\', 'r']
  else if c = '\t' then ['\\', 't']
  else if c.toNat = 8 then ['\\', 'b']
  else if c.toNat = 12 then ['\\', 'f']
  else if isControl c then '\\' :: 'u' :: fourDigits c.toNat
  else [c]

/-- The characters between double quotes: a quote after `allowed` quotes in a row is escaped, and
a line feed too unless the text may have several lines. -/
def escapeChars (allowed : Nat) (long : Bool) : Nat → List Char → List Char
  | _, [] => []
  | run, c :: cs =>
    if c = '"' then
      if run < allowed then
        c :: escapeChars allowed long (run + 1) cs
      else
        '\\' :: '"' :: escapeChars allowed long 0 cs
    else
      (if long && c == '\n' then [c] else escapeChar c) ++ escapeChars allowed long 0 cs

/-- The line feed that opens a text of several lines. -/
def openingBreak (cs : List Char) : List Char :=
  if cs.contains '\n' then ['\n'] else []

/-- A text in the plainest quotes that can hold it. -/
def quotedChars (cs : List Char) : List Char :=
  match (Needs.ofChars cs).quoting with
  | .basic => '"' :: escapeChars 0 false 0 cs ++ ['"']
  | .literal => '\'' :: cs ++ ['\'']
  | .longBasic => "\"\"\"".toList ++ openingBreak cs ++ escapeChars 2 true 0 cs ++ "\"\"\"".toList
  | .longLiteral => "\'\'\'".toList ++ openingBreak cs ++ cs ++ "\'\'\'".toList

/-- A name, in quotes if it has to be. -/
def nameChars (name : String) : List Char :=
  let cs := name.toList
  if !cs.isEmpty && cs.all fun c => c.isAlphanum || c == '_' || c == '-' then
    cs
  else
    '"' :: escapeChars 0 false 0 cs ++ ['"']

mutual

/-- A value on one line. -/
def inlineChars : Value → List Char
  | .null => []
  | .bool value => if value then "true".toList else "false".toList
  | .integer value => Text.integerChars value
  | .text value => quotedChars value.toList
  | .fraction written => written.toList
  | .moment written => written.toList
  | .unreadable => []
  | .list items => '[' :: inlineItems items ++ [']']
  | .table fields => ['{', ' '] ++ inlineFields fields ++ [' ', '}']

/-- The values of a list on one line. -/
def inlineItems : List Value → List Char
  | [] => []
  | [item] => inlineChars item
  | item :: items => inlineChars item ++ ", ".toList ++ inlineItems items

/-- The fields of a table on one line. -/
def inlineFields : List (String × Value) → List Char
  | [] => []
  | [(name, value)] => nameChars name ++ " = ".toList ++ inlineChars value
  | (name, value) :: fields =>
    nameChars name ++ " = ".toList ++ inlineChars value ++ ", ".toList ++ inlineFields fields

end

/-- A value after the name of its field: a list of several values has a line for each. -/
def fieldChars : Value → List Char
  | .list items =>
    if 1 < items.length then
      "[\n".toList ++ items.flatMap (fun item => "    ".toList ++ inlineChars item ++ ",\n".toList)
        ++ [']']
    else
      inlineChars (.list items)
  | value => inlineChars value

/-- The lines of the fields that are no tables. -/
def plainLines : List (String × Value) → List Char
  | [] => []
  | (_, .null) :: fields => plainLines fields
  | (_, .table _) :: fields => plainLines fields
  | (name, value) :: fields =>
    nameChars name ++ " = ".toList ++ fieldChars value ++ ['\n'] ++ plainLines fields

/-- The tables among the fields, each under a header; `path` leads to the table they stand in. -/
def tableLines (path : List Char) : List (String × Value) → List (List Char)
  | [] => []
  | (name, .table fields) :: rest =>
    let header := path ++ nameChars name
    ('[' :: header ++ "]\n".toList ++ plainLines fields) :: tableLines (header ++ ['.']) fields
      ++ tableLines path rest
  | _ :: rest => tableLines path rest

/-- The document, with an empty line before each header but the first line. -/
def print (value : Value) : String :=
  match value with
  | .table fields =>
    let top := plainLines fields
    let blocks := (if top.isEmpty then [] else [top]) ++ tableLines [] fields
    String.ofList (['\n'].intercalate blocks)
  | other => String.ofList (inlineChars other)

end MonitorBench.Document.Toml
