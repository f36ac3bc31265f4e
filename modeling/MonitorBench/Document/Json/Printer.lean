import MonitorBench.Document.Value
import MonitorBench.Text.Decimal

/-!
# Writing JSON

A document is written over several lines with two spaces for each level. Quotes,
backslashes and control characters of a text are escaped, all else stands as it is.
-/

set_option autoImplicit false

namespace MonitorBench.Document.Json

/-- The hexadecimal digit of a number below 16. -/
def hexDigit (n : Nat) : Char :=
  Nat.digitChar (n % 16)

/-- What is written for a character of a text. -/
def escapeChar (c : Char) : List Char :=
  if c = '"' then ['\\', '"']
  else if c = '\\' then ['\\', '\\']
  else if c = '\n' then ['\\', 'n']
  else if c = '\r' then ['\\', 'r']
  else if c = '\t' then ['\\', 't']
  else if c.toNat = 8 then ['\\', 'b']
  else if c.toNat = 12 then ['\\', 'f']
  else if c.toNat < 32 then ['\\', 'u', '0', '0', hexDigit (c.toNat / 16), hexDigit c.toNat]
  else [c]

/-- A text in quotes. -/
def quoted (s : String) : List Char :=
  '"' :: s.toList.flatMap escapeChar ++ ['"']

/-- A line break followed by the spaces of a level. -/
def newLine (level : Nat) : List Char :=
  '\n' :: List.replicate (2 * level) ' '

/-- The word for a truth value. -/
def boolChars (value : Bool) : List Char :=
  if value then "true".toList else "false".toList

mutual

/-- A value over several lines, from a level on. -/
def prettyChars (level : Nat) : Value → List Char
  | .null => "null".toList
  | .bool value => boolChars value
  | .integer value => Text.integerChars value
  | .text value => quoted value
  | .fraction written => written.toList
  | .moment written => quoted written
  | .unreadable => "null".toList
  | .list items =>
    if items.isEmpty then ['[', ']']
    else '[' :: prettyItems (level + 1) items ++ newLine level ++ [']']
  | .table fields =>
    if fields.isEmpty then ['{', '}']
    else '{' :: prettyFields (level + 1) fields ++ newLine level ++ ['}']

/-- The values of a list, each on its own line. -/
def prettyItems (level : Nat) : List Value → List Char
  | [] => []
  | [item] => newLine level ++ prettyChars level item
  | item :: items => newLine level ++ prettyChars level item ++ [','] ++ prettyItems level items

/-- The fields of a table, each on its own line. -/
def prettyFields (level : Nat) : List (String × Value) → List Char
  | [] => []
  | [(name, value)] => newLine level ++ quoted name ++ [':', ' '] ++ prettyChars level value
  | (name, value) :: fields =>
    newLine level ++ quoted name ++ [':', ' '] ++ prettyChars level value ++ [',']
      ++ prettyFields level fields

end

/-- The document over several lines. -/
def pretty (value : Value) : String :=
  String.ofList (prettyChars 0 value)

end MonitorBench.Document.Json
