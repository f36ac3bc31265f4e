import MonitorBench.Document.Value
import MonitorBench.Text.Hexadecimal

/-!
# Reading JSON

A reader takes characters off the front of a text and gives the value they stand for and
the rest. Texts are read in two steps, first their code units, of which an escape can
give half a character, then the characters. A text with a half that has no partner, and
a table with such a name, are unreadable. Every nested value is shorter than the text it
stands in, so the length of the whole bounds the depth.
-/

set_option autoImplicit false

namespace MonitorBench.Document.Json

/-- Whether a character may stand between tokens. -/
def isSpace (c : Char) : Bool :=
  c == ' ' || c == '\n' || c == '\r' || c == '\t'

/-- Drops what may stand between tokens. -/
def skipSpace (cs : List Char) : List Char :=
  cs.dropWhile isSpace

/-- The code unit that a one-letter escape stands for. -/
def escaped? : Char → Option Nat
  | '"' => some 34
  | '\\' => some 92
  | '/' => some 47
  | 'b' => some 8
  | 'f' => some 12
  | 'n' => some 10
  | 'r' => some 13
  | 't' => some 9
  | _ => none

/-- Reads code units up to the closing quote. -/
def readUnits : List Char → Option (List Nat × List Char)
  | [] => none
  | '"' :: rest => some ([], rest)
  | '\\' :: 'u' :: a :: b :: c :: d :: rest => do
    let unit ← Text.valueIn? 16 [a, b, c, d]
    let (units, after) ← readUnits rest
    return (unit :: units, after)
  | '\\' :: c :: rest => do
    let unit ← escaped? c
    let (units, after) ← readUnits rest
    return (unit :: units, after)
  | c :: rest =>
    if c.toNat < 32 then
      none
    else do
      let (units, after) ← readUnits rest
      return (c.toNat :: units, after)

/-- Whether a code unit is the first half of a character. -/
def isHigh (unit : Nat) : Bool :=
  0xD800 ≤ unit && unit < 0xDC00

/-- Whether a code unit is the second half of a character. -/
def isLow (unit : Nat) : Bool :=
  0xDC00 ≤ unit && unit < 0xE000

/-- The characters that code units stand for, unless a half has no partner. -/
def joinUnits : List Nat → Option (List Char)
  | [] => some []
  | unit :: next :: rest =>
    if isHigh unit then
      if isLow next then
        (joinUnits rest).map
          (Char.ofNat (0x10000 + (unit - 0xD800) * 0x400 + (next - 0xDC00)) :: ·)
      else
        none
    else if isLow unit then
      none
    else
      (joinUnits (next :: rest)).map (Char.ofNat unit :: ·)
  | [unit] => if isHigh unit || isLow unit then none else some [Char.ofNat unit]

/-- Reads a text whose opening quote was taken. -/
def readText (cs : List Char) : Option (Option String × List Char) := do
  let (units, rest) ← readUnits cs
  return ((joinUnits units).map String.ofList, rest)

/-- Takes the decimal digits off the front. -/
def takeDigits (cs : List Char) : List Char × List Char :=
  (cs.takeWhile Char.isDigit, cs.dropWhile Char.isDigit)

/-- Takes an exponent off the front, if there is one. -/
def takeExponent (cs : List Char) : Option (List Char × List Char) :=
  match cs with
  | e :: rest =>
    if e = 'e' ∨ e = 'E' then
      let (sign, body) := match rest with
        | '+' :: after => (['+'], after)
        | '-' :: after => (['-'], after)
        | after => ([], after)
      let (digits, after) := takeDigits body
      if digits = [] then none else some (e :: sign ++ digits, after)
    else
      some ([], cs)
  | [] => some ([], [])

/-- Takes a fraction off the front, if there is one. -/
def takeFraction (cs : List Char) : Option (List Char × List Char) :=
  match cs with
  | '.' :: rest =>
    let (digits, after) := takeDigits rest
    if digits = [] then none else some ('.' :: digits, after)
  | _ => some ([], cs)

/-- Reads a number after its sign; one with a fraction or an exponent, and a negative zero, is no
integer. -/
def readUnsigned (negative : Bool) (cs : List Char) : Option (Value × List Char) := do
  let (digits, afterDigits) := takeDigits cs
  if digits = [] ∨ (digits.head? = some '0' ∧ digits.length ≠ 1) then
    none
  else
    let (fraction, afterFraction) ← takeFraction afterDigits
    let (exponent, rest) ← takeExponent afterFraction
    let size := Nat.ofDigitChars 10 digits 0
    if fraction = [] ∧ exponent = [] ∧ ¬(negative ∧ size = 0) then
      return (.integer (if negative then -Int.ofNat size else Int.ofNat size), rest)
    else
      let sign := if negative then ['-'] else []
      return (.fraction (String.ofList (sign ++ digits ++ fraction ++ exponent)), rest)

/-- Reads a number. -/
def readNumber (cs : List Char) : Option (Value × List Char) :=
  match cs with
  | '-' :: rest => readUnsigned true rest
  | _ => readUnsigned false cs

/-- Puts a field in front of others, unless a name is unreadable. -/
def prepend (name : Option String) (value : Value) (fields : Option (List (String × Value))) :
    Option (List (String × Value)) := do
  return (← name, value) :: (← fields)

mutual

/-- Reads a value at a depth that leaves `fuel` further levels. -/
def readValue : Nat → List Char → Option (Value × List Char)
  | 0, _ => none
  | fuel + 1, cs =>
    match skipSpace cs with
    | '"' :: rest => do
      let (text, after) ← readText rest
      match text with
      | some value => return (.text value, after)
      | none => return (.unreadable, after)
    | '[' :: rest =>
      match skipSpace rest with
      | ']' :: after => some (.list [], after)
      | _ => do
        let (items, after) ← readItems fuel rest
        return (.list items, after)
    | '{' :: rest =>
      match skipSpace rest with
      | '}' :: after => some (.table [], after)
      | _ => do
        let (fields, after) ← readFields fuel rest
        return (fields.elim .unreadable .table, after)
    | 'n' :: 'u' :: 'l' :: 'l' :: rest => some (.null, rest)
    | 't' :: 'r' :: 'u' :: 'e' :: rest => some (.bool true, rest)
    | 'f' :: 'a' :: 'l' :: 's' :: 'e' :: rest => some (.bool false, rest)
    | rest => readNumber rest

/-- Reads the values of a list up to its closing bracket. -/
def readItems : Nat → List Char → Option (List Value × List Char)
  | 0, _ => none
  | fuel + 1, cs => do
    let (item, rest) ← readValue fuel cs
    match skipSpace rest with
    | ',' :: more =>
      let (items, after) ← readItems fuel more
      return (item :: items, after)
    | ']' :: after => return ([item], after)
    | _ => none

/-- Reads the fields of a table up to its closing brace; there are none if a name is unreadable. -/
def readFields : Nat → List Char → Option (Option (List (String × Value)) × List Char)
  | 0, _ => none
  | fuel + 1, cs =>
    match skipSpace cs with
    | '"' :: rest => do
      let (name, afterName) ← readText rest
      match skipSpace afterName with
      | ':' :: body =>
        let (value, afterValue) ← readValue fuel body
        match skipSpace afterValue with
        | ',' :: more =>
          let (fields, after) ← readFields fuel more
          return (prepend name value fields, after)
        | '}' :: after => return (prepend name value (some []), after)
        | _ => none
      | _ => none
    | _ => none

end

/-- Reads a document: one value, and nothing after it. -/
def read (text : String) : Except Fault Value :=
  let cs := text.toList
  match readValue (cs.length + 1) cs with
  | some (value, rest) => if skipSpace rest = [] then .ok value else .error .malformed
  | none => .error .malformed

end MonitorBench.Document.Json
