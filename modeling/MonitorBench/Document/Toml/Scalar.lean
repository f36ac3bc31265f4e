import MonitorBench.Document.Value
import MonitorBench.Text.Hexadecimal
import MonitorBench.Text.Lines

/-!
# Bare scalars of TOML

A value without quotes or brackets is a truth value, an integer, a fraction, or a date or
time. Integers are decimal, hexadecimal, octal or binary; a single underscore may stand
between digits, and a decimal number has no leading zeros. Dates are days of the calendar.

A number of any size can be written. It is storable if it is an integer of at most 128
bits, or a fraction that does not round to more than the largest float of 64 bits.
-/

set_option autoImplicit false

namespace MonitorBench.Document.Toml

/-- Whether a character can belong to a bare scalar. -/
def isScalarChar (c : Char) : Bool :=
  c.isAlphanum || "+-_.:".toList.contains c

/-- The digits of a row in which single underscores may stand between digits. -/
def spacedDigits? (isDigit : Char → Bool) (cs : List Char) : Option (List Char) :=
  let pieces := Text.splitOn '_' cs
  if pieces.all fun piece => !piece.isEmpty && piece.all isDigit then some pieces.flatten else none

/-- The digits of a decimal number without leading zeros. -/
def decimalDigits? (cs : List Char) : Option (List Char) := do
  let digits ← spacedDigits? Char.isDigit cs
  if digits.head? = some '0' ∧ digits.length ≠ 1 then none else some digits

/-- A text without the sign at its front, and whether that was a minus. -/
def takeSign : List Char → Bool × List Char
  | '-' :: cs => (true, cs)
  | '+' :: cs => (false, cs)
  | cs => (false, cs)

/-- The integer in a base other than ten. -/
def inBase? (base : Nat) (cs : List Char) : Option Int := do
  let isDigit (c : Char) : Bool := (Text.hexDigit? c).any (· < base)
  let digits ← spacedDigits? isDigit cs
  let value ← Text.valueIn? base digits
  return Int.ofNat value

/-- The integer that a scalar stands for. -/
def integer? (cs : List Char) : Option Int :=
  match cs with
  | '0' :: 'x' :: digits => inBase? 16 digits
  | '0' :: 'o' :: digits => inBase? 8 digits
  | '0' :: 'b' :: digits => inBase? 2 digits
  | _ => do
    let (negative, body) := takeSign cs
    let digits ← decimalDigits? body
    let size := Int.ofNat (Nat.ofDigitChars 10 digits 0)
    return if negative then -size else size

/-- How many integers 64 bits can tell apart. -/
def wordCount : Int := 18446744073709551616

/-- Whether an integer has at most 128 bits. -/
def isStorable (n : Int) : Bool :=
  -(wordCount * wordCount) ≤ 2 * n && n < wordCount * wordCount

/-- The least size of a number that rounds to more than any float of 64 bits. -/
def floatBound : Nat :=
  Nat.pow 2 1024 - Nat.pow 2 970

/-- How many decimal digits `floatBound` has. -/
def floatDigits : Nat := 309

/-- Whether the number with these digits, times ten to a power, stays below `floatBound`. The place
of the first digit decides, unless it is the place that the bound's first digit has. -/
def staysFinite (digits : List Char) (power : Int) : Bool :=
  let significant := digits.dropWhile (· == '0')
  let places := power + Int.ofNat significant.length
  if significant.isEmpty || places < floatDigits then
    true
  else if floatDigits < places then
    false
  else
    let size := Nat.ofDigitChars 10 significant 0
    if 0 ≤ power then
      size * Nat.pow 10 power.toNat < floatBound
    else
      size < floatBound * Nat.pow 10 power.natAbs

/-- Whether a written fraction can be stored. -/
def isFinite (written : List Char) : Bool :=
  let body := ((takeSign written).2.filter (· != '_')).map Char.toLower
  let (mantissa, exponent) := Text.cut 'e' body
  let (whole, fraction) := Text.cut '.' mantissa
  let decimals := fraction.getD []
  let (negative, size) := takeSign (exponent.getD [])
  let shift := Int.ofNat (Nat.ofDigitChars 10 size 0)
  let power := (if negative then -shift else shift) - Int.ofNat decimals.length
  body == "inf".toList || body == "nan".toList || staysFinite (whole ++ decimals) power

mutual

/-- Whether every number in a value can be stored. -/
def isSound : Value → Bool
  | .integer n => isStorable n
  | .fraction written => isFinite written.toList
  | .list items => areSound items
  | .table fields => haveSound fields
  | _ => true

/-- Whether every number in some values can be stored. -/
def areSound : List Value → Bool
  | [] => true
  | item :: items => isSound item && areSound items

/-- Whether every number in some fields can be stored. -/
def haveSound : List (String × Value) → Bool
  | [] => true
  | (_, value) :: fields => isSound value && haveSound fields

end

/-- Whether an exponent follows the rules. -/
def isExponent (cs : List Char) : Bool :=
  (spacedDigits? Char.isDigit (takeSign cs).2).isSome

/-- Whether a whole part with an optional fraction follows the rules. -/
def isMantissa (needsFraction : Bool) (cs : List Char) : Bool :=
  match Text.cut '.' cs with
  | (whole, none) => !needsFraction && (decimalDigits? whole).isSome
  | (whole, some fraction) =>
    (decimalDigits? whole).isSome && (spacedDigits? Char.isDigit fraction).isSome

/-- Whether a scalar is a fraction. -/
def isReal (cs : List Char) : Bool :=
  let body := (takeSign cs).2
  if body == "inf".toList || body == "nan".toList then
    true
  else
    match Text.cut 'e' (body.map fun c => if c = 'E' then 'e' else c) with
    | (mantissa, none) => isMantissa true mantissa
    | (mantissa, some exponent) => isMantissa false mantissa && isExponent exponent

/-- Takes a number of a fixed count of digits off the front. -/
def takeNumber (count : Nat) (cs : List Char) : Option (Nat × List Char) :=
  let digits := cs.take count
  if digits.length = count ∧ digits.all Char.isDigit then
    some (Nat.ofDigitChars 10 digits 0, cs.drop count)
  else
    none

/-- Takes one given character off the front. -/
def takeChar (c : Char) : List Char → Option (List Char)
  | d :: cs => if d = c then some cs else none
  | [] => none

/-- Whether a year has a day more. -/
def isLeapYear (year : Nat) : Bool :=
  year % 4 == 0 && (year % 100 != 0 || year % 400 == 0)

/-- How many days a month has. -/
def daysIn (year month : Nat) : Nat :=
  if month = 2 then
    if isLeapYear year then 29 else 28
  else if month = 4 ∨ month = 6 ∨ month = 9 ∨ month = 11 then
    30
  else
    31

/-- Takes a day of the calendar off the front. -/
def takeDate (cs : List Char) : Option (List Char) := do
  let (year, afterYear) ← takeNumber 4 cs
  let (month, afterMonth) ← takeNumber 2 (← takeChar '-' afterYear)
  let (day, rest) ← takeNumber 2 (← takeChar '-' afterMonth)
  if 1 ≤ month ∧ month ≤ 12 ∧ 1 ≤ day ∧ day ≤ daysIn year month then some rest else none

/-- Takes the seconds of a time off the front, if they are given. -/
def takeSeconds (cs : List Char) : Option (List Char) :=
  match cs with
  | ':' :: body => do
    let (second, rest) ← takeNumber 2 body
    if 60 < second then
      none
    else
      match rest with
      | '.' :: fraction =>
        if (fraction.takeWhile Char.isDigit).isEmpty then none
        else some (fraction.dropWhile Char.isDigit)
      | _ => some rest
  | _ => some cs

/-- Takes a time of the day off the front. -/
def takeTime (cs : List Char) : Option (List Char) := do
  let (hour, afterHour) ← takeNumber 2 cs
  let (minute, afterMinute) ← takeNumber 2 (← takeChar ':' afterHour)
  if hour < 24 ∧ minute < 60 then takeSeconds afterMinute else none

/-- Whether a text is a difference to universal time. -/
def isOffset (cs : List Char) : Bool :=
  match cs with
  | [z] => z == 'Z' || z == 'z'
  | sign :: body =>
    (sign == '+' || sign == '-') &&
      match takeNumber 2 body with
      | some (hour, ':' :: rest) =>
        match takeNumber 2 rest with
        | some (minute, []) => hour < 24 && minute < 60
        | _ => false
      | _ => false
  | [] => false

/-- Whether a scalar is a date, a time, or both. -/
def isDateTime (cs : List Char) : Bool :=
  match takeDate cs with
  | some [] => true
  | some (mark :: body) =>
    (mark == 'T' || mark == 't' || mark == ' ') &&
      match takeTime body with
      | some rest => rest.isEmpty || isOffset rest
      | none => false
  | none =>
    match takeTime cs with
    | some rest => rest.isEmpty
    | none => false

/-- The value that a bare scalar stands for. -/
def scalarValue? (cs : List Char) : Option Value :=
  if cs = "true".toList then
    some (.bool true)
  else if cs = "false".toList then
    some (.bool false)
  else
    match integer? cs with
    | some n => some (.integer n)
    | none =>
      if isReal cs then some (.fraction (String.ofList cs))
      else if isDateTime cs then some (.moment (String.ofList cs))
      else none

/-- Takes a bare scalar off the front; a time may follow a date after one space. -/
def takeScalar (cs : List Char) : List Char × List Char :=
  let first := cs.takeWhile isScalarChar
  let rest := cs.dropWhile isScalarChar
  match rest with
  | ' ' :: a :: b :: ':' :: more =>
    if (takeDate first) = some [] ∧ a.isDigit ∧ b.isDigit then
      let second := (a :: b :: ':' :: more)
      (first ++ ' ' :: second.takeWhile isScalarChar, second.dropWhile isScalarChar)
    else
      (first, rest)
  | _ => (first, rest)

end MonitorBench.Document.Toml
