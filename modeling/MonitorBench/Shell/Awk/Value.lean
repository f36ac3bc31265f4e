import MonitorBench.Shell.Awk.Pattern

/-!
# Values in programs on records

A value is a number or a text, and each can be taken as the other. A text that was read is
a number too if it looks like one; a variable that was never set is both empty and zero. A
number that is an integer is written with all its digits, another one with a format.
-/

set_option autoImplicit false

namespace MonitorBench.Shell.Awk

/-- A value. -/
inductive Value where
  /-- Nothing was ever set. -/
  | unset
  | number (value : Float)
  | text (letters : Letters)
  /-- A text that was read. -/
  | given (letters : Letters)

/-- Whether a letter separates fields and surrounds numbers. -/
def isBlank (c : Char) : Bool :=
  c == ' ' || c == '\t' || c == '\n'

/-- The number that a text which was read looks like. -/
def asNumber? (text : Letters) : Option Float :=
  let trimmed := ((text.dropWhile isBlank).reverse.dropWhile isBlank).reverse
  let begins := trimmed.head?.any fun c => c.isDigit || c == '+' || c == '-' || c == '.'
  let ends := trimmed.getLast?.any fun c => c.isDigit || c == '.'
  let (value, rest) := readFloat trimmed
  if begins ∧ ends ∧ rest = [] ∧ !value.isInf then some value else none

/-- The integer nearest to zero beside a number with a floating point; there are bounds. -/
def truncated (value : Float) (least greatest : Int) : Int :=
  let magnitude (x : Float) : Nat :=
    let ratio := Ratio.ofBits x.toBits
    ratio.numerator / ratio.denominator
  if value.isNaN then least
  else if value.isInf then (if value < 0.0 then least else greatest)
  else
    let whole : Int := if value < 0.0 then - Int.ofNat (magnitude value) else magnitude value
    max least (min greatest whole)

/-- The integer that a number is, if it is one that is written with all its digits. -/
def integer? (value : Float) : Option Int :=
  if value.isNaN ∨ value.isInf ∨ value.floor != value ∨ value < -9223372036854775808.0
      ∨ 18446744073709551616.0 < value then none
  else some (truncated value (-9223372036854775808) 18446744073709551615)

/-- The letters of an integer. -/
def integerLetters (n : Int) : Letters :=
  (toString n).toList

/-- A number in a layout; what is no number has a minus sign. -/
def setNumber (layout : Layout) (kind : Char) (value : Float) : Letters :=
  if value.isNaN then
    layout.fill (letters (if kind.isUpper then "-NAN" else "-nan"))
  else layout.setFloat kind value

/-- An integer in a layout of a kind. -/
def setWhole (layout : Layout) (kind : Char) (value : Float) : Letters :=
  if kind = 'd' ∨ kind = 'i' then
    if 9223372036854775808.0 ≤ value then
      let whole := truncated value 0 18446744073709551615
      { layout with sign := [] }.setInteger whole
    else
      let least : Int := if value < -9223372036854775808.0 then -9223372036854775807 else -9223372036854775808
      layout.setInteger (truncated value least 9223372036854775807)
  else
    let whole := if value < 0.0 then truncated value (-9223372036854775807) 0
      else truncated value 0 18446744073709551615
    let shown := if value.isNaN then 9223372036854775808 else (whole % 18446744073709551616).toNat
    layout.setUnsigned kind shown

/-- What is asked for by the directive behind a percent sign: its flags, width and precision, its kind and
what follows. A star asks for a value. -/
structure Directive where
  flags : Letters
  /-- Nothing for a star. -/
  width : Option Nat
  /-- Nothing for a star. -/
  precision : Option (Option Nat)
  kind : Char
  rest : Letters

/-- The directive at the front, behind its percent sign, if it has a kind. -/
def readDirective? (format : Letters) : Option Directive :=
  let flags := format.takeWhile fun c => "#-+ 0".toList.contains c
  let (width, afterWidth) : Option Nat × Letters := match format.drop flags.length with
    | '*' :: rest => (none, rest)
    | rest =>
      let digits := rest.takeWhile Char.isDigit
      (some (widthOf digits), rest.drop digits.length)
  let (precision, afterPrecision) : Option (Option Nat) × Letters := match afterWidth with
    | '.' :: '*' :: rest => (none, rest)
    | '.' :: rest =>
      let digits := rest.takeWhile Char.isDigit
      (some (some (widthOf digits)), rest.drop digits.length)
    | rest => (some none, rest)
  let behind := afterPrecision.dropWhile fun c => c == 'l' || c == 'h'
  match behind with
  | [] => none
  | kind :: rest => some { flags, width, precision, kind, rest }

/-- A number with a format that holds one directive. -/
def formatNumber (format : Letters) (value : Float) : Letters :=
  let before := format.takeWhile (· != '%')
  match format.drop before.length with
  | _ :: text =>
    match readDirective? text with
    | some directive =>
      let layout := { (Layout.withFlags directive.flags).withWidth (directive.width.getD 0) with
        precision := directive.precision.getD none }
      let shown := if "eEfFgG".toList.contains directive.kind then setNumber layout directive.kind value
        else setWhole layout directive.kind value
      before ++ shown ++ directive.rest
    | none => format
  | [] => format

/-- The letters of a number: all digits of an integer, else what a format gives. -/
def numberLetters (format : Letters) (value : Float) : Letters :=
  match integer? value with
  | some n => integerLetters n
  | none => formatNumber format value

namespace Value

/-- A value as a number. -/
def toNumber : Value → Float
  | .unset => 0.0
  | .number value => value
  | .text cs => (readFloat cs).1
  | .given cs => (readFloat cs).1

/-- A value as a text; a number is written with a format. -/
def toText (format : Letters) : Value → Letters
  | .unset => []
  | .number value => numberLetters format value
  | .text cs => cs
  | .given cs => cs

/-- The value with the question settled whether a text that was read is a number. -/
def settled (value : Value) : Value :=
  match value with
  | .given cs => match asNumber? cs with
    | some value => .number value
    | none => .text cs
  | value => value

/-- Whether a value counts as true. -/
def holds (value : Value) : Bool :=
  match value.settled with
  | .unset => false
  | .number value => value != 0.0
  | .text cs => !cs.isEmpty
  | .given cs => !cs.isEmpty

/-- The value of a condition. -/
def ofBool (holds : Bool) : Value :=
  .number (if holds then 1.0 else 0.0)

end Value

/-- How one text stands to another, letter by letter. -/
def orderOf : Letters → Letters → Ordering
  | [], [] => .eq
  | [], _ :: _ => .lt
  | _ :: _, [] => .gt
  | c :: cs, d :: ds => if c < d then .lt else if d < c then .gt else orderOf cs ds

/-- How one value stands to another: as numbers if both are, else as texts. -/
def compareValues (format : Letters) (one other : Value) : Ordering :=
  let asNumbers (x y : Float) : Ordering := if x < y then .lt else if y < x then .gt else .eq
  match one.settled, other.settled with
  | .text _, _ => orderOf (one.toText format) (other.toText format)
  | _, .text _ => orderOf (one.toText format) (other.toText format)
  | x, y => asNumbers x.toNumber y.toNumber

/-- Whether a comparison holds where one value stands to another in an order. -/
def Comparison.accepts (comparison : Comparison) (order : Ordering) : Bool :=
  match comparison with
  | .less => order == .lt
  | .lessOrEqual => order != .gt
  | .equal => order == .eq
  | .notEqual => order != .eq
  | .greater => order == .gt
  | .greaterOrEqual => order != .lt

/-- What is left of a number after another one was taken from it as often as it goes. -/
def remainderOf (x y : Float) : Float :=
  if x.isNaN ∨ y.isNaN ∨ x.isInf ∨ y == 0.0 then 0.0 / 0.0
  else if y.isInf then x
  else
    let one := Ratio.ofBits x.toBits
    let other := Ratio.ofBits y.toBits
    let denominator := one.denominator * other.denominator
    let rest := (one.numerator * other.denominator) % (other.numerator * one.denominator)
    let common := Nat.gcd rest denominator
    let magnitude := Float.scaleB (Float.ofNat (rest / common)) (- Int.ofNat (denominator / common).log2)
    if x < 0.0 then -magnitude else magnitude

/-- The result of an operation. -/
def Operation.apply (operation : Operation) (x y : Float) : Float :=
  match operation with
  | .add => x + y
  | .subtract => x - y
  | .multiply => x * y
  | .divide => x / y
  | .remainder => remainderOf x y
  | .power => Float.pow x y

end MonitorBench.Shell.Awk
