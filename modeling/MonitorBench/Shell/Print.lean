import MonitorBench.Shell.Arithmetic

/-!
# What scripts print

A script prints its arguments as they are, or puts them into a format. In either case a
backslash and a letter stand for a control character, and a backslash and octal digits for
the byte with that number. A directive of a format gives the least width, the precision and
the kind of an argument. A format is used again as long as it takes arguments and some are
left; an argument that is missing is empty or zero.
-/

set_option autoImplicit false

namespace MonitorBench.Shell

/-- The control character that a letter stands for behind a backslash. -/
def controlLetter? : Char → Option Char
  | '\\' => some '\\'
  | 'a' => some (Char.ofNat 7)
  | 'b' => some (Char.ofNat 8)
  | 'e' => some (Char.ofNat 27)
  | 'f' => some (Char.ofNat 12)
  | 'n' => some '\n'
  | 'r' => some '\r'
  | 't' => some '\t'
  | 'v' => some (Char.ofNat 11)
  | _ => none

/-- The letter that up to three octal digits at the front give, and the rest. -/
def readOctal (cs : Letters) : Char × Letters :=
  let digits := (cs.take 3).takeWhile isOctal
  (Char.ofNat ((Text.valueIn? 8 digits).getD 0 % 256), cs.drop digits.length)

/-- The letter that stands for what follows a backslash, and the rest; without a meaning it is the
backslash itself. -/
def readEscape : Letters → Char × Letters
  | [] => ('\\', [])
  | c :: rest =>
    match controlLetter? c with
    | some control => (control, rest)
    | none => if isOctal c then readOctal (c :: rest) else ('\\', c :: rest)

/-- The letters of an argument whose backslashes count, at most `fuel` steps of it, and whether the
printing ends there. -/
def unescapeUpTo : (fuel : Nat) → Letters → Letters × Bool
  | 0, _ => ([], false)
  | _, [] => ([], false)
  | _, '\\' :: 'c' :: _ => ([], true)
  | fuel + 1, '\\' :: '0' :: rest =>
    let (c, after) := readOctal rest
    let (more, ends) := unescapeUpTo fuel after
    (c :: more, ends)
  | fuel + 1, '\\' :: rest =>
    let (c, after) := readEscape rest
    let (more, ends) := unescapeUpTo fuel after
    (c :: more, ends)
  | fuel + 1, c :: rest =>
    let (more, ends) := unescapeUpTo fuel rest
    (c :: more, ends)

/-- The letters of an argument whose backslashes count, and whether the printing ends there. -/
def unescapeArgument (text : Letters) : Letters × Bool :=
  unescapeUpTo (text.length + 1) text

/-- What arguments are printed as, with blanks between them. -/
def echoed (arguments : List Letters) : Letters :=
  let (words, ended) : List Letters × Letters := match arguments with
    | ['-', 'n'] :: words => (words, [])
    | words => (words, ['\n'])
  match unescapeArgument ([' '].intercalate words) with
  | (text, true) => text
  | (text, false) => text ++ ended

/-- How an argument is set in a format. -/
structure Layout where
  /-- Whether it stands at the left of its field. -/
  left : Bool := false
  /-- Whether zeros fill its field. -/
  zeros : Bool := false
  /-- What stands before a number that is not negative. -/
  sign : Letters := []
  /-- Whether the base of a number is shown. -/
  showBase : Bool := false
  /-- The least width. -/
  width : Nat := 0
  precision : Option Nat := none

namespace Layout

/-- A text in its field. -/
def fill (layout : Layout) (text : Letters) : Letters :=
  let blanks := List.replicate (layout.width - text.length) ' '
  if layout.left then text ++ blanks else blanks ++ text

/-- A text, cut at the precision, in its field. -/
def setText (layout : Layout) (text : Letters) : Letters :=
  layout.fill (match layout.precision with
    | some most => text.take most
    | none => text)

/-- Digits with what stands before them, in their field; zeros come between the two. -/
def setDigits (layout : Layout) (start digits : Letters) (zeros : Bool) : Letters :=
  let room := if zeros ∧ !layout.left then layout.width - start.length else 0
  layout.fill (start ++ List.replicate (room - digits.length) '0' ++ digits)

/-- The digits of an integer, as many as the precision says. -/
def digitsOf (layout : Layout) (base : Nat) (magnitude : Nat) : Letters :=
  let digits := if magnitude = 0 ∧ layout.precision = some 0 then [] else Nat.toDigits base magnitude
  List.replicate (layout.precision.getD 0 - digits.length) '0' ++ digits

/-- An integer with a sign. -/
def setInteger (layout : Layout) (n : Int) : Letters :=
  layout.setDigits (if n < 0 then ['-'] else layout.sign) (layout.digitsOf 10 n.natAbs)
    (layout.zeros && layout.precision.isNone)

/-- An integer without a sign in a base. -/
def setUnsigned (layout : Layout) (kind : Char) (n : Nat) : Letters :=
  let base := if kind = 'o' then 8 else if kind = 'u' then 10 else 16
  let lower := layout.digitsOf base n
  let digits := if kind = 'X' then lower.map Char.toUpper else lower
  let shown := layout.showBase && n != 0
  let start := if shown ∧ base = 16 then ['0', kind] else []
  let digits := if layout.showBase ∧ base = 8 ∧ digits.head? ≠ some '0' then '0' :: digits else digits
  layout.setDigits start digits (layout.zeros && layout.precision.isNone)

end Layout

/-- A number that is not negative and has no end, as a fraction of two numbers. -/
structure Ratio where
  numerator : Nat
  denominator : Nat

namespace Ratio

/-- The integer nearest to a ratio, the even one if two are. -/
def round (ratio : Ratio) : Nat :=
  let quotient := ratio.numerator / ratio.denominator
  let twice := 2 * (ratio.numerator % ratio.denominator)
  if ratio.denominator < twice ∨ twice = ratio.denominator ∧ quotient % 2 = 1 then quotient + 1
  else quotient

/-- The ratio times a power of ten. -/
def scale (ratio : Ratio) (exponent : Int) : Ratio :=
  if exponent < 0 then
    { ratio with denominator := ratio.denominator * Nat.pow 10 exponent.natAbs }
  else
    { ratio with numerator := ratio.numerator * Nat.pow 10 exponent.natAbs }

/-- The exponent of the first decimal digit of a ratio that is not zero. -/
def exponent (ratio : Ratio) : Int :=
  let guess : Int := (Nat.toDigits 10 ratio.numerator).length - (Nat.toDigits 10 ratio.denominator).length
  if ratio.denominator * Nat.pow 10 guess.toNat ≤ ratio.numerator * Nat.pow 10 (-guess).toNat then guess
  else guess - 1

/-- The ratio that a number of 64 bits with a floating point is, without its sign. -/
def ofBits (bits : UInt64) : Ratio :=
  let fraction := (bits % 4503599627370496).toNat
  let exponent := (bits.toNat / 4503599627370496) % 2048
  let mantissa := if exponent = 0 then fraction else fraction + 4503599627370496
  let power := max exponent 1
  if 1075 ≤ power then { numerator := mantissa * Nat.pow 2 (power - 1075), denominator := 1 }
  else { numerator := mantissa, denominator := Nat.pow 2 (1075 - power) }

/-- The decimal digits with a number of places. -/
def places (ratio : Ratio) (count : Nat) (point : Bool) : Letters :=
  let digits := Nat.toDigits 10 (ratio.scale count).round
  let padded := List.replicate (count + 1 - digits.length) '0' ++ digits
  let whole := padded.take (padded.length - count)
  if count = 0 ∧ !point then whole else whole ++ '.' :: padded.drop (padded.length - count)

/-- The first digits of a ratio, one and a number of places, and its exponent. -/
def leading (ratio : Ratio) (count : Nat) : Nat × Int :=
  if ratio.numerator = 0 then
    (0, 0)
  else
    let exponent := ratio.exponent
    let rounded := (ratio.scale (count - exponent)).round
    if Nat.pow 10 (count + 1) ≤ rounded then (rounded / 10, exponent + 1) else (rounded, exponent)

/-- The digits with an exponent. -/
def scientific (ratio : Ratio) (count : Nat) (point : Bool) (mark : Char) : Letters :=
  let (digits, exponent) := ratio.leading count
  let shown := Nat.toDigits 10 exponent.natAbs
  let power := List.replicate (2 - shown.length) '0' ++ shown
  let mantissa : Ratio := { numerator := digits, denominator := Nat.pow 10 count }
  mantissa.places count point ++ mark :: (if exponent < 0 then '-' else '+') :: power

/-- Digits without the zeros at the end of their places. -/
def withoutZeros (digits : Letters) : Letters :=
  if digits.contains '.' then
    let kept := digits.reverse.dropWhile (· == '0')
    (if kept.head? = some '.' then kept.drop 1 else kept).reverse
  else
    digits

/-- The digits in the shorter of the two ways. -/
def general (ratio : Ratio) (count : Nat) (point : Bool) (mark : Char) : Letters :=
  let count := max count 1
  let (_, exponent) := ratio.leading (count - 1)
  if exponent < -4 ∨ (count : Int) ≤ exponent then
    let text := ratio.scientific (count - 1) point mark
    let mantissa := text.takeWhile (· != mark)
    (if point then mantissa else withoutZeros mantissa) ++ text.drop mantissa.length
  else
    let text := ratio.places (count - 1 - exponent).toNat point
    if point then text else withoutZeros text

end Ratio

/-- The sign of an exponent, its digits and what follows, if that is what stands behind one of two
marks; else nothing is taken. -/
def readExponent (small capital : Char) (text : Letters) : Int × Letters :=
  match text with
  | [] => (0, [])
  | mark :: after =>
    let (down, unsigned) : Bool × Letters := match after with
      | '-' :: rest => (true, rest)
      | '+' :: rest => (false, rest)
      | rest => (false, rest)
    let digits := unsigned.takeWhile Char.isDigit
    if (mark = small ∨ mark = capital) ∧ digits ≠ [] then
      let value : Int := Int.ofNat (min 99999 (Nat.ofDigitChars 10 digits 0))
      (if down then -value else value, unsigned.drop digits.length)
    else
      (0, text)

/-- A number with a floating point that is given by hexadecimal digits behind `0x`, and the rest. -/
def readHexFloat (text : Letters) : Float × Letters :=
  let isHex (c : Char) : Bool := (Text.hexDigit? c).isSome
  let whole := text.takeWhile isHex
  let (places, after) : Letters × Letters := match text.drop whole.length with
    | '.' :: rest => (rest.takeWhile isHex, rest.dropWhile isHex)
    | rest => ([], rest)
  let (power, rest) := readExponent 'p' 'P' after
  let mantissa := (Text.valueIn? 16 (whole ++ places)).getD 0
  (Float.scaleB (Float.ofNat mantissa) (power - 4 * places.length), rest)

/-- A number with a floating point that is given by decimal digits, and the rest; nothing if there is no
digit. -/
def readDecimalFloat? (text : Letters) : Option (Float × Letters) :=
  let whole := text.takeWhile Char.isDigit
  let (places, after) : Letters × Letters := match text.drop whole.length with
    | '.' :: rest => (rest.takeWhile Char.isDigit, rest.dropWhile Char.isDigit)
    | rest => ([], rest)
  if whole = [] ∧ places = [] then
    none
  else
    let (power, rest) := readExponent 'e' 'E' after
    let mantissa := Nat.ofDigitChars 10 (whole ++ places) 0
    let exponent := power - places.length
    some (Float.ofScientific mantissa (exponent < 0) exponent.natAbs, rest)

/-- A number with a floating point without a sign, and the rest, if there is one. -/
def readUnsignedFloat? (text : Letters) : Option (Float × Letters) :=
  let starts (word : String) : Bool := String.ofList ((text.take word.length).map Char.toLower) = word
  if starts "infinity" then some (1.0 / 0.0, text.drop 8)
  else if starts "inf" then some (1.0 / 0.0, text.drop 3)
  else if starts "nan" then some (0.0 / 0.0, text.drop 3)
  else if starts "0x" ∧ ((text.drop 2).head?.any fun c => (Text.hexDigit? c).isSome) then
    some (readHexFloat (text.drop 2))
  else readDecimalFloat? text

/-- A number with a floating point at the front of a text, and the rest. -/
def readFloat (text : Letters) : Float × Letters :=
  let trimmed := text.dropWhile isSpace
  let (negative, unsigned) : Bool × Letters := match trimmed with
    | '-' :: rest => (true, rest)
    | '+' :: rest => (false, rest)
    | rest => (false, rest)
  match readUnsignedFloat? unsigned with
  | some (value, rest) => (if negative then -value else value, rest)
  | none => (0.0, text)

/-- A number with a floating point in a kind of layout. -/
def Layout.setFloat (layout : Layout) (kind : Char) (value : Float) : Letters :=
  let negative := 9223372036854775808 ≤ value.toBits.toNat
  let start := if negative then ['-'] else layout.sign
  let upper := kind.isUpper
  let inCase (text : Letters) : Letters := if upper then text.map Char.toUpper else text
  if value.isNaN then
    layout.setDigits start (inCase (letters "nan")) false
  else if value.isInf then
    layout.setDigits start (inCase (letters "inf")) false
  else
    let ratio := Ratio.ofBits value.toBits
    let count := layout.precision.getD 6
    let mark := if upper then 'E' else 'e'
    let digits := match kind.toLower with
      | 'f' => ratio.places count layout.showBase
      | 'e' => ratio.scientific count layout.showBase mark
      | _ => ratio.general count layout.showBase mark
    layout.setDigits start digits layout.zeros

/-- How far the printing with a format has come. -/
structure Printing where
  /-- What was printed. -/
  out : Letters := []
  /-- The arguments that are left. -/
  arguments : List Letters
  /-- Whether the format took an argument. -/
  took : Bool := false
  /-- What is wrong with arguments. -/
  warnings : List Letters := []
  /-- What is wrong with the format. -/
  fault : Option Letters := none
  /-- Whether an argument ended the printing. -/
  ended : Bool := false

namespace Printing

/-- Prints letters. -/
def add (printing : Printing) (text : Letters) : Printing :=
  { printing with out := printing.out ++ text }

/-- Takes the next argument, if one is left. -/
def take (printing : Printing) : Option Letters × Printing :=
  (printing.arguments.head?,
    { printing with
      arguments := printing.arguments.tail, took := printing.took || !printing.arguments.isEmpty })

/-- Warns of an argument. -/
def warn (printing : Printing) (argument : Letters) (reason : String) : Printing :=
  { printing with warnings := printing.warnings ++ [argument ++ letters ": " ++ letters reason] }

/-- Warns of an argument of which a part is no number. -/
def check (printing : Printing) (argument rest : Letters) : Printing :=
  if rest = [] then printing
  else if rest = argument then printing.warn argument "expected numeric value"
  else printing.warn argument "not completely converted"

/-- Takes the next argument as an integer, which lies between two bounds. -/
def takeInteger (printing : Printing) (least greatest : Int) : Int × Printing :=
  match printing.take with
  | (none, after) => (0, after)
  | (some argument, after) =>
    match argument with
    | '"' :: cs => ((cs.head?.getD '\x00').toNat, after)
    | '\'' :: cs => ((cs.head?.getD '\x00').toNat, after)
    | argument =>
      let trimmed := argument.dropWhile isSpace
      let (negative, unsigned) : Bool × Letters := match trimmed with
        | '-' :: rest => (true, rest)
        | '+' :: rest => (false, rest)
        | rest => (false, rest)
      if unsigned.head?.any Char.isDigit then
        let (magnitude, rest) := readIntegerUnbounded unsigned
        let value : Int := if negative then - Int.ofNat magnitude else magnitude
        let checked := after.check argument rest
        if value < least then
          (least, if rest = [] then checked.warn argument "Numerical result out of range" else checked)
        else if greatest < value then
          (greatest, if rest = [] then checked.warn argument "Numerical result out of range" else checked)
        else
          (value, checked)
      else
        (0, after.check argument argument)

/-- Takes the next argument as a number with a floating point. -/
def takeFloat (printing : Printing) : Float × Printing :=
  match printing.take with
  | (none, after) => (0.0, after)
  | (some argument, after) =>
    match argument with
    | '"' :: cs => (Float.ofNat (cs.head?.getD '\x00').toNat, after)
    | '\'' :: cs => (Float.ofNat (cs.head?.getD '\x00').toNat, after)
    | argument =>
      let (value, rest) := readFloat argument
      let named := ((argument.dropWhile isSpace).dropWhile fun c => c == '-' || c == '+').head?.any Char.isAlpha
      let checked := after.check argument rest
      (value, if rest = [] ∧ value.isInf ∧ !named then
          checked.warn argument "Numerical result out of range"
        else checked)

/-- The bounds of integers with a sign. -/
def signedBounds : Int × Int := (-9223372036854775808, 9223372036854775807)

/-- The greatest integer without a sign, and one more. -/
def unsignedCount : Int := 18446744073709551616

/-- Carries out a directive. -/
def addDirective (printing : Printing) (layout : Layout) (kind : Char) (directive : Letters) : Printing :=
  if kind = 's' then
    let (text, after) := printing.take
    after.add (layout.setText (text.getD []))
  else if kind = 'b' then
    let (text, after) := printing.take
    let (shown, ended) := unescapeArgument (text.getD [])
    { after.add (layout.setText shown) with ended }
  else if kind = 'c' then
    let (text, after) := printing.take
    after.add (layout.fill [((text.getD []).head?).getD '\x00'])
  else if kind = 'd' ∨ kind = 'i' then
    let (n, after) := printing.takeInteger signedBounds.1 signedBounds.2
    after.add (layout.setInteger n)
  else if kind = 'u' ∨ kind = 'o' ∨ kind = 'x' ∨ kind = 'X' then
    let (n, after) := printing.takeInteger (1 - unsignedCount) (unsignedCount - 1)
    after.add (layout.setUnsigned kind (n % unsignedCount).toNat)
  else if "eEfFgG".toList.contains kind then
    let (value, after) := printing.takeFloat
    after.add (layout.setFloat kind value)
  else
    { printing with fault := some (directive ++ letters ": invalid directive") }

/-- Whether the printing is over. -/
def isOver (printing : Printing) : Bool :=
  printing.ended || printing.fault.isSome

end Printing

/-- The greatest width and the greatest precision of a field. -/
def fieldLimit : Nat := 1000000

/-- The width or precision that digits give. -/
def widthOf (digits : Letters) : Nat :=
  min fieldLimit (Nat.ofDigitChars 10 digits 0)

/-- The width or precision that an argument gives, of which only 32 bits count. -/
def widthGiven (value : Int) : Int :=
  let wrapped := (Int32.ofInt value).toInt
  if fieldLimit < wrapped.natAbs then (if wrapped < 0 then -fieldLimit else fieldLimit) else wrapped

/-- Sets the flags of a layout. -/
def Layout.withFlags (flags : Letters) : Layout :=
  { left := flags.contains '-'
    zeros := flags.contains '0'
    sign := if flags.contains '+' then ['+'] else if flags.contains ' ' then [' '] else []
    showBase := flags.contains '#' }

/-- Sets the width of a layout; a negative one means the left of the field. -/
def Layout.withWidth (layout : Layout) (width : Int) : Layout :=
  { layout with left := layout.left || width < 0, width := width.natAbs }

/-- Carries out the directive that follows a percent sign, and gives the rest of the format. -/
def readDirective (printing : Printing) (format : Letters) : Printing × Letters :=
  let flags := format.takeWhile fun c => "#-+ 0".toList.contains c
  let afterFlags := format.drop flags.length
  let layout := Layout.withFlags flags
  let least := Printing.signedBounds.1
  let greatest := Printing.signedBounds.2
  let (layout, printing, afterWidth) : Layout × Printing × Letters := match afterFlags with
    | '*' :: rest =>
      let (width, after) := printing.takeInteger least greatest
      (layout.withWidth (widthGiven width), after, rest)
    | rest =>
      let digits := rest.takeWhile Char.isDigit
      (layout.withWidth (widthOf digits), printing, rest.drop digits.length)
  let (layout, printing, rest) : Layout × Printing × Letters := match afterWidth with
    | '.' :: '*' :: rest =>
      let (given, after) := printing.takeInteger least greatest
      let precision := widthGiven given
      ({ layout with precision := if precision < 0 then none else some precision.toNat }, after, rest)
    | '.' :: rest =>
      let digits := rest.takeWhile Char.isDigit
      ({ layout with precision := some (widthOf digits) }, printing, rest.drop digits.length)
    | rest => (layout, printing, rest)
  match rest with
  | [] => ({ printing with fault := some (letters "missing format character") }, [])
  | kind :: after =>
    let directive := '%' :: format.take (format.length - after.length)
    (printing.addDirective layout kind directive, after)

/-- Goes through a format once, in at most `fuel` steps. -/
def printOnce : (fuel : Nat) → Letters → Printing → Printing
  | 0, _, printing => printing
  | _, [], printing => printing
  | fuel + 1, '\\' :: rest, printing =>
    let (c, after) := readEscape rest
    printOnce fuel after (printing.add [c])
  | fuel + 1, '%' :: '%' :: rest, printing => printOnce fuel rest (printing.add ['%'])
  | fuel + 1, '%' :: rest, printing =>
    let (next, after) := readDirective printing rest
    if next.isOver then next else printOnce fuel after next
  | fuel + 1, c :: rest, printing => printOnce fuel rest (printing.add [c])

/-- Goes through a format until the arguments are used up, at most `rounds` times. -/
def printRounds (format : Letters) : (rounds : Nat) → Printing → Printing
  | 0, printing => printing
  | rounds + 1, printing =>
    let next := printOnce (format.length + 1) format { printing with took := false }
    if next.took ∧ next.arguments ≠ [] ∧ !next.isOver then printRounds format rounds next else next

/-- Prints arguments with a format. -/
def printFormat (format : Letters) (arguments : List Letters) : Printing :=
  printRounds format (arguments.length + 1) { arguments }

end MonitorBench.Shell
