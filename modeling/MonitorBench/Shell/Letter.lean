import MonitorBench.Text.Utf8

/-!
# Letters

A shell handles the bytes of a text one by one. Each byte is held as the character with its
number, called a letter, so that scripts, names and values are lists of characters below
256, whatever bytes they consist of.
-/

set_option autoImplicit false

namespace MonitorBench.Shell

/-- A text as a shell handles it. -/
abbrev Letters := List Char

/-- The letters of bytes. -/
def lettersOf (bytes : Bytes) : Letters :=
  bytes.map fun byte => Char.ofNat byte.toNat

/-- The bytes of letters. -/
def bytesOf (letters : Letters) : Bytes :=
  letters.map fun c => UInt8.ofNat c.toNat

/-- The letters of a text. -/
def letters (text : String) : Letters :=
  lettersOf (Text.bytes text)

/-- The text that letters spell; those that are no bytes of a text are taken as characters. -/
def spelled (cs : Letters) : String :=
  (Text.ofBytes? (bytesOf cs)).getD (String.ofList cs)

/-- Whether a letter can begin the name of a variable. -/
def isNameStart (c : Char) : Bool :=
  c.isAlpha || c == '_'

/-- Whether a letter can stand in the name of a variable. -/
def isNameLetter (c : Char) : Bool :=
  c.isAlphanum || c == '_'

/-- Whether letters are the name of a variable. -/
def isName : Letters → Bool
  | [] => false
  | c :: cs => isNameStart c && cs.all isNameLetter

/-- Whether letters are one or more digits. -/
def isNumber (cs : Letters) : Bool :=
  !cs.isEmpty && cs.all Char.isDigit

/-- Whether a letter is an octal digit. -/
def isOctal (c : Char) : Bool :=
  '0' ≤ c && c ≤ '7'

/-- Whether a letter is white space in the standard locale. -/
def isSpace (c : Char) : Bool :=
  c == ' ' || (9 ≤ c.toNat && c.toNat ≤ 13)

/-- The letter that encloses a substituted command in the old style. -/
def backquote : Char := Char.ofNat 96

end MonitorBench.Shell
