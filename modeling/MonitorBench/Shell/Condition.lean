import MonitorBench.Disk.Standard
import MonitorBench.Shell.Arithmetic
import MonitorBench.Shell.Link
import MonitorBench.Shell.Pattern

/-!
# Conditions on files and texts

A condition is a row of words: operands, operators on one operand or between two, and the
marks that negate, join and enclose conditions. Whether a word is an operator depends on
the words behind it, so that every text can be an operand.
-/

set_option autoImplicit false

namespace MonitorBench.Shell

/-- What a word is in a condition. -/
inductive ConditionWord where
  | operand
  /-- An operator on the word behind it. -/
  | unary
  /-- An operator between two words. -/
  | binary
  | negation
  | and
  | or
  | opening
  | closing
  /-- There is no word. -/
  | nothing
  deriving DecidableEq

namespace ConditionWord

/-- The operators on one operand. -/
def unaryNames : List String :=
  ["-r", "-w", "-x", "-e", "-f", "-d", "-c", "-b", "-p", "-u", "-g", "-k", "-s", "-t", "-z", "-n",
   "-h", "-O", "-G", "-L", "-S"]

/-- The operators between two operands. -/
def binaryNames : List String :=
  ["=", "!=", "<", ">", "-eq", "-ne", "-ge", "-gt", "-le", "-lt", "-nt", "-ot", "-ef"]

/-- What a word is when it stands alone. -/
def ofName (name : String) : ConditionWord :=
  if unaryNames.contains name then .unary
  else if binaryNames.contains name then .binary
  else match name with
    | "!" => .negation
    | "-a" => .and
    | "-o" => .or
    | "(" => .opening
    | ")" => .closing
    | _ => .operand

/-- Whether a word is no operator because of the words behind it. -/
def isOperandBefore : List Letters → Bool
  | [] => true
  | [_] => false
  | word :: _ :: _ => ofName (String.ofList word) = .binary

/-- What the first of some words is. -/
def ofWords : List Letters → ConditionWord
  | [] => .nothing
  | word :: rest =>
    match ofName (String.ofList word) with
    | .unary => if isOperandBefore rest then .operand else .unary
    | .opening => if rest.isEmpty then .operand else .opening
    | kind => kind

end ConditionWord

/-- Why words are no condition. -/
inductive ConditionFault where
  | unexpected (word : Letters)
  | noArgument (word : Letters)
  | notClosed
  | noInteger (word : Letters)

namespace ConditionFault

/-- What is told of a fault. -/
def message : ConditionFault → Letters
  | .unexpected word => (if word = [] then [] else word ++ letters ": ") ++ letters "unexpected operator"
  | .noArgument word => word ++ letters ": argument expected"
  | .notClosed => letters "closing paren expected"
  | .noInteger word => letters "Illegal number: " ++ word

end ConditionFault

/-- The integer that an operand is. -/
def operandInteger (word : Letters) : Except ConditionFault Int :=
  let trimmed := word.dropWhile isSpace
  let (negative, unsigned) : Bool × Letters := match trimmed with
    | '-' :: rest => (true, rest)
    | '+' :: rest => (false, rest)
    | rest => (false, rest)
  let digits := unsigned.takeWhile Char.isDigit
  if digits = [] ∨ !(unsigned.drop digits.length).all isSpace then
    .error (.noInteger word)
  else
    let magnitude := Nat.ofDigitChars 10 digits 0
    .ok (if negative then - Int.ofNat magnitude else magnitude)

/-- What conditions can ask. -/
structure Facts where
  system : System

namespace Facts

/-- The location of an operand. -/
def locate? (facts : Facts) (word : Letters) : Option Location :=
  (facts.system.disk.locate (facts.system.aim true (spelled word))).toOption

/-- Whether an operand is the name of a link. -/
def isLink (facts : Facts) (word : Letters) : Bool :=
  match facts.system.disk.locate (facts.system.aim false (spelled word)) with
  | .ok place => (facts.system.softLink? place).isSome
  | .error _ => false

/-- Whether an operator holds of an operand. -/
def holds (facts : Facts) (operator : String) (word : Letters) : Except ConditionFault Bool := do
  let place := facts.locate? word
  let entry := place.bind facts.system.disk.entry?
  let isDevice := place.any Disk.devices.contains
  match operator with
  | "-z" => return word.isEmpty
  | "-n" => return !word.isEmpty
  | "-t" =>
    let _ ← operandInteger word
    return false
  | "-e" => return entry.isSome
  | "-r" => return entry.isSome
  | "-w" => return entry.isSome
  | "-O" => return entry.isSome
  | "-G" => return entry.isSome
  | "-c" => return isDevice
  | "-d" => return entry = some .directory
  | "-f" => return (entry matches some (.file _)) && !isDevice
  | "-s" => return (entry = some .directory || entry matches some (.file (_ :: _)))
  | "-x" => return (entry = some .directory || place.any facts.system.disk.programs.contains)
  | "-h" => return facts.isLink word
  | "-L" => return facts.isLink word
  | _ => return false

/-- Whether an operator holds between operands. -/
def holdsBetween (facts : Facts) (left : Letters) (operator : String) (right : Letters) :
    Except ConditionFault Bool := do
  let integers (test : Int → Int → Bool) : Except ConditionFault Bool := do
    let m ← operandInteger left
    return test m (← operandInteger right)
  match operator with
  | "=" => return left == right
  | "!=" => return left != right
  | "<" => return left != right && comesBefore left right
  | ">" => return left != right && comesBefore right left
  | "-eq" => integers fun m n => m == n
  | "-ne" => integers fun m n => m != n
  | "-ge" => integers fun m n => n ≤ m
  | "-gt" => integers fun m n => n < m
  | "-le" => integers fun m n => m ≤ n
  | "-lt" => integers fun m n => m < n
  | "-ef" =>
    let place := facts.locate? left
    return (place.bind facts.system.disk.entry?).isSome && place == facts.locate? right
  | _ => return false

end Facts

/-- What comes of reading a condition: whether it holds, and the words from its last one on. -/
abbrev ConditionReading := Except ConditionFault (Bool × List Letters)

/-- Reads a condition without marks; `whole` reads one between parentheses. -/
def readPrimary (facts : Facts) (whole : List Letters → ConditionReading) (kind : ConditionWord)
    (words : List Letters) : ConditionReading :=
  match kind, words with
  | .nothing, words => .ok (false, words)
  | .opening, _ :: rest =>
    if ConditionWord.ofWords rest = .closing then
      .ok (false, rest)
    else do
      let (holds, last) ← whole rest
      if ConditionWord.ofWords last.tail = .closing then return (holds, last.tail) else throw .notClosed
  | .unary, operator :: rest =>
    match rest with
    | [] => throw (.noArgument operator)
    | word :: _ => return (← facts.holds (String.ofList operator) word, rest)
  | _, left :: rest =>
    match ConditionWord.ofWords rest, rest with
    | .binary, [operator] => throw (.noArgument operator)
    | .binary, operator :: right :: after =>
      return (← facts.holdsBetween left (String.ofList operator) right, right :: after)
    | _, _ => return (!left.isEmpty, words)
  | _, [] => .ok (false, [])

/-- Reads a condition with marks that negate it. -/
def readNegated (facts : Facts) (whole : List Letters → ConditionReading) :
    ConditionWord → List Letters → ConditionReading
  | .negation, word :: rest =>
    match rest with
    | [] => return (true, [word])
    | next :: after => do
      let (holds, last) ← readNegated facts whole (ConditionWord.ofWords (next :: after)) (next :: after)
      return (!holds, last)
  | kind, words => readPrimary facts whole kind words
termination_by _ words => words.length

/-- Reads conditions that a mark joins, in at most `fuel` steps; `kind` is what the first word is. -/
def readRow (next : ConditionWord → List Letters → ConditionReading) (mark : ConditionWord)
    (join : Bool → Bool → Bool) : (fuel : Nat) → ConditionWord → List Letters → ConditionReading
  | 0, kind, words => next kind words
  | fuel + 1, kind, words => do
    let (holds, last) ← next kind words
    if ConditionWord.ofWords last.tail = mark then
      let after := last.tail.tail
      let (others, rest) ← readRow next mark join fuel (ConditionWord.ofWords after) after
      return (join holds others, rest)
    else
      return (holds, last)

/-- Reads a condition, at most `fuel` levels deep. -/
def readCondition (facts : Facts) : (fuel : Nat) → ConditionWord → List Letters → ConditionReading
  | 0, _, words => .ok (false, words)
  | fuel + 1, kind, words =>
    let whole (inner : List Letters) := readCondition facts fuel (ConditionWord.ofWords inner) inner
    let negated := readNegated facts whole
    let conjunction := readRow negated .and and words.length
    readRow conjunction .or or words.length kind words

/-- Whether a condition holds that has to use up its words. -/
def readWhole (facts : Facts) (kind : ConditionWord) (words : List Letters) : Except ConditionFault Bool := do
  match ← readCondition facts (words.length + 1) kind words with
  | (_, word :: _ :: _) => throw (.unexpected word)
  | (holds, _) => return holds

/-- The words that are left of a condition when marks at its ends are taken away that can be nothing
else because there are so few words, with what the first of them is and whether the condition is
negated; a second negation adds nothing to the first one. -/
def withoutOuterMarks : List Letters → Bool × ConditionWord × List Letters
  | [] => (false, .nothing, [])
  | word :: rest =>
    let words := word :: rest
    let isBinary := words.length = 3 && ConditionWord.ofName (String.ofList (words[1]?.getD [])) = .binary
    let isShort := words.length = 3 || words.length = 4
    if isBinary then
      (false, .operand, words)
    else if isShort ∧ word = ['('] ∧ rest.getLast? = some [')'] then
      (false, ConditionWord.ofWords rest.dropLast, rest.dropLast)
    else if isShort ∧ word = ['!'] then
      (true, (withoutOuterMarks rest).2)
    else
      (false, ConditionWord.ofWords words, words)

/-- Whether a condition holds. -/
def conditionHolds (facts : Facts) (words : List Letters) : Except ConditionFault Bool := do
  if words.isEmpty then
    return false
  let (negated, kind, rest) := withoutOuterMarks words
  return (← readWhole facts kind rest) != negated

end MonitorBench.Shell
