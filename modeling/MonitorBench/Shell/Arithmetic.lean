import MonitorBench.Shell.Letter
import MonitorBench.Text.Decimal
import MonitorBench.Text.Hexadecimal

/-!
# Arithmetic of scripts

An expression is made of integers of 64 bits, variables, and the operators of sign, of
bits, of comparison, of choice and of assignment. Integers wrap around. Only the side of a
condition that counts is evaluated. A variable that is empty or not set counts as zero.
-/

set_option autoImplicit false

namespace MonitorBench.Shell

/-- An operator between two integers. -/
inductive Operator where
  | times | divide | remainder | plus | minus | shiftLeft | shiftRight
  | less | lessEqual | greater | greaterEqual | equal | unequal
  | bitAnd | bitXor | bitOr
  deriving DecidableEq

namespace Operator

/-- The operators with their marks and levels; a lower level binds more tightly. -/
def table : List (String × Nat × Operator) :=
  [("*", 0, .times), ("/", 0, .divide), ("%", 0, .remainder), ("+", 1, .plus), ("-", 1, .minus),
   ("<<", 2, .shiftLeft), (">>", 2, .shiftRight), ("<", 3, .less), ("<=", 3, .lessEqual),
   (">", 3, .greater), (">=", 3, .greaterEqual), ("==", 4, .equal), ("!=", 4, .unequal),
   ("&", 5, .bitAnd), ("^", 6, .bitXor), ("|", 7, .bitOr)]

/-- One level more than the operators have. -/
def levels : Nat := 8

/-- The level and the operator of a mark. -/
def ofMark? (mark : String) : Option (Nat × Operator) :=
  table.lookup mark

/-- The operator that an assignment makes use of. -/
def ofAssignment? (mark : String) : Option Operator :=
  let marks := ["*", "/", "%", "+", "-", "<<", ">>", "&", "^", "|"]
  (marks.find? fun short => short ++ "=" == mark).bind fun short => (ofMark? short).map Prod.snd

/-- One for what holds, zero for what does not. -/
def truth (condition : Bool) : Int64 :=
  if condition then 1 else 0

/-- The result of an operator; nothing can be divided by zero. -/
def apply (operator : Operator) (m n : Int64) : Except String Int64 :=
  match operator with
  | .times => .ok (m * n)
  | .divide => if n = 0 then .error "division by zero" else .ok (m / n)
  | .remainder => if n = 0 then .error "division by zero" else .ok (m % n)
  | .plus => .ok (m + n)
  | .minus => .ok (m - n)
  | .shiftLeft => .ok (m <<< n)
  | .shiftRight => .ok (m >>> n)
  | .less => .ok (truth (m < n))
  | .lessEqual => .ok (truth (m ≤ n))
  | .greater => .ok (truth (n < m))
  | .greaterEqual => .ok (truth (n ≤ m))
  | .equal => .ok (truth (m == n))
  | .unequal => .ok (truth (m != n))
  | .bitAnd => .ok (m &&& n)
  | .bitXor => .ok (m ^^^ n)
  | .bitOr => .ok (m ||| n)

end Operator

/-- An arithmetic expression. -/
inductive Expression where
  | number (value : Int64)
  | parameter (name : Letters)
  | negate (of : Expression)
  | complement (of : Expression)
  | isZero (of : Expression)
  | apply (operator : Operator) (left right : Expression)
  | both (left right : Expression)
  | either (left right : Expression)
  | choose (condition left right : Expression)
  /-- Sets a variable, with an operator to what it is applied to the old value. -/
  | assign (name : Letters) (operator : Option Operator) (value : Expression)

/-- The largest integer of 64 bits. -/
def largestInteger : Nat := 9223372036854775807

/-- The integer at the front of a text and the rest: hexadecimal after `0x`, octal after a zero. -/
def readIntegerUnbounded (cs : Letters) : Nat × Letters :=
  let valueOf (base : Nat) (digits : Letters) : Nat := (Text.valueIn? base digits).getD 0
  let isHex (c : Char) : Bool := (Text.hexDigit? c).isSome
  let decimal (base : Nat) (isDigit : Char → Bool) (cs : Letters) : Nat × Letters :=
    let digits := cs.takeWhile isDigit
    (valueOf base digits, cs.drop digits.length)
  match cs with
  | '0' :: x :: d :: rest =>
    if (x = 'x' ∨ x = 'X') ∧ isHex d then decimal 16 isHex (d :: rest)
    else decimal 8 (fun c => '0' ≤ c && c ≤ '7') cs
  | '0' :: _ => decimal 8 (fun c => '0' ≤ c && c ≤ '7') cs
  | _ => decimal 10 Char.isDigit cs

/-- The integer at the front of a text and the rest; one that is too large is as large as can be. -/
def readInteger (cs : Letters) : Nat × Letters :=
  let (value, rest) := readIntegerUnbounded cs
  (min largestInteger value, rest)

/-- The integer that the value of a variable stands for. -/
def integerValue? (value : Letters) : Option Int64 :=
  let trimmed := value.dropWhile isSpace
  let (negative, digits) : Bool × Letters := match trimmed with
    | '-' :: digits => (true, digits)
    | '+' :: digits => (false, digits)
    | digits => (false, digits)
  let hasDigit := digits.head?.any Char.isDigit
  let (magnitude, rest) := readInteger digits
  if hasDigit then
    if rest.all isSpace then some (Int64.ofInt (if negative then - magnitude else magnitude)) else none
  else if trimmed = [] then
    some 0
  else
    none

/-- A token of an expression. -/
inductive ArithmeticToken where
  | number (value : Int64)
  | name (name : Letters)
  | mark (text : String)

/-- The marks of expressions; of those that match, the first one counts. -/
def arithmeticMarks : List String :=
  ["<<=", ">>=", "<<", ">>", "<=", ">=", "==", "!=", "&&", "||", "*=", "/=", "%=", "+=", "-=", "&=",
   "^=", "|=", "*", "/", "%", "+", "-", "<", ">", "&", "^", "|", "=", "!", "~", "(", ")", "?", ":"]

/-- The tokens of an expression, at most `fuel` of them; another letter is a mark of its own. -/
def arithmeticTokens : (fuel : Nat) → Letters → List ArithmeticToken
  | 0, _ => []
  | _, [] => []
  | fuel + 1, c :: rest =>
    if c = ' ' ∨ c = '\t' ∨ c = '\n' then
      arithmeticTokens fuel rest
    else if c.isDigit then
      let (value, after) := readInteger (c :: rest)
      .number (Int64.ofNat value) :: arithmeticTokens fuel after
    else if isNameStart c then
      let name := (c :: rest).takeWhile isNameLetter
      .name name :: arithmeticTokens fuel ((c :: rest).drop name.length)
    else
      let mark := (arithmeticMarks.find? fun mark => mark.toList.isPrefixOf (c :: rest)).getD (String.ofList [c])
      .mark mark :: arithmeticTokens fuel ((c :: rest).drop mark.length)

/-- What a reader of expressions gives: an expression and the tokens that are left. -/
abbrev ExpressionReading := Except String (Expression × List ArithmeticToken)

/-- Reads an operand: a number, a variable, an expression in parentheses, or an operand with a sign. -/
def readOperand (whole : List ArithmeticToken → ExpressionReading) : List ArithmeticToken → ExpressionReading
  | .number value :: rest => .ok (.number value, rest)
  | .name name :: rest => .ok (.parameter name, rest)
  | .mark "(" :: rest => do
    match ← whole rest with
    | (inner, .mark ")" :: after) => return (inner, after)
    | _ => throw "expecting ')'"
  | .mark "+" :: rest => readOperand whole rest
  | .mark "-" :: rest => do
    let (of, after) ← readOperand whole rest
    return (.negate of, after)
  | .mark "!" :: rest => do
    let (of, after) ← readOperand whole rest
    return (.isZero of, after)
  | .mark "~" :: rest => do
    let (of, after) ← readOperand whole rest
    return (.complement of, after)
  | _ => throw "expecting primary"

/-- Goes on with a left operand as long as operators of a level follow; `next` reads what binds more
tightly. -/
def readSameLevel (next : List ArithmeticToken → ExpressionReading) (level : Nat) :
    (fuel : Nat) → Expression → List ArithmeticToken → ExpressionReading
  | 0, left, tokens => .ok (left, tokens)
  | fuel + 1, left, tokens =>
    match tokens with
    | .mark mark :: rest =>
      match Operator.ofMark? mark with
      | some (own, operator) =>
        if own = level then do
          let (right, after) ← next rest
          readSameLevel next level fuel (.apply operator left right) after
        else
          .ok (left, tokens)
      | none => .ok (left, tokens)
    | _ => .ok (left, tokens)

/-- Reads operands with the operators below a level between them. -/
def readLevels (whole : List ArithmeticToken → ExpressionReading) :
    (level : Nat) → List ArithmeticToken → ExpressionReading
  | 0, tokens => readOperand whole tokens
  | level + 1, tokens => do
    let (left, rest) ← readLevels whole level tokens
    readSameLevel (readLevels whole level) level rest.length left rest

/-- Reads what a mark joins to the right, in at most `fuel` steps. -/
def readJoined (next : List ArithmeticToken → ExpressionReading) (mark : String)
    (join : Expression → Expression → Expression) :
    (fuel : Nat) → List ArithmeticToken → ExpressionReading
  | 0, tokens => next tokens
  | fuel + 1, tokens => do
    match ← next tokens with
    | (left, .mark found :: rest) =>
      if found = mark then
        let (right, after) ← readJoined next mark join fuel rest
        return (join left right, after)
      else
        return (left, .mark found :: rest)
    | other => return other

/-- Reads an expression without an assignment; `whole` reads expressions inside of it. -/
def readChoiceOf (whole : List ArithmeticToken → ExpressionReading) :
    (fuel : Nat) → List ArithmeticToken → ExpressionReading
  | 0, _ => throw "expecting primary"
  | fuel + 1, tokens => do
    let conjunction := readJoined (readLevels whole Operator.levels) "&&" .both tokens.length
    match ← readJoined conjunction "||" .either tokens.length tokens with
    | (condition, .mark "?" :: rest) =>
      match ← whole rest with
      | (left, .mark ":" :: after) =>
        let (right, last) ← readChoiceOf whole fuel after
        return (.choose condition left right, last)
      | _ => throw "expecting ':'"
    | other => return other

/-- Reads an expression, at most `fuel` levels deep. -/
def readExpression : (fuel : Nat) → List ArithmeticToken → ExpressionReading
  | 0, _ => throw "expecting primary"
  | fuel + 1, tokens =>
    let assign (name : Letters) (operator : Option Operator) (rest : List ArithmeticToken) :
        ExpressionReading := do
      let (value, after) ← readExpression fuel rest
      return (.assign name operator value, after)
    match tokens with
    | .name name :: .mark "=" :: rest => assign name none rest
    | .name name :: .mark mark :: rest =>
      match Operator.ofAssignment? mark with
      | some operator => assign name (some operator) rest
      | none => readChoiceOf (readExpression fuel) (tokens.length + 1) tokens
    | _ => readChoiceOf (readExpression fuel) (tokens.length + 1) tokens

/-- The expression that a text is. -/
def expressionOf (text : Letters) : Except String Expression := do
  let tokens := arithmeticTokens (text.length + 1) text
  match ← readExpression (tokens.length + 1) tokens with
  | (expression, []) => return expression
  | _ => throw "expecting EOF"

/-- Why an expression has no value. -/
inductive ArithmeticFault where
  /-- The value of a variable is no integer. -/
  | noInteger (value : Letters)
  /-- A quotient is too large. -/
  | overflow
  | other (reason : String)

/-- The variables that an expression works on: a way to look them up, and those that were set. -/
structure ArithmeticStore where
  lookup : Letters → Option Letters
  /-- The variables that were set, the last one first. -/
  changed : List (Letters × Int64) := []

namespace Expression

/-- The value of a variable. -/
def lookUp (name : Letters) : StateT ArithmeticStore (Except ArithmeticFault) Int64 := do
  let store ← get
  match store.changed.lookup name with
  | some value => return value
  | none =>
    let value := (store.lookup name).getD []
    match integerValue? value with
    | some value => return value
    | none => throw (.noInteger value)

/-- The result of an operator. -/
def applied (operator : Operator) (m n : Int64) :
    StateT ArithmeticStore (Except ArithmeticFault) Int64 :=
  if operator ∈ [.divide, .remainder] ∧ m = Int64.minValue ∧ n = -1 then
    throw .overflow
  else match operator.apply m n with
  | .ok value => return value
  | .error reason => throw (.other reason)

/-- The value of an expression. -/
def value : Expression → StateT ArithmeticStore (Except ArithmeticFault) Int64
  | .number value => return value
  | .parameter name => lookUp name
  | .negate of => do return - (← of.value)
  | .complement of => do return ~~~ (← of.value)
  | .isZero of => do return Operator.truth ((← of.value) == 0)
  | .apply operator left right => do
    let m ← left.value
    applied operator m (← right.value)
  | .both left right => do
    if (← left.value) = 0 then return 0 else return Operator.truth ((← right.value) != 0)
  | .either left right => do
    if (← left.value) = 0 then return Operator.truth ((← right.value) != 0) else return 1
  | .choose condition left right => do
    if (← condition.value) = 0 then right.value else left.value
  | .assign name operator of => do
    let operand ← of.value
    let result ← match operator with
      | none => pure operand
      | some operator => applied operator (← lookUp name) operand
    modify fun store => { store with changed := (name, result) :: store.changed }
    return result

end Expression

/-- The value of the expression that a text is, and the variables that it sets, in order. -/
def evaluate (lookup : Letters → Option Letters) (text : Letters) :
    Except ArithmeticFault (Int64 × List (Letters × Int64)) := do
  match expressionOf text with
  | .error reason => throw (.other reason)
  | .ok expression =>
    let (value, store) ← expression.value { lookup }
    return (value, store.changed.reverse)

end MonitorBench.Shell
