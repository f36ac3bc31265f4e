import MonitorBench.Shell.Awk.Token
import MonitorBench.Shell.Regex.Basic

/-!
# Regular expressions in programs on records

A backslash before a letter stands for a control character, for the byte that digits behind
it number, or takes the meaning from the letter; it counts between brackets as well. The
ends of the text can be asked for at any place. Nothing can be an alternative to nothing:
where something has to be matched, it has to be written.
-/

set_option autoImplicit false

namespace MonitorBench.Shell.Awk

/-- Why a text is no regular expression. -/
inductive PatternFault where
  | missingOperand
  | repeatedStart
  | openGroup
  | wrongBrackets
  | wrongBounds

/-- What is told of a fault. -/
def PatternFault.message : PatternFault → String
  | .missingOperand => "missing operand"
  | .repeatedStart => "syntax error ^* or ^+"
  | .openGroup => "missing ')'"
  | .wrongBrackets => "bad class -- [], [^] or ["
  | .wrongBounds => "bad interval expression"

/-- What is told of a text that is no regular expression. -/
def patternMessage (text : Letters) (fault : PatternFault) : Letters :=
  letters "regular expression compile failed (" ++ letters fault.message ++ letters ")\n" ++ text

/-- The letter that is meant behind a backslash, and the rest; there is a letter. -/
def patternLetter (c : Char) (rest : Letters) : Char × Letters :=
  (readEscaped? (c :: rest)).getD (c, rest)

/-- The letter at the front between brackets, and the rest. -/
def bracketLetter? : Letters → Option (Char × Letters)
  | [] => none
  | ['\\'] => none
  | '\\' :: c :: rest => some (patternLetter c rest)
  | c :: rest => some (c, rest)

/-- Reads members between brackets, at most `fuel` of them; the first may be a closing bracket. -/
def readMembersOf : (fuel : Nat) → (isFirst : Bool) → Letters → Except PatternFault (List Member × Letters)
  | 0, _, _ => .error .wrongBrackets
  | fuel + 1, isFirst, text =>
    let more (members : List Member) (after : Letters) : Except PatternFault (List Member × Letters) :=
      (readMembersOf fuel false after).map fun (others, last) => (members ++ others, last)
    let single (c : Char) : Member := .range c c
    match text with
    | '[' :: ':' :: rest =>
      match classAtFront? (':' :: rest) with
      | some (name, after) => more [.ofClass name] after
      | none => .error .wrongBrackets
    | text =>
      if text.head? = some ']' ∧ !isFirst then
        .ok ([], text.drop 1)
      else match bracketLetter? text with
        | none => .error .wrongBrackets
        | some (c, '-' :: ']' :: after) => more [single c] ('-' :: ']' :: after)
        | some (c, '-' :: '[' :: ':' :: after) => more [single c, single '-'] ('[' :: ':' :: after)
        | some (c, '-' :: after) =>
          match bracketLetter? after with
          | none => .error .wrongBrackets
          | some (d, last) =>
            if d < c then more [single c, single '-', single d] last else more [.range c d] last
        | some (c, after) => more [single c] after

/-- What repeats the part before it. -/
inductive Repeating where
  | none
  | repeats (repetition : Repetition) (rest : Letters)
  | wrong

/-- The repetition that stands at the front. -/
def repetitionAtFront (text : Letters) : Repeating :=
  match text with
  | '*' :: rest => .repeats {} rest
  | '+' :: rest => .repeats { least := 1 } rest
  | '?' :: rest => .repeats { greatest := some 1 } rest
  | '{' :: rest =>
    let least := rest.takeWhile Char.isDigit
    let number (digits : Letters) : Nat := Nat.ofDigitChars 10 digits 0
    match rest.drop least.length with
    | '}' :: after =>
      if least = [] then .wrong
      else .repeats { least := number least, greatest := some (number least) } after
    | ',' :: more =>
      let most := more.takeWhile Char.isDigit
      match more.drop most.length with
      | '}' :: after =>
        if most = [] then .repeats { least := number least } after
        else if number most < number least then .wrong
        else .repeats { least := number least, greatest := some (number most) } after
      | _ => .none
    | _ => .none
  | _ => .none

/-- Reads the repetitions behind a part, at most `fuel` of them. -/
def readRepeats : (fuel : Nat) → RegexPart → Letters → Except PatternFault (RegexPart × Letters)
  | 0, part, text => .ok (part, text)
  | fuel + 1, part, text =>
    match repetitionAtFront text with
    | .none => .ok (part, text)
    | .wrong => .error .wrongBounds
    | .repeats repetition rest => readRepeats fuel (.repeated part repetition) rest

/-- Reads a part without its repetitions; `whole` reads what stands between parentheses. -/
def readRegexPart (whole : Letters → Except PatternFault (RegexPart × Letters)) :
    Letters → Except PatternFault (RegexPart × Letters)
  | [] => .error .missingOperand
  | ['\\'] => .ok (.letter '\\', [])
  | '\\' :: c :: rest =>
    let (d, after) := patternLetter c rest
    .ok (.letter d, after)
  | '(' :: rest =>
    match whole rest with
    | .ok (part, ')' :: after) => .ok (part, after)
    | .ok _ => .error .openGroup
    | .error fault => .error fault
  | '[' :: '^' :: rest => (readMembersOf (rest.length + 1) true rest).map fun (members, after) =>
      (.choice true members, after)
  | '[' :: rest => (readMembersOf (rest.length + 1) true rest).map fun (members, after) =>
      (.choice false members, after)
  | '.' :: rest => .ok (.anyLetter, rest)
  | '^' :: rest => if rest.head?.any "*+".toList.contains then .error .repeatedStart else .ok (.textStart, rest)
  | '$' :: rest => .ok (.textEnd, rest)
  | c :: rest => if "*+?|".toList.contains c then .error .missingOperand else .ok (.letter c, rest)

/-- Reads a row of parts, at most `fuel` of them; `depth` tells how many groups it lies in. -/
def readRegexRow (whole : Letters → Except PatternFault (RegexPart × Letters)) (depth : Nat) :
    (fuel : Nat) → Letters → Except PatternFault (RegexPart × Letters)
  | 0, text => .ok (.empty, text)
  | fuel + 1, text => do
    if text.head? = some ')' ∧ depth ≠ 0 then
      throw .missingOperand
    let (part, after) ← readRegexPart whole text
    let (repeated, rest) ← readRepeats after.length part after
    let ends := match rest with
      | [] => true
      | c :: _ => c == '|' || (c == ')' && depth != 0)
    if ends then
      return (repeated, rest)
    else
      let (others, last) ← readRegexRow whole depth fuel rest
      return (.sequence repeated others, last)

/-- Reads alternatives, at most `fuel` levels deep. -/
def readAlternativesOf : (fuel depth : Nat) → Letters → Except PatternFault (RegexPart × Letters)
  | 0, _, _ => .error .openGroup
  | fuel + 1, depth, text => do
    let inner := readAlternativesOf fuel (depth + 1)
    if text = [] ∧ depth ≠ 0 then
      throw .openGroup
    let (first, after) ← readRegexRow inner depth (text.length + 1) text
    match after with
    | '|' :: rest =>
      let (others, last) ← readAlternativesOf fuel depth rest
      return (.either first others, last)
    | _ => return (first, after)

/-- The regular expression that a text is. -/
def regexOf (text : Letters) : Except PatternFault Regex :=
  if text = [] then .ok { part := .empty, groups := 0 }
  else (readAlternativesOf (text.length + 1) 0 text).map fun (part, _) => { part, groups := 0 }

/-- The first match in a text: what is before it, what is matched and what is behind it. -/
def findMatch? (regex : Regex) (before text : Letters) : Option (Letters × Letters × Letters) :=
  (regex.search {} before text).map fun (passed, spot) => (passed, spot.taken, spot.rest)

end MonitorBench.Shell.Awk
