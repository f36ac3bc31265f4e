import MonitorBench.Shell.Regex.Basic

/-!
# Writing regular expressions

There are two ways to write regular expressions: in the basic one most marks need a
backslash, in the extended one they stand alone. A mark that can mean nothing where it
stands is a letter, or the whole is no regular expression: programs differ in that.
-/

set_option autoImplicit false

namespace MonitorBench.Shell

/-- A way to write regular expressions. -/
structure RegexStyle where
  extended : Bool := false
  /-- Whether a mark that can mean nothing where it stands is a fault. -/
  strict : Bool := false
  /-- Whether backslashes count between brackets. -/
  bracketEscapes : Bool := false

/-- Why a text is no regular expression. -/
inductive RegexFault where
  | openGroup
  | closingGroup
  | openBrackets
  | openBounds
  | wrongBounds
  | nothingRepeated
  | wrongRange
  | wrongClass
  | classAlone
  | lastBackslash
  | wrongReference

namespace RegexFault

/-- What is told of a fault. -/
def message : RegexFault → String
  | .openGroup => "Unmatched ( or \\("
  | .closingGroup => "Unmatched ) or \\)"
  | .openBrackets => "Unmatched [, [^, [:, [., or [="
  | .openBounds => "Unmatched \\\x7b"
  | .wrongBounds => "Invalid content of \\\x7b\\\x7d"
  | .nothingRepeated => "Invalid preceding regular expression"
  | .wrongRange => "Invalid range end"
  | .wrongClass => "Invalid character class name"
  | .classAlone => "character class syntax is [[:space:]], not [:space:]"
  | .lastBackslash => "Trailing backslash"
  | .wrongReference => "Invalid back reference"

end RegexFault

namespace Regex

/-- How far reading has come. -/
structure State where
  rest : Letters
  /-- How many groups were opened. -/
  groups : Nat := 0
  /-- The groups that were closed. -/
  closed : List Nat := []

/-- What reading a part gives. -/
abbrev Reading := Except RegexFault (RegexPart × State)

/-- The mark that stands at the front, with its backslash if it needs one. -/
def markAtFront (style : RegexStyle) (cs : Letters) : Option (Char × Letters) :=
  match cs with
  | '\\' :: c :: rest =>
    if !style.extended ∧ "()\x7b\x7d|+?".toList.contains c then some (c, rest) else none
  | c :: rest =>
    if c = '*' ∨ (style.extended ∧ "()\x7b|+?".toList.contains c) then some (c, rest) else none
  | [] => none

/-- The greatest number of repetitions that can be asked for. -/
def boundLimit : Nat := 32767

/-- What stands between braces, of which the first has been passed. -/
inductive Bounds where
  | bounds (repetition : Repetition) (rest : Letters)
  /-- They are not closed. -/
  | unclosed
  /-- They hold no numbers. -/
  | wrong

/-- Reads the bounds of a repetition between braces, of which the first has been passed. -/
def readBounds (style : RegexStyle) (cs : Letters) : Bounds :=
  let number (text : Letters) : Nat := Nat.ofDigitChars 10 text 0
  let least := cs.takeWhile Char.isDigit
  let (greatest, rest) : Option Nat × Letters := match cs.drop least.length with
    | ',' :: more =>
      let most := more.takeWhile Char.isDigit
      (if most = [] then none else some (number most), more.drop most.length)
    | more => (some (number least), more)
  let isEmpty := least = [] && !(cs.head? == some ',')
  let closed? : Option Letters := match style.extended, rest with
    | true, '}' :: after => some after
    | false, '\\' :: '}' :: after => some after
    | _, _ => none
  match closed? with
  | some after =>
    if isEmpty ∨ greatest.any (· < number least) ∨ boundLimit < greatest.getD (number least) then .wrong
    else .bounds { least := number least, greatest } after
  | none => if rest.isEmpty then .unclosed else .wrong

/-- Reads the repetitions behind a part, in at most `fuel` steps. -/
def readRepetitions (style : RegexStyle) : (fuel : Nat) → (isFirst : Bool) → RegexPart → Letters →
    Except RegexFault (RegexPart × Letters)
  | 0, _, part, cs => .ok (part, cs)
  | fuel + 1, isFirst, part, cs =>
    let again (repetition : Repetition) (rest : Letters) : Except RegexFault (RegexPart × Letters) :=
      readRepetitions style fuel false (.repeated part repetition) rest
    let isTwofold := !isFirst && style.strict && !style.extended
    match markAtFront style cs with
    | some ('*', rest) => if isTwofold then .error .nothingRepeated else again {} rest
    | some ('+', rest) => again { least := 1 } rest
    | some ('?', rest) => again { greatest := some 1 } rest
    | some ('{', rest) =>
      if isTwofold then .error .nothingRepeated
      else match readBounds style rest with
        | .bounds repetition after => again repetition after
        | .unclosed =>
          if style.strict ∨ !style.extended then .error .openBounds else .ok (part, cs)
        | .wrong =>
          let isNumbers := rest.head?.any fun c => c.isDigit || c == ','
          let isClosed := (rest.dropWhile fun c => c.isDigit || c == ',').head? == some '}'
          if style.strict ∨ !style.extended ∨ (isNumbers ∧ isClosed) then .error .wrongBounds
          else .ok (part, cs)
    | _ => .ok (part, cs)

/-- The part that a letter behind a backslash means. -/
def escapedPart (c : Char) : RegexPart :=
  let word : List Member := [.ofClass (letters "alnum"), .range '_' '_']
  match c with
  | 'w' => .choice false word
  | 'W' => .choice true word
  | 's' => .choice false [.ofClass (letters "space")]
  | 'S' => .choice true [.ofClass (letters "space")]
  | 'b' => .wordEdge true true
  | '<' => .wordEdge true false
  | '>' => .wordEdge false true
  | 'B' => .notWordEdge
  | '\'' => .textEnd
  | c => if c.toNat = 96 then .textStart else .letter c

/-- The letter that is written in one of the long ways between brackets, behind the mark that begins
it. -/
def enclosedLetter? (mark : Char) : Letters → Option (Char × Letters)
  | c :: d :: ']' :: rest => if d = mark then some (c, rest) else none
  | _ => none

/-- The letter at the front between brackets, and the rest. -/
def bracketLetter? (style : RegexStyle) : Letters → Option (Char × Letters)
  | [] => none
  | '[' :: '.' :: rest => (enclosedLetter? '.' rest).or (some ('[', '.' :: rest))
  | '[' :: '=' :: rest => (enclosedLetter? '=' rest).or (some ('[', '=' :: rest))
  | '\\' :: c :: rest =>
    if style.bracketEscapes then some (c, rest) else some ('\\', c :: rest)
  | c :: rest => some (c, rest)

/-- Reads members between brackets, of which the first has been passed, at most `fuel` of them. -/
def readBrackets (style : RegexStyle) : (fuel : Nat) → (isFirst : Bool) → Letters →
    Except RegexFault (List Member × Letters)
  | 0, _, _ => .error .openBrackets
  | fuel + 1, isFirst, cs =>
    let more (member : Member) (after : Letters) : Except RegexFault (List Member × Letters) :=
      (readBrackets style fuel false after).map fun (members, last) => (member :: members, last)
    match cs with
    | '[' :: ':' :: rest =>
      match classAtFront? (':' :: rest) with
      | some (name, after) => more (.ofClass name) after
      | none =>
        let name := rest.takeWhile Char.isAlpha
        if (rest.drop name.length).take 2 = [':', ']'] then .error .wrongClass
        else more (.range '[' '[') (':' :: rest)
    | cs =>
      if cs.head? = some ']' ∧ !isFirst then
        .ok ([], cs.drop 1)
      else match bracketLetter? style cs with
        | none => .error .openBrackets
        | some (c, '-' :: ']' :: after) => more (.range c c) ('-' :: ']' :: after)
        | some (c, '-' :: after) =>
          match bracketLetter? style after with
          | none => .error .openBrackets
          | some (d, last) => if d < c then .error .wrongRange else more (.range c d) last
        | some (c, after) => more (.range c c) after

/-- Reads a choice of letters, of which the opening bracket has been passed. -/
def readChoice (style : RegexStyle) (cs : Letters) : Except RegexFault (RegexPart × Letters) := do
  let (negated, start) : Bool × Letters := match cs with
    | '^' :: start => (true, start)
    | start => (false, start)
  let inner := start.takeWhile (· != ']')
  if start.head? = some ':' ∧ 2 ≤ inner.length ∧ inner.getLast? = some ':' ∧ inner.length < start.length then
    throw .classAlone
  let (members, rest) ← readBrackets style (start.length + 1) true start
  return (.choice negated members, rest)

/-- Reads one part without repetitions; `whole` reads what stands in a group, and `isFirst` tells
whether the part is the first of its row. -/
def readPart (style : RegexStyle) (isFirst : Bool) (whole : State → Reading) (state : State) :
    Reading :=
  let endsRow (cs : Letters) : Bool :=
    match markAtFront style cs with
    | some (c, _) => c == ')' || c == '|'
    | none => cs.isEmpty
  let plain (part : RegexPart) (rest : Letters) : Reading := .ok (part, { state with rest })
  match markAtFront style state.rest, state.rest with
  | some ('(', rest), _ => do
    let number := state.groups + 1
    let (part, after) ← whole { state with rest, groups := number }
    match markAtFront style after.rest with
    | some (')', last) =>
      return (.group number part, { after with rest := last, closed := number :: after.closed })
    | _ => throw .openGroup
  | some ('{', rest), cs =>
    if style.strict then .error .nothingRepeated
    else match readBounds style rest with
      | .bounds _ after => if style.extended then plain .empty after else plain (.letter '{') rest
      | _ => plain (.letter '{') (if style.extended then cs.drop 1 else rest)
  | some (c, rest), _ =>
    if !style.extended then
      plain (.letter c) rest
    else if c = ')' then (if style.strict then .error .closingGroup else plain (.letter ')') rest)
    else if style.strict then .error .nothingRepeated
    else plain .empty rest
  | _, '.' :: rest => plain .anyLetter rest
  | _, '^' :: rest => plain (if style.extended || isFirst then .lineStart else .letter '^') rest
  | _, '$' :: rest => plain (if style.extended || endsRow rest then .lineEnd else .letter '$') rest
  | _, '[' :: rest => do
    let (part, after) ← readChoice style rest
    plain part after
  | _, ['\\'] => .error .lastBackslash
  | _, '\\' :: c :: rest =>
    if c.isDigit ∧ c ≠ '0' then
      let number := c.toNat - 48
      if state.closed.contains number then plain (.again number) rest else .error .wrongReference
    else plain (escapedPart c) rest
  | _, c :: rest => plain (.letter c) rest
  | _, [] => plain .empty []

/-- Reads a row of parts, in at most `fuel` steps; `onlyPlaces` tells that all parts before are
conditions on places, behind which a mark is a letter in the basic way. -/
def readRow (style : RegexStyle) (whole : State → Reading) (depth : Nat) :
    (fuel : Nat) → (isFirst onlyPlaces : Bool) → State → Reading
  | 0, _, _, state => .ok (.empty, state)
  | fuel + 1, isFirst, onlyPlaces, state =>
    let ends := state.rest.isEmpty || (match markAtFront style state.rest with
      | some ('|', _) => true
      | some (')', _) => depth != 0 || (style.strict && style.extended) || !style.extended
      | _ => false)
    if ends then
      .ok (.empty, state)
    else do
      let (part, after) ← readPart style isFirst whole state
      let stays := onlyPlaces && part.isPlace
      let (part, rest) ←
        if (stays && !style.extended) || (style.strict && part.isPlace) then pure (part, after.rest)
        else readRepetitions style after.rest.length true part after.rest
      let (others, last) ← readRow style whole depth fuel false stays { after with rest }
      return (match others with
        | .empty => part
        | others => .sequence part others, last)

/-- Reads alternatives, at most `fuel` levels deep; `depth` tells how many groups they lie in. -/
def readAlternatives (style : RegexStyle) : (fuel depth : Nat) → State → Reading
  | 0, _, _ => .error .openGroup
  | fuel + 1, depth, state => do
    let inner := readAlternatives style fuel (depth + 1)
    let (first, after) ← readRow style inner depth (state.rest.length + 1) true true state
    match markAtFront style after.rest with
    | some ('|', rest) =>
      let (others, last) ← readAlternatives style fuel depth { after with rest, closed := state.closed }
      return (.either first others, { last with closed := after.closed ++ last.closed })
    | _ => return (first, after)

/-- The regular expression that a text is in a way to write them. -/
def parse (style : RegexStyle) (text : Letters) : Except RegexFault Regex := do
  let (part, state) ← readAlternatives style (text.length + 1) 0 { rest := text }
  if state.rest.isEmpty then return { part, groups := state.groups } else throw .closingGroup

end Regex

end MonitorBench.Shell
