import MonitorBench.Shell.Regex.Basic
import MonitorBench.Text.Hexadecimal

/-!
# Regular expressions with looks around

A third way to write regular expressions has names for groups, repetitions that prefer few
or that never give back, and conditions on what is before or behind a place. The choices
are tried in the order in which they are written, and the first match counts.
-/

set_option autoImplicit false

namespace MonitorBench.Shell

/-- Why a text is no regular expression with looks around. -/
inductive LookingFault where
  | openGroup
  | closingGroup
  | openBrackets
  | nothingRepeated
  | wrongBounds
  | wrongRange
  | wrongClass
  | lastBackslash
  | wrongReference
  | wrongLetter
  | wrongGroup
  | unboundedLook

namespace LookingFault

/-- What is told of a fault. -/
def message : LookingFault → String
  | .openGroup => "missing closing parenthesis"
  | .closingGroup => "unmatched closing parenthesis"
  | .openBrackets => "missing terminating ] for character class"
  | .nothingRepeated => "quantifier does not follow a repeatable item"
  | .wrongBounds => "numbers out of order in \x7b\x7d quantifier"
  | .wrongRange => "range out of order in character class"
  | .wrongClass => "unknown POSIX class name"
  | .lastBackslash => "\\ at end of pattern"
  | .wrongReference => "reference to non-existent subpattern"
  | .wrongLetter => "unrecognized character follows \\"
  | .wrongGroup => "unrecognized character after (? or (?-"
  | .unboundedLook => "lookbehind assertion is not fixed length"

end LookingFault

namespace LookingRegex

/-- What holds for a part of a regular expression. -/
structure Switches where
  /-- Whether the case of letters makes no difference. -/
  fold : Bool := false
  /-- Whether a point stands for line feeds, too. -/
  anyIsAll : Bool := false
  /-- Whether blanks and comments mean nothing. -/
  spaced : Bool := false

/-- How far reading has come. -/
structure State where
  rest : Letters
  groups : Nat := 0
  /-- The numbers of the groups with names. -/
  names : List (Letters × Nat) := []
  switches : Switches := {}

/-- What reading gives. -/
abbrev Reading := Except LookingFault (RegexPart × State)

/-- All letters that pass a test, as members. -/
def membersWhere (test : Char → Bool) : List Member :=
  ((List.range 256).map Char.ofNat).filterMap fun c => if test c then some (.range c c) else none

/-- Whether a letter is a blank in a line. -/
def isLineBlank (c : Char) : Bool :=
  c == ' ' || c == '\t' || c.toNat == 160

/-- Whether a letter leads to another line. -/
def isLineMark (c : Char) : Bool :=
  (10 ≤ c.toNat && c.toNat ≤ 13) || c.toNat == 133

/-- The letters that a kind stands for, if there is such a kind; an upper case name stands for all the
other letters. -/
def kind? (name : Char) : Option (List Member) :=
  let test? : Option (Char → Bool) := match name.toLower with
    | 'd' => some Char.isDigit
    | 'w' => some isNameLetter
    | 's' => some isSpace
    | 'h' => some isLineBlank
    | 'v' => some isLineMark
    | _ => none
  test?.map fun test => membersWhere fun c => test c != name.isUpper

/-- The letter that the letter behind a backslash names, and what is left. -/
def namedLetter (c : Char) (rest : Letters) : Option (Char × Letters) :=
  let code (base limit : Nat) (text : Letters) : Char × Letters :=
    let digits := (text.take limit).takeWhile fun d => (Text.valueIn? base [d]).isSome
    (Char.ofNat ((Text.valueIn? base digits).getD 0), text.drop digits.length)
  match c with
  | 'a' => some ('\x07', rest)
  | 'e' => some ('\x1b', rest)
  | 'f' => some ('\x0c', rest)
  | 'n' => some ('\n', rest)
  | 'r' => some ('\r', rest)
  | 't' => some ('\t', rest)
  | '0' => some (code 8 2 rest)
  | 'x' =>
    match rest with
    | '{' :: more =>
      let digits := more.takeWhile (· != '}')
      some ((code 16 digits.length digits).1, more.drop (digits.length + 1))
    | more => some (code 16 2 more)
  | 'c' => rest.head?.map fun d => (Char.ofNat (d.toUpper.toNat ^^^ 64), rest.drop 1)
  | c => if c.isAlphanum then none else some (c, rest)

/-- A letter, perhaps with no regard to its case. -/
def letterPart (switches : Switches) (c : Char) : RegexPart :=
  if switches.fold ∧ c.isAlpha then .choice false [.range c.toLower c.toLower, .range c.toUpper c.toUpper]
  else .letter c

/-- A choice of letters, perhaps with no regard to their case. -/
def choicePart (switches : Switches) (negated : Bool) (members : List Member) : RegexPart :=
  if switches.fold then
    .choice negated (membersWhere fun c =>
      members.any fun member => member.has c || member.has c.toLower || member.has c.toUpper)
  else .choice negated members

/-! ## Choices between brackets -/

/-- One or more members at the front between brackets: a single letter, or a whole kind. -/
def bracketPiece (cs : Letters) : Except LookingFault ((Char ⊕ List Member) × Letters) :=
  match cs with
  | [] => .error .openBrackets
  | '[' :: ':' :: rest =>
    let (negated, named) : Bool × Letters := match rest with
      | '^' :: named => (true, named)
      | named => (false, named)
    let name := named.takeWhile Char.isAlpha
    match named.drop name.length with
    | ':' :: ']' :: after =>
      if name = letters "word" then .ok (.inr (membersWhere fun c => isNameLetter c != negated), after)
      else if (isOfClass? (String.ofList name) 'a').isSome then
        .ok (.inr (membersWhere fun c => ((isOfClass? (String.ofList name) c).getD false) != negated), after)
      else .error .wrongClass
    | _ => .ok (.inl '[', ':' :: rest)
  | ['\\'] => .error .lastBackslash
  | '\\' :: 'b' :: rest => .ok (.inl '\x08', rest)
  | '\\' :: c :: rest =>
    match kind? c with
    | some members => .ok (.inr members, rest)
    | none =>
      if isOctal c then
        let digits := ((c :: rest).take 3).takeWhile isOctal
        .ok (.inl (Char.ofNat ((Text.valueIn? 8 digits).getD 0 % 256)), (c :: rest).drop digits.length)
      else match namedLetter c rest with
        | some (letter, after) => .ok (.inl letter, after)
        | none => .error .wrongLetter
  | c :: rest => .ok (.inl c, rest)

/-- Reads members up to the bracket that closes them, at most `fuel` of them. -/
def readBrackets : (fuel : Nat) → (isFirst : Bool) → Letters → Except LookingFault (List Member × Letters)
  | 0, _, _ => .error .openBrackets
  | fuel + 1, isFirst, cs =>
    match isFirst, cs with
    | false, ']' :: rest => .ok ([], rest)
    | _, cs => do
      let (piece, after) ← bracketPiece cs
      let more (members : List Member) (after : Letters) : Except LookingFault (List Member × Letters) := do
        let (others, last) ← readBrackets fuel false after
        return (members ++ others, last)
      match piece, after with
      | .inr members, after => more members after
      | .inl c, '-' :: ']' :: last => more [.range c c] ('-' :: ']' :: last)
      | .inl c, '-' :: last =>
        match ← bracketPiece last with
        | (.inl d, behind) => if d < c then throw .wrongRange else more [.range c d] behind
        | (.inr members, behind) => more (.range c c :: .range '-' '-' :: members) behind
      | .inl c, after => more [.range c c] after

/-! ## Parts -/

/-- The repetition at the front, and the rest. -/
def repetition? (cs : Letters) : Option (Repetition × Letters) :=
  match cs with
  | '*' :: rest => some ({}, rest)
  | '+' :: rest => some ({ least := 1 }, rest)
  | '?' :: rest => some ({ greatest := some 1 }, rest)
  | '{' :: rest =>
    let number (text : Letters) : Nat := Nat.ofDigitChars 10 text 0
    let least := rest.takeWhile Char.isDigit
    let behind := rest.drop least.length
    if least = [] then none
    else match behind with
      | '}' :: after => some ({ least := number least, greatest := some (number least) }, after)
      | ',' :: more =>
        let most := more.takeWhile Char.isDigit
        match more.drop most.length with
        | '}' :: after =>
          some ({ least := number least, greatest := if most = [] then none else some (number most) }, after)
        | _ => none
      | _ => none
  | _ => none

/-- Reads the repetition behind a part; there is at most one, and none behind a condition on the place. -/
def readRepetition (part : RegexPart) (cs : Letters) : Except LookingFault (RegexPart × Letters) :=
  match repetition? cs with
  | none => .ok (part, cs)
  | some (repetition, rest) =>
    if repetition.greatest.any (· < repetition.least) then .error .wrongBounds
    else if part.isPlace then .error .nothingRepeated
    else
      let (whole, after) : RegexPart × Letters := match rest with
        | '?' :: after => (.repeated part { repetition with lazily := true }, after)
        | '+' :: after => (.firstOf (.repeated part repetition), after)
        | after => (.repeated part repetition, after)
      if (repetition? after).isSome then .error .nothingRepeated else .ok (whole, after)

/-- A reference to a group. -/
def reference (state : State) (number : Nat) (rest : Letters) : Reading :=
  if number = 0 then .error .wrongReference else .ok (.again number, { state with rest })

/-- A reference to a group that is written between two marks: a number, perhaps counted back, or a
name. -/
def namedReference (state : State) (closing : Char) (cs : Letters) : Reading :=
  let text := cs.takeWhile (· != closing)
  let rest := cs.drop (text.length + 1)
  match text with
  | '-' :: digits => reference state (state.groups + 1 - Nat.ofDigitChars 10 digits 0) rest
  | digits =>
    if digits.all Char.isDigit ∧ digits ≠ [] then reference state (Nat.ofDigitChars 10 digits 0) rest
    else reference state ((state.names.lookup text).getD 0) rest

/-- Reads what stands behind a backslash. -/
def readEscape (state : State) (c : Char) (rest : Letters) : Reading :=
  let plain (part : RegexPart) (rest : Letters) : Reading := .ok (part, { state with rest })
  match kind? c with
  | some members => plain (.choice false members) rest
  | none =>
    match c, rest with
    | 'b', _ => plain (.wordEdge true true) rest
    | 'B', _ => plain .notWordEdge rest
    | 'A', _ => plain .textStart rest
    | 'G', _ => plain .textStart rest
    | 'z', _ => plain .textEnd rest
    | 'Z', _ => plain .textEnd rest
    | 'K', _ => plain .forget rest
    | 'N', _ => plain (.choice true [.range '\n' '\n']) rest
    | 'R', _ => plain (.choice false (membersWhere isLineMark)) rest
    | 'E', _ => plain .empty rest
    | 'k', '<' :: name => namedReference state '>' name
    | 'k', '\'' :: name => namedReference state '\'' name
    | 'k', '{' :: name => namedReference state '}' name
    | 'g', '{' :: name => namedReference state '}' name
    | 'g', digits => namedReference { state with rest } ' ' (digits.takeWhile Char.isDigit) |>.map
        fun (part, after) => (part, { after with rest := digits.dropWhile Char.isDigit })
    | c, rest =>
      if c.isDigit ∧ c ≠ '0' then
        let digits := (c :: rest).takeWhile Char.isDigit
        let number := Nat.ofDigitChars 10 digits 0
        reference state number ((c :: rest).drop digits.length)
      else match namedLetter c rest with
        | some (letter, after) => plain (letterPart state.switches letter) after
        | none => .error .wrongLetter

/-- Sets switches by their letters; behind a dash they are put off. -/
def setSwitches (switches : Switches) : (on : Bool) → Letters → Switches
  | _, [] => switches
  | _, '-' :: cs => setSwitches switches false cs
  | on, c :: cs =>
    setSwitches
      (match c with
        | 'i' => { switches with fold := on }
        | 's' => { switches with anyIsAll := on }
        | 'x' => { switches with spaced := on }
        | _ => switches)
      on cs

/-- Passes blanks and comments over that mean nothing, at most `fuel` of them. -/
def skipBlanks : (fuel : Nat) → Letters → Letters
  | 0, cs => cs
  | fuel + 1, c :: cs =>
    if isSpace c then skipBlanks fuel cs
    else if c = '#' then skipBlanks fuel (cs.dropWhile (· != '\n'))
    else c :: cs
  | _, [] => []

/-- Reads a group, of which the opening parenthesis has been passed; `whole` reads what stands in it. -/
def readGroup (whole : State → Reading) (state : State) : Reading :=
  let closing (part : RegexPart) (after : State) : Reading :=
    match after.rest with
    | ')' :: rest => .ok (part, { after with rest, switches := state.switches })
    | _ => .error .openGroup
  let inner (rest : Letters) (make : RegexPart → RegexPart) : Reading := do
    let (part, after) ← whole { state with rest }
    closing (make part) after
  let numbered (name : Option Letters) (rest : Letters) : Reading := do
    let number := state.groups + 1
    let names := match name with
      | some name => (name, number) :: state.names
      | none => state.names
    let (part, after) ← whole { state with rest, groups := number, names }
    closing (.group number part) after
  let named (mark : Char) (cs : Letters) : Reading :=
    let name := cs.takeWhile (· != mark)
    numbered (some name) (cs.drop (name.length + 1))
  match state.rest with
  | '?' :: '#' :: rest =>
    match rest.dropWhile (· != ')') with
    | _ :: after => .ok (.empty, { state with rest := after })
    | [] => .error .openGroup
  | '?' :: ':' :: rest => inner rest id
  | '?' :: '|' :: rest => inner rest id
  | '?' :: '>' :: rest => inner rest .firstOf
  | '?' :: '=' :: rest => inner rest (.ahead false)
  | '?' :: '!' :: rest => inner rest (.ahead true)
  | '?' :: '<' :: '=' :: rest => inner rest (.behind false)
  | '?' :: '<' :: '!' :: rest => inner rest (.behind true)
  | '?' :: '<' :: rest => named '>' rest
  | '?' :: 'P' :: '<' :: rest => named '>' rest
  | '?' :: '\'' :: rest => named '\'' rest
  | '?' :: 'P' :: '=' :: rest => namedReference state ')' rest
  | '?' :: rest =>
    let marks := rest.takeWhile fun c => c == '-' || c == '^' || c.isAlpha
    let switches := setSwitches state.switches true marks
    if marks = [] ∨ marks.any fun c => !"-imsxnU".toList.contains c then .error .wrongGroup
    else match rest.drop marks.length with
      | ')' :: after => .ok (.empty, { state with rest := after, switches })
      | ':' :: after => do
        let (part, last) ← whole { state with rest := after, switches }
        closing part last
      | _ => .error .wrongGroup
  | rest => numbered none rest

/-- Reads one part without repetitions, of which there is a first letter. -/
def readPart (whole : State → Reading) (state : State) (c : Char) (rest : Letters) : Reading :=
  let plain (part : RegexPart) (rest : Letters) : Reading := .ok (part, { state with rest })
  match c, rest with
  | '(', _ => readGroup whole { state with rest }
  | '\\', [] => .error .lastBackslash
  | '\\', d :: after => readEscape state d after
  | '.', _ => plain (if state.switches.anyIsAll then .anyLetter else .choice true [.range '\n' '\n']) rest
  | '^', _ => plain .lineStart rest
  | '$', _ => plain .lineEnd rest
  | '[', _ => do
    let (negated, start) : Bool × Letters := match rest with
      | '^' :: start => (true, start)
      | start => (false, start)
    let (members, after) ← readBrackets (start.length + 1) true start
    plain (choicePart state.switches negated members) after
  | c, _ =>
    if (repetition? (c :: rest)).isSome then .error .nothingRepeated
    else plain (letterPart state.switches c) rest

/-- Reads a row of parts, at most `fuel` of them. -/
def readRow (whole : State → Reading) : (fuel : Nat) → State → Reading
  | 0, state => .ok (.empty, state)
  | fuel + 1, state =>
    match (if state.switches.spaced then skipBlanks state.rest.length state.rest else state.rest) with
    | [] => .ok (.empty, { state with rest := [] })
    | '\\' :: 'Q' :: rest => do
      let verbatim (fuel : Nat) : Letters × Letters :=
        (List.range fuel).foldl
          (fun (state : Letters × Letters) _ => match state.2 with
            | '\\' :: 'E' :: _ => state
            | c :: cs => (state.1 ++ [c], cs)
            | [] => state)
          ([], rest)
      let (text, after) := verbatim rest.length
      let (final, rest) ← match text.getLast? with
        | some c => readRepetition (letterPart state.switches c) (after.drop 2)
        | none => pure (.empty, after.drop 2)
      let (others, last) ← readRow whole fuel { state with rest }
      return (text.dropLast.foldr (fun c part => .sequence (letterPart state.switches c) part)
        (.sequence final others), last)
    | c :: rest =>
      if c = '|' ∨ c = ')' then .ok (.empty, { state with rest := c :: rest })
      else do
        let (part, after) ← readPart whole state c rest
        let (part, rest) ← readRepetition part after.rest
        let (others, last) ← readRow whole fuel { after with rest }
        return (match others with
          | .empty => part
          | others => .sequence part others, last)

/-- Reads alternatives, at most `fuel` levels deep. -/
def readAlternatives : (fuel : Nat) → State → Reading
  | 0, _ => .error .openGroup
  | fuel + 1, state => do
    let (first, after) ← readRow (readAlternatives fuel) (state.rest.length + 1) state
    match after.rest with
    | '|' :: rest =>
      let (others, last) ← readAlternatives fuel { after with rest }
      return (.either first others, last)
    | _ => return (first, after)

/-- The numbers of letters that a part can take, if all its matches take the same number. -/
def width? : RegexPart → Option Nat
  | .letter _ => some 1
  | .anyLetter => some 1
  | .choice _ _ => some 1
  | .again _ => none
  | .group _ part => width? part
  | .firstOf part => width? part
  | .sequence first second => return (← width? first) + (← width? second)
  | .either first second => do
    let width ← width? first
    if (← width? second) = width then some width else none
  | .repeated part repetition => do
    if repetition.greatest = some repetition.least then return (← width? part) * repetition.least else none
  | _ => some 0

/-- The alternatives of a part. -/
def alternatives : RegexPart → List RegexPart
  | .either first second => alternatives first ++ alternatives second
  | .group _ part => alternatives part
  | part => [part]

/-- Whether each alternative of all looks back takes a number of letters that is known. -/
def looksAreBounded : RegexPart → Bool
  | .behind _ part => (alternatives part).all fun part => (width? part).isSome
  | .ahead _ part => looksAreBounded part
  | .group _ part => looksAreBounded part
  | .firstOf part => looksAreBounded part
  | .repeated part _ => looksAreBounded part
  | .sequence first second => looksAreBounded first && looksAreBounded second
  | .either first second => looksAreBounded first && looksAreBounded second
  | _ => true

/-- The greatest number of a group that is referred to. -/
def greatestReference : RegexPart → Nat
  | .again number => number
  | .behind _ part => greatestReference part
  | .ahead _ part => greatestReference part
  | .group _ part => greatestReference part
  | .firstOf part => greatestReference part
  | .repeated part _ => greatestReference part
  | .sequence first second => max (greatestReference first) (greatestReference second)
  | .either first second => max (greatestReference first) (greatestReference second)
  | _ => 0

/-- The regular expression that a text is. -/
def parse (fold : Bool) (text : Letters) : Except LookingFault Regex := do
  let (part, state) ← readAlternatives (text.length + 1) { rest := text, switches := { fold } }
  if !state.rest.isEmpty then
    throw .closingGroup
  if !looksAreBounded part then
    throw .unboundedLook
  if state.groups < greatestReference part then
    throw .wrongReference
  return { part, groups := state.groups, firstCounts := true }

end LookingRegex

end MonitorBench.Shell
