import MonitorBench.Shell.Arithmetic
import MonitorBench.Shell.Link
import MonitorBench.Shell.Runner

/-!
# What words stand for

A word is expanded piece by piece: a tilde to a home, a parameter to its value or to what
is made of it, a command to what it prints, without line feeds at the end, and an
arithmetic expression to its value. Quotes protect what stands between them. What is put in
without quotes can fall apart into fields and can be a pattern.
-/

set_option autoImplicit false

namespace MonitorBench.Shell

/-- The separators of fields if nothing else is laid down. -/
def standardSeparators : Letters := [' ', '\t', '\n']

/-- The name of the variable with the separators. -/
def separatorsName : Letters := letters "IFS"

/-- The separators of fields. -/
def Process.separators (process : Process) : Letters :=
  (process.lookup separatorsName).getD standardSeparators

/-- What stands between arguments that are joined. -/
def Process.joiner (process : Process) : Letters :=
  match process.lookup separatorsName with
  | none => [' ']
  | some separators => separators.take 1

/-- The value of a parameter; all arguments together are joined. -/
def Process.parameter? (process : Process) (name : Letters) : Option Letters :=
  match name with
  | ['@'] => some (process.joiner.intercalate process.arguments)
  | ['*'] => some (process.joiner.intercalate process.arguments)
  | ['#'] => some (digits process.arguments.length)
  | ['?'] => some (digits process.status)
  | ['$'] => some (digits process.first)
  | ['!'] => process.lastJob.map digits
  | ['-'] => some process.options
  | name =>
    if isNumber name then
      match (Text.ofDigits? name).map UInt64.toNat with
      | some 0 => some process.name
      | some index => process.arguments[index - 1]?
      | none => none
    else
      process.lookup name

/-- The home that a name behind a tilde means. -/
def Process.homeOf? (process : Process) (name : Letters) : Option Letters :=
  if name = [] then process.lookup (letters "HOME")
  else if name = letters "root" then some (letters "/root")
  else none

/-- What a text with tildes stands for. With `begins` a tilde counts at its front, with `colons`
behind every colon; `isLast` tells whether nothing follows the text. -/
def expandTildes (process : Process) (strength : Strength) (colons isLast : Bool) :
    (begins : Bool) → Letters → List Sign
  | _, [] => []
  | begins, c :: rest =>
    let stops (c : Char) : Bool := c == '/' || (colons && c == ':')
    let name := rest.takeWhile fun c => !stops c
    let home := if begins ∧ c = '~' ∧ (isLast ∨ name.length < rest.length) then process.homeOf? name else none
    match home with
    | some home =>
      Sign.ofLetters .firm home ++ expandTildes process strength colons isLast false (rest.drop name.length)
    | none =>
      .letter strength c :: expandTildes process strength colons isLast (colons && c == ':') rest
termination_by _ text => text.length
decreasing_by all_goals (simp only [List.length_cons, List.length_drop]; omega)

namespace Manner

/-- How well letters of the word itself are protected. -/
def strength (manner : Manner) : Strength :=
  if manner.quoted then .firm else if manner.inParameter then .soft else .plain

/-- The signs of a text that is put in. -/
def putIn (manner : Manner) (text : Letters) : List Sign :=
  if manner.quoted then Sign.ofLetters .firm text else .seam :: Sign.ofLetters .soft text

/-- Whether all arguments together are put in one by one, not joined to a text. -/
def keepsApart (manner : Manner) (name : Letters) : Bool :=
  (name = ['@'] || name = ['*']) && manner.splits && (!manner.quoted || name = ['@'])

/-- The signs of arguments that are put in one by one. -/
def putInApart (manner : Manner) (arguments : List Letters) : List Sign :=
  if manner.quoted then
    if arguments.isEmpty then []
    else .hold :: [Sign.wall].intercalate (arguments.map (Sign.ofLetters .firm))
  else
    .seam :: [Sign.gap].intercalate (arguments.map (Sign.ofLetters .soft))

/-- The signs of a parameter with its value. -/
def putInParameter (manner : Manner) (process : Process) (name value : Letters) : List Sign :=
  if manner.keepsApart name then manner.putInApart process.arguments else manner.putIn value

end Manner

/-- How many letters at one end of a text a pattern matches, the fewest or the most; nothing if it
matches none of its ends. -/
def fitAtEnd? (atEnd longest : Bool) (pattern text : Letters) : Option Nat :=
  let parts := patternParts pattern
  let lengths := List.range (text.length + 1)
  (if longest then lengths.reverse else lengths).find? fun n =>
    PatternPart.fitAll parts (if atEnd then text.drop (text.length - n) else text.take n)

/-- A text without what a pattern matches at one of its ends. -/
def trimmed (atEnd longest : Bool) (pattern text : Letters) : Letters :=
  match fitAtEnd? atEnd longest pattern text with
  | none => text
  | some n => if atEnd then text.take (text.length - n) else text.drop n

/-- Arguments without what a pattern matches at the end of the last of them that has a match there;
those behind it are dropped. The last argument comes first. -/
def trimmedFromBehind (pattern : Letters) : List Letters → Option (List Letters)
  | [] => none
  | last :: before =>
    match fitAtEnd? true false pattern last with
    | some n => some (last.take (last.length - n) :: before)
    | none => trimmedFromBehind pattern before

/-- Arguments without what a pattern matches in them. They are looked at as a whole, of which a match
cannot leave an argument: at the front it is one of the first argument, and a match behind it takes
away all that follows. -/
def trimmedApart (atEnd longest : Bool) (pattern : Letters) (arguments : List Letters) : List Letters :=
  match arguments with
  | [] => []
  | first :: others =>
    match atEnd, longest with
    | true, false => ((trimmedFromBehind pattern arguments.reverse).map List.reverse).getD arguments
    | true, true =>
      if (fitAtEnd? true true pattern first).isSome then [trimmed true true pattern first] else arguments
    | false, true =>
      if fitAtEnd? false true pattern first = some first.length then [[]]
      else trimmed false true pattern first :: others
    | false, false => trimmed false false pattern first :: others

/-- The text that a word stands for when it is no list of fields. -/
def expandText (runner : Runner) (manner : Manner) (word : Word) : Run Letters :=
  return Sign.text (← runner.expand manner word)

/-- The pattern that a word stands for. -/
def expandPattern (runner : Runner) (word : Word) : Run Letters :=
  return Sign.pattern (← runner.expand { tilde := .atStart } word)

/-- The fields that a word stands for. -/
def expandFields (runner : Runner) (word : Word) : Run (List Letters) := do
  let signs ← runner.expand { splits := true, tilde := .atStart } word
  let process ← process
  let system := (← get).system
  return (fieldsOf process.separators signs).flatMap (textsOf system.disk (system.aim true) !(process.has 'f'))

/-- The fields that words stand for. -/
def expandAll (runner : Runner) (words : List Word) : Run (List Letters) :=
  return (← words.mapM (expandFields runner)).flatten

/-- The value of an arithmetic expression; variables that it sets are set. -/
def evaluateText (text : Letters) : Run Int := do
  let process ← process
  match evaluate process.lookup text with
  | .ok (value, changed) =>
    for (name, value) in changed do
      setVariable name (Text.integerChars value.toInt)
    return value.toInt
  | .error (.noInteger value) => fail (letters "Illegal number: " ++ value)
  | .error .overflow => throw (.killed 8)
  | .error (.other reason) =>
    fail (letters "arithmetic expression: " ++ letters reason ++ letters ": \"" ++ text ++ ['"'])

/-- What a command prints, without line feeds at its end. -/
def outputOf (runner : Runner) (command : Option Command) : Run Letters := do
  let stream ← addStream (.pipe [])
  let status ← match command with
    | none => pure 0
    | some command => inChild runner do
      connect output stream
      runner.command false command
  change fun process => { process with lastOutputStatus := status }
  match (← get).system.streams[stream]? with
  | some (.pipe content) =>
    let content := content.filter (· != '\x00')
    return (content.reverse.dropWhile (· == '\n')).reverse
  | _ => return []

/-- The fault that a parameter is not set. -/
def notSet {α : Type} (name message : Letters) : Run α :=
  fail (name ++ letters ": " ++ message)

/-- What is put in for a parameter. -/
def expandParameter (runner : Runner) (manner : Manner) (name : Letters) (use : Use) : Run (List Sign) := do
  let process ← process
  let value := process.parameter? name
  let isUsable (orEmpty : Bool) : Bool :=
    match value with
    | none => false
    | some value => !(orEmpty && value.isEmpty)
  let putIn : List Sign := manner.putInParameter process name (value.getD [])
  let wordManner : Manner := { manner with inParameter := true, tilde := .atStart }
  let plainManner : Manner := { tilde := .atStart }
  let needed : Run Letters :=
    match value with
    | some value => return value
    | none => if process.has 'u' then notSet name (letters "parameter not set") else return []
  match use with
  | .value =>
    let _ ← needed
    return if value.isSome then putIn else []
  | .length => return manner.putIn (digits (← needed).length)
  | .default orEmpty word => if isUsable orEmpty then return putIn else runner.expand wordManner word
  | .alternative orEmpty word => if isUsable orEmpty then runner.expand wordManner word else return []
  | .assign orEmpty word =>
    if isUsable orEmpty then
      return putIn
    else
      let text ← expandText runner plainManner word
      if isName name then
        setVariable name text
        return manner.putIn text
      else
        notSet name (letters "bad variable name")
  | .demand orEmpty word =>
    if isUsable orEmpty then
      return putIn
    else if word.isEmpty then
      notSet name (letters (if orEmpty then "parameter not set or null" else "parameter not set"))
    else
      notSet name (← expandText runner plainManner word)
  | .trim atEnd longest word =>
    let text ← needed
    if value.isNone then
      return []
    let pattern ← expandPattern runner word
    if manner.keepsApart name then
      return manner.putInApart (trimmedApart atEnd longest pattern process.arguments)
    else
      return manner.putIn (trimmed atEnd longest pattern text)
  | .malformed => fail (letters "Bad substitution")

/-- What a piece of a word stands for. -/
def expandPiece (runner : Runner) (manner : Manner) : Piece → Run (List Sign)
  | .plain text => return Sign.ofLetters manner.strength text
  | .firm text => return if text.isEmpty then [.quote] else Sign.ofLetters .firm text
  | .quoted pieces =>
    match pieces with
    | [.parameter ['@'] .value] => expandParameter runner { manner with quoted := true } ['@'] .value
    | pieces => return .quote :: (← runner.expand { manner with quoted := true, tilde := .nowhere } pieces)
  | .parameter name use => expandParameter runner manner name use
  | .output command => return manner.putIn (← outputOf runner command)
  | .number pieces => do
    let text ← expandText runner { quoted := true } pieces
    return manner.putIn (Text.integerChars (← evaluateText text))

/-- What the pieces of a word stand for; `begins` tells whether a tilde counts at their front. -/
def expandPieces (runner : Runner) (manner : Manner) : (begins : Bool) → List Piece → Run (List Sign)
  | _, [] => return []
  | begins, piece :: pieces => do
    let signs ← match piece with
      | .plain text =>
        if manner.quoted ∨ manner.tilde = .nowhere then
          expandPiece runner manner piece
        else
          pure (expandTildes (← process) manner.strength (manner.tilde = .inValue) pieces.isEmpty begins text)
      | piece => expandPiece runner manner piece
    return signs ++ (← expandPieces runner manner false pieces)

/-- What a word stands for. -/
def expandWord (runner : Runner) (manner : Manner) (word : Word) : Run (List Sign) :=
  expandPieces runner manner true word

end MonitorBench.Shell
