import MonitorBench.Shell.Edit.Command
import MonitorBench.Shell.Print
import MonitorBench.Shell.Regex.Reader

/-!
# Reading editing commands

A script for editing is read from the front: addresses, the letter of a command, and what
belongs to the command. A command ends at a semicolon, at a closing brace or at the end of
its line; texts and names of files go to the end of the line.
-/

set_option autoImplicit false

namespace MonitorBench.Shell

/-- Why a text is no script for editing. -/
structure EditFault where
  reason : Letters
  /-- What was not yet read; nothing if the fault has no place. -/
  rest : Option Letters

/-- Reading fails at a place. -/
def editFault {α : Type} (reason : String) (rest : Letters) : Except EditFault α :=
  .error { reason := letters reason, rest := some rest }

/-- Passes over blanks. -/
def dropBlanks (cs : Letters) : Letters :=
  cs.dropWhile fun c => c == ' ' || c == '\t'

/-- The number that digits at the front give, and the rest. -/
def numberAtFront (cs : Letters) : Nat × Letters :=
  let digits := cs.takeWhile Char.isDigit
  (Nat.ofDigitChars 10 digits 0, cs.drop digits.length)

/-! ## Texts between delimiters -/

/-- The letters up to the bracket that closes a choice of letters, which has been opened, and the
rest; nothing if it is not closed in its line. -/
def bracketed? : (fuel : Nat) → (isFirst : Bool) → Letters → Option (Letters × Letters)
  | 0, _, _ => none
  | fuel + 1, isFirst, cs =>
    let more (taken rest : Letters) : Option (Letters × Letters) :=
      (bracketed? fuel false rest).map fun (others, last) => (taken ++ others, last)
    match cs with
    | [] => none
    | '\n' :: _ => none
    | ']' :: rest => if isFirst then more [']'] rest else some ([']'], rest)
    | '[' :: mark :: rest =>
      if mark = ':' ∨ mark = '.' ∨ mark = '=' then
        match (Text.splitOn ']' rest).head? with
        | some inner =>
          if inner.getLast? = some mark ∧ inner.length < rest.length ∧ !inner.contains '\n' then
            more ('[' :: mark :: inner ++ [']']) (rest.drop (inner.length + 1))
          else more ['['] (mark :: rest)
        | none => none
      else more ['['] (mark :: rest)
    | c :: rest => more [c] rest

/-- Takes the letters up to a delimiter that is not escaped, and the rest, in at most `fuel` steps. An
escaped delimiter is the delimiter; other escapes stay. Between the brackets of a pattern a delimiter is
a letter. -/
def untilDelimiter (delimiter : Char) (isPattern : Bool) : (fuel : Nat) → Letters → Option (Letters × Letters)
  | 0, _ => none
  | _, [] => none
  | fuel + 1, '\\' :: c :: rest =>
    let taken : Letters :=
      if c = delimiter ∧ (isPattern ∨ c ≠ '&') then [c]
      else if c = '\n' ∧ isPattern then ['\n']
      else if c = 'n' ∧ isPattern then ['\n']
      else ['\\', c]
    (untilDelimiter delimiter isPattern fuel rest).map fun (others, after) => (taken ++ others, after)
  | fuel + 1, c :: rest =>
    if c = delimiter then
      some ([], rest)
    else if c = '\n' then
      none
    else if c = '[' ∧ isPattern then
      let (front, inner) : Letters × Letters := match rest with
        | '^' :: inner => (['[', '^'], inner)
        | inner => (['['], inner)
      match bracketed? (inner.length + 1) true inner with
      | some (taken, after) =>
        (untilDelimiter delimiter isPattern fuel after).map fun (others, last) =>
          (front ++ taken ++ others, last)
      | none => none
    else
      (untilDelimiter delimiter isPattern fuel rest).map fun (others, after) => (c :: others, after)

/-- The letter that is given by its number in a base behind a letter for the base, and the rest. -/
def numberedLetter? (base most : Nat) (cs : Letters) : Option (Char × Letters) :=
  let digits := (cs.take most).takeWhile fun c => (Text.valueIn? base [c]).isSome
  if digits = [] then none
  else (Text.valueIn? base digits).map fun n => (Char.ofNat (n % 256), cs.drop digits.length)

/-- The letter that an escape stands for whatever it stands in, and the rest. -/
def plainEscape? : Letters → Option (Char × Letters)
  | 'a' :: rest => some (Char.ofNat 7, rest)
  | 'f' :: rest => some (Char.ofNat 12, rest)
  | 't' :: rest => some ('\t', rest)
  | 'r' :: rest => some ('\r', rest)
  | 'v' :: rest => some (Char.ofNat 11, rest)
  | 'c' :: c :: rest => some (Char.ofNat (c.toUpper.toNat ^^^ 64), rest)
  | 'd' :: rest => numberedLetter? 10 3 rest
  | 'o' :: rest => numberedLetter? 8 3 rest
  | 'x' :: rest => numberedLetter? 16 2 rest
  | _ => none

/-- A pattern with the escapes replaced that stand for letters, in at most `fuel` steps. -/
def withoutEscapes : (fuel : Nat) → Letters → Letters
  | 0, cs => cs
  | _, [] => []
  | fuel + 1, '\\' :: rest =>
    match plainEscape? rest, rest with
    | some (c, after), _ => c :: withoutEscapes fuel after
    | none, 'n' :: after => '\n' :: withoutEscapes fuel after
    | none, c :: after => '\\' :: c :: withoutEscapes fuel after
    | none, [] => ['\\']
  | fuel + 1, c :: rest => c :: withoutEscapes fuel rest

/-- Reads what is put in for a match, in at most `fuel` steps. -/
def readReplacement : (fuel : Nat) → Letters → List Replacement
  | 0, _ => []
  | _, [] => []
  | fuel + 1, '\\' :: rest =>
    match rest with
    | [] => [.letter '\\']
    | c :: after =>
      let go (part : Replacement) : List Replacement := part :: readReplacement fuel after
      if c.isDigit then go (.group (c.toNat - 48))
      else match c with
        | 'n' => go (.letter '\n')
        | 'U' => go (.changeCase .upper)
        | 'L' => go (.changeCase .lower)
        | 'E' => go (.changeCase .keep)
        | 'u' => go (.changeNext .upper)
        | 'l' => go (.changeNext .lower)
        | _ =>
          match plainEscape? rest with
          | some (d, last) => .letter d :: readReplacement fuel last
          | none => go (.letter c)
  | fuel + 1, '&' :: rest => .group 0 :: readReplacement fuel rest
  | fuel + 1, c :: rest => .letter c :: readReplacement fuel rest

/-! ## Addresses -/

/-- How the patterns of a script are written. -/
structure EditStyle where
  extended : Bool := false

/-- The regular expression in a script, which ends before a rest; an empty one is what was looked for
last. -/
def editPattern (style : EditStyle) (text : Letters) (mode : RegexMode) (rest : Letters) :
    Except EditFault EditPattern :=
  if text = [] then
    .ok { regex := none, mode }
  else
    match Regex.parse { extended := style.extended, strict := true } (withoutEscapes (text.length + 1) text) with
    | .ok regex => .ok { regex := some regex, mode }
    | .error fault => editFault fault.message rest

/-- The flags behind the pattern of an address, and the rest. -/
def addressFlags : Letters → RegexMode × Letters
  | [] => ({}, [])
  | c :: rest =>
    if c = ' ' ∨ c = '\t' then addressFlags rest
    else if c = 'I' then let (mode, last) := addressFlags rest; ({ mode with fold := true }, last)
    else if c = 'M' then let (mode, last) := addressFlags rest; ({ mode with manyLines := true }, last)
    else ({}, c :: rest)

/-- Reads an address that is a pattern, behind its delimiter. -/
def readPatternAddress (style : EditStyle) (delimiter : Char) (cs : Letters) : Except EditFault ((Option Address) × Letters) :=
  match untilDelimiter delimiter true (cs.length + 1) cs with
  | none => editFault "unterminated address regex" []
  | some (text, after) => do
    let (mode, last) := addressFlags after
    return (some (.fits (← editPattern style text mode after)), last)

/-- Reads an address, if there is one. -/
def readAddress (style : EditStyle) (isSecond : Bool) (cs : Letters) : Except EditFault ((Option Address) × Letters) :=
  match cs with
  | '$' :: rest => .ok (some .last, rest)
  | '/' :: rest => readPatternAddress style '/' rest
  | '\\' :: delimiter :: rest => readPatternAddress style delimiter rest
  | c :: rest =>
    if isSecond ∧ (c = '+' ∨ c = '~') ∧ rest.head?.any Char.isDigit then
      let (number, after) := numberAtFront rest
      .ok (some (if c = '+' then .further number else .multiple number), after)
    else if c.isDigit then
      let (first, after) := numberAtFront (c :: rest)
      match dropBlanks after with
      | '~' :: more =>
        let (step, last) := numberAtFront (dropBlanks more)
        .ok (some (if step = 0 then .line first else .every first step), last)
      | _ => .ok (some (.line first), after)
    else .ok (none, cs)
  | [] => .ok (none, [])

/-- Reads the lines that a command is for. -/
def readChosen (style : EditStyle) (cs : Letters) : Except EditFault (Chosen × Letters) := do
  let (first, afterFirst) ← readAddress style false cs
  let (second, afterSecond) ← match first, dropBlanks afterFirst with
    | some _, ',' :: rest => do
      let (second, after) ← readAddress style true (dropBlanks rest)
      if second.isNone then
        editFault "unexpected `,'" ((dropBlanks rest).drop 1)
      pure (second, after)
    | _, _ => pure (none, afterFirst)
  let after := dropBlanks afterSecond
  let isPattern : Bool := match second with
    | some (.fits _) => true
    | _ => false
  match first with
  | some (.line 0) => if !isPattern then editFault "invalid usage of line address 0" (after.drop 1)
  | _ => pure ()
  match after with
  | '!' :: rest =>
    let more := dropBlanks rest
    if more.head? = some '!' then
      editFault "multiple `!'s" (more.drop 1)
    return ({ first, second, negated := true }, more)
  | rest => return ({ first, second }, rest)

/-! ## Commands -/

/-- The end of a command: blanks, and perhaps the semicolon or line feed behind it. -/
def endCommand (cs : Letters) : Except EditFault Letters :=
  match dropBlanks cs with
  | [] => .ok []
  | c :: rest =>
    if c = ';' ∨ c = '\n' then .ok rest
    else if c = '}' ∨ c = '#' then .ok (c :: rest)
    else editFault "extra characters after command" rest

/-- A text up to a line feed that is not escaped, in which a backslash takes the meaning from the
letter behind it, and the rest. -/
def untilLineEnd : (fuel : Nat) → Letters → Letters × Letters
  | 0, cs => (cs, [])
  | _, [] => ([], [])
  | _, ['\\'] => ([], [])
  | fuel + 1, '\\' :: rest =>
    match plainEscape? rest with
    | some (c, after) =>
      let (taken, last) := untilLineEnd fuel after
      (c :: taken, last)
    | none =>
      let (taken, last) := untilLineEnd fuel (rest.drop 1)
      (rest.headD '\n' :: taken, last)
  | _, '\n' :: rest => ([], rest)
  | fuel + 1, c :: rest =>
    let (taken, last) := untilLineEnd fuel rest
    (c :: taken, last)

/-- The text of a command that adds lines, and the rest. -/
def readAddedText (cs : Letters) : Except EditFault (Letters × Letters) :=
  match dropBlanks cs with
  | [] => editFault "expected \\ after `a', `c' or `i'" []
  | ['\\'] => .ok ([], [])
  | '\\' :: rest =>
    match dropBlanks rest with
    | '\n' :: lines =>
      let (text, last) := untilLineEnd (lines.length + 1) lines
      .ok (text ++ ['\n'], last)
    | _ =>
      let (text, last) : Letters × Letters := match rest with
        | c :: more =>
          let (text, last) := untilLineEnd (more.length + 1) more
          (if c = '\n' then (text, last) else (c :: text, last))
        | [] => ([], [])
      .ok (text ++ ['\n'], last)
  | start =>
    let (text, last) := untilLineEnd (start.length + 1) start
    .ok (text ++ ['\n'], last)

/-- The name of a label, and the rest. -/
def readLabel (cs : Letters) : Letters × Letters :=
  let start := dropBlanks cs
  let name := start.takeWhile fun c => !isSpace c && c != ';' && c != '}'
  (name, start.drop name.length)

/-- The name of a file up to the end of the line, and the rest. -/
def readFileName (cs : Letters) : Except EditFault (Letters × Letters) :=
  let start := dropBlanks cs
  let name := start.takeWhile (· != '\n')
  if name = [] then editFault "missing filename in r/R/w/W commands" start
  else .ok (name, start.drop (name.length + 1))

/-- Reads the flags of a substitution, at most `fuel` of them. -/
def readFlags : (fuel : Nat) → Substitution → (counted : Bool) → Letters → Except EditFault ((Substitution × RegexMode) × Letters)
  | 0, substitution, _, cs => .ok ((substitution, {}), cs)
  | fuel + 1, substitution, counted, cs =>
    let withMode (f : RegexMode → RegexMode) (rest : Letters) : Except EditFault ((Substitution × RegexMode) × Letters) :=
      (readFlags fuel substitution counted rest).map fun ((flags, mode), last) => ((flags, f mode), last)
    match cs with
    | [] => .ok ((substitution, {}), [])
    | 'g' :: rest =>
      if substitution.all then editFault "multiple `g' options to `s' command" rest
      else readFlags fuel { substitution with all := true } counted rest
    | 'p' :: rest =>
      if substitution.print then editFault "multiple `p' options to `s' command" rest
      else readFlags fuel { substitution with print := true } counted rest
    | 'e' :: rest => readFlags fuel { substitution with runs := true } counted rest
    | 'i' :: rest => withMode (fun mode => { mode with fold := true }) rest
    | 'I' :: rest => withMode (fun mode => { mode with fold := true }) rest
    | 'm' :: rest => withMode (fun mode => { mode with manyLines := true }) rest
    | 'M' :: rest => withMode (fun mode => { mode with manyLines := true }) rest
    | 'w' :: rest => do
      let (target, last) ← readFileName rest
      return (({ substitution with target := some target }, {}), last)
    | c :: rest =>
      if c.isDigit then
        let (nth, after) := numberAtFront cs
        if counted then editFault "multiple number options to `s' command" after
        else if nth = 0 then editFault "number option to `s' command may not be zero" after
        else readFlags fuel { substitution with nth } true after
      else if c = '}' ∨ c = '#' then .ok ((substitution, {}), c :: rest)
      else if c = '\n' ∨ c = ';' then .ok ((substitution, {}), rest)
      else if c = ' ' ∨ c = '\t' then readFlags fuel substitution counted rest
      else editFault "unknown option to `s'" rest

/-- The greatest group that is put in. -/
def greatestGroup (replacement : List Replacement) : Nat :=
  replacement.foldl (fun most part => match part with
    | .group number => max most number
    | _ => most) 0

/-- Reads a substitution, behind its letter. -/
def readSubstitution (style : EditStyle) (cs : Letters) : Except EditFault (Edit × Letters) :=
  match cs with
  | [] => editFault "unterminated `s' command" []
  | delimiter :: rest => do
    let some (text, afterPattern) := untilDelimiter delimiter true (rest.length + 1) rest
      | editFault "unterminated `s' command" []
    let some (put, afterPut) := untilDelimiter delimiter false (afterPattern.length + 1) afterPattern
      | editFault "unterminated `s' command" []
    let replacement := readReplacement (put.length + 1) put
    let ((substitution, mode), last) ←
      readFlags (afterPut.length + 1) { pattern := { regex := none }, replacement } false afterPut
    let pattern ← editPattern style text mode last
    let most := greatestGroup replacement
    if pattern.regex.any fun regex => regex.groups < most then
      throw {
        reason := letters "invalid reference \\" ++ (Nat.toDigits 10 most) ++ letters " on `s' command's RHS"
        rest := some last }
    return (.substitute { substitution with pattern }, last)

/-- The letters of one side of a transliteration; nothing if an escape has no meaning. -/
def unescapeSide : (fuel : Nat) → Letters → Letters
  | 0, cs => cs
  | _, [] => []
  | fuel + 1, '\\' :: rest =>
    match rest with
    | '\\' :: after => '\\' :: unescapeSide fuel after
    | 'n' :: after => '\n' :: unescapeSide fuel after
    | rest =>
      match plainEscape? rest with
      | some (c, after) => c :: unescapeSide fuel after
      | none => '\\' :: unescapeSide fuel rest
  | fuel + 1, c :: rest => c :: unescapeSide fuel rest

/-- Reads a transliteration, behind its letter. -/
def readTransliteration (cs : Letters) : Except EditFault (Edit × Letters) :=
  match cs with
  | [] => editFault "unterminated `y' command" []
  | delimiter :: rest => do
    let some (left, afterLeft) := untilDelimiter delimiter false (rest.length + 1) rest
      | editFault "unterminated `y' command" []
    let some (right, last) := untilDelimiter delimiter false (afterLeft.length + 1) afterLeft
      | editFault "unterminated `y' command" []
    let source := unescapeSide (left.length + 1) left
    let target := unescapeSide (right.length + 1) right
    if source.length ≠ target.length then
      editFault "strings for `y' command are different lengths" last
    return (.transliterate (List.zip source target), ← endCommand last)

/-- Reads the number that may stand behind a command, and the end of the command. -/
def readNumber (cs : Letters) : Except EditFault ((Option Nat) × Letters) := do
  let start := dropBlanks cs
  let digits := start.takeWhile Char.isDigit
  let number := if digits = [] then none else some (Nat.ofDigitChars 10 digits 0)
  return (number, ← endCommand (start.drop digits.length))

/-- The commands that are letters only. -/
def plainEdits : List (Char × Edit) :=
  [('d', .delete), ('D', .deleteFirst), ('p', .print), ('P', .printFirst), ('=', .number), ('n', .next),
   ('N', .join), ('h', .keep false), ('H', .keep true), ('g', .recall false), ('G', .recall true),
   ('x', .exchange), ('F', .fileName), ('z', .clear)]

/-- Reads what is done to chosen lines, and the rest. -/
def readEdit (style : EditStyle) (chosen : Chosen) (cs : Letters) : Except EditFault (Edit × Letters) :=
  match cs with
  | [] => editFault "missing command" []
  | c :: rest =>
    let file (f : Letters → Edit) : Except EditFault (Edit × Letters) :=
      (readFileName rest).map fun (name, last) => (f name, last)
    let text (f : Letters → Edit) : Except EditFault (Edit × Letters) :=
      (readAddedText rest).map fun (text, last) => (f text, last)
    let branch (after : Option Bool) : Except EditFault (Edit × Letters) := do
      let (name, last) := readLabel rest
      return (.branch name after, ← match last with
        | '}' :: _ => pure last
        | _ => pure ((dropBlanks last).dropWhile fun c => c == ';' || c == '\n'))
    let quit (silently : Bool) : Except EditFault (Edit × Letters) :=
      if chosen.second.isSome then editFault "command only uses one address" rest
      else (readNumber rest).map fun (status, last) => (.quit silently (status.getD 0), last)
    match c with
    | 's' => readSubstitution style rest
    | 'y' => readTransliteration rest
    | 'q' => quit false
    | 'Q' => quit true
    | 'a' => text fun text => .append (.text text)
    | 'i' => text .insert
    | 'c' => text .change
    | 'r' => file fun path => .append (.file path)
    | 'R' => file fun path => .append (.lineOf path)
    | 'w' => file fun path => .write path false
    | 'W' => file fun path => .write path true
    | 'e' =>
      let start := dropBlanks rest
      let command := start.takeWhile (· != '\n')
      .ok (.run command, start.drop (command.length + 1))
    | 'l' => (readNumber rest).map fun (width, last) => (.list width, last)
    | 'b' => branch none
    | 't' => branch (some true)
    | 'T' => branch (some false)
    | 'v' => .ok (.nothing, ((readLabel rest).2).drop 1)
    | ':' =>
      if chosen.first.isSome then
        editFault ": doesn't want any addresses" rest
      else
        let (name, last) := readLabel rest
        if name = [] then editFault "\":\" lacks a label" last
        else if last.head? = some '}' then editFault "unexpected `\x7d'" (last.drop 1)
        else .ok (.label name, last)
    | '{' => .ok (.opening, rest)
    | '}' =>
      if chosen.first.isSome then editFault "\x7d doesn't want any addresses" rest
      else (endCommand rest).map fun last => (.closing, last)
    | ',' => editFault "unexpected `,'" rest
    | c =>
      match plainEdits.lookup c with
      | some edit => (endCommand rest).map fun last => (edit, last)
      | none => editFault ("unknown command: `" ++ String.ofList [c] ++ "'") rest

/-- Reads commands, at most `fuel` of them; some blocks are open. -/
def readEdits (style : EditStyle) : (fuel opened : Nat) → Letters → Except EditFault (List EditCommand)
  | 0, _, _ => .ok []
  | fuel + 1, opened, cs => do
    let start := cs.dropWhile fun c => isSpace c || c == ';'
    match start with
    | [] => if opened = 0 then return [] else throw { reason := letters "unmatched `\x7b'", rest := none }
    | '#' :: comment => readEdits style fuel opened (comment.dropWhile (· != '\n'))
    | start =>
      let (chosen, rest) ← readChosen style start
      let (edit, after) ← readEdit style chosen rest
      let opened ← match edit with
        | .opening => pure (opened + 1)
        | .closing => if opened = 0 then editFault "unexpected `\x7d'" (rest.drop 1) else pure (opened - 1)
        | _ => pure opened
      return { chosen, edit } :: (← readEdits style fuel opened after)

/-- The first label that a command goes to and that is not there. -/
def missingLabel? (commands : List EditCommand) : Option Letters :=
  let labels := commands.filterMap fun command => match command.edit with
    | .label name => some name
    | _ => none
  commands.findSome? fun command => match command.edit with
    | .branch name _ => if name = [] ∨ labels.contains name then none else some name
    | _ => none

/-- Reads a script. -/
def readEditScript (style : EditStyle) (text : Letters) : Except EditFault (List EditCommand) := do
  let commands ← readEdits style (text.length + 1) 0 text
  match missingLabel? commands with
  | some name => throw { reason := letters "can't find label for jump to `" ++ name ++ ['\''], rest := none }
  | none => return commands

end MonitorBench.Shell
