import MonitorBench.Document.Toml.Quoted
import MonitorBench.Document.Toml.Scalar
import MonitorBench.Document.Toml.Tables

/-!
# Reading TOML

A document is a row of lines: headers, definitions, blank lines and comments. Lists and
tables in brackets may run over several lines, hold comments, and end in a comma. The
length of the text bounds both the number of lines and the depth of brackets, and no
bracket may stand inside more than `nestingLimit` others. Keys have at most as many names.
-/

set_option autoImplicit false

namespace MonitorBench.Document.Toml

/-- Drops spaces and tabs. -/
def skipBlanks (cs : List Char) : List Char :=
  cs.dropWhile isBlank

/-- Drops blanks, line breaks and comments; `inComment` tells whether a comment is open. -/
def skipLines (inComment : Bool) : List Char → Option (List Char)
  | [] => some []
  | '\n' :: cs => skipLines false cs
  | '\r' :: '\n' :: cs => skipLines false cs
  | c :: cs =>
    if inComment then
      if isControl c then none else skipLines true cs
    else if isBlank c then
      skipLines false cs
    else if c = '#' then
      skipLines true cs
    else
      some (c :: cs)

/-- Takes the end of a line off the front, with the comment before it. -/
def endLine (inComment : Bool) : List Char → Option (List Char)
  | [] => some []
  | '\n' :: cs => some cs
  | '\r' :: '\n' :: cs => some cs
  | c :: cs =>
    if inComment then
      if isControl c then none else endLine true cs
    else if isBlank c then
      endLine false cs
    else if c = '#' then
      endLine true cs
    else
      none

/-- Whether a character may stand in a name without quotes. -/
def isNameChar (c : Char) : Bool :=
  c.isAlphanum || c == '_' || c == '-'

/-- Reads one name. -/
def readName (cs : List Char) : Option (String × List Char) :=
  match readShort? cs with
  | some quoted => quoted.map fun (name, rest) => (String.ofList name, rest)
  | none =>
    let name := cs.takeWhile isNameChar
    if name = [] then none else some (String.ofList name, cs.dropWhile isNameChar)

/-- How many brackets a bracket may stand in, and how many names a key may have. -/
def nestingLimit : Nat := 80

/-- Reads at most `fuel` names with dots between them. -/
def readNames : (fuel : Nat) → List Char → Option (List String × List Char)
  | 0, _ => none
  | fuel + 1, cs => do
    let (name, rest) ← readName (skipBlanks cs)
    match skipBlanks rest with
    | '.' :: more =>
      let (names, after) ← readNames fuel more
      return (name :: names, after)
    | after => return ([name], after)

/-- Reads a key, with or without dots. -/
def readKey (cs : List Char) : Option (List String × List Char) :=
  readNames nestingLimit cs

mutual

/-- Reads a value that stands inside `depth` brackets. -/
def readValue : Nat → Nat → List Char → Option (Value × List Char)
  | 0, _, _ => none
  | fuel + 1, depth, cs =>
    match readQuoted? cs with
    | some quoted => quoted.map fun (text, rest) => (.text (String.ofList text), rest)
    | none =>
      match cs with
      | '[' :: rest => do
        if nestingLimit ≤ depth then
          none
        else
          let (items, after) ← readItems fuel (depth + 1) rest
          return (.list items, after)
      | '{' :: rest => do
        if nestingLimit ≤ depth then
          none
        else
          let (fields, after) ← readFields fuel (depth + 1) [] rest
          return (.table (fieldValues fields), after)
      | _ => do
        let (scalar, rest) := takeScalar cs
        let value ← scalarValue? scalar
        return (value, rest)

/-- Reads the values of a list up to its closing bracket. -/
def readItems : Nat → Nat → List Char → Option (List Value × List Char)
  | 0, _, _ => none
  | fuel + 1, depth, cs => do
    match ← skipLines false cs with
    | ']' :: after => return ([], after)
    | body =>
      let (item, rest) ← readValue fuel depth body
      match ← skipLines false rest with
      | ',' :: more =>
        let (items, after) ← readItems fuel depth more
        return (item :: items, after)
      | ']' :: after => return ([item], after)
      | _ => none

/-- Reads the definitions of a table in braces up to its closing brace. -/
def readFields : Nat → Nat → Fields → List Char → Option (Fields × List Char)
  | 0, _, _, _ => none
  | fuel + 1, depth, fields, cs => do
    match ← skipLines false cs with
    | '}' :: after => return (fields, after)
    | body =>
      let (key, afterKey) ← readKey body
      match afterKey with
      | '=' :: rest =>
        let (value, afterValue) ← readValue fuel depth (skipBlanks rest)
        let defined ← define (.leaf value) key fields
        match ← skipLines false afterValue with
        | ',' :: more => readFields fuel depth defined more
        | '}' :: after => return (defined, after)
        | _ => none
      | _ => none

end

/-- Reads lines into the table that the last header opened. -/
def readLines : Nat → List String → Fields → List Char → Option Fields
  | 0, _, _, _ => none
  | fuel + 1, current, fields, cs => do
    match ← skipLines false cs with
    | [] => return fields
    | '[' :: '[' :: rest =>
      let (path, afterKey) ← readKey rest
      match afterKey with
      | ']' :: ']' :: after =>
        readLines fuel path (← openSeries path fields) (← endLine false after)
      | _ => none
    | '[' :: rest =>
      let (path, afterKey) ← readKey rest
      match afterKey with
      | ']' :: after => readLines fuel path (← openTable path fields) (← endLine false after)
      | _ => none
    | body =>
      let (key, afterKey) ← readKey body
      match afterKey with
      | '=' :: rest =>
        let value := skipBlanks rest
        let (value, after) ← readValue (value.length + 1) 0 value
        readLines fuel current (← within (define (.leaf value) key) current fields)
          (← endLine false after)
      | _ => none

/-- Reads a document, with or without a byte order mark. -/
def read (text : String) : Except Fault Value :=
  let cs := match text.toList with
    | '\ufeff' :: rest => rest
    | all => all
  match readLines (cs.length + 1) [] [] cs with
  | some fields => .ok (.table (fieldValues fields))
  | none => .error .malformed

end MonitorBench.Document.Toml
