import MonitorBench.Disk.Basic
import MonitorBench.Shell.Letter

/-!
# Patterns

In a pattern a star stands for any letters, a question mark for any letter, and members
between square brackets for one letter that is, or is not, among them. A backslash takes
the meaning from the letter behind it; a bracket that is not closed stands for itself. A
pattern with wildcards also stands for the paths that it matches, name by name; a name
that begins with a dot has to be asked for with a dot.
-/

set_option autoImplicit false

namespace MonitorBench.Shell

/-- A member of a choice of letters. -/
inductive Member where
  /-- The letters from one to another. -/
  | range (first last : Char)
  /-- The letters of a class. -/
  | ofClass (name : Letters)

/-- A part of a pattern. -/
inductive PatternPart where
  | letter (c : Char)
  | anyLetter
  | anyLetters
  | choice (negated : Bool) (members : List Member)

/-- Whether a letter belongs to a class, if there is such a class. -/
def isOfClass? (name : String) (c : Char) : Option Bool :=
  let code := c.toNat
  let isPrinted := 33 ≤ code && code ≤ 126
  match name with
  | "alpha" => some c.isAlpha
  | "digit" => some c.isDigit
  | "alnum" => some c.isAlphanum
  | "upper" => some c.isUpper
  | "lower" => some c.isLower
  | "space" => some (isSpace c)
  | "blank" => some (c == ' ' || c == '\t')
  | "punct" => some (isPrinted && !c.isAlphanum)
  | "graph" => some isPrinted
  | "print" => some (isPrinted || c == ' ')
  | "cntrl" => some (code < 32 || code == 127)
  | "xdigit" => some (c.isDigit || ('a' ≤ c && c ≤ 'f') || ('A' ≤ c && c ≤ 'F'))
  | _ => none

namespace Member

/-- Whether a letter is the member. -/
def has (member : Member) (c : Char) : Bool :=
  match member with
  | .range first last => first ≤ c && c ≤ last
  | .ofClass name => (isOfClass? (String.ofList name) c).getD false

end Member

/-- The class that a text begins with, without its opening bracket, and the rest. -/
def classAtFront? : Letters → Option (Letters × Letters)
  | ':' :: rest =>
    let name := rest.takeWhile Char.isAlpha
    match rest.drop name.length with
    | ':' :: ']' :: after =>
      if (isOfClass? (String.ofList name) 'a').isSome then some (name, after) else none
    | _ => none
  | _ => none

/-- The members up to the bracket that closes them, and the rest; the first may be a bracket. -/
def readMembers : (fuel : Nat) → (isFirst : Bool) → Letters → Option (List Member × Letters)
  | 0, _, _ => none
  | _, _, [] => none
  | fuel + 1, isFirst, c :: rest =>
    if c = ']' ∧ !isFirst then
      some ([], rest)
    else
      let more (member : Member) (after : Letters) : Option (List Member × Letters) :=
        (readMembers fuel false after).map fun (members, last) => (member :: members, last)
      let single (c : Char) (after : Letters) : Option (List Member × Letters) :=
        match after with
        | '-' :: '\\' :: d :: last => more (.range c d) last
        | '-' :: ']' :: _ => more (.range c c) after
        | '-' :: d :: last => more (.range c d) last
        | _ => more (.range c c) after
      match c, classAtFront? rest, rest with
      | '[', some (name, after), _ => more (.ofClass name) after
      | '\\', _, d :: after => single d after
      | _, _, _ => single c rest

/-- The parts of a pattern, at most `fuel` of them. -/
def readPattern : (fuel : Nat) → Letters → List PatternPart
  | 0, _ => []
  | _, [] => []
  | fuel + 1, '*' :: rest => .anyLetters :: readPattern fuel rest
  | fuel + 1, '?' :: rest => .anyLetter :: readPattern fuel rest
  | fuel + 1, '\\' :: c :: rest => .letter c :: readPattern fuel rest
  | fuel + 1, '[' :: rest =>
    let (negated, members) : Bool × Letters := match rest with
      | '!' :: members => (true, members)
      | members => (false, members)
    match readMembers (members.length + 1) true members with
    | some (members, after) => .choice negated members :: readPattern fuel after
    | none => .letter '[' :: readPattern fuel rest
  | fuel + 1, c :: rest => .letter c :: readPattern fuel rest

/-- The parts of a pattern. -/
def patternParts (pattern : Letters) : List PatternPart :=
  readPattern (pattern.length + 1) pattern

namespace PatternPart

/-- Whether a part can stand for more than one text. -/
def isWild : PatternPart → Bool
  | .letter _ => false
  | _ => true

/-- Whether a part other than any letters matches a letter. -/
def fits (part : PatternPart) (c : Char) : Bool :=
  match part with
  | .letter d => c == d
  | .choice negated members => members.any (·.has c) != negated
  | _ => true

/-- Whether parts match a text. -/
def fitAll : List PatternPart → Letters → Bool
  | [], text => text.isEmpty
  | .anyLetters :: parts, [] => fitAll parts []
  | .anyLetters :: parts, c :: text => fitAll parts (c :: text) || fitAll (.anyLetters :: parts) text
  | _ :: _, [] => false
  | part :: parts, c :: text => part.fits c && fitAll parts text
termination_by parts text => parts.length + text.length

end PatternPart

/-- Whether a pattern matches a text. -/
def isMatch (pattern text : Letters) : Bool :=
  PatternPart.fitAll (patternParts pattern) text

/-- What a pattern says without its wildcards: the letters, without the backslashes before them. -/
def unescaped : Letters → Letters
  | '\\' :: c :: rest => c :: unescaped rest
  | c :: rest => c :: unescaped rest
  | [] => []

/-- The names of a pattern that is a path; a slash that is escaped separates them, too. -/
def patternNames : Letters → List Letters
  | [] => [[]]
  | '/' :: rest => [] :: patternNames rest
  | '\\' :: '/' :: rest => [] :: patternNames rest
  | '\\' :: c :: rest =>
    match patternNames rest with
    | name :: names => ('\\' :: c :: name) :: names
    | [] => [['\\', c]]
  | c :: rest =>
    match patternNames rest with
    | name :: names => (c :: name) :: names
    | [] => [[c]]

/-- The names in a directory, in no order. -/
def namesIn (disk : Disk) (directory : Location) : List String :=
  disk.entries.filterMap fun (place, _) =>
    match place.getLast? with
    | some name => if place.dropLast = directory then some name else none
    | none => none

/-- The names that a pattern can match in a directory; `aim` takes the links out of a path. -/
def candidates (disk : Disk) (aim : String → String) (path pattern : Letters) : List Letters :=
  let dotted := (unescaped pattern).head? = some '.'
  match disk.locate (aim (if path = [] then "." else spelled path)) with
  | .error _ => []
  | .ok place =>
    if disk.entry? place = some .directory then
      let names := (namesIn disk place).map letters
      if dotted then ['.'] :: ['.', '.'] :: names else names.filter (·.head? != some '.')
    else
      []

/-- The paths behind a path that names match; `wild` tells whether there were wildcards before. -/
def pathsFrom (disk : Disk) (aim : String → String) : (path : Letters) → (wild : Bool) → List Letters → List Letters
  | _, _, [] => []
  | path, wild, name :: names =>
    let parts := patternParts name
    if parts.any PatternPart.isWild then
      let found := (candidates disk aim path name).filter (PatternPart.fitAll parts)
      if names.isEmpty then
        found.map (path ++ ·)
      else
        found.flatMap fun next => pathsFrom disk aim (path ++ next ++ ['/']) true names
    else
      let next := path ++ unescaped name
      if names.isEmpty then
        if wild && disk.holds (aim (spelled next)) then [next] else []
      else
        pathsFrom disk aim (next ++ ['/']) wild names

/-- Whether a text comes before another one in a list, letter by letter. -/
def comesBefore : Letters → Letters → Bool
  | [], _ => true
  | _ :: _, [] => false
  | c :: cs, d :: ds => if c = d then comesBefore cs ds else c.toNat < d.toNat

/-- The paths that a pattern matches, in order. -/
def matchingPaths (disk : Disk) (aim : String → String) (pattern : Letters) : List Letters :=
  (pathsFrom disk aim [] false (patternNames pattern)).mergeSort comesBefore

end MonitorBench.Shell
