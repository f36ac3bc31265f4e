import MonitorBench.Shell.Regex.Reader
import MonitorBench.Shell.Utility.Basic

/-!
# What is asked of files that are looked for

A quest is an expression of tests and actions that is evaluated for one file after the
other. Tests that stand side by side have all to hold; marks negate and enclose tests, and
divide alternatives. Other words lay down how deep files are looked for.
-/

set_option autoImplicit false

namespace MonitorBench.Shell

/-- A number that another one has to be equal to, below, or above. -/
structure Bound where
  comparison : Ordering
  limit : Nat

namespace Bound

/-- Whether a number fits. -/
def fits (bound : Bound) (n : Nat) : Bool :=
  compare n bound.limit == bound.comparison

/-- The bound that a text gives. -/
def ofText? (text : Letters) : Option Bound :=
  match text with
  | '+' :: rest => (natural? rest).map fun limit => { comparison := .gt, limit }
  | '-' :: rest => (natural? rest).map fun limit => { comparison := .lt, limit }
  | rest => (natural? rest).map fun limit => { comparison := .eq, limit }

end Bound

/-- How permissions are compared. -/
inductive PermissionTest where
  | equal
  | all
  | any
  deriving DecidableEq

/-- What is asked of files that are looked for, or done with them. -/
inductive Quest where
  | name (pattern : Letters) (fold : Bool)
  | whole (pattern : Letters) (fold : Bool)
  | regex (expression : Regex) (fold : Bool)
  /-- Whether it is of one of some kinds; the kind of a link can be that of what it leads to. -/
  | kind (letters : List Char) (through : Bool)
  | empty
  /-- The size in units of so many bytes. -/
  | size (bound : Bound) (unit : Nat)
  | permissions (mode : Nat) (test : PermissionTest)
  | names (bound : Bound)
  /-- How long ago it was changed, in units that a new file has used up none of or one. -/
  | age (bound : Bound) (units : Nat)
  /-- Whether it may be read, written or started. -/
  | allows (letter : Char)
  /-- Whether it is the file at a path. -/
  | sameFile (path : Letters)
  | linkPath (pattern : Letters) (fold : Bool)
  | constant (holds : Bool)
  | print (ending : Char) (target : Option Letters)
  | printFormat (format : Letters) (target : Option Letters)
  | delete
  /-- Starts a program, for each file or once for all of them, where the file is or not, and perhaps
  only if somebody agrees. -/
  | start (words : List Letters) (once inside asks : Bool)
  /-- What a directory holds is not visited. -/
  | prune
  | quit
  | negation (quest : Quest)
  | both (first second : Quest)
  | either (first second : Quest)
  /-- Both are evaluated, and the second one counts. -/
  | sequence (first second : Quest)

/-- How deep files are looked for, and in which order. -/
structure Depths where
  least : Nat := 0
  greatest : Option Nat := none
  /-- Whether a directory comes after what it holds. -/
  later : Bool := false
  /-- Whether links are followed. -/
  through : Bool := false

namespace Quest

/-- Whether something is done with the files. -/
def acts : Quest → Bool
  | .print _ _ => true
  | .printFormat _ _ => true
  | .delete => true
  | .start _ _ _ _ => true
  | .negation quest => quest.acts
  | .both first second => first.acts || second.acts
  | .either first second => first.acts || second.acts
  | .sequence first second => first.acts || second.acts
  | _ => false

/-- The paths that something is printed into. -/
def targets : Quest → List Letters
  | .print _ target => target.toList
  | .printFormat _ target => target.toList
  | .negation quest => quest.targets
  | .both first second => first.targets ++ second.targets
  | .either first second => first.targets ++ second.targets
  | .sequence first second => first.targets ++ second.targets
  | _ => []

/-- The paths of files that have to be there. -/
def models : Quest → List Letters
  | .sameFile path => [path]
  | .negation quest => quest.models
  | .both first second => first.models ++ second.models
  | .either first second => first.models ++ second.models
  | .sequence first second => first.models ++ second.models
  | _ => []

/-- What is read: a quest, the words behind it, and how deep files are looked for. -/
abbrev Reading := Except Letters (Quest × List Letters × Depths)

/-- What is reported if a word is no test. -/
def unknown (word : Letters) : Letters :=
  letters "unknown predicate `" ++ word ++ ['\'']

/-- What is reported if the value of a test is missing. -/
def incomplete (word : String) : Letters :=
  letters ("missing argument to `" ++ word ++ "'")

/-- The words up to the mark that closes them, whether they are for all files at once, and the words
behind the mark; nothing if they are not closed. -/
def untilClosed : List Letters → Option (List Letters × Bool × List Letters)
  | [] => none
  | [';'] :: rest => some ([], false, rest)
  | ['{', '}'] :: ['+'] :: rest => some ([], true, rest)
  | word :: rest => (untilClosed rest).map fun (words, once, after) => (word :: words, once, after)

/-- The basic regular expression that has a meaning in which more marks count without backslashes, in at
most `fuel` steps. -/
def withPlainMarks : (fuel : Nat) → Letters → Letters
  | 0, _ => []
  | _, [] => []
  | fuel + 1, '\\' :: c :: rest =>
    (if "(|)".toList.contains c then [c] else ['\\', c]) ++ withPlainMarks fuel rest
  | fuel + 1, '[' :: rest =>
    let start := match rest with
      | '^' :: ']' :: _ => rest.take 2
      | ']' :: _ => rest.take 1
      | _ => []
    let inner := start ++ (rest.drop start.length).takeWhile (· != ']')
    '[' :: inner ++ (rest.drop inner.length).take 1 ++ withPlainMarks fuel (rest.drop (inner.length + 1))
  | fuel + 1, c :: rest =>
    (if "(|)\x7b\x7d".toList.contains c then ['\\', c] else [c]) ++ withPlainMarks fuel rest

/-- The regular expression that a text is in the way that a name says. -/
def regexOf (way : String) (text : Letters) : Except Letters Regex :=
  let parsed :=
    if ["posix-extended", "posix-egrep", "egrep", "awk", "gnu-awk", "posix-awk"].contains way then
      Regex.parse { extended := true } text
    else if ["posix-basic", "grep", "sed", "ed", "posix-minimal-basic"].contains way then
      Regex.parse {} text
    else Regex.parse { extended := true } (withPlainMarks (text.length + 1) text)
  parsed.mapError fun fault => letters fault.message

/-- The number of bytes in the unit of a size. -/
def unitOf? : Char → Option Nat
  | 'c' => some 1
  | 'w' => some 2
  | 'b' => some 512
  | 'k' => some 1024
  | 'M' => some 1048576
  | 'G' => some 1073741824
  | _ => none

/-- The permissions that a text in letters asks for, in terms of read, write and run for the three kinds
of users. -/
def permissionsOf? (text : Letters) : Option Nat :=
  if text ≠ [] ∧ text.all isOctal then some (Text.valueIn? 8 text |>.getD 0)
  else
    (Text.splitOn ',' text).foldlM (fun mode part =>
      let users := part.takeWhile fun c => "ugoa".toList.contains c
      match part.drop users.length with
      | operator :: letters =>
        if "=+-".toList.contains operator ∧ letters.all fun c => "rwxX".toList.contains c then
          let all := users.isEmpty || users.contains 'a'
          let bits := (if letters.contains 'r' then 4 else 0) + (if letters.contains 'w' then 2 else 0)
            + (if letters.contains 'x' then 1 else 0)
          let spread := (if all || users.contains 'u' then bits * 64 else 0)
            + (if all || users.contains 'g' then bits * 8 else 0) + (if all || users.contains 'o' then bits else 0)
          some (if operator = '-' then mode - (mode &&& spread) else mode ||| spread)
        else none
      | [] => none) 0

/-- Reads a test or an action, and gives the words behind it; `whole` reads what stands between
parentheses, and `way` is the way in which regular expressions are written. -/
def readOne (whole : List Letters → Depths → Reading) (way : String) (depths : Depths) (word : Letters)
    (rest : List Letters) : Reading :=
  let name := String.ofList word
  let done (quest : Quest) (rest : List Letters) : Reading := .ok (quest, rest, depths)
  let valued (quest : Letters → Except Letters Quest) : Reading :=
    match rest with
    | value :: rest => (quest value).bind fun quest => done quest rest
    | [] => .error (incomplete name)
  let bounded (quest : Bound → Quest) : Reading :=
    valued fun value =>
      match Bound.ofText? value with
      | some bound => .ok (quest bound)
      | none => .error (letters "invalid argument " ++ quoted value ++ letters (" to `" ++ name ++ "'"))
  let deep (change : Nat → Depths) : Reading :=
    match rest with
    | value :: rest =>
      match natural? value with
      | some depth => .ok (.constant true, rest, change depth)
      | none =>
        .error (letters ("Expected a positive decimal integer argument to " ++ name ++ ", but got ") ++ quoted value)
    | [] => .error (incomplete name)
  let started (inside asks : Bool) : Reading :=
    match untilClosed rest with
    | some ([], _, _) => .error (incomplete name)
    | some (words, once, after) => done (.start words once inside asks) after
    | none => .error (incomplete name)
  let kinds (through : Bool) : Reading := valued fun value =>
    let parts := Text.splitOn ',' value
    match parts.find? fun part => !(part matches [_]) || !(part.all fun c => "bcdpflsD".toList.contains c) with
    | some [] => .error (letters ("Arguments to " ++ name ++ " should contain at least one letter"))
    | some (c :: _) => .error (letters ("Unknown argument to " ++ name ++ ": ") ++ [c])
    | none => .ok (.kind parts.flatten through)
  let printedTo (quest : Letters → Quest) : Reading := valued fun value => .ok (quest value)
  match name with
  | "-name" => valued (.ok <| .name · false)
  | "-iname" => valued (.ok <| .name · true)
  | "-path" => valued (.ok <| .whole · false)
  | "-wholename" => valued (.ok <| .whole · false)
  | "-ipath" => valued (.ok <| .whole · true)
  | "-iwholename" => valued (.ok <| .whole · true)
  | "-regex" => valued fun value => (regexOf way value).map (.regex · false)
  | "-iregex" => valued fun value => (regexOf way value).map (.regex · true)
  | "-regextype" => valued fun _ => .ok (.constant true)
  | "-type" => kinds false
  | "-xtype" => kinds true
  | "-empty" => done .empty rest
  | "-size" => valued fun value =>
    let unit? := value.getLast?.bind unitOf?
    match Bound.ofText? (if unit?.isSome then value.dropLast else value) with
    | some bound => .ok (.size bound (unit?.getD 512))
    | none => .error (letters "Invalid argument `" ++ value ++ letters "' to -size")
  | "-perm" => valued fun value =>
    let (test, text) : PermissionTest × Letters := match value with
      | '-' :: text => (.all, text)
      | '/' :: text => (.any, text)
      | text => (.equal, text)
    match permissionsOf? text with
    | some mode => .ok (.permissions mode test)
    | none => .error (letters "invalid mode " ++ quoted value)
  | "-links" => bounded .names
  | "-mtime" => bounded (.age · 0)
  | "-atime" => bounded (.age · 0)
  | "-ctime" => bounded (.age · 0)
  | "-mmin" => bounded (.age · 1)
  | "-amin" => bounded (.age · 1)
  | "-cmin" => bounded (.age · 1)
  | "-newer" => valued fun value => .ok (.both (.sameFile value) (.constant false))
  | "-anewer" => valued fun value => .ok (.both (.sameFile value) (.constant false))
  | "-cnewer" => valued fun value => .ok (.both (.sameFile value) (.constant false))
  | "-samefile" => valued (.ok <| .sameFile ·)
  | "-lname" => valued (.ok <| .linkPath · false)
  | "-ilname" => valued (.ok <| .linkPath · true)
  | "-readable" => done (.allows 'r') rest
  | "-writable" => done (.allows 'w') rest
  | "-executable" => done (.allows 'x') rest
  | "-user" => valued fun value => .ok (.constant (value == letters "root" || value == ['0']))
  | "-group" => valued fun value => .ok (.constant (value == letters "root" || value == ['0']))
  | "-uid" => bounded fun bound => .constant (bound.fits 0)
  | "-gid" => bounded fun bound => .constant (bound.fits 0)
  | "-nouser" => done (.constant false) rest
  | "-nogroup" => done (.constant false) rest
  | "-true" => done (.constant true) rest
  | "-false" => done (.constant false) rest
  | "-maxdepth" => deep fun depth => { depths with greatest := some depth }
  | "-mindepth" => deep fun depth => { depths with least := depth }
  | "-depth" => .ok (.constant true, rest, { depths with later := true })
  | "-d" => .ok (.constant true, rest, { depths with later := true })
  | "-follow" => .ok (.constant true, rest, { depths with through := true })
  | "-mount" => done (.constant true) rest
  | "-xdev" => done (.constant true) rest
  | "-noleaf" => done (.constant true) rest
  | "-daystart" => done (.constant true) rest
  | "-warn" => done (.constant true) rest
  | "-nowarn" => done (.constant true) rest
  | "-ignore_readdir_race" => done (.constant true) rest
  | "-print" => done (.print '\n' none) rest
  | "-print0" => done (.print '\x00' none) rest
  | "-fprint" => printedTo fun target => .print '\n' (some target)
  | "-fprint0" => printedTo fun target => .print '\x00' (some target)
  | "-printf" => valued fun format => .ok (.printFormat format none)
  | "-fprintf" =>
    match rest with
    | target :: format :: rest => done (.printFormat format (some target)) rest
    | _ => .error (incomplete name)
  | "-ls" => done (.printFormat (letters "        0 %6k %M %3n root     root     %8s Jan  1  1970 %p\n") none) rest
  | "-delete" => .ok (.delete, rest, { depths with later := true })
  | "-prune" => done .prune rest
  | "-quit" => done .quit rest
  | "-exec" => started false false
  | "-execdir" => started true false
  | "-ok" => started false true
  | "-okdir" => started true true
  | "(" =>
    match rest with
    | [')'] :: _ => .error (letters "invalid expression; empty parentheses are not allowed.")
    | _ => do
      let (quest, after, depths) ← whole rest depths
      match after with
      | [')'] :: last => return (quest, last, depths)
      | _ => throw (letters "invalid expression; I was expecting to find a ')' somewhere but did not see one.")
  | ")" => .error (letters "invalid expression; you have too many ')'")
  | _ =>
    if word.head? = some '-' ∧ 2 ≤ word.length then .error (unknown word)
    else .error (letters "paths must precede expression: `" ++ word ++ ['\''])

/-- The marks between parts, from the one that binds least on. -/
inductive QuestMark where
  | after
  | either
  | both
  deriving DecidableEq

/-- The mark that a word is. -/
def markOf? (word : Letters) : Option QuestMark :=
  match String.ofList word with
  | "," => some .after
  | "-o" => some .either
  | "-or" => some .either
  | "-a" => some .both
  | "-and" => some .both
  | _ => none

/-- Reads parts with marks between them that bind as much as one or more, in at most `fuel` steps. -/
def readFrom (way : String) : (fuel : Nat) → QuestMark → List Letters → Depths → Reading
  | 0, _, words, depths => .ok (.constant true, words, depths)
  | fuel + 1, level, words, depths =>
    match level with
    | .after => do
      let (first, rest, depths) ← readFrom way fuel .either words depths
      match rest with
      | word :: after =>
        if markOf? word = some .after then do
          let (second, last, depths) ← readFrom way fuel .after (← following word after) depths
          return (.sequence first second, last, depths)
        else return (first, rest, depths)
      | [] => return (first, [], depths)
    | .either => do
      let (first, rest, depths) ← readFrom way fuel .both words depths
      match rest with
      | word :: after =>
        if markOf? word = some .either then do
          let (second, last, depths) ← readFrom way fuel .either (← following word after) depths
          return (.either first second, last, depths)
        else return (first, rest, depths)
      | [] => return (first, [], depths)
    | .both => do
      let (first, rest, depths) ← readNegated way fuel words depths
      match rest with
      | [] => return (first, [], depths)
      | word :: after =>
        if word = [')'] then return (first, rest, depths)
        else match markOf? word with
          | some .both => do
            let (second, last, depths) ← readFrom way fuel .both (← following word after) depths
            return (.both first second, last, depths)
          | some _ => return (first, rest, depths)
          | none => do
            let (second, last, depths) ← readFrom way fuel .both rest depths
            return (.both first second, last, depths)
where
  /-- The words behind a mark, if there are some. -/
  following (mark : Letters) (rest : List Letters) : Except Letters (List Letters) :=
    match rest with
    | [] => .error (letters "expected an expression after " ++ quoted mark)
    | rest => .ok rest
  /-- Reads a test or an action that may be negated. -/
  readNegated (way : String) : (fuel : Nat) → List Letters → Depths → Reading
    | 0, words, depths => .ok (.constant true, words, depths)
    | _, [], _ => .error (letters "expected an expression")
    | fuel + 1, word :: rest, depths =>
      if word = ['!'] ∨ word = letters "-not" then do
        let (quest, after, depths) ← readNegated way fuel (← following word rest) depths
        return (.negation quest, after, depths)
      else if (markOf? word).isSome then
        .error (letters "invalid expression; you have used a binary operator " ++ quoted word ++ letters " with nothing before it.")
      else readOne (readFrom way fuel .after) way depths word rest

/-- Reads a whole quest. -/
def ofWords (depths : Depths) (words : List Letters) : Except Letters (Quest × Depths) := do
  if words.isEmpty then
    return (.constant true, depths)
  let way := match (List.zip words (words.drop 1)).reverse.lookup (letters "-regextype") with
    | some way => String.ofList way
    | none => "emacs"
  let (quest, rest, depths) ← readFrom way (4 * words.length + 4) .after words depths
  match rest with
  | [] => return (quest, depths)
  | word :: _ => throw (if word = [')'] then letters "invalid expression; you have too many ')'" else unknown word)

end Quest

end MonitorBench.Shell
