import MonitorBench.Shell.Print
import MonitorBench.Shell.Utility.Lines
import MonitorBench.Text.Hexadecimal

/-!
# Utilities on letters

One changes, drops or squeezes the letters of two sets, which are written with ranges,
classes and repetitions. The other prints the numbers of letters in rows, in one or several
forms.
-/

set_option autoImplicit false

namespace MonitorBench.Shell

/-! ## Sets of letters -/

/-- A part of a set as it is written. -/
inductive SetPart where
  | letters (members : Letters)
  | ofClass (name : Letters)
  /-- The letters that count as equal to one. -/
  | equal (c : Char)
  /-- A letter as often as is said, or as often as is needed. -/
  | repeated (c : Char) (count : Option Nat)

/-- The letters that a class of a set has. -/
def classLetters (name : Letters) : Letters :=
  ((List.range 256).map Char.ofNat).filter fun c => (isOfClass? (String.ofList name) c).getD false

namespace SetPart

/-- The letters of a part. -/
def members : SetPart → Letters
  | .letters members => members
  | .ofClass name => classLetters name
  | .equal c => [c]
  | .repeated c count => List.replicate (count.getD 0) c

/-- Whether a part is a class of letters in one case. -/
def isCase : SetPart → Bool
  | .ofClass name => name = MonitorBench.Shell.letters "upper" || name = MonitorBench.Shell.letters "lower"
  | _ => false

/-- Whether a part is a class. -/
def isClass : SetPart → Bool
  | .ofClass _ => true
  | _ => false

/-- Whether a part is a repetition. -/
def isRepeated : SetPart → Bool
  | .repeated _ _ => true
  | _ => false

/-- Whether a part is a repetition as often as is needed. -/
def isFilling : SetPart → Bool
  | .repeated _ none => true
  | _ => false

/-- Whether a part stands for letters that count as equal. -/
def isEqual : SetPart → Bool
  | .equal _ => true
  | _ => false

end SetPart

/-- A text with the meaning of its backslashes; a letter behind one is marked. -/
def readSetLetters : (fuel : Nat) → Letters → List (Char × Bool)
  | 0, _ => []
  | _, [] => []
  | _, ['\\'] => [('\\', false)]
  | fuel + 1, '\\' :: c :: rest =>
    if isOctal c then
      let digits := ((c :: rest).take 3).takeWhile isOctal
      let value (digits : Letters) : Nat := (Text.valueIn? 8 digits).getD 0
      let digits := if 256 ≤ value digits then digits.take 2 else digits
      (Char.ofNat (value digits), true) :: readSetLetters fuel ((c :: rest).drop digits.length)
    else
      let meant := if c = 'e' then c else (controlLetter? c).getD c
      (meant, true) :: readSetLetters fuel rest
  | fuel + 1, c :: rest => (c, false) :: readSetLetters fuel rest

/-- The repetition that letters begin with behind a bracket, and the rest. -/
def bracketedRepeat? : List (Char × Bool) → Option (SetPart × List (Char × Bool))
  | (c, _) :: ('*', false) :: rest =>
    let digits := (rest.takeWhile fun member => !(member.1 == ']' && !member.2)).map Prod.fst
    match rest.drop digits.length with
    | _ :: after =>
      if digits = [] then some (.repeated c none, after)
      else if digits.all Char.isDigit then
        let base := if digits.head? = some '0' then 8 else 10
        (Text.valueIn? base digits).map fun count => (.repeated c (if count = 0 then none else some count), after)
      else none
    | [] => none
  | _ => none

/-- The class between brackets that letters begin with, behind its opening, with a mark on both sides,
and the rest. -/
def bracketedClass? (mark : Char) (rest : List (Char × Bool)) : Option (Letters × List (Char × Bool)) :=
  let find (fuel : Nat) : Option Nat := (List.range fuel).find? fun place =>
    rest[place]? == some (mark, false) && rest[place + 1]? == some (']', false)
  (find rest.length).map fun place => ((rest.take place).map Prod.fst, rest.drop (place + 2))

/-- The parts of a set, at most `fuel` of them, or why it is no set. -/
def readSetParts : (fuel : Nat) → List (Char × Bool) → Except Letters (List SetPart)
  | 0, _ => .ok []
  | _, [] => .ok []
  | fuel + 1, (c, isEscaped) :: rest =>
    let more (part : SetPart) (after : List (Char × Bool)) : Except Letters (List SetPart) :=
      (readSetParts fuel after).map (part :: ·)
    let plain : Except Letters (List SetPart) :=
      match rest with
      | ('-', false) :: (d, _) :: after =>
        if d < c then
          .error (letters "range-endpoints of '" ++ [c, '-', d]
            ++ letters "' are in reverse collating sequence order")
        else more (.letters ((List.range (d.toNat + 1 - c.toNat)).map fun n => Char.ofNat (c.toNat + n))) after
      | rest => more (.letters [c]) rest
    if c = '[' ∧ !isEscaped ∧ 2 ≤ rest.length then
      let enclosed := match rest with
        | (':', false) :: after => (bracketedClass? ':' after).map fun found => (':', found)
        | ('=', false) :: after => (bracketedClass? '=' after).map fun found => ('=', found)
        | _ => none
      match bracketedRepeat? rest, enclosed with
      | some (part, after), none => more part after
      | repeat?, some (mark, name, after) =>
        let fallback (message : Letters) : Except Letters (List SetPart) :=
          match repeat? with
          | some (part, after) => more part after
          | none => .error message
        if name = [] then
          fallback (letters (if mark = ':' then "missing character class name '[::]'"
            else "missing equivalence class character '[==]'"))
        else if mark = ':' then
          if (isOfClass? (String.ofList name) 'a').isSome then more (.ofClass name) after
          else fallback (letters "invalid character class " ++ quoted name)
        else match name with
          | [c] => more (.equal c) after
          | name => fallback (name ++ letters ": equivalence class operand must be a single character")
      | none, none => plain
    else plain

/-- The parts of a set that a text is. -/
def setParts (text : Letters) : Except Letters (List SetPart) :=
  readSetParts (text.length + 1) (readSetLetters (text.length + 1) text)

/-- The letters of parts, of which one may be repeated so that there are as many as are given. -/
def setMembers (length : Nat) (parts : List SetPart) : Letters :=
  let fixed := (parts.flatMap SetPart.members).length
  parts.flatMap fun part => match part with
    | .repeated c none => List.replicate (length - fixed) c
    | part => part.members

/-- The places at which parts that are classes of one case begin. -/
def casePlaces (parts : List SetPart) : List Nat :=
  (parts.foldl
    (fun (state : List Nat × Nat) part =>
      (if part.isCase then state.1 ++ [state.2] else state.1, state.2 + part.members.length))
    ([], 0)).1

/-- Drops letters of a set that follow themselves. -/
def squeeze (isMember : Char → Bool) (text : Letters) : Letters :=
  (text.foldl
    (fun (kept : Letters) c => match kept with
      | before :: _ => if before = c ∧ isMember c then kept else c :: kept
      | [] => [c])
    []).reverse

/-- The letters that letters of one set are changed to, or why that is not laid down. -/
def changedLetters (complement truncates : Bool) (first second : List SetPart) : Except Letters (List (Char × Char)) := do
  let members := setMembers 0 first
  let sources := if complement then ((List.range 256).map Char.ofNat).filter fun c => !members.contains c else members
  if second.any SetPart.isEqual then
    throw (letters "[=c=] expressions may not appear in string2 when translating")
  if 1 < (second.filter SetPart.isFilling).length then
    throw (letters "only one [c*] repeat construct may appear in string2")
  if second.any fun part => part.isClass && !part.isCase then
    throw (letters "when translating, the only character classes that may appear in\nstring2 are 'upper' and 'lower'")
  let targets := setMembers sources.length second
  let sources := if truncates then sources.take targets.length else sources
  if complement ∧ first.any SetPart.isClass ∧ !(targets.length = sources.length ∧ targets.eraseDups.length = 1)
      ∧ !(targets.length < sources.length ∧ targets.eraseDups.length = 1) then
    throw (letters "when translating with complemented character classes,\nstring2 must map all characters in the domain to one")
  if !complement ∧ !(casePlaces second).all (casePlaces first).contains then
    throw (letters "misaligned [:upper:] and/or [:lower:] construct")
  match targets.getLast? with
  | none =>
    if sources.isEmpty ∨ truncates then return []
    else throw (letters "when not truncating set1, string2 must be non-empty")
  | some last =>
    if targets.length < sources.length ∧ (second.getLast?).any SetPart.isClass then
      throw (letters
        "when translating with string1 longer than string2,\nthe latter string must not end with a character class")
    return List.zip sources (targets ++ List.replicate (sources.length - targets.length) last)

/-- Prints the input with letters changed, dropped or squeezed. -/
def tr : Utility := fun _ arguments =>
  let kinds : OptionKinds :=
    { plain := "dscCt", mixed := false
      long := [("delete", 'd'), ("squeeze-repeats", 's'), ("complement", 'c'), ("truncate-set1", 't')] }
  withOptions "tr" kinds 1 arguments fun parsed => do
    let refuse (message : Letters) : Run Nat := do
      warn "tr" message
      return 1
    let deletes := parsed.has 'd'
    let squeezes := parsed.has 's'
    let needed := if deletes = squeezes then 2 else 1
    match parsed.operands with
    | [] => misuse "tr" (letters "missing operand") 1
    | _ :: _ :: extra :: _ => misuse "tr" (letters "extra operand " ++ quoted extra) 1
    | firstText :: others =>
      if others.length + 1 < needed then
        return ← misuse "tr" (letters "missing operand after " ++ quoted firstText
          ++ letters (if squeezes then "\nTwo strings must be given when both deleting and squeezing repeats."
            else "\nTwo strings must be given when translating.")) 1
      if deletes ∧ !squeezes ∧ !others.isEmpty then
        return ← misuse "tr" (letters "extra operand " ++ quoted (others.headD [])
          ++ letters "\nOnly one string may be given when deleting without squeezing repeats.") 1
      match setParts firstText, others.mapM setParts with
      | .error message, _ => refuse message
      | _, .error message => refuse message
      | .ok first, .ok others =>
        if first.any SetPart.isRepeated ∧ first.any SetPart.isFilling then
          return ← refuse (letters "the [c*] repeat construct may not appear in string1")
        let members := setMembers 0 first
        let complement := parsed.has 'c' || parsed.has 'C'
        let isFirst (c : Char) : Bool := members.contains c != complement
        match deletes, others.head? with
        | true, second? =>
          let kept := ((← takeAll input).getD []).filter fun c => !isFirst c
          let second := setMembers 0 (second?.getD [])
          say (if squeezes then squeeze second.contains kept else kept)
          return 0
        | false, none =>
          say (squeeze isFirst ((← takeAll input).getD []))
          return 0
        | false, some second =>
          match changedLetters complement (parsed.has 't') first second with
          | .error message => refuse message
          | .ok pairs =>
            let text := (← takeAll input).getD []
            let backwards := pairs.reverse
            let table : Array Char := ((List.range 256).map fun n =>
              (backwards.lookup (Char.ofNat n)).getD (Char.ofNat n)).toArray
            let changed := text.map fun c => table[c.toNat]?.getD c
            let targets := setMembers pairs.length second
            say (if squeezes then squeeze targets.contains changed else changed)
            return 0

/-! ## Numbers of letters -/

/-- A form in which the numbers of letters are printed. -/
inductive DumpForm where
  /-- The names of letters, of which only seven bits count. -/
  | named
  | letters
  | signed (size : Nat)
  | unsigned (size : Nat)
  | octal (size : Nat)
  | hexadecimal (size : Nat)

namespace DumpForm

/-- How many letters belong to one number. -/
def size : DumpForm → Nat
  | .named => 1
  | .letters => 1
  | .signed size => size
  | .unsigned size => size
  | .octal size => size
  | .hexadecimal size => size

/-- The width of a number, without the blank before it. -/
def width (form : DumpForm) : Nat :=
  let bits := 8 * form.size
  match form with
  | .named => 3
  | .letters => 3
  | .signed _ => (digits (Nat.pow 2 (bits - 1))).length + 1
  | .unsigned _ => (digits (Nat.pow 2 bits - 1)).length
  | .octal _ => (bits + 2) / 3
  | .hexadecimal _ => bits / 4

/-- The names of letters that cannot be printed. -/
def controlNames : List String :=
  ["nul", "soh", "stx", "etx", "eot", "enq", "ack", "bel", "bs", "ht", "nl", "vt", "ff", "cr", "so", "si", "dle",
   "dc1", "dc2", "dc3", "dc4", "nak", "syn", "etb", "can", "em", "sub", "esc", "fs", "gs", "rs", "us", "sp"]

/-- The text of a number, given by its letters of which the lowest comes first. -/
def text (form : DumpForm) (piece : Letters) : Letters :=
  let value := piece.foldr (fun c value => value * 256 + c.toNat) 0
  let inBase (base : Nat) : Letters :=
    let shown := Nat.toDigits base value
    List.replicate (form.width - shown.length) '0' ++ shown
  match form with
  | .named =>
    let code := value % 128
    match controlNames[code]? with
    | some name => MonitorBench.Shell.letters name
    | none => if code = 127 then MonitorBench.Shell.letters "del" else [Char.ofNat code]
  | .letters =>
    let named : List (Nat × Char) := [(0, '0'), (7, 'a'), (8, 'b'), (9, 't'), (10, 'n'), (11, 'v'), (12, 'f'), (13, 'r')]
    match named.lookup value with
    | some name => ['\\', name]
    | none =>
      if 32 ≤ value ∧ value < 127 then [Char.ofNat value]
      else
        let shown := Nat.toDigits 8 value
        List.replicate (3 - shown.length) '0' ++ shown
  | .signed size =>
    let half := Nat.pow 2 (8 * size - 1)
    if value < half then digits value else '-' :: digits (2 * half - value)
  | .unsigned _ => digits value
  | .octal _ => inBase 8
  | .hexadecimal _ => inBase 16

end DumpForm

/-- The forms that a text asks for, each with whether the letters are shown behind the row; at most `fuel`
of them. -/
def dumpForms? : (fuel : Nat) → Letters → Option (List (DumpForm × Bool))
  | 0, _ => none
  | _, [] => some []
  | fuel + 1, kind :: rest =>
    let named : List (Char × Nat) := [('C', 1), ('S', 2), ('I', 4), ('L', 8)]
    let count := rest.takeWhile Char.isDigit
    let (size, after) : Nat × Letters := match rest with
      | c :: more => match named.lookup c with
        | some size => (size, more)
        | none => if count = [] then (4, rest) else (Nat.ofDigitChars 10 count 0, rest.drop count.length)
      | [] => (4, [])
    let form? : Option (DumpForm × Letters) := match kind with
      | 'a' => some (.named, rest)
      | 'c' => some (.letters, rest)
      | 'd' => some (.signed size, after)
      | 'u' => some (.unsigned size, after)
      | 'o' => some (.octal size, after)
      | 'x' => some (.hexadecimal size, after)
      | _ => none
    match form? with
    | some (form, after) =>
      if [1, 2, 4, 8].contains form.size then
        let (isShown, last) : Bool × Letters := match after with
          | 'z' :: last => (true, last)
          | last => (false, last)
        (dumpForms? fuel last).map ((form, isShown) :: ·)
      else none
    | none => none

/-- How numbers of letters are printed in rows. -/
structure Dump where
  forms : List (DumpForm × Bool)
  /-- How many letters belong to a row. -/
  perRow : Nat := 16
  /-- The base of the place before a row, if that is printed. -/
  base : Option Nat := some 8
  /-- Whether rows that are equal to the one before are printed. -/
  all : Bool := false

namespace Dump

/-- The place before a row. -/
def place (dump : Dump) (offset : Nat) : Letters :=
  match dump.base with
  | none => []
  | some base =>
    let shown := Nat.toDigits base offset
    List.replicate ((if base = 16 then 6 else 7) - shown.length) '0' ++ shown

/-- The lines for a row, without the place before it. -/
def row (dump : Dump) (letters : Letters) : List Letters :=
  let widthOf (form : DumpForm) : Nat := (form.width + 1) * (dump.perRow / form.size)
  let widest := dump.forms.foldl (fun widest (form, _) => max widest (widthOf form)) 0
  dump.forms.map fun (form, isShown) =>
    let count := dump.perRow / form.size
    let space := widest - widthOf form
    let padding (left : Nat) : Nat := space * left / count
    let pieces := (List.range ((letters.length + form.size - 1) / form.size)).map fun n =>
      (letters.drop (n * form.size)).take form.size
    let texts := pieces.zipIdx.map fun (piece, n) =>
      let extra := padding (count - n) - padding (count - n - 1)
      padLeft (extra + form.width + 1) (form.text piece)
    let missing := count - pieces.length
    let shown := texts.flatten
    if isShown then
      shown ++ List.replicate (missing * (form.width + 1) + padding missing) ' ' ++ [' ', ' ', '>']
        ++ (letters.map fun c => if 32 ≤ c.toNat ∧ c.toNat < 127 then c else '.') ++ ['<']
    else shown

/-- Prints rows, at most `fuel` of them, behind one that was printed; `repeats` tells that it was followed
by an equal one. -/
def rows (dump : Dump) : (fuel : Nat) → (offset : Nat) → (before : Option Letters) → (repeats : Bool) →
    Letters → List Letters
  | 0, _, _, _, _ => []
  | fuel + 1, offset, before, repeats, text =>
    if text.isEmpty then
      match dump.base with
      | none => []
      | some _ => [dump.place offset ++ ['\n']]
    else
      let current := text.take dump.perRow
      let rest := text.drop dump.perRow
      if !dump.all ∧ before = some current ∧ current.length = dump.perRow then
        (if repeats then [] else [['*', '\n']]) ++ dump.rows fuel (offset + current.length) before true rest
      else
        let indent := (dump.place offset).map fun _ => ' '
        let lines := (dump.row current).zipIdx.map fun (line, n) =>
          (if n = 0 then dump.place offset else indent) ++ line ++ ['\n']
        lines.flatten :: dump.rows fuel (offset + current.length) (some current) false rest

end Dump

/-- The forms that the letters of options ask for. -/
def dumpOptions : List (Char × String) :=
  [('a', "a"), ('b', "o1"), ('c', "c"), ('d', "u2"), ('h', "x2"), ('i', "dI"), ('l', "dL"), ('o', "o2"),
   ('s', "d2"), ('x', "x2"), ('H', "x4"), ('X', "x4"), ('O', "o4"), ('B', "o2"), ('D', "u4"), ('I', "dL"), ('L', "dL")]

/-- Prints the numbers of letters. -/
def od : Utility := fun _ arguments =>
  let kinds : OptionKinds :=
    { plain := "abcdhilosxHXOBDILvW", valued := "AtjNw"
      long := [("address-radix", 'A'), ("format", 't'), ("skip-bytes", 'j'), ("read-bytes", 'N'),
        ("width", 'w'), ("output-duplicates", 'v')] }
  let separate (argument : Letters) : Letters :=
    if argument = letters "-w" ∨ argument = letters "--width" then letters "-w32" else argument
  withOptions "od" kinds 1 (arguments.map separate) fun parsed => do
    let refuse (message : Letters) : Run Nat := do
      warn "od" message
      return 1
    let texts := parsed.options.filterMap fun (option, value) =>
      if option = 't' then some value else (dumpOptions.lookup option).map letters
    let texts := if texts.isEmpty then [letters "oS"] else texts
    let base? : Option (Option Nat) := match parsed.value? 'A' with
      | none => some (some 8)
      | some ['o'] => some (some 8)
      | some ['d'] => some (some 10)
      | some ['x'] => some (some 16)
      | some ['n'] => some none
      | _ => none
    let amountOf (option : Char) (usual : Option Nat) : Option (Option Nat) :=
      match parsed.value? option with
      | none => some usual
      | some ('0' :: 'x' :: digits) => (Text.valueIn? 16 digits).map some
      | some text => (amount? text).map some
    match texts.mapM (fun text => dumpForms? (text.length + 1) text), base?, amountOf 'j' (some 0), amountOf 'N' none,
        amountOf 'w' (some 16) with
    | none, _, _, _, _ => refuse (letters "invalid type string " ++ quoted ((texts.head?).getD []))
    | _, none, _, _, _ => refuse (letters "invalid output address radix")
    | some forms, some base, some skipped, some most, some perRow =>
      let (contents, status) ← contentsOf "od" plainly parsed.operands
      if contents.isEmpty then
        return status
      let all := contents.flatMap Prod.snd
      let start := skipped.getD 0
      if all.length < start then
        return ← refuse (letters "cannot skip past end of combined input")
      let text := match most with
        | some most => (all.drop start).take most
        | none => all.drop start
      let largest := forms.flatten.foldl (fun largest (form, _) => max largest form.size) 1
      let width := perRow.getD 16
      let dump : Dump :=
        { forms := forms.flatten, base, all := parsed.has 'v'
          perRow := if width = 0 ∨ width % largest ≠ 0 then largest else width }
      say (dump.rows (text.length + 2) start none false text).flatten
      return status
    | _, _, _, _, _ => refuse (letters "invalid argument")

end MonitorBench.Shell
