import MonitorBench.Shell.Print
import MonitorBench.Shell.Utility.Lines

/-!
# Utilities on columns

One prints parts of lines: letters at places, or fields between delimiters. The other puts
the lines of several files side by side.
-/

set_option autoImplicit false

namespace MonitorBench.Shell

/-! ## Parts of lines -/

/-- Ranges of places, counted from one. -/
def ranges? (text : Letters) : Option (List (Nat × Option Nat)) :=
  (Text.splitOn ',' (text.map fun c => if c = ' ' ∨ c = '\t' then ',' else c)).mapM fun piece =>
    match Text.cut '-' piece with
    | ([], none) => some (0, some 0)
    | (first, none) => (natural? first).map fun n => (n, some n)
    | (first, some last) =>
      if first = [] ∧ last = [] then none
      else do
        let start ← if first = [] then some 1 else natural? first
        let stop ← if last = [] then some none else (natural? last).map some
        return (start, stop)

/-- Whether ranges hold a place. -/
def inPlaces (ranges : List (Nat × Option Nat)) (place : Nat) : Bool :=
  ranges.any fun (first, last) => first ≤ place && (last.all (place ≤ ·))

/-- Whether a range begins at a place and none that holds the place began before. -/
def beginsAt (ranges : List (Nat × Option Nat)) (place : Nat) : Bool :=
  ranges.any (·.1 == place)
    && !(ranges.any fun (first, last) => first < place && (last.all (place ≤ ·)))

/-- Which parts of lines are printed. -/
structure Cutting where
  ranges : List (Nat × Option Nat)
  /-- Whether all the other parts are printed. -/
  complement : Bool := false
  /-- What stands between parts in the output. -/
  between : Option Letters := none

namespace Cutting

/-- Whether a place is printed. -/
def takes (cutting : Cutting) (place : Nat) : Bool :=
  inPlaces cutting.ranges place != cutting.complement

/-- The letters of a line that are printed. -/
def letters (cutting : Cutting) (line : Letters) : Letters :=
  let step (state : List Letters × Bool × Bool) (member : Char × Nat) : List Letters × Bool × Bool :=
    let (shown, wasTaken, isFirst) := state
    let (c, place) := member
    if cutting.takes place then
      let begins := !wasTaken || (!cutting.complement && beginsAt cutting.ranges place)
      let before := if begins ∧ !isFirst then cutting.between.getD [] else []
      ((before ++ [c]) :: shown, true, false)
    else (shown, false, isFirst)
  (((line.zipIdx 1).foldl step ([], false, true)).1).reverse.flatten

/-- The fields of a line that are printed; a line without delimiters is printed as a whole, or not at all. -/
def fields (cutting : Cutting) (delimiter : Char) (onlyDelimited : Bool) (line : Letters) : Option Letters :=
  if line.contains delimiter then
    let kept := ((Text.splitOn delimiter line).zipIdx 1).filterMap fun (field, place) =>
      if cutting.takes place then some field else none
    some ((cutting.between.getD [delimiter]).intercalate kept)
  else if onlyDelimited then none
  else some line

end Cutting

/-- Prints parts of lines. -/
def cut : Utility := fun _ arguments =>
  let kinds : OptionKinds :=
    { plain := "snzC", valued := "dfcbO"
      long := [("delimiter", 'd'), ("fields", 'f'), ("characters", 'c'), ("bytes", 'b'),
        ("only-delimited", 's'), ("output-delimiter", 'O'), ("complement", 'C'), ("zero-terminated", 'z')] }
  withOptions "cut" kinds 1 arguments fun parsed => do
    let refuse (message : String) : Run Nat := misuse "cut" (letters message) 1
    let lists := parsed.options.filter fun option => option.1 = 'f' ∨ option.1 = 'c' ∨ option.1 = 'b'
    match lists with
    | [] => refuse "you must specify a list of bytes, characters, or fields"
    | _ :: _ :: _ => refuse "only one list may be specified"
    | [(kind, text)] =>
      let ofFields := kind = 'f'
      match ranges? text with
      | none =>
        let isEndless := (Text.splitOn ',' text).contains ['-']
        misuse "cut" (if isEndless then letters "invalid range with no endpoint: -"
          else letters (if ofFields then "invalid field value " else "invalid byte/character position ") ++ quoted text) 1
      | some ranges =>
        if ranges.any fun range => range.1 = 0 then
          return ← refuse (if ofFields then "fields are numbered from 1"
            else "byte/character positions are numbered from 1")
        if ranges.any fun range => range.2.any (· < range.1) then
          return ← refuse "invalid decreasing range"
        if (parsed.value? 'd').any fun text => 1 < text.length then
          return ← refuse "the delimiter must be a single character"
        if !ofFields ∧ parsed.has 'd' then
          return ← refuse "an input delimiter may be specified only when operating on fields"
        if !ofFields ∧ parsed.has 's' then
          return ← refuse "suppressing non-delimited lines makes sense\n\tonly when operating on fields"
        let delimiter := match parsed.value? 'd' with
          | some text => text.headD '\x00'
          | none => '\t'
        let cutting : Cutting :=
          { ranges, complement := parsed.has 'C'
            between := (parsed.value? 'O').map fun text => if text = [] then ['\x00'] else text }
        let ending := if parsed.has 'z' then '\x00' else '\n'
        let (contents, status) ← contentsOf "cut" plainly parsed.operands
        for (_, content) in contents do
          let shown := (barePieces ending content).filterMap fun line =>
            if ofFields then cutting.fields delimiter (parsed.has 's') line else some (cutting.letters line)
          say (shown.flatMap (· ++ [ending]))
        return status

/-! ## Lines side by side -/

/-- The delimiters that a text lists, each of at most one letter; nothing if it ends with a backslash that
escapes nothing. -/
def pasteDelimiters? : Letters → Option (List Letters)
  | [] => some []
  | ['\\'] => none
  | '\\' :: '0' :: rest => (pasteDelimiters? rest).map ([] :: ·)
  | '\\' :: c :: rest =>
    let c := if c = 'a' ∨ c = 'e' then c else (controlLetter? c).getD c
    (pasteDelimiters? rest).map ([c] :: ·)
  | c :: rest => (pasteDelimiters? rest).map ([c] :: ·)

/-- Members with delimiters between them, which begin again at their end. -/
def joinedBy (delimiters : List Letters) : (place : Nat) → List Letters → Letters
  | _, [] => []
  | _, [last] => last
  | place, member :: rest =>
    member ++ (delimiters[place % delimiters.length]?).getD [] ++ joinedBy delimiters (place + 1) rest

/-- Rows of lines, one of each source in turn, as long as one of them has a line; at most `fuel` rows. A
source that is named several times gives a line each time. -/
def sideBySide (sources : List Nat) : (fuel : Nat) → (lists : List (List Letters)) → List (List Letters)
  | 0, _ => []
  | fuel + 1, lists =>
    let take (state : List (Option Letters) × List (List Letters)) (source : Nat) :
        List (Option Letters) × List (List Letters) :=
      (((state.2[source]?).bind List.head?) :: state.1, state.2.modify source (List.drop 1))
    let (row, rest) := sources.foldl take ([], lists)
    if row.all Option.isNone then []
    else row.reverse.map (·.getD []) :: sideBySide sources fuel rest

/-- Prints lines of several files side by side. -/
def paste : Utility := fun _ arguments =>
  let kinds : OptionKinds :=
    { plain := "sz", valued := "d", long := [("serial", 's'), ("delimiters", 'd'), ("zero-terminated", 'z')] }
  withOptions "paste" kinds 1 arguments fun parsed => do
    let text := (parsed.value? 'd').getD ['\t']
    match pasteDelimiters? text with
    | none =>
      warn "paste" (letters "delimiter list ends with an unescaped backslash: " ++ text)
      return 1
    | some listed =>
      let delimiters := if listed.isEmpty then [[]] else listed
      let ending := if parsed.has 'z' then '\x00' else '\n'
      let operands := if parsed.operands.isEmpty then [['-']] else parsed.operands
      if parsed.has 's' then
        let (contents, status) ← contentsOf "paste" plainly operands
        for (_, content) in contents do
          say (joinedBy delimiters 0 (barePieces ending content) ++ [ending])
        return status
      else
        let (contents, status) ← contentsOf "paste" plainly operands
        if status ≠ 0 then
          return status
        let lists := contents.map fun (_, content) => barePieces ending content
        let fromInput := ((contents.lookup ['-']).map (barePieces ending)).getD []
        let sources := operands.zipIdx.map fun (path, place) => if path = ['-'] then operands.length else place
        let total := lists.foldl (fun total list => total + list.length) 1
        for row in sideBySide sources total (lists ++ [fromInput]) do
          say (joinedBy delimiters 0 row ++ [ending])
        return status

end MonitorBench.Shell
