import MonitorBench.Shell.Awk.Value

/-!
# Tables in programs on records

A table gives values to keys. The keys are kept in lists, which are chosen by a hash of the
key, and what was asked for last comes first in its list. A key that is an integer is known
by its number, and is known by its letters only when that is needed. In which order a loop
goes through the keys comes of this alone.
-/

set_option autoImplicit false

namespace MonitorBench.Shell.Awk

/-- A key as it is asked for. -/
inductive Key where
  | number (value : Int)
  | text (value : Letters)

/-- The letters of a key. -/
def Key.shown : Key → Letters
  | .number value => integerLetters value
  | .text value => value

/-- A table. -/
structure Table where
  values : List (Letters × Value) := []
  /-- The keys that are known by their letters, what was asked for last in front. -/
  texts : List Letters := []
  /-- The keys that are known by their numbers, what was asked for last in front. -/
  numbers : List Int := []
  /-- How many lists there are. -/
  width : Nat := 64
  /-- Whether all keys are known by their letters. -/
  hasTexts : Bool := false
  /-- Whether the keys are the numbers from one on, and no lists were made. -/
  isRow : Bool := false

/-- The hash of letters. -/
def hashOf (text : Letters) : UInt32 :=
  text.foldl (fun hash c => (hash ^^^ UInt32.ofNat c.toNat) * 16777619) 2166136261

namespace Table

/-- How many keys there are. -/
def size (table : Table) : Nat :=
  table.values.length

/-- The table with the values of a row, from one on. -/
def ofRow (values : List Value) : Table :=
  { values := values.zipIdx.map fun (value, place) => (integerLetters (place + 1), value)
    isRow := !values.isEmpty }

/-- In which of the lists a key with letters is. -/
def listOf (table : Table) (text : Letters) : Nat :=
  (hashOf text).toNat % table.width

/-- In which of the lists a key with a number is. -/
def listOfNumber (table : Table) (number : Int) : Nat :=
  (number % Int.ofNat table.width).toNat

/-- The table with enough lists, at most `fuel` times as many. -/
def widened : (fuel : Nat) → Table → Table
  | 0, table => table
  | fuel + 1, table =>
    if (table.width - 1) * 12 < table.size then widened fuel { table with width := 2 * table.width } else table

/-- The table whose keys stand in lists. -/
def withLists (table : Table) : Table :=
  if table.isRow then
    widened 64 { table with
      numbers := ((List.range table.size).map fun place => Int.ofNat (place + 1)).reverse
      isRow := false }
  else table

/-- Keys in the order of their lists. -/
def inLists {α : Type} (width : Nat) (listOf : α → Nat) (keys : List α) : List α :=
  (List.range width).flatMap fun list => keys.filter fun key => listOf key == list

/-- The table whose keys are known by their letters. -/
def withTexts (table : Table) : Table :=
  if table.hasTexts then
    table
  else
    let listed := table.withLists
    let ordered := (inLists listed.width listed.listOfNumber listed.numbers).map integerLetters
    { listed with texts := (ordered.filter fun text => !listed.texts.contains text).reverse ++ listed.texts
                  hasTexts := true }

/-- The table with a new key. -/
def added (table : Table) (text : Letters) : Table :=
  widened 64 { table with values := table.values ++ [(text, .unset)] }

/-- Asks for a key by its letters. -/
def findText (table : Table) (text : Letters) (creates : Bool) : Table × Bool :=
  let known := table.withTexts
  if known.texts.contains text then
    ({ known with texts := text :: known.texts.erase text }, true)
  else if creates then
    let larger := known.added text
    ({ larger with texts := text :: larger.texts }, true)
  else
    (known, false)

/-- Asks for a key by its number. -/
def findNumber (table : Table) (number : Int) (creates : Bool) : Table × Bool :=
  if table.numbers.contains number then
    ({ table with numbers := number :: table.numbers.erase number }, true)
  else if table.hasTexts then
    let (known, found) := table.findText (integerLetters number) creates
    (if found then { known with numbers := number :: known.numbers } else known, found)
  else if creates then
    let larger := table.added (integerLetters number)
    ({ larger with numbers := number :: larger.numbers }, true)
  else
    (table, false)

/-- Asks for a key, which is made if that is wanted; whether there is one is told. -/
def find (table : Table) (key : Key) (creates : Bool) : Table × Bool :=
  if table.values.isEmpty ∧ !creates then
    (table, false)
  else match key with
    | .text text => table.findText text creates
    | .number number =>
      if table.isRow then
        if 1 ≤ number ∧ number ≤ Int.ofNat table.size then (table, true)
        else if creates then table.withLists.findNumber number true
        else (table, false)
      else table.findNumber number creates

/-- The value of a key. -/
def value (table : Table) (key : Key) : Value :=
  (table.values.lookup key.shown).getD .unset

/-- The table in which a key that is there has a value. -/
def put (table : Table) (key : Key) (value : Value) : Table :=
  let text := key.shown
  { table with values := table.values.map fun pair => if pair.1 == text then (text, value) else pair }

/-- The table without a key. -/
def erase (table : Table) (key : Key) : Table :=
  let (found, isThere) := match key with
    | .number _ => if table.isRow then table.withLists.find key false else table.find key false
    | .text _ => table.find key false
  if isThere then
    let text := key.shown
    let left : Table :=
      { found with
        values := found.values.filter (·.1 != text)
        texts := found.texts.erase text
        numbers := found.numbers.filter fun number => integerLetters number != text }
    if left.values.isEmpty then {} else left
  else found

/-- The keys in the order in which a loop goes through them. -/
def keys (table : Table) : List Letters × Table :=
  if table.values.isEmpty then ([], table)
  else
    let known := table.withTexts
    (inLists known.width known.listOf known.texts, known)

end Table

end MonitorBench.Shell.Awk
