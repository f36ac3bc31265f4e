import MonitorBench.Keyword
import MonitorBench.Record

/-!
# Work items

A work list has one item per line: a record, or in raw mode a bare formula. An item has
a key, which names it in the statistics file, and its statistics row begins with the key
and a separator.
-/

set_option autoImplicit false

namespace MonitorBench

/-- How the lines of a work list are read. -/
inductive InputMode where
  /-- Each line is a record. -/
  | records
  /-- Each line is a formula. -/
  | raw
  deriving DecidableEq

instance : Keyword InputMode where
  subject := "input mode"
  choices := [.records, .raw]
  name
    | .records => "records"
    | .raw => "raw"
  synonyms
    | .records => ["record"]
    | .raw => []

/-- How many fields of a statistics row are the key of its item. -/
def InputMode.keyFields : InputMode → Nat
  | .records => recordFields
  | .raw => 1

/-- One piece of work for the tool. -/
inductive Item where
  /-- A record of a corpus. -/
  | record (source : Record)
  /-- A formula by itself. -/
  | raw (formula : String)
  deriving DecidableEq

namespace Item

/-- Reads an item from a line; a bare formula is trimmed and may not be empty. -/
def parse (mode : InputMode) (lineNumber : UInt64) (line : String) : Except LineFault Item :=
  match mode with
  | .records => (Record.parse lineNumber line).map Item.record
  | .raw =>
    let formula := Text.trim line.toList
    if formula = [] then
      .error (.emptyFormula lineNumber)
    else
      .ok (.raw (String.ofList formula))

/-- What the tool is given. -/
def formula : Item → String
  | .record source => source.formula
  | .raw formula => formula

/-- The name of the item in the statistics file. -/
def key : Item → String
  | .record source => source.line
  | .raw formula => formula

/-- How the statistics row of the item begins. -/
def rowStart (item : Item) : String :=
  item.key ++ fieldSeparator

end Item

/-- A work list, read up front so that the number of its items is known. -/
structure WorkList where
  /-- How its lines are read. -/
  mode : InputMode
  /-- One line per item. -/
  lines : List String

/-- The work list that a text holds. -/
def WorkList.ofText (mode : InputMode) (text : String) : WorkList :=
  ⟨mode, Text.lines text⟩

/-- How many items there are, as progress reports count them. -/
def WorkList.total (list : WorkList) : Nat :=
  list.lines.length

end MonitorBench
