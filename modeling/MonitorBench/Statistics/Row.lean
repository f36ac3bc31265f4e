import MonitorBench.Item

/-!
# Rows of the statistics file

A row starts with the key fields of its item, each followed by a comma; all that comes
after them is the payload that the tool wrote. A row is complete when its payload is not
blank.
-/

set_option autoImplicit false

namespace MonitorBench.Statistics

/-- A row of the statistics file. -/
structure Row where
  /-- The key of the item that the row belongs to. -/
  key : String
  /-- What the tool wrote, trimmed. -/
  payload : String
  deriving DecidableEq

namespace Row

/-- Takes fields off the front, each ended by a comma and not blank; gives them and the rest. -/
def takeFields : Nat → List Char → Option (List (List Char) × List Char)
  | 0, cs => some ([], cs)
  | count + 1, cs =>
    match Text.cut ',' cs with
    | (_, none) => none
    | (field, some rest) =>
      if Text.trim field = [] then
        none
      else
        (takeFields count rest).map fun (fields, payload) => (Text.trim field :: fields, payload)

/-- Reads a row, unless the line has too few fields or a blank one among its key fields. -/
def parse (mode : InputMode) (line : String) : Option Row :=
  (takeFields mode.keyFields line.toList).map fun (fields, payload) =>
    { key := String.ofList (fieldSeparator.toList.intercalate fields)
      payload := String.ofList (Text.trim payload) }

/-- Whether the tool has finished the row. -/
def isComplete (row : Row) : Bool :=
  row.payload != ""

end Row

/-- The keys of the complete rows of a statistics text, one for each such row. -/
def finishedKeys (mode : InputMode) (text : String) : List String :=
  (Text.lines text).filterMap fun line =>
    match Row.parse mode line with
    | some row => if row.isComplete then some row.key else none
    | none => none

end MonitorBench.Statistics
