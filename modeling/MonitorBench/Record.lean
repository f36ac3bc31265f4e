import MonitorBench.Fault
import MonitorBench.Text.Blank
import MonitorBench.Text.Lines

/-!
# Records

A record is a normalized property: the pattern it belongs to, the line of the corpus it
stands on, and its formula. It is written as one line of three fields. Reading a line
trims each field; a line with another number of fields, a blank field, or a line number
that is no number of 64 bits is refused, in this order of precedence.
-/

set_option autoImplicit false

namespace MonitorBench

/-- A normalized property. -/
structure Record where
  /-- The pattern that the property belongs to. -/
  pattern : String
  /-- The line of the corpus that states it, from 1. -/
  sourceLine : UInt64
  /-- The formula in the tool's spelling. -/
  formula : String
  deriving DecidableEq

/-- What stands between two fields of a line. -/
def fieldSeparator : String := ", "

/-- How many fields the line of a record has. -/
def recordFields : Nat := 3

namespace Record

/-- The line that a record is written as. -/
def line (record : Record) : String :=
  record.pattern ++ fieldSeparator ++ Text.decimal record.sourceLine ++ fieldSeparator
    ++ record.formula

/-- Reads a record from its trimmed fields; `lineNumber` is where the line stands. -/
def ofFields (lineNumber : UInt64) : List (List Char) → Except LineFault Record
  | [pattern, number, formula] =>
    if pattern = [] then
      .error (.emptyField lineNumber .pattern)
    else if formula = [] then
      .error (.emptyField lineNumber .formula)
    else
      match Text.readDecimal? number with
      | none => .error (.badLineNumber lineNumber (String.ofList number))
      | some sourceLine => .ok ⟨String.ofList pattern, sourceLine, String.ofList formula⟩
  | fields => .error (.fieldCount lineNumber fields.length)

/-- Reads a record from a line. -/
def parse (lineNumber : UInt64) (text : String) : Except LineFault Record :=
  ofFields lineNumber ((Text.splitOn ',' text.toList).map Text.trim)

/-- The line of a record as characters. -/
theorem toList_line (record : Record) :
    record.line.toList = record.pattern.toList ++ [',', ' '] ++ Text.digitsOf record.sourceLine
      ++ [',', ' '] ++ record.formula.toList := by
  simp [line, fieldSeparator, Text.decimal]

end Record

end MonitorBench
