import MonitorBench.Keyword
import MonitorBench.Text.Blank
import MonitorBench.Text.Lines

/-!
# Lines of a pattern corpus

A corpus is read line by line. A line names a pattern, states a property, marks a break
between sections, or says nothing that the bench needs; its first characters decide.
-/

set_option autoImplicit false

namespace MonitorBench

/-- What a line of a corpus says. -/
inductive CorpusLine where
  /-- Names the pattern of the properties that follow. -/
  | header (name : String)
  /-- States a property; `body` is the text after the mark. -/
  | property (body : String)
  /-- Separates what stands before it from what follows. -/
  | sectionBreak
  /-- Anything else. -/
  | other
  deriving DecidableEq

/-- The conventions that a corpus follows. -/
inductive CorpusFormat where
  | ltl3Tools
  deriving DecidableEq

instance : Keyword CorpusFormat where
  subject := "corpus format"
  choices := [.ltl3Tools]
  name | .ltl3Tools => "ltl3-tools"
  synonyms | .ltl3Tools => ["ltl3tools"]

namespace CorpusLine

/-- The mark of a header line. -/
def headerMark : List Char := "PATTERN:".toList

/-- The marks of a property line. -/
def propertyMarks : List (List Char) := ["- ".toList, "@ ".toList]

/-- The mark of a section break. -/
def breakMark : List Char := "???".toList

/-- Reads a line by the mark it begins with; the name in a header is trimmed, a property is not. -/
def ofChars (line : List Char) : CorpusLine :=
  match Text.after? headerMark line with
  | some name => .header (String.ofList (Text.trim name))
  | none =>
    match propertyMarks.findSome? (Text.after? · line) with
    | some body => .property (String.ofList body)
    | none => if (Text.after? breakMark line).isSome then .sectionBreak else .other

end CorpusLine

/-- What a line says under the conventions of a format. -/
def CorpusFormat.classify : CorpusFormat → String → CorpusLine
  | .ltl3Tools, line => CorpusLine.ofChars line.toList

end MonitorBench
