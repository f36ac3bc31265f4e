import MonitorBench.Corpus.Line
import MonitorBench.Formula.Correction
import MonitorBench.Record

/-!
# The header in force

While a corpus is read, the scope tells which header is in force. A header line opens a
scope, a section break closes it, and a property uses it: with one property per header
it also closes it, with many it leaves it open. A property without an open scope of a
named pattern is a fault.
-/

set_option autoImplicit false

namespace MonitorBench

/-- How many properties a header governs. -/
inductive HeaderBinding where
  /-- The next property only. -/
  | oneToOne
  /-- All properties up to the next header or break. -/
  | oneToMany
  deriving DecidableEq

instance : Keyword HeaderBinding where
  subject := "header binding"
  choices := [.oneToOne, .oneToMany]
  name
    | .oneToOne => "one-to-one"
    | .oneToMany => "one-to-many"
  synonyms
    | .oneToOne => ["one_to_one"]
    | .oneToMany => ["one_to_many"]

/-- How records are extracted from a corpus. -/
structure ExtractionSettings where
  /-- The conventions of the corpus. -/
  format : CorpusFormat := .ltl3Tools
  /-- How far a header reaches. -/
  headerBinding : HeaderBinding := .oneToOne
  /-- What stands for the constant `tt`. -/
  placeholder : String := Formula.defaultPlaceholder
  deriving DecidableEq

namespace Extraction

/-- The header in force. -/
structure Scope where
  /-- The pattern that the last header named. -/
  pattern : String
  /-- Whether a header has to come before the next property. -/
  awaitsHeader : Bool
  deriving DecidableEq

namespace Scope

/-- No header is in force. -/
def fresh : Scope := ⟨"", true⟩

/-- The scope that a header opens. -/
def named (pattern : String) : Scope := ⟨pattern, false⟩

/-- Whether a property may stand here. -/
def admitsProperty (scope : Scope) : Bool :=
  scope.pattern != "" && !scope.awaitsHeader

end Scope

/-- What one line does: the scope after it, the record it yields and the correction made for that. -/
structure Step where
  /-- The scope after the line. -/
  scope : Scope
  /-- The record that the line yields. -/
  record : Option Record := none
  /-- The correction of the record's formula. -/
  correction : Option Formula.Correction := none
  deriving DecidableEq

/-- Reads one line of the corpus. -/
def step (settings : ExtractionSettings) (scope : Scope) (lineNumber : UInt64) :
    CorpusLine → Except LineFault Step
  | .header name => .ok { scope := .named name }
  | .sectionBreak => .ok { scope := .fresh }
  | .other => .ok { scope }
  | .property body =>
    if scope.admitsProperty then
      let (formula, correction) := Formula.normalize settings.placeholder body
      let next := match settings.headerBinding with
        | .oneToOne => .fresh
        | .oneToMany => scope
      .ok { scope := next, record := some ⟨scope.pattern, lineNumber, formula⟩, correction }
    else
      .error (.propertyWithoutHeader lineNumber)

end Extraction

end MonitorBench
