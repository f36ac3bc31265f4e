import MonitorBench.Device
import MonitorBench.Text.Utf8
import MonitorBench.Extraction.Scope

/-!
# The records of a corpus

The lines of a corpus are read in order, each under the scope that the line before it
left, and every record goes to a sink as soon as it is there. The first line at fault
and the first record that the sink refuses end the extraction; what was delivered
before stays delivered.
-/

set_option autoImplicit false

namespace MonitorBench.Extraction

/-- What happened to the lines of a corpus. -/
structure Summary where
  /-- How many lines were read. -/
  linesScanned : Nat := 0
  /-- How many records the sink took. -/
  recordsEmitted : Nat := 0
  /-- How many formulas were corrected. -/
  correctionsApplied : Nat := 0
  deriving DecidableEq

/-- A receiver of records: it takes a record, or refuses it with a fault. -/
structure Sink (σ : Type) where
  /-- Offers a record. -/
  accept : σ → Record → σ × Option Fault

/-- The summary after one more line. -/
def Summary.scan (summary : Summary) (step : Step) : Summary :=
  { summary with
    linesScanned := summary.linesScanned + 1
    correctionsApplied := summary.correctionsApplied + step.correction.toList.length }

/-- Extracts the records of the lines from `index` on, and gives the sink and the outcome. -/
def extractFrom {σ : Type} (settings : ExtractionSettings) (sink : Sink σ) :
    Nat → Scope → Summary → σ → List String → σ × Except Fault Summary
  | _, _, summary, state, [] => (state, .ok summary)
  | index, scope, summary, state, line :: lines =>
    match step settings scope (Text.lineNumber index) (settings.format.classify line) with
    | .error fault => (state, .error (.line fault))
    | .ok next =>
      let scanned := summary.scan next
      match next.record with
      | none => extractFrom settings sink (index + 1) next.scope scanned state lines
      | some record =>
        match sink.accept state record with
        | (refused, some fault) => (refused, .error fault)
        | (taken, none) =>
          let counted := { scanned with recordsEmitted := scanned.recordsEmitted + 1 }
          extractFrom settings sink (index + 1) next.scope counted taken lines

/-- Extracts the records of a corpus. -/
def extract {σ : Type} (settings : ExtractionSettings) (sink : Sink σ) (state : σ)
    (lines : List String) : σ × Except Fault Summary :=
  extractFrom settings sink 0 .fresh {} state lines

/-- Keeps every record. -/
def collector : Sink (List Record) where
  accept records record := (records ++ [record], none)

/-- The records that a corpus yields, also before a fault, and the outcome. -/
def extractAll (settings : ExtractionSettings) (lines : List String) :
    List Record × Except Fault Summary :=
  extract settings collector [] lines

/-- A device that records are written to, with the number of records written whole. -/
structure RecordDevice where
  /-- Where the lines go. -/
  device : Device
  /-- How many lines were written whole. -/
  written : Nat := 0
  deriving DecidableEq

/-- The bytes that a record is written as, its line feed included. -/
def rowBytes (record : Record) : Bytes :=
  Text.bytes (record.line ++ "\n")

/-- Writes every record on a line of its own. -/
def recordWriter : Sink RecordDevice where
  accept out record :=
    match out.device.write (rowBytes record) with
    | (device, some fault) => ({ out with device }, some (.file fault))
    | (device, none) => ({ device, written := out.written + 1 }, none)

end MonitorBench.Extraction
