import MonitorBench.Batch.Run
import MonitorBench.Extraction.Run

/-!
# From files to files

Extracting the records of a corpus file into a record file, and running a work list file.
The input is read before anything is written, so an input that cannot be read changes no
file. A fault in the corpus leaves the records before it in the record file.
-/

set_option autoImplicit false

namespace MonitorBench.Workflow

/-- Extracts the records of the corpus at a path into the record file at another. -/
def extractFile (settings : ExtractionSettings) (disk : Disk) (corpus output : String) :
    Disk × Except Fault Extraction.Summary :=
  match disk.readText corpus with
  | .error fault => (disk, .error (.file fault))
  | .ok text =>
    let (out, result) :=
      Extraction.extract settings Extraction.recordWriter { device := {} } (Text.lines text)
    match disk.write output out.device.taken with
    | .error fault => (disk, .error (.file fault))
    | .ok after => (after, result)

/-- Runs a tool over the work list at a path. -/
def runFile {σ : Type} (machine : Tool σ) (onFailure : FailurePolicy) (settings : BatchSettings)
    (input statistics : String) (disk : Disk) (tool : σ) (out : Device) : Batch.Outcome σ :=
  match disk.readText input with
  | .error fault => ⟨{ disk, tool, out }, .error (.file fault)⟩
  | .ok text =>
    Batch.run machine onFailure settings statistics (WorkList.ofText settings.inputMode text)
      disk tool out

end MonitorBench.Workflow
