import MonitorBench.Disk.Basic
import MonitorBench.Keyword
import MonitorBench.Statistics.Row

/-!
# The statistics file

The file is only ever added to. Before the tool starts on an item, the start of the item's
row is appended, on a line of its own: after a row that was never ended, a line feed comes
first. What is there before a run is kept, cleared or refused, as the policy says.
-/

set_option autoImplicit false

namespace MonitorBench

/-- What is done with a statistics file that is there before a run. -/
inductive ExistingStatistics where
  /-- Its rows are kept. -/
  | append
  /-- It is emptied. -/
  | clear
  /-- The run is refused. -/
  | fail
  deriving DecidableEq

instance : Keyword ExistingStatistics where
  subject := "policy for existing statistics"
  choices := [.append, .clear, .fail]
  name
    | .append => "append"
    | .clear => "clear"
    | .fail => "fail"
  synonyms
    | .append => ["a"]
    | .clear => ["c"]
    | .fail => ["quit", "q"]

namespace Statistics

/-- What the file at a path holds; a file that is not there holds nothing. -/
def content (disk : Disk) (path : String) : Bytes :=
  (disk.read path).toOption.getD []

/-- What ends a row that was left open, if the content ends in one. -/
def rowBreak (content : Bytes) : Bytes :=
  match content.getLast? with
  | none => []
  | some last => if last = 10 then [] else [10]

/-- What is appended to a content to start the row of an item. -/
def opening (content : Bytes) (item : Item) : Bytes :=
  rowBreak content ++ Text.bytes item.rowStart

/-- Starts the row of an item in the file at a path. -/
def startRow (disk : Disk) (path : String) (item : Item) : Except FileFault Disk :=
  match disk.openFile path with
  | .error fault => .error fault
  | .ok (location, content) =>
    .ok (disk.put location (.file (content ++ opening content item)))

/-- Treats a file that is already there as the policy says. -/
def prepare (disk : Disk) (path : String) (policy : ExistingStatistics) : Except Fault Disk :=
  if disk.holds path then
    match policy with
    | .append => .ok disk
    | .clear => (disk.write path []).mapError .file
    | .fail => .error (.statisticsExist path)
  else
    .ok disk

/-- The keys of the finished rows in the file at a path, one for each row; a missing file has none. -/
def finishedIn (disk : Disk) (path : String) (mode : InputMode) : Except FileFault (List String) :=
  if disk.holds path then
    (disk.readText path).map (finishedKeys mode)
  else
    .ok []

end Statistics

end MonitorBench
