import MonitorBench.Shell.Run
import MonitorBench.Tool.Command

/-!
# Programs that a command starts

A command starts a shell, or one of the two programs that do nothing but succeed or fail.
No other program is there to be started. The program runs in the directory of the command,
which has to be there, and every text that it is given has to be free of the character
that ends texts in memory.
-/

set_option autoImplicit false

namespace MonitorBench

/-- A program that can be started. -/
inductive Program where
  | shell
  /-- Ends with zero. -/
  | succeed
  /-- Ends with one. -/
  | fail
  deriving DecidableEq

namespace Program

/-- The file name of a program. -/
def name : Program → String
  | .shell => "sh"
  | .succeed => "true"
  | .fail => "false"

/-- The programs that there are. -/
def all : List Program := [.shell, .succeed, .fail]

/-- The program that a text names, with or without its directory. -/
def ofName? (text : String) : Option Program :=
  all.find? fun program =>
    text == program.name || text == "/bin/" ++ program.name || text == "/usr/bin/" ++ program.name

/-- Runs a program with arguments on a disk, and tells how it ends. -/
def run (program : Program) (disk : Disk) (bindings : List (String × String))
    (arguments : List String) : ExitStatus × Disk :=
  match program with
  | .shell => Shell.runShell disk bindings arguments
  | .succeed => (.exited 0, disk)
  | .fail => (.exited 1, disk)

end Program

namespace Command

/-- Whether a text can be given to a program. -/
def canPass (text : String) : Bool :=
  !text.toList.contains '\x00'

/-- Starts the command for a formula. -/
def start (command : Command) (bindings : List (String × String)) (disk : Disk)
    (formula statistics : String) : Launch Unit :=
  let arguments := command.arguments formula statistics
  match command.startDirectory disk, Program.ofName? command.program with
  | .ok place, some program =>
    if disk.entry? place ≠ some .directory then
      .failed command.program FileFault.notDirectory.message
    else if !arguments.all canPass then
      .failed command.program FileFault.invalidPath.message
    else
      let (status, after) := program.run { disk with home := place } bindings arguments
      .ended status () { after with home := disk.home }
  | .ok _, none => .failed command.program FileFault.notFound.message
  | .error fault, _ => .failed command.program fault.message

/-- The tool that a command starts; bindings are passed on to it. -/
def tool (command : Command) (bindings : List (String × String)) : Tool Unit where
  start _ disk formula statistics := command.start bindings disk formula statistics

end Command

end MonitorBench
