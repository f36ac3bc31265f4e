import MonitorBench.Proofs.Disk.Route
import MonitorBench.Proofs.Statistics.File
import MonitorBench.Tool.Command

/-!
# The statistics file that the tool is told of

Rows are started at the statistics path as it is seen from the current directory, and the command
passes this path on as it stands. It starts in a directory of its own, if it has one, and there a
relative path can lead to another file. `told_file_iff` says when it is the same.
-/

set_option autoImplicit false

namespace MonitorBench.Command

variable {command : Command} {disk ready : Disk} {statistics : String} {item : Item}
  {place : Location}

/-- The arguments after the fixed ones begin with the statistics file. -/
theorem told_arguments (command : Command) (formula statistics : String) :
    (command.arguments formula statistics).drop command.args.length =
      ["-s", statistics, Keyword.name command.mode, formula] := by
  rw [arguments, List.drop_left]

/-- A command without a directory of its own starts in the current one. -/
theorem startDirectory_none (none_set : command.workingDirectory = none)
    (starts : command.startDirectory disk = .ok place) : place = disk.home := by
  rw [startDirectory, none_set] at starts
  exact (Except.ok.inj starts).symm

/-- When the row of an item was started and the command starts in `place`, the argument after `-s`
leads from there to the file in which the row was started if the command has no directory of
its own, or the path is absolute, or `place` is the current directory. Where else it leads, if
it leads somewhere, it leads to that file exactly when the path is absolute or `place` and the
current directory agree above what the path climbs. -/
theorem told_file_iff (command : Command) (formula : String)
    (started : Statistics.startRow disk statistics item = .ok ready)
    (starts : command.startDirectory ready = .ok place) :
    ∃ location told,
      ready.locate statistics = .ok location ∧
      ready.entry? location =
        some (.file (Statistics.withRow (Statistics.content disk statistics) item)) ∧
      (command.arguments formula statistics).drop command.args.length =
        ["-s", told, Keyword.name command.mode, formula] ∧
      (command.workingDirectory = none ∨ Path.isAbsolute statistics = true ∨ place = ready.home →
        ready.locateFrom place told = .ok location) ∧
      ∀ other, ready.locateFrom place told = .ok other →
        (other = location ↔ Path.isAbsolute statistics = true ∨
          place.rdrop (Route.along (Path.names statistics)).up =
            ready.home.rdrop (Route.along (Path.names statistics)).up) := by
  obtain ⟨location, located, stands⟩ := Statistics.stands_of_startRow started
  refine ⟨location, statistics, located, stands, told_arguments command formula statistics, ?_, ?_⟩
  · intro same
    have from_home : place = ready.home → ready.locateFrom place statistics = .ok location := by
      rintro rfl
      exact located
    rcases same with none_set | absolute | home
    · exact from_home (startDirectory_none none_set starts)
    · rw [Disk.locateFrom_absolute absolute ready.home place]
      exact located
    · exact from_home home
  · intro other elsewhere
    exact Disk.locateFrom_eq_iff located elsewhere

/-- From the directory beside the current one, a path that climbs out of both leads to the file. -/
theorem told_file_iff_climbing :
    ∃ ready, Statistics.startRow ⟨[(["a"], .directory), (["b"], .directory)], ["a"], []⟩ "../s"
        (.raw "G p") = .ok ready ∧
      (Command.mk "sh" [] .both (some "../b")).startDirectory ready = .ok ["b"] ∧
      ∃ location, ready.locate "../s" = .ok location ∧
        ready.locateFrom ["b"] "../s" = .ok location := by
  obtain ⟨ready, started, starts, home, there⟩ : ∃ ready,
      Statistics.startRow ⟨[(["a"], .directory), (["b"], .directory)], ["a"], []⟩ "../s"
        (.raw "G p") = .ok ready ∧
      (Command.mk "sh" [] .both (some "../b")).startDirectory ready = .ok ["b"] ∧
      ready.home = ["a"] ∧ ready.locateFrom ["b"] "../s" = .ok ["s"] := ⟨_, rfl, rfl, rfl, rfl⟩
  obtain ⟨location, told, located, -, arguments, -, leads⟩ :=
    told_file_iff (Command.mk "sh" [] .both (some "../b")) "G p" started starts
  obtain rfl : "../s" = told := by simpa [Command.arguments] using arguments
  have above : (["b"] : Location).rdrop (Route.along (Path.names "../s")).up =
      ready.home.rdrop (Route.along (Path.names "../s")).up := by
    rw [home]
    rfl
  have same : ["s"] = location := (leads ["s"] there).mpr (Or.inr above)
  exact ⟨ready, started, starts, location, located, same ▸ there⟩

/-- A command with a directory of its own is told of another file by a path that is relative. -/
theorem told_file_elsewhere :
    ∃ ready, Statistics.startRow ⟨[(["w"], .directory), (["w", "d"], .directory)], ["w"], []⟩ "s"
        (.raw "G p") = .ok ready ∧
      (Command.mk "sh" [] .both (some "d")).startDirectory ready = .ok ["w", "d"] ∧
      (Command.mk "sh" [] .both (some "d")).arguments "G p" "s" = ["-s", "s", "both", "G p"] ∧
      ready.locate "s" = .ok ["w", "s"] ∧
      ready.locateFrom ["w", "d"] "s" = .ok ["w", "d", "s"] :=
  ⟨_, rfl, rfl, rfl, rfl, rfl⟩

end MonitorBench.Command
