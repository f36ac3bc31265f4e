import MonitorBench.Keyword

/-!
# Settings of the tool

Which program constructs the monitors, with which arguments, in which analysis mode and
directory, and what is done when it fails.
-/

set_option autoImplicit false

namespace MonitorBench

/-- Which monitors the tool constructs. -/
inductive AnalysisMode where
  | rltl
  | ltl
  /-- Both constructions. -/
  | both
  deriving DecidableEq

instance : Keyword AnalysisMode where
  subject := "analysis mode"
  choices := [.rltl, .ltl, .both]
  name
    | .rltl => "rltl"
    | .ltl => "ltl"
    | .both => "both"
  synonyms _ := []

/-- What is done when the tool does not exit with zero. -/
inductive FailurePolicy where
  /-- The run goes on. -/
  | ignore
  /-- The run ends. -/
  | abort
  deriving DecidableEq

instance : Keyword FailurePolicy where
  subject := "failure policy"
  choices := [.ignore, .abort]
  name
    | .ignore => "ignore"
    | .abort => "abort"
  synonyms _ := []

/-- How the tool is run. -/
structure ToolSettings where
  /-- The program to start. -/
  program : String := "java"
  /-- The arguments that come first. -/
  args : List String :=
    ["-ea", "-cp", "rltlmonitor.jar:lib/*", "de.mpi_sws.rltlmonitor.CommandLineInterface"]
  /-- The analysis mode, given as an argument. -/
  mode : AnalysisMode := .both
  /-- The directory to start it in; if there is none, the current one. -/
  workingDirectory : Option String := none
  /-- What is done when it does not exit with zero. -/
  onFailure : FailurePolicy := .ignore
  deriving DecidableEq

end MonitorBench
