import MonitorBench.Batch.Run
import MonitorBench.Tool.Settings
import MonitorBench.Extraction.Scope

/-!
# Settings of the bench

The settings have three sections, for the tool, the extraction and the batch. They
are fit for use when the program and the placeholder are not blank, the placeholder does
not hold the constant it stands for, and the progress interval is not zero; the first of
these conditions that fails is the one reported.
-/

set_option autoImplicit false

namespace MonitorBench

/-- All settings. -/
structure Settings where
  /-- How the tool is run. -/
  tool : ToolSettings := {}
  /-- How records are extracted from a corpus. -/
  extraction : ExtractionSettings := {}
  /-- How a work list is run. -/
  batch : BatchSettings := {}
  deriving DecidableEq

namespace Settings

/-- Why settings are not fit for use. -/
inductive Flaw where
  | blankProgram
  | blankPlaceholder
  | placeholderHoldsConstant (placeholder : String)
  | zeroInterval
  deriving DecidableEq

/-- The setting that has the flaw. -/
def Flaw.field : Flaw → String
  | .blankProgram => "tool.program"
  | .blankPlaceholder => "translator.tt_placeholder"
  | .placeholderHoldsConstant _ => "translator.tt_placeholder"
  | .zeroInterval => "driver.progress_interval"

/-- What is wrong with it. -/
def Flaw.reason : Flaw → String
  | .blankProgram => "must not be empty"
  | .blankPlaceholder => "must not be empty"
  | .placeholderHoldsConstant placeholder =>
    "'" ++ placeholder ++ "' would reintroduce the 'tt' token"
  | .zeroInterval => "must be at least 1"

/-- The fault that a flaw amounts to. -/
def Flaw.fault (flaw : Flaw) : Fault :=
  .settingsRejected flaw.field flaw.reason

/-- The first flaw of the settings. -/
def flaw? (settings : Settings) : Option Flaw :=
  if Text.isBlankText settings.tool.program then
    some .blankProgram
  else if Text.isBlankText settings.extraction.placeholder then
    some .blankPlaceholder
  else if Text.holds "tt".toList settings.extraction.placeholder.toList then
    some (.placeholderHoldsConstant settings.extraction.placeholder)
  else if settings.batch.progressInterval = 0 then
    some .zeroInterval
  else
    none

/-- Accepts settings without a flaw. -/
def validate (settings : Settings) : Except Fault Unit :=
  match settings.flaw? with
  | none => .ok ()
  | some flaw => .error flaw.fault

end Settings

end MonitorBench
