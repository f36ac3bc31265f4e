import MonitorBench.Formula.Operators

/-!
# Corrections of known malformed formulas

Two formulas of the corpus are known to have a wrong number of parentheses. They are
corrected by name; every other formula is left alone.
-/

set_option autoImplicit false

namespace MonitorBench.Formula

/-- How a known malformed formula is mended. -/
inductive Correction where
  /-- A closing parenthesis is missing at the end. -/
  | appendClosingParen
  /-- The parenthesis at the end is one too many. -/
  | dropTrailingParen
  deriving DecidableEq

/-- The malformed formulas, in the tool's spelling, with their corrections. -/
def knownMalformed : List (String × Correction) :=
  [("G F (a => (c U d)", .appendClosingParen), ("G F (a => F d))", .dropTrailingParen)]

/-- Carries out a correction. -/
def Correction.apply : Correction → String → String
  | .appendClosingParen, formula => formula ++ ")"
  | .dropTrailingParen, formula => String.ofList formula.toList.dropLast

/-- Mends a formula if it is known to be malformed, and tells how. -/
def correct (formula : String) : String × Option Correction :=
  match knownMalformed.lookup formula with
  | some correction => (correction.apply formula, some correction)
  | none => (formula, none)

/-- Respells a property of the corpus and mends the result. -/
def normalize (placeholder raw : String) : String × Option Correction :=
  correct (respell placeholder raw)

end MonitorBench.Formula
