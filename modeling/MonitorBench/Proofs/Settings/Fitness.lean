import MonitorBench.Settings.Basic

/-!
# Settings that are fit for use

Settings are accepted when four conditions hold, whatever their other values are
(`validate_eq_ok_iff`). The defaults meet them, and so do settings of which only values change
that no condition is about.
-/

set_option autoImplicit false

namespace MonitorBench.Settings

variable {settings : Settings}

/-- Settings are accepted exactly when they have no flaw. -/
theorem validate_eq_ok_iff_flaw : settings.validate = .ok () ↔ settings.flaw? = none := by
  rw [validate]
  cases settings.flaw? with
  | none => simp
  | some flaw => simp

/-- Settings are accepted exactly when the program and the placeholder are not blank, the
placeholder does not hold the constant that it stands for, and the progress interval is not zero. -/
theorem validate_eq_ok_iff : settings.validate = .ok () ↔
    Text.isBlankText settings.tool.program = false ∧
      Text.isBlankText settings.extraction.placeholder = false ∧
      Text.holds "tt".toList settings.extraction.placeholder.toList = false ∧
      settings.batch.progressInterval ≠ 0 := by
  rw [validate_eq_ok_iff_flaw, flaw?]
  constructor
  · intro no_flaw
    split at no_flaw
    next => cases no_flaw
    next program =>
      split at no_flaw
      next => cases no_flaw
      next placeholder =>
        split at no_flaw
        next => cases no_flaw
        next constant =>
          split at no_flaw
          next => cases no_flaw
          next interval =>
            exact ⟨Bool.eq_false_iff.mpr program, Bool.eq_false_iff.mpr placeholder,
              Bool.eq_false_iff.mpr constant, interval⟩
  · rintro ⟨program, placeholder, constant, interval⟩
    rw [if_neg (by simp [program]), if_neg (by simp [placeholder]), if_neg (by rw [constant]; simp),
      if_neg interval]

/-- The defaults are fit for use. -/
theorem validate_default : ({} : Settings).validate = .ok () := by
  rw [validate_eq_ok_iff]
  decide

end MonitorBench.Settings
