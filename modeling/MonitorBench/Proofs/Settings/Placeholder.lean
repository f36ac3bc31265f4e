import MonitorBench.Proofs.Formula.Constant
import MonitorBench.Proofs.Settings.Fitness

/-!
# Which placeholders are safe

Settings are refused when the placeholder holds the constant that it stands for, since it would bring
the constant back. One that ends in half of the constant is accepted and brings it back as well,
beside a character that is left over or beside another placeholder (`constant_left_iff`). The
placeholders that are accepted and never do are those that end in something else.
-/

set_option autoImplicit false

namespace MonitorBench.Settings

/-- Under accepted settings, the constant is left in a respelled property exactly if the placeholder
ends in half of it and the property has an odd run of three or more of its character, or the
placeholder begins with half of it as well and the property has four in a row. So a placeholder
keeps the constant away from every property exactly if it does not end in half of it. -/
theorem constant_left_iff {settings : Settings} (accepted : settings.validate = .ok ()) :
    (∀ raw : String,
      "tt".toList <:+: (Formula.respell settings.extraction.placeholder raw).toList ↔
        settings.extraction.placeholder.toList.getLast? = some 't' ∧
          (Formula.OddRun 't' raw.toList ∨
            settings.extraction.placeholder.toList.head? = some 't' ∧
              "tttt".toList <:+: raw.toList)) ∧
      ((∀ raw : String,
          ¬ "tt".toList <:+: (Formula.respell settings.extraction.placeholder raw).toList) ↔
        settings.extraction.placeholder.toList.getLast? ≠ some 't') := by
  obtain ⟨-, shows, no_constant, -⟩ := validate_eq_ok_iff.mp accepted
  have some_new : settings.extraction.placeholder.toList ≠ [] := by
    intro empty
    rw [Text.isBlankText, empty] at shows
    cases shows
  rw [Bool.eq_false_iff, ne_eq, Text.holds_iff_infix] at no_constant
  have left := Formula.constant_infix_respell_iff some_new no_constant
  refine ⟨left, fun never ends => ?_, fun other raw found => other ((left raw).mp found).1⟩
  have threefold : Formula.OddRun 't' "ttt".toList := ⟨[], 0, [], rfl, by simp, by simp⟩
  exact never "ttt" ((left "ttt").mpr ⟨ends, Or.inl threefold⟩)

/-- A placeholder that ends in half of the constant is accepted. -/
theorem validate_endingInHalf :
    ({ extraction := { placeholder := "constant" } } : Settings).validate = .ok () := by
  rw [validate_eq_ok_iff]
  decide

/-- A placeholder that ends in half of the constant, before a character that is left over. -/
theorem constant_left_odd :
    ({ extraction := { placeholder := "constant" } } : Settings).validate = .ok () ∧
      Formula.respell "constant" "[](tttt -> ttttt)" =
        "G (constantconstant => constantconstantt)" ∧
      "tt".toList <:+: (Formula.respell "constant" "[](tttt -> ttttt)").toList := by
  refine ⟨validate_endingInHalf, by decide,
    ((constant_left_iff validate_endingInHalf).1 _).mpr ⟨by decide, Or.inl ?_⟩⟩
  exact ⟨"[](tttt -> ".toList, 1, [')'], by decide, by decide, by decide⟩

/-- So settings that are accepted can bring the constant back. -/
theorem accepted_placeholder_unsafe :
    ¬ ∀ settings : Settings, settings.validate = .ok () → ∀ raw : String,
      ¬ "tt".toList <:+: (Formula.respell settings.extraction.placeholder raw).toList := by
  intro never
  exact never _ validate_endingInHalf "ttt" (by decide)

end MonitorBench.Settings
