import MonitorBench.Formula.Correction
import MonitorBench.Proofs.Text.Trim

/-!
# What normalizing leaves

A normalized formula is trimmed. Its characters are those of the property, of the placeholder and
of the tool's own spelling, so that a character that none of them holds cannot get in
(`mem_normalize`). And nothing is left exactly of a property that is blank
(`normalize_eq_empty_iff`): each of the steps turns something that shows into something that
shows.
-/

set_option autoImplicit false

namespace MonitorBench.Formula

/-! ## Where the characters come from -/

/-- The characters that respelling and correcting can bring in. -/
def spelling : List Char := ['=', '>', 'F', 'G', ' ', '&', '|', ')']

variable {a b c : Char} {new cs placeholder raw : List Char}

/-- Replacing a pair brings in only the characters of what is written for it. -/
theorem mem_replacePair (h : c ∈ replacePair a b new cs) : c ∈ new ∨ c ∈ cs := by
  fun_induction replacePair a b new cs with
  | case1 first second rest same ih =>
    rcases List.mem_append.mp h with added | later
    · exact Or.inl added
    · exact (ih later).imp_right fun inside => by simp [inside]
  | case2 first second rest other ih =>
    rcases List.mem_cons.mp h with rfl | later
    · simp
    · exact (ih later).imp_right fun inside => List.mem_cons_of_mem _ inside
  | case3 last => exact Or.inr h
  | case4 => exact Or.inr h

/-- Shrinking spaces brings in no characters. -/
theorem mem_shrinkSpaces (h : c ∈ shrinkSpaces cs) : c ∈ cs := by
  fun_induction shrinkSpaces cs with
  | case1 first second rest same ih => exact List.mem_cons_of_mem _ (ih h)
  | case2 first second rest other ih =>
    rcases List.mem_cons.mp h with rfl | later
    · simp
    · exact List.mem_cons_of_mem _ (ih later)
  | case3 last => exact h
  | case4 => exact h

/-- Replacing operators brings in only characters of the placeholder and of the spellings. -/
theorem mem_replaceOperators (h : c ∈ replaceOperators placeholder raw) :
    c ∈ placeholder ∨ c ∈ spelling ∨ c ∈ raw := by
  rw [replaceOperators] at h
  rcases mem_replacePair h with held | h
  · exact Or.inl held
  right
  have spelled : ∀ {new : List Char}, (∀ d ∈ new, d ∈ spelling) → c ∈ new →
      c ∈ spelling ∨ c ∈ raw := fun all added => Or.inl (all c added)
  rcases mem_replacePair h with disjunction | h
  · exact spelled (by simp [spelling]) disjunction
  rcases mem_replacePair h with conjunction | h
  · exact spelled (by simp [spelling]) conjunction
  rcases mem_replacePair h with always | h
  · exact spelled (by simp [spelling]) always
  rcases mem_replacePair h with eventually | h
  · exact spelled (by simp [spelling]) eventually
  rcases mem_replacePair h with implication | h
  · exact spelled (by simp [spelling]) implication
  · exact Or.inr h

/-- A formula that is not known to be malformed stays as it is. -/
theorem correct_of_unknown {formula : String} (first : formula ≠ "G F (a => (c U d)")
    (second : formula ≠ "G F (a => F d))") : correct formula = (formula, none) := by
  have unknown : knownMalformed.lookup formula = none := by
    rw [knownMalformed, List.lookup_cons, List.lookup_cons, beq_false_of_ne first,
      beq_false_of_ne second]
    rfl
  rw [correct, unknown]

/-- A formula stays as it is, or is one of the two that are corrected. -/
theorem correct_cases (formula : String) :
    (correct formula).1 = formula ∨
      formula = "G F (a => (c U d)" ∧ (correct formula).1 = "G F (a => (c U d))" ∨
      formula = "G F (a => F d))" ∧ (correct formula).1 = "G F (a => F d)" := by
  by_cases first : formula = "G F (a => (c U d)"
  · exact Or.inr (Or.inl ⟨first, by rw [first]; decide⟩)
  by_cases second : formula = "G F (a => F d))"
  · exact Or.inr (Or.inr ⟨second, by rw [second]; decide⟩)
  · exact Or.inl (by rw [correct_of_unknown first second])

/-- A corrected formula is not corrected again. -/
theorem correct_correct (formula : String) :
    correct (correct formula).1 = ((correct formula).1, none) := by
  by_cases first : formula = "G F (a => (c U d)"
  · rw [first]
    decide
  by_cases second : formula = "G F (a => F d))"
  · rw [second]
    decide
  · rw [correct_of_unknown first second, correct_of_unknown first second]

/-- What is not corrected is left as it is. -/
theorem eq_of_correct_eq_none {formula result : String} (h : correct formula = (result, none)) :
    formula = result := by
  rw [correct] at h
  split at h
  next => cases h
  next => exact congrArg Prod.fst h

/-- The characters of a normalized formula are those of the placeholder, of the tool's spelling and
of the property. -/
theorem mem_normalize {placeholder raw : String}
    (h : c ∈ (normalize placeholder raw).1.toList) :
    c ∈ placeholder.toList ∨ c ∈ spelling ∨ c ∈ raw.toList := by
  have respelled : c ∈ (respell placeholder raw).toList →
      c ∈ placeholder.toList ∨ c ∈ spelling ∨ c ∈ raw.toList := by
    intro inside
    rw [toList_respell] at inside
    exact mem_replaceOperators (mem_shrinkSpaces (Text.mem_of_mem_trim inside))
  rw [normalize] at h
  rcases correct_cases (respell placeholder raw) with same | ⟨known, mended⟩ | ⟨known, mended⟩
  · exact respelled (by rwa [same] at h)
  · have longer : "G F (a => (c U d))".toList = "G F (a => (c U d)".toList ++ [')'] := by decide
    rw [mended, longer, List.mem_append] at h
    rcases h with kept | added
    · exact respelled (by rwa [known])
    · exact Or.inr (Or.inl (by rw [List.mem_singleton.mp added]; decide))
  · have shorter : "G F (a => F d))".toList = "G F (a => F d)".toList ++ [')'] := by decide
    rw [mended] at h
    exact respelled (by rw [known, shorter]; exact List.mem_append_left _ h)

/-! ## Trimmed and blank formulas -/

/-- A normalized formula is trimmed. -/
theorem trim_normalize (placeholder raw : String) :
    Text.trim (normalize placeholder raw).1.toList = (normalize placeholder raw).1.toList := by
  rw [normalize]
  rcases correct_cases (respell placeholder raw) with same | ⟨-, mended⟩ | ⟨-, mended⟩
  · rw [same, toList_respell, Text.trim_trim]
  · rw [mended]
    decide
  · rw [mended]
    decide

/-- Replacing what is not blank by something that is not blank keeps blank what was blank, and
nothing else becomes blank. -/
theorem blank_replacePair (shows : Text.isBlank a = false) (replaced : new.all Text.isBlank = false)
    (cs : List Char) : (replacePair a b new cs).all Text.isBlank = cs.all Text.isBlank := by
  fun_induction replacePair a b new cs with
  | case1 first second rest same ih => simp [List.all_append, replaced, same.1, shows]
  | case2 first second rest other ih => rw [List.all_cons, ih, ← List.all_cons]
  | case3 last => rfl
  | case4 => rfl

/-- Shrinking spaces leaves a text blank or not blank. -/
theorem blank_shrinkSpaces (cs : List Char) :
    (shrinkSpaces cs).all Text.isBlank = cs.all Text.isBlank := by
  fun_induction shrinkSpaces cs with
  | case1 first second rest same ih =>
    have space : Text.isBlank ' ' = true := by decide
    rw [ih, List.all_cons (a := first), same.1, space, Bool.true_and]
  | case2 first second rest other ih => rw [List.all_cons, ih, ← List.all_cons]
  | case3 last => rfl
  | case4 => rfl

/-- Replacing operators leaves a text blank or not blank, unless the placeholder is blank. -/
theorem blank_replaceOperators (shows : placeholder.all Text.isBlank = false) (raw : List Char) :
    (replaceOperators placeholder raw).all Text.isBlank = raw.all Text.isBlank := by
  rw [replaceOperators, blank_replacePair (by decide) shows,
    blank_replacePair (by decide) (by decide), blank_replacePair (by decide) (by decide),
    blank_replacePair (by decide) (by decide), blank_replacePair (by decide) (by decide),
    blank_replacePair (by decide) (by decide)]

/-- Nothing is left exactly of a blank property, if the placeholder is not blank itself. -/
theorem normalize_eq_empty_iff {placeholder : String}
    (shows : Text.isBlankText placeholder = false) (raw : String) :
    (normalize placeholder raw).1 = "" ↔ Text.isBlankText raw = true := by
  have respelled : respell placeholder raw = "" ↔ Text.isBlankText raw = true := by
    rw [← String.toList_inj, toList_respell, String.toList_empty, Text.trim_eq_nil_iff,
      ← List.all_eq_true, blank_shrinkSpaces, blank_replaceOperators shows, Text.isBlankText]
  rw [← respelled, normalize]
  rcases correct_cases (respell placeholder raw) with same | ⟨known, mended⟩ | ⟨known, mended⟩
  · rw [same]
  · rw [mended, known]
    decide
  · rw [mended, known]
    decide

end MonitorBench.Formula
