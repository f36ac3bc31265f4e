import Mathlib.Data.List.DropRight
import MonitorBench.Text.Blank
import MonitorBench.Text.Decimal

/-!
# What trimming does

Trimming works on both ends apart: a blank put at either end is gone again after it, a text
without blanks stays as it is, and nothing is left exactly of a text of nothing but blanks.
Trimming a second time changes nothing.
-/

set_option autoImplicit false

namespace MonitorBench.Text

/-- The end of a text is trimmed as by dropping from the right. -/
theorem trimEnd_eq_rdropWhile (cs : List Char) : trimEnd cs = cs.rdropWhile isBlank := rfl

/-- A blank at the start is trimmed. -/
theorem trim_cons_blank {c : Char} (h : isBlank c = true) (cs : List Char) :
    trim (c :: cs) = trim cs := by
  rw [trim, trim, trimStart, trimStart, List.dropWhile_cons_of_pos h]

/-- A blank at the end is trimmed. -/
theorem trim_append_blank {c : Char} (h : isBlank c = true) (cs : List Char) :
    trim (cs ++ [c]) = trim cs := by
  rw [trim, trim, trimStart, trimStart, List.dropWhile_append]
  split
  next all_blank =>
    rw [List.isEmpty_iff.mp all_blank, List.dropWhile_cons_of_pos h]
    rfl
  next =>
    rw [trimEnd_eq_rdropWhile, trimEnd_eq_rdropWhile, List.rdropWhile_concat_pos _ _ _ h]

/-- Exactly the texts of nothing but blanks are trimmed to nothing. -/
theorem trim_eq_nil_iff {cs : List Char} : trim cs = [] ↔ ∀ c ∈ cs, isBlank c = true := by
  rw [trim, trimEnd_eq_rdropWhile, List.rdropWhile_eq_nil_iff]
  constructor
  · intro h c mem
    rw [← List.takeWhile_append_dropWhile (p := isBlank) (l := cs), List.mem_append] at mem
    rcases mem with first | rest
    · exact List.mem_takeWhile_imp first
    · exact h c rest
  · intro h c mem
    exact h c ((List.dropWhile_sublist _).subset mem)

/-- Trimming takes characters away from a text and leaves the others in their order. -/
theorem trim_sublist (cs : List Char) : (trim cs).Sublist cs := by
  rw [trim, trimEnd_eq_rdropWhile]
  exact (List.rdropWhile_prefix _ _).sublist.trans (List.dropWhile_sublist _)

/-- Trimming adds no characters. -/
theorem mem_of_mem_trim {c : Char} {cs : List Char} (h : c ∈ trim cs) : c ∈ cs :=
  (trim_sublist cs).subset h

/-- A text without blanks is trimmed already. -/
theorem trim_eq_self_of_no_blank {cs : List Char} (h : ∀ c ∈ cs, isBlank c = false) :
    trim cs = cs := by
  have start : trimStart cs = cs := by
    rw [trimStart, List.dropWhile_eq_self_iff]
    intro nonempty
    simp [h _ (List.getElem_mem nonempty)]
  rw [trim, start, trimEnd_eq_rdropWhile, List.rdropWhile_eq_self_iff]
  intro nonempty
  simp [h _ (List.getLast_mem nonempty)]

/-- Trimming a second time changes nothing. -/
theorem trim_trim (cs : List Char) : trim (trim cs) = trim cs := by
  have start : trimStart (trim cs) = trim cs := by
    rw [trimStart, List.dropWhile_eq_self_iff]
    intro nonempty
    -- the first character left by both ends is the first left by the start
    have inside : 0 < (trimStart cs).length :=
      Nat.lt_of_lt_of_le nonempty (List.rdropWhile_prefix isBlank _).length_le
    have kept : (trim cs)[0] = (trimStart cs)[0] :=
      (List.rdropWhile_prefix isBlank (trimStart cs)).getElem nonempty
    rw [kept]
    exact List.dropWhile_eq_self_iff.mp (List.dropWhile_idempotent isBlank cs) _
  rw [trim, start]
  exact List.rdropWhile_idempotent isBlank _

/-- A trimmed text does not begin with a blank. -/
theorem first_not_blank_of_trimmed {cs : List Char} (trimmed : trim cs = cs) {first : Char}
    (h : cs.head? = some first) : isBlank first = false := by
  obtain ⟨tail, rfl⟩ := List.head?_eq_some_iff.mp h
  by_contra blank
  rw [Bool.not_eq_false] at blank
  have shorter := (trim_sublist tail).length_le
  have same := congrArg List.length trimmed
  rw [trim_cons_blank blank, List.length_cons] at same
  omega

/-- A trimmed text does not end in a blank. -/
theorem not_blank_of_trimmed {cs : List Char} (trimmed : trim cs = cs) {last : Char}
    (h : cs.getLast? = some last) : isBlank last = false := by
  obtain ⟨init, rfl⟩ := List.getLast?_eq_some_iff.mp h
  by_contra blank
  rw [Bool.not_eq_false] at blank
  have shorter := (trim_sublist init).length_le
  have same := congrArg List.length trimmed
  rw [trim_append_blank blank, List.length_append, List.length_singleton] at same
  omega

/-- A decimal digit is no blank, no separator and no line feed. -/
theorem digit_of_mem_digitsOf {n : UInt64} {c : Char} (h : c ∈ digitsOf n) :
    isBlank c = false ∧ c ≠ ',' ∧ c ≠ '\n' := by
  have digit : c.isDigit = true :=
    Nat.isDigit_of_mem_toDigits (Nat.zero_lt_succ 9) (Nat.le_refl 10) h
  have range : 48 ≤ c.toNat ∧ c.toNat ≤ 57 := by
    simpa [Char.isDigit, UInt32.le_iff_toNat_le] using digit
  refine ⟨?_, ?_, ?_⟩
  · simp [isBlank, inRanges, blankRanges]
    omega
  · rintro rfl
    simp at range
  · rintro rfl
    simp at range

/-- A number has digits. -/
theorem digitsOf_ne_nil (n : UInt64) : digitsOf n ≠ [] :=
  Nat.toDigits_ne_nil

/-- The digits of a number have no blanks around them. -/
theorem trim_digitsOf (n : UInt64) : trim (digitsOf n) = digitsOf n :=
  trim_eq_self_of_no_blank fun _ mem => (digit_of_mem_digitsOf mem).1

end MonitorBench.Text
