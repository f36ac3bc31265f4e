import Mathlib.Data.List.TakeDrop
import MonitorBench.Text.Decimal

/-!
# Taking a run of characters off the front

What a reader takes off the front of a text is a run of characters of one kind. It takes a whole
run and nothing more when what follows does not go on with that kind (`takeWhile_run`,
`dropWhile_run`). The digits of a number are such a run, with a zero in front only if they are
that zero, and an integer is such a run after its sign.
-/

set_option autoImplicit false

namespace MonitorBench.Text

/-- A text ends the runs of a kind if it does not go on with it. -/
def EndsRun (kind : Char → Bool) (rest : List Char) : Prop :=
  ∀ c ∈ rest.head?, kind c = false

variable {kind other : Char → Bool} {run rest : List Char}

/-- Every run ends with the text. -/
theorem endsRun_nil : EndsRun kind [] := by
  intro c bad
  cases bad

/-- A run ends in front of a character that is not of its kind. -/
theorem endsRun_cons {c : Char} : EndsRun kind (c :: rest) ↔ kind c = false := by
  simp [EndsRun]

/-- What ends the runs of a kind ends those of a narrower one. -/
theorem EndsRun.mono (ends : EndsRun kind rest) (narrower : ∀ c, other c = true → kind c = true) :
    EndsRun other rest := by
  intro c first
  have outside := ends c first
  by_contra inside
  rw [narrower c (by simpa using inside)] at outside
  cases outside

/-- A run is taken as a whole. -/
theorem takeWhile_run (all : ∀ c ∈ run, kind c = true) (ends : EndsRun kind rest) :
    (run ++ rest).takeWhile kind = run := by
  rw [List.takeWhile_append_of_pos all]
  cases rest with
  | nil => rw [List.takeWhile_nil, List.append_nil]
  | cons c rest =>
    have outside := endsRun_cons.mp ends
    rw [List.takeWhile_cons_of_neg (by simp [outside]), List.append_nil]

/-- A run is dropped as a whole. -/
theorem dropWhile_run (all : ∀ c ∈ run, kind c = true) (ends : EndsRun kind rest) :
    (run ++ rest).dropWhile kind = rest := by
  rw [List.dropWhile_append_of_pos all]
  cases rest with
  | nil => rfl
  | cons c rest =>
    have outside := endsRun_cons.mp ends
    rw [List.dropWhile_cons_of_neg (by simp [outside])]

section Digits

variable (n : Nat)

/-- The digits of a number are digits. -/
theorem isDigit_of_mem_digits {c : Char} (mem : c ∈ Nat.toDigits 10 n) : c.isDigit = true :=
  Nat.isDigit_of_mem_toDigits (Nat.zero_lt_succ 9) (Nat.le_refl 10) mem

/-- A number above zero does not start with a zero. -/
theorem head?_digits_ne_zero (positive : 0 < n) : (Nat.toDigits 10 n).head? ≠ some '0' := by
  induction n using Nat.strongRecOn with
  | _ n ih =>
    by_cases small : n < 10
    · rw [Nat.toDigits_of_lt_base small]
      simp [Nat.digitChar_eq_zero, Nat.ne_of_gt positive]
    · have large : 10 ≤ n := Nat.le_of_not_lt small
      have shorter : n / 10 < n := Nat.div_lt_self positive (by decide)
      have above : 0 < n / 10 := Nat.div_pos large (by decide)
      obtain ⟨first, others, digits⟩ := List.exists_cons_of_ne_nil
        (Nat.toDigits_ne_nil : Nat.toDigits 10 (n / 10) ≠ [])
      have earlier := ih (n / 10) shorter above
      rw [Nat.toDigits_of_base_le (by decide) large, digits]
      rw [digits] at earlier
      exact earlier

/-- The digits of a number begin with a zero only if that is all. -/
theorem length_digits_of_head?_eq_zero (zero : (Nat.toDigits 10 n).head? = some '0') :
    (Nat.toDigits 10 n).length = 1 := by
  rcases Nat.eq_zero_or_pos n with rfl | positive
  · rfl
  · exact absurd zero (head?_digits_ne_zero n positive)

/-- A number has a first digit. -/
theorem digits_eq_cons : ∃ c cs, Nat.toDigits 10 n = c :: cs ∧ c.isDigit = true := by
  obtain ⟨c, cs, digits⟩ := List.exists_cons_of_ne_nil
    (Nat.toDigits_ne_nil : Nat.toDigits 10 n ≠ [])
  exact ⟨c, cs, digits, isDigit_of_mem_digits n (by simp [digits])⟩

end Digits

section Integers

variable {n : Int}

/-- An integer is written with a sign and digits. -/
theorem of_mem_integerChars {c : Char} (mem : c ∈ integerChars n) :
    c = '-' ∨ c.isDigit = true := by
  rcases List.mem_append.mp mem with sign | digit
  · split at sign
    next => exact .inl (List.mem_singleton.mp sign)
    next => cases sign
  · exact .inr (isDigit_of_mem_digits n.natAbs digit)

/-- An integer begins with a sign or a digit. -/
theorem integerChars_eq_cons (n : Int) :
    ∃ c cs, integerChars n = c :: cs ∧ (c = '-' ∨ c.isDigit = true) := by
  obtain ⟨c, cs, chars⟩ : ∃ c cs, integerChars n = c :: cs :=
    List.exists_cons_of_ne_nil fun none => Nat.toDigits_ne_nil (List.append_eq_nil_iff.mp none).2
  exact ⟨c, cs, chars, of_mem_integerChars (n := n) (by simp [chars])⟩

/-- An integer below zero is its size with the sign. -/
theorem neg_natAbs (negative : n < 0) : -Int.ofNat n.natAbs = n := by
  rw [Int.ofNat_eq_natCast, Int.ofNat_natAbs_of_nonpos (Int.le_of_lt negative), Int.neg_neg]

/-- Any other integer is its size. -/
theorem ofNat_natAbs (not_negative : ¬ n < 0) : Int.ofNat n.natAbs = n :=
  Int.natAbs_of_nonneg (Int.not_lt.mp not_negative)

end Integers

end MonitorBench.Text
