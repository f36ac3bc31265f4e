import Mathlib.Data.List.Induction
import Mathlib.Data.Nat.Digits.Defs
import MonitorBench.Text.Decimal

/-!
# What spells a number

A numeral is a row of ASCII digits after an optional plus sign, and is worth what its digits are
worth by their places: zeros in front are worth nothing, so there can be any number of them. The
reader of numbers folds over the digits from the front and looks at the size only then.
`readDecimal?_eq_some_iff` and `readDecimal?_eq_none_iff` say that it reads exactly the numerals
whose value fits in 64 bits, however many digits they have.
-/

set_option autoImplicit false

namespace MonitorBench.Text

/-- What a row of digits is worth: the last one counts ones, the one before it tens, and so on. -/
def worth (digits : List Char) : Nat :=
  Nat.ofDigits 10 (digits.reverse.map fun c => c.toNat - '0'.toNat)

/-- The text spells the value: digits after an optional plus sign. -/
inductive Numeral : List Char → Nat → Prop where
  | unsigned {digits : List Char} (nonempty : digits ≠ [])
      (ascii : ∀ c ∈ digits, c.isDigit = true) : Numeral digits (worth digits)
  | signed {digits : List Char} (nonempty : digits ≠ [])
      (ascii : ∀ c ∈ digits, c.isDigit = true) : Numeral ('+' :: digits) (worth digits)

/-- A digit more at the end is worth itself, and makes the others worth ten times as much. -/
theorem worth_snoc (digits : List Char) (last : Char) :
    worth (digits ++ [last]) = 10 * worth digits + (last.toNat - '0'.toNat) := by
  unfold worth
  rw [List.reverse_append, List.reverse_singleton, List.singleton_append, List.map_cons,
    Nat.ofDigits_cons]
  simp [Nat.add_comm]

/-- Folding from the front gives each digit its place. -/
theorem ofDigitChars_eq_worth (digits : List Char) :
    Nat.ofDigitChars 10 digits 0 = worth digits := by
  induction digits using List.reverseRecOn with
  | nil => rfl
  | append_singleton digits last ih =>
    rw [worth_snoc, Nat.ofDigitChars_append, ih]
    rfl

section Reading

variable {cs : List Char} {n : UInt64} {value : Nat}

/-- A number is read from digits exactly when there are only digits, at least one, and they are
worth it. -/
theorem ofDigits?_eq_some_iff :
    ofDigits? cs = some n ↔ cs ≠ [] ∧ (∀ c ∈ cs, c.isDigit = true) ∧ worth cs = n.toNat := by
  unfold ofDigits?
  simp only [ofDigitChars_eq_worth, List.all_eq_true]
  constructor
  · intro read
    split at read
    next digits =>
      split at read
      next fits =>
        have same : UInt64.ofNat (worth cs) = n := Option.some.inj read
        refine ⟨digits.1, digits.2, ?_⟩
        rw [← same, UInt64.toNat_ofNat_of_lt' fits]
      next => cases read
    next => cases read
  · rintro ⟨nonempty, ascii, same⟩
    have fits : worth cs < UInt64.size := by
      rw [same]
      exact n.toNat_lt
    rw [if_pos ⟨nonempty, ascii⟩, if_pos fits, same, UInt64.ofNat_toNat]

/-- The sign is no digit, so a numeral with it has its digits behind it. -/
theorem numeral_plus_iff :
    Numeral ('+' :: cs) value ↔
      cs ≠ [] ∧ (∀ c ∈ cs, c.isDigit = true) ∧ worth cs = value := by
  constructor
  · intro numeral
    cases numeral with
    | unsigned nonempty ascii =>
      have plus := ascii '+' List.mem_cons_self
      exact absurd plus (by decide)
    | signed nonempty ascii => exact ⟨nonempty, ascii, rfl⟩
  · rintro ⟨nonempty, ascii, rfl⟩
    exact .signed nonempty ascii

/-- Without a plus in front, a number is spelled by digits alone. -/
theorem numeral_iff_of_no_plus (no_plus : cs.head? ≠ some '+') :
    Numeral cs value ↔ cs ≠ [] ∧ (∀ c ∈ cs, c.isDigit = true) ∧ worth cs = value := by
  constructor
  · intro numeral
    cases numeral with
    | unsigned nonempty ascii => exact ⟨nonempty, ascii, rfl⟩
    | signed => exact absurd rfl no_plus
  · rintro ⟨nonempty, ascii, rfl⟩
    exact .unsigned nonempty ascii

/-- A number is read exactly from the numerals that spell it. -/
theorem readDecimal?_eq_some_iff : readDecimal? cs = some n ↔ Numeral cs n.toNat := by
  unfold readDecimal?
  split
  next digits => rw [ofDigits?_eq_some_iff, numeral_plus_iff]
  next no_plus =>
    have unsigned : cs.head? ≠ some '+' := by
      intro plus
      obtain ⟨digits, rfl⟩ := List.head?_eq_some_iff.mp plus
      exact no_plus digits rfl
    rw [ofDigits?_eq_some_iff, numeral_iff_of_no_plus unsigned]

/-- Nothing is read exactly when no numeral of 64 bits is there. -/
theorem readDecimal?_eq_none_iff :
    readDecimal? cs = none ↔ ∀ value < UInt64.size, ¬ Numeral cs value := by
  constructor
  · intro unread value fits numeral
    have number : (UInt64.ofNat value).toNat = value := UInt64.toNat_ofNat_of_lt' fits
    rw [← number, ← readDecimal?_eq_some_iff, unread] at numeral
    cases numeral
  · intro none_fits
    cases read : readDecimal? cs with
    | none => rfl
    | some n =>
      have numeral := readDecimal?_eq_some_iff.mp read
      exact absurd numeral (none_fits n.toNat n.toNat_lt)

end Reading

end MonitorBench.Text
