/-!
# Decimal numbers

A number is written with its decimal digits, without leading zeros. A number of 64 bits
is read from one or more ASCII digits after an optional plus sign; leading zeros are
allowed, and a value that does not fit in 64 bits is refused.
-/

set_option autoImplicit false

namespace MonitorBench.Text

/-- The decimal digits of `n`. -/
def digitsOf (n : UInt64) : List Char :=
  Nat.toDigits 10 n.toNat

/-- The decimal text of `n`. -/
def decimal (n : UInt64) : String :=
  String.ofList (digitsOf n)

/-- The decimal text of a count. -/
def natural (n : Nat) : String :=
  String.ofList (Nat.toDigits 10 n)

/-- The decimal characters of an integer, with a sign only below zero. -/
def integerChars (n : Int) : List Char :=
  (if n < 0 then ['-'] else []) ++ Nat.toDigits 10 n.natAbs

/-- The decimal text of an integer. -/
def integer (n : Int) : String :=
  String.ofList (integerChars n)

/-- The value of a non-empty row of ASCII digits that fits in 64 bits. -/
def ofDigits? (cs : List Char) : Option UInt64 :=
  if cs ≠ [] ∧ cs.all Char.isDigit then
    let value := Nat.ofDigitChars 10 cs 0
    if value < UInt64.size then some (UInt64.ofNat value) else none
  else
    none

/-- Reads a number with an optional plus sign. -/
def readDecimal? : List Char → Option UInt64
  | '+' :: cs => ofDigits? cs
  | cs => ofDigits? cs

/-- A number is read back from its digits. -/
theorem ofDigits?_digitsOf (n : UInt64) : ofDigits? (digitsOf n) = some n := by
  have digits : (digitsOf n).all Char.isDigit := by
    rw [List.all_eq_true]
    intro c hc
    exact Nat.isDigit_of_mem_toDigits (Nat.zero_lt_succ 9) (Nat.le_refl 10) hc
  have value : Nat.ofDigitChars 10 (digitsOf n) 0 = n.toNat :=
    Nat.ofDigitChars_ten_toDigits
  have some_digit : digitsOf n ≠ [] := Nat.toDigits_ne_nil
  have fits : n.toNat < UInt64.size := n.toNat_lt
  rw [ofDigits?, if_pos ⟨some_digit, digits⟩]
  simp only [value, if_pos fits, UInt64.ofNat_toNat]

end MonitorBench.Text
