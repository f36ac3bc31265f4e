/-!
# Hexadecimal digits

Digits of base sixteen in either case, for escapes and numbers.
-/

set_option autoImplicit false

namespace MonitorBench.Text

/-- The value of a hexadecimal digit. -/
def hexDigit? (c : Char) : Option Nat :=
  if '0' ≤ c ∧ c ≤ '9' then some (c.toNat - 48)
  else if 'a' ≤ c ∧ c ≤ 'f' then some (c.toNat - 87)
  else if 'A' ≤ c ∧ c ≤ 'F' then some (c.toNat - 55)
  else none

/-- The value of digits in a base, most significant first; every digit has to be below the base. -/
def valueIn? (base : Nat) (digits : List Char) : Option Nat :=
  digits.foldl
    (fun value c => do
      let high ← value
      let digit ← hexDigit? c
      if digit < base then some (high * base + digit) else none)
    (some 0)

end MonitorBench.Text
