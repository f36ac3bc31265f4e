/-!
# Sets of characters

Properties of characters are given as ranges of code points, as in the tables of the
Unicode standard.
-/

set_option autoImplicit false

namespace MonitorBench.Text

/-- Whether one of the ranges, both ends included, holds `c`. -/
def inRanges (ranges : List (Nat × Nat)) (c : Char) : Bool :=
  ranges.any fun (first, last) => first ≤ c.toNat && c.toNat ≤ last

end MonitorBench.Text
