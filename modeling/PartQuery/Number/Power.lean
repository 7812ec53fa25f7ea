/-!
# Powers

The powers of the two bases that numbers are written in. The widths of binary formats are told by
powers of two, and the places of decimals by powers of ten.
-/

namespace PartQuery

/-- The power of two with this exponent. -/
def twoPow (n : Nat) : Nat :=
  Nat.pow 2 n

/-- The power of ten with this exponent. -/
def tenPow (n : Nat) : Nat :=
  Nat.pow 10 n

theorem twoPow_pos (n : Nat) : 0 < twoPow n :=
  Nat.pow_pos (by decide)

theorem tenPow_pos (n : Nat) : 0 < tenPow n :=
  Nat.pow_pos (by decide)

end PartQuery
