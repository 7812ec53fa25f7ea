import PartQuery.Number.Power

/-!
# Binary floating-point numbers

Measured quantities are held in the 64-bit binary format. A number is its sign and its *magnitude*:
the exponent and fraction fields read as one natural number. Among the magnitudes, the order of the
fields is the order of the values, so comparing two numbers is comparing integers, and rounding a
quotient is choosing a magnitude. All arithmetic here is exact arithmetic on naturals followed by
one rounding, to nearest with ties to even.
-/

namespace PartQuery

/-- A number of the 64-bit binary format. -/
structure Binary64 where
  /-- The sign bit. -/
  negative : Bool
  /-- The exponent and fraction fields as one number. -/
  magnitude : Nat
deriving DecidableEq, Repr, Inhabited

namespace Binary64

/-- The magnitude of infinity. The magnitudes above it are not numbers. -/
def infiniteMagnitude : Nat :=
  2047 * twoPow 52

/-- The number with the given bit pattern. -/
def ofBits (bits : UInt64) : Binary64 where
  negative := twoPow 63 ≤ bits.toNat
  magnitude := bits.toNat % twoPow 63

/-- The bit pattern of a number. -/
def toBits (x : Binary64) : UInt64 :=
  UInt64.ofNat ((if x.negative then twoPow 63 else 0) + x.magnitude)

/-- Whether this is one of the values that are not numbers. -/
def isNaN (x : Binary64) : Bool :=
  infiniteMagnitude < x.magnitude

/-- Whether this is one of the two infinities. -/
def isInfinite (x : Binary64) : Bool :=
  x.magnitude == infiniteMagnitude

/-! ### Order -/

/-- The place of a number in the order of all numbers; the two zeros share a place. -/
def rank (x : Binary64) : Int :=
  if x.negative then -(x.magnitude : Int) else x.magnitude

/-- How two numbers compare; values that are not numbers compare with nothing. -/
def compare? (x y : Binary64) : Option Ordering :=
  if x.isNaN || y.isNaN then none else some (compare x.rank y.rank)

/-- Whether two numbers are the same number. -/
def same (x y : Binary64) : Bool :=
  x.compare? y == some .eq

/-! ### Values and rounding -/

/-- The value of a finite magnitude, as a multiple of the least positive number. At the magnitude of
infinity it is the value that the next binade would begin with. -/
def units (magnitude : Nat) : Nat :=
  if magnitude < twoPow 52 then magnitude
  else (twoPow 52 + magnitude % twoPow 52) * twoPow (magnitude / twoPow 52 - 1)

/-- The quotient rounded to the nearest natural number, ties to even. -/
def halfEven (num den : Nat) : Nat :=
  let quotient := num / den
  let rest := num % den
  if 2 * rest < den then quotient
  else if den < 2 * rest then quotient + 1
  else quotient + quotient % 2

/-- The magnitude nearest to the quotient `num / den`. The quotient is taken in units of the least
positive number; `shift` binary places are more than the fraction holds and are rounded away. -/
def nearestMagnitude (num den : Nat) : Nat :=
  let scaled := num * twoPow 1074
  let shift := (scaled / den).log2 - 52
  min (shift * twoPow 52 + halfEven scaled (den * twoPow shift)) infiniteMagnitude

/-- The number nearest to a natural number. -/
def ofNat (n : Nat) : Binary64 where
  negative := false
  magnitude := nearestMagnitude n 1

/-- The product of the magnitudes of two finite numbers, rounded, with the sign of the first. -/
def scaleUp (x y : Binary64) : Binary64 where
  negative := x.negative
  magnitude := nearestMagnitude (units x.magnitude * units y.magnitude) (twoPow 2148)

/-- The quotient of the magnitudes of two finite numbers, rounded, with the sign of the first. -/
def scaleDown (x y : Binary64) : Binary64 where
  negative := x.negative
  magnitude := nearestMagnitude (units x.magnitude) (units y.magnitude)

/-- Magnitudes below the first binade are their own value. -/
theorem units_of_lt {m : Nat} (h : m < twoPow 52) : units m = m := by
  rw [units, if_pos h]

end Binary64

end PartQuery
