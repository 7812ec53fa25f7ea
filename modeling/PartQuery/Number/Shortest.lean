import PartQuery.Number.Decimal

/-!
# Shortest decimals

A number is written with the fewest digits that read back to it. A decimal reads back to a number
when it lies between the midpoints to the two neighbours; the midpoints themselves count when the
last bit of the number is zero. The digits are found on the coarsest grid of a power of ten that has
such a point; of two such points the nearer is taken, and the upper one when both are equally near.
-/

namespace PartQuery

namespace Binary64

/-- Whether the decimal `d * 10 ^ exponent` reads back to a positive finite magnitude. The midpoints
are doubled units, so everything is compared in halves of the least positive number. -/
def readsBack (magnitude d : Nat) (exponent : Int) : Bool :=
  let low := (units magnitude + units (magnitude - 1)) * tenPow (-exponent).toNat
  let high := (units magnitude + units (magnitude + 1)) * tenPow (-exponent).toNat
  let point := d * tenPow exponent.toNat * twoPow 1075
  if magnitude % 2 = 0 then low ≤ point && point ≤ high
  else low < point && point < high

/-- The point of the grid `10 ^ exponent` that reads back, if there is one. -/
def gridPoint? (magnitude : Nat) (exponent : Int) : Option Nat :=
  let value := 2 * units magnitude * tenPow (-exponent).toNat
  let step := tenPow exponent.toNat * twoPow 1075
  let lower := value / step
  match readsBack magnitude lower exponent, readsBack magnitude (lower + 1) exponent with
  | true, true => some (if 2 * (value % step) < step then lower else lower + 1)
  | true, false => some lower
  | false, true => some (lower + 1)
  | false, false => none

/-- The power of ten below which no grid is needed: its step is smaller than the least number. -/
def finestExponent : Int :=
  -324

/-- The decimal on the coarsest grid at most `n` steps above the finest one. -/
def shortestBelow (magnitude : Nat) : Nat → Decimal
  | 0 => ⟨(gridPoint? magnitude finestExponent).getD 0, finestExponent⟩
  | n + 1 =>
    match gridPoint? magnitude (finestExponent + (n + 1)) with
    | some d => ⟨d, finestExponent + (n + 1)⟩
    | none => shortestBelow magnitude n

/-- The shortest decimal that reads back to a positive finite magnitude. -/
def shortest (magnitude : Nat) : Decimal :=
  shortestBelow magnitude 633

end Binary64

namespace Decimal

/-- A decimal in positional notation, without a point when it is whole. -/
def positional (d : Decimal) : String :=
  let digits := Nat.toDigits 10 d.significand
  if 0 ≤ d.exponent then
    String.ofList (digits ++ List.replicate d.exponent.toNat '0')
  else
    let places := (-d.exponent).toNat
    let padded := List.replicate (places + 1 - digits.length) '0' ++ digits
    let whole := padded.length - places
    String.ofList (padded.take whole ++ '.' :: padded.drop whole)

end Decimal

/-- A number in positional notation with the fewest digits; the sign of zero is kept. -/
def Binary64.toText (x : Binary64) : String :=
  if x.isNaN then "NaN"
  else
    let size :=
      if x.isInfinite then "inf"
      else if x.magnitude = 0 then "0"
      else (shortest x.magnitude).positional
    if x.negative then "-" ++ size else size

end PartQuery
