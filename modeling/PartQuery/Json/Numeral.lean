import PartQuery.Json.Outline
import PartQuery.Number.Decimal

/-!
# Numbers of a document

A whole number that fits 64 bits is kept as it is. Any other number is a significand and a power of
ten, computed in floating point: the significand keeps the digits that fit 64 bits, the digits of
the whole part that do not fit count as a factor of ten each, those of the fraction are dropped, and
the power of ten is then multiplied or divided in. The result may differ in the last place from the
nearest number, by which operands are read.
-/

namespace PartQuery.Json

/-- The parts of a written number. -/
structure Numeral where
  negative : Bool
  whole : List Char
  /-- The digits after the point; without a point there are none. -/
  fraction : List Char
  /-- The power of ten with its sign. -/
  exponent : Option (Bool × List Char)
deriving DecidableEq, Repr

namespace Numeral

/-- The largest significand. -/
def maxSignificand : Nat :=
  twoPow 64 - 1

/-- The largest power of ten that is told apart. -/
def maxExponent : Nat :=
  twoPow 31 - 1

/-- Takes digits into a significand as long as it fits, and counts the digits taken. -/
def takeDigits (significand taken : Nat) : List Char → Nat × Nat
  | [] => (significand, taken)
  | c :: rest =>
    let next := 10 * significand + Decimal.digitValue c
    if next ≤ maxSignificand then takeDigits next (taken + 1) rest else (significand, taken)

/-- Divides by `10 ^ 308` as often as told, or until nothing is left. -/
def divideOut : Nat → Binary64 → Binary64
  | 0, x => x
  | n + 1, x =>
    if x.magnitude = 0 then x else divideOut n (x.scaleDown (Binary64.ofNat (tenPow 308)))

/-- A significand times a power of ten, one floating-point operation at a time; nothing when the
result exceeds every finite number. -/
def scaled? (significand : Nat) (exponent : Int) : Option Binary64 :=
  let x := Binary64.ofNat significand
  if exponent < 0 then
    let places := (-exponent).toNat
    let rounds := (places - 1) / 308
    some ((divideOut rounds x).scaleDown (Binary64.ofNat (tenPow (places - 308 * rounds))))
  else if exponent ≤ 308 then
    let y := x.scaleUp (Binary64.ofNat (tenPow exponent.toNat))
    if y.isInfinite then none else some y
  else if x.magnitude = 0 then some x
  else none

/-- The same with a sign. -/
def real? (negative : Bool) (significand : Nat) (exponent : Int) : Option Number :=
  (scaled? significand exponent).map fun x => .real ⟨negative, x.magnitude⟩

/-- The value of a number without point and power of ten. -/
def wholeValue? (negative : Bool) (significand dropped : Nat) : Option Number :=
  if 0 < dropped then real? negative significand dropped
  else if !negative then some (.whole significand)
  else if 0 < significand ∧ significand ≤ twoPow 63 then some (.whole (-significand))
  else real? true significand 0

/-- The value of a number; nothing when it is out of range. -/
def value? (n : Numeral) : Option Number :=
  let (significand, taken) := takeDigits 0 0 n.whole
  let dropped := n.whole.length - taken
  if n.fraction.isEmpty && n.exponent.isNone then wholeValue? n.negative significand dropped
  else
    let (significand, places) := takeDigits significand 0 n.fraction
    let start : Int := (dropped : Int) - places
    match n.exponent with
    | none => real? n.negative significand start
    | some (minus, digits) =>
      let power := Decimal.ofDigits digits
      if power ≤ maxExponent then
        real? n.negative significand (if minus then start - power else start + power)
      else if significand ≠ 0 ∧ minus = false then none
      else real? n.negative 0 0

/-- A number that the end of the text cuts off. Whoever only skips it takes the end for a wrong
character. -/
def cut : Flaw :=
  ⟨.truncated, some .malformed⟩

/-- A number with a wrong character in it. -/
def wrong : Flaw :=
  ⟨.malformed, some .malformed⟩

/-- The flaw of a number that lacks a digit before `rest`. -/
def lacksDigit (rest : List Char) : Flaw :=
  if rest.isEmpty then cut else wrong

/-- One or more digits. -/
def scanDigits (s : List Char) : Except Flaw (List Char × List Char) :=
  match s.takeWhile Char.isDigit with
  | [] => .error (lacksDigit s)
  | digits => .ok (digits, s.drop digits.length)

/-- The whole part: a zero alone, or digits that begin with another. -/
def scanWhole (s : List Char) : Except Flaw (List Char × List Char) := do
  let (digits, rest) ← scanDigits s
  if 1 < digits.length ∧ digits.head? = some '0' then .error wrong else .ok (digits, rest)

/-- A point and digits, or nothing. -/
def scanFraction : List Char → Except Flaw (List Char × List Char)
  | '.' :: rest => scanDigits rest
  | rest => .ok ([], rest)

/-- The mark of a power of ten, an optional sign and digits, or nothing. -/
def scanExponent : List Char → Except Flaw (Option (Bool × List Char) × List Char)
  | [] => .ok (none, [])
  | c :: rest =>
    if c = 'e' ∨ c = 'E' then do
      let (minus, s) := Decimal.readSign rest
      let (digits, s) ← scanDigits s
      return (some (minus, digits), s)
    else .ok (none, c :: rest)

/-- Reads the parts of a number off the front of a text. -/
def scan (s : List Char) : Except Flaw (Numeral × List Char) := do
  let (negative, s) := match s with
    | '-' :: rest => (true, rest)
    | s => (false, s)
  let (whole, s) ← scanWhole s
  let (fraction, s) ← scanFraction s
  let (exponent, s) ← scanExponent s
  return (⟨negative, whole, fraction, exponent⟩, s)

end Numeral

/-- The number at the front of a text, and what follows it. -/
def scanNumber (s : List Char) : Except Flaw Number × Option (List Char) :=
  match Numeral.scan s with
  | .error flaw => (.error flaw, none)
  | .ok (n, rest) =>
    (match n.value? with
      | some value => .ok value
      | none => .error ⟨.malformed, none⟩,
     some rest)

end PartQuery.Json
