import PartQuery.Number.Binary64
import PartQuery.Text.Blank

/-!
# Decimal numbers

How an operand writes a number: an optional sign, then `inf` or `infinity` in any case, or decimal
digits with an optional point and an optional power of ten. A decimal denotes the nearest binary
number, whatever its length.
-/

namespace PartQuery

/-- The decimal number `significand * 10 ^ exponent`. -/
structure Decimal where
  significand : Nat
  exponent : Int
deriving DecidableEq, Repr, Inhabited

namespace Decimal

/-- The magnitude nearest to a decimal. A power of ten above 309 exceeds every finite number; a
value below a tenth of the least positive number rounds to zero, and then its digits need not be
divided out. -/
def nearestMagnitude (d : Decimal) : Nat :=
  if d.significand = 0 then 0
  else if 309 < d.exponent then Binary64.infiniteMagnitude
  else if d.exponent + d.significand.log2 < -400 then 0
  else if 0 ≤ d.exponent then
    Binary64.nearestMagnitude (d.significand * tenPow d.exponent.toNat) 1
  else Binary64.nearestMagnitude d.significand (tenPow (-d.exponent).toNat)

/-- The value of a decimal digit. -/
def digitValue (c : Char) : Nat :=
  c.toNat - '0'.toNat

/-- The number that a row of digits continues, given the number read so far. -/
def continueDigits (start : Nat) (digits : List Char) : Nat :=
  digits.foldl (fun n c => 10 * n + digitValue c) start

/-- The number that a row of digits writes. -/
def ofDigits (digits : List Char) : Nat :=
  continueDigits 0 digits

/-- Reads an optional sign; the result tells whether it was a minus. -/
def readSign : List Char → Bool × List Char
  | '-' :: rest => (true, rest)
  | '+' :: rest => (false, rest)
  | s => (false, s)

/-- Reads the power of ten that ends a decimal: nothing, or `e` with at least one digit. -/
def readExponent? : List Char → Option Int
  | [] => some 0
  | c :: rest =>
    if c = 'e' ∨ c = 'E' then
      let (minus, digits) := readSign rest
      if digits.isEmpty || !digits.all Char.isDigit then none
      else some (if minus then -(ofDigits digits : Int) else ofDigits digits)
    else none

/-- Reads a decimal without a sign: digits on at least one side of the point. -/
def readUnsigned? (s : List Char) : Option Decimal :=
  let whole := s.takeWhile Char.isDigit
  let afterWhole := s.dropWhile Char.isDigit
  let (fraction, rest) :=
    match afterWhole with
    | '.' :: r => (r.takeWhile Char.isDigit, r.dropWhile Char.isDigit)
    | r => ([], r)
  if whole.isEmpty && fraction.isEmpty then none
  else (readExponent? rest).map fun power =>
    ⟨continueDigits (ofDigits whole) fraction, power - fraction.length⟩

end Decimal

/-- Reads a number operand, whose blanks at the ends do not count. -/
def Binary64.read? (operand : String) : Option Binary64 :=
  let (negative, s) := Decimal.readSign (Text.trimChars operand.toList)
  let word := s.map Char.toLower
  if word = "inf".toList ∨ word = "infinity".toList then
    some ⟨negative, Binary64.infiniteMagnitude⟩
  else (Decimal.readUnsigned? s).map fun d => ⟨negative, d.nearestMagnitude⟩

end PartQuery
