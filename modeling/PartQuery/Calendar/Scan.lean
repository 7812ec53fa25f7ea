import PartQuery.Calendar.Instant
import PartQuery.Number.Decimal

/-!
# Parts of written dates

The readers that the forms of a date share. Each takes its part off the front of the text, or fails.
-/

namespace PartQuery.Calendar

/-- The expected character. -/
def scanChar? (expected : Char) : List Char → Option (List Char)
  | c :: rest => if c = expected then some rest else none
  | [] => none

/-- A number of at least one and at most `width` digits. -/
def scanDigits? (width : Nat) (s : List Char) : Option (Nat × List Char) :=
  match (s.take width).takeWhile Char.isDigit with
  | [] => none
  | digits => some (Decimal.ofDigits digits, s.drop digits.length)

/-- A number of exactly `width` digits. -/
def scanPadded? (width : Nat) (s : List Char) : Option (Nat × List Char) :=
  let digits := s.take width
  if digits.length = width ∧ digits.all Char.isDigit then
    some (Decimal.ofDigits digits, s.drop width)
  else none

/-- A number of one or two digits, after any blanks. -/
def scanTwo? (s : List Char) : Option (Nat × List Char) :=
  scanDigits? 2 (Text.dropBlanks s)

/-- A year, after any blanks: with a sign any number of digits, without one at most four. -/
def scanYear? (s : List Char) : Option (Int × List Char) :=
  match Text.dropBlanks s with
  | '-' :: rest => (scanDigits? rest.length rest).map fun (n, r) => (-(n : Int), r)
  | '+' :: rest => (scanDigits? rest.length rest).map fun (n, r) => ((n : Int), r)
  | rest => (scanDigits? 4 rest).map fun (n, r) => ((n : Int), r)

/-- Billionths of a second, after a point: at least one digit, of which nine count. Without a point
there are none. -/
def scanFraction? : List Char → Option (Nat × List Char)
  | '.' :: rest =>
    match rest.takeWhile Char.isDigit with
    | [] => none
    | digits =>
      let kept := digits.take 9
      some (Decimal.ofDigits kept * tenPow (9 - kept.length), rest.drop digits.length)
  | rest => some (0, rest)

/-- Two-digit minutes below sixty. -/
def scanMinutes? (s : List Char) : Option (Nat × List Char) :=
  (scanPadded? 2 s).bind fun (n, rest) => if n ≤ 59 then some (n, rest) else none

/-- A sign, two-digit hours, whatever `separator` takes off, and two-digit minutes: an offset from
universal time. The sign may be the mathematical minus. -/
def scanOffset? (separator : List Char → Option (List Char)) (s : List Char) :
    Option (Offset × List Char) :=
  match s with
  | [] => none
  | sign :: rest => do
    let factor : Int ←
      if sign = '+' then some 1 else if sign = '-' ∨ sign = '−' then some (-1) else none
    let (hours, rest) ← scanPadded? 2 rest
    let rest ← separator rest
    let (minutes, rest) ← scanMinutes? rest
    let offset ← Offset.ofSeconds? (factor * (3600 * hours + 60 * minutes : Nat))
    return (offset, rest)

/-- Any run of colons and blanks. -/
def scanLooseSeparator (s : List Char) : Option (List Char) :=
  some (s.dropWhile fun c => c == ':' || Text.isBlank c)

/-- An offset as a configuration writes it; what follows the minutes does not count. -/
def readOffset? (s : String) : Option Offset :=
  (scanOffset? scanLooseSeparator s.toList).map (·.1)

end PartQuery.Calendar
