import PartQuery.Calendar.Instant

/-!
# Writing dates

An instant is written in full with the least of three, six or nine decimals that loses nothing, or,
in a statement of the database, always with six. A leap second is written as the second it adds.
-/

namespace PartQuery.Calendar

/-- A number with zeros in front up to the given width. -/
def padded (width n : Nat) : List Char :=
  let digits := Nat.toDigits 10 n
  List.replicate (width - digits.length) '0' ++ digits

/-- Year, month and day. Years outside of 0 to 9999 carry a sign. -/
def writeDate (date : Civil) : List Char :=
  let year :=
    if 0 ≤ date.year ∧ date.year ≤ 9999 then padded 4 date.year.toNat
    else (if date.year < 0 then '-' else '+') :: padded 4 date.year.natAbs
  year ++ '-' :: padded 2 date.month ++ '-' :: padded 2 date.day

/-- Hour, minute and second of the day; a leap second shows as one second more. -/
def writeTime (t : Instant) : List Char :=
  padded 2 (t.second / 3600) ++ ':' :: padded 2 (t.second / 60 % 60) ++
    ':' :: padded 2 (t.second % 60 + if t.isLeap then 1 else 0)

/-- The decimals of the second: none, or as few of three, six and nine as tell the fraction. -/
def writeFraction (nano : Nat) : List Char :=
  if nano = 0 then []
  else if nano % 1000000 = 0 then '.' :: padded 3 (nano / 1000000)
  else if nano % 1000 = 0 then '.' :: padded 6 (nano / 1000)
  else '.' :: padded 9 nano

/-- An offset as a configuration writes it. -/
def writeOffset (offset : Offset) : String :=
  let size := offset.seconds.natAbs
  let minutes := padded 2 (size / 3600) ++ ':' :: padded 2 (size / 60 % 60)
  let seconds := if size % 60 = 0 then [] else ':' :: padded 2 (size % 60)
  String.ofList ((if offset.seconds < 0 then '-' else '+') :: minutes ++ seconds)

end PartQuery.Calendar

namespace PartQuery.Instant

/-- The date of an instant in universal time. -/
def civil (t : Instant) : Calendar.Civil :=
  Calendar.Civil.ofDayNumber t.day

/-- The instant as documents write it. -/
def toText (t : Instant) : String :=
  String.ofList (Calendar.writeDate t.civil ++ 'T' :: Calendar.writeTime t ++
    Calendar.writeFraction (t.nano % 1000000000) ++ ['Z'])

/-- The instant as a literal of a database statement holds it, to the millionth of a second. -/
def toSqlText (t : Instant) : String :=
  String.ofList (Calendar.writeDate t.civil ++ ' ' :: Calendar.writeTime t ++
    '.' :: Calendar.padded 6 (t.nano % 1000000000 / 1000) ++ " +00:00".toList)

end PartQuery.Instant
