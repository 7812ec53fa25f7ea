import PartQuery.Calendar.Scan

/-!
# Reading dates

Dates are read in two places. In a document a date always names its offset, and its numbers need no
padding. In an operand a date is either padded in full with an offset, or a date with an optional
time of day that is local to the offset of the configuration.
-/

namespace PartQuery.Calendar

/-- Year, month and day in full, separated by hyphens. -/
def scanPaddedDate? (s : List Char) : Option (Civil × List Char) := do
  let (year, s) ← scanPadded? 4 s
  let s ← scanChar? '-' s
  let (month, s) ← scanPadded? 2 s
  let s ← scanChar? '-' s
  let (day, s) ← scanPadded? 2 s
  return (⟨year, month, day⟩, s)

/-- One of the characters that may stand between a date and a time of day. -/
def scanTimeMark? : List Char → Option (List Char)
  | c :: rest => if c = 'T' ∨ c = 't' ∨ c = ' ' then some rest else none
  | [] => none

/-- `Z`, or an offset in which `separator` stands between hours and minutes. -/
def scanZone? (separator : List Char → Option (List Char)) (s : List Char) :
    Option (Offset × List Char) :=
  match s with
  | 'Z' :: rest | 'z' :: rest => some (Offset.zero, rest)
  | s => scanOffset? separator s

/-- The padded form with an offset, as an exchange format prescribes it. -/
def readPadded? (s : List Char) : Option Instant := do
  let (date, s) ← scanPaddedDate? s
  let s ← scanTimeMark? s
  let (hour, s) ← scanPadded? 2 s
  let s ← scanChar? ':' s
  let (minute, s) ← scanPadded? 2 s
  let s ← scanChar? ':' s
  let (second, s) ← scanPadded? 2 s
  let (nano, s) ← scanFraction? s
  let (offset, s) ← scanZone? (scanChar? ':') s
  if s.isEmpty then (← LocalTime.of? date hour minute second nano).at? offset else none

/-- Year, month and day separated by hyphens; blanks may stand before each number. -/
def scanDate? (s : List Char) : Option (Civil × List Char) := do
  let (year, s) ← scanYear? s
  let s ← scanChar? '-' s
  let (month, s) ← scanTwo? s
  let s ← scanChar? '-' s
  let (day, s) ← scanTwo? s
  return (⟨year, month, day⟩, s)

/-- Hour and minute separated by a colon; blanks may stand before each number. -/
def scanHourMinute? (s : List Char) : Option ((Nat × Nat) × List Char) := do
  let (hour, s) ← scanTwo? s
  let s ← scanChar? ':' s
  let (minute, s) ← scanTwo? s
  return ((hour, minute), s)

/-- A date and a time of day to the second, and nothing after it. -/
def readLocalSecond? (s : List Char) : Option LocalTime := do
  let (date, s) ← scanDate? s
  let s ← scanChar? 'T' s
  let ((hour, minute), s) ← scanHourMinute? s
  let s ← scanChar? ':' s
  let (second, s) ← scanTwo? s
  if s.isEmpty then LocalTime.of? date hour minute second 0 else none

/-- A date and a time of day to the minute, and nothing after it. -/
def readLocalMinute? (s : List Char) : Option LocalTime := do
  let (date, s) ← scanDate? s
  let s ← scanChar? 'T' s
  let ((hour, minute), s) ← scanHourMinute? s
  if s.isEmpty then LocalTime.of? date hour minute 0 0 else none

/-- A date alone, which stands for its midnight. -/
def readLocalDate? (s : List Char) : Option LocalTime := do
  let (date, s) ← scanDate? s
  if s.isEmpty then LocalTime.of? date 0 0 0 0 else none

/-- A date in one of the forms that name no offset. -/
def readLocal? (s : List Char) : Option LocalTime :=
  (readLocalSecond? s).or ((readLocalMinute? s).or (readLocalDate? s))

/-- A date operand, whose blanks at the ends do not count. -/
def readOperand? (timezone : Offset) (operand : String) : Option Instant :=
  let s := Text.trimChars operand.toList
  match readPadded? s with
  | some t => some t
  | none => (readLocal? s).bind (·.at? timezone)

/-- Blanks, then the expected character. -/
def scanSpacedChar? (expected : Char) (s : List Char) : Option (List Char) :=
  scanChar? expected (Text.dropBlanks s)

/-- The offset of a document date: the word `UTC` in any case, `Z`, or an offset with a loose
separator. -/
def scanDocumentZone? (s : List Char) : Option (Offset × List Char) :=
  if (s.take 3).map Char.toLower = ['u', 't', 'c'] then some (Offset.zero, s.drop 3)
  else scanZone? scanLooseSeparator s

/-- A date of a document. Blanks may stand before each part and at the end. -/
def readDocument? (text : String) : Option Instant := do
  let (year, s) ← scanYear? text.toList
  let s ← scanSpacedChar? '-' s
  let (month, s) ← scanTwo? s
  let s ← scanSpacedChar? '-' s
  let (day, s) ← scanTwo? s
  let s ← scanTimeMark? s
  let (hour, s) ← scanTwo? s
  let s ← scanSpacedChar? ':' s
  let (minute, s) ← scanTwo? s
  let s ← scanSpacedChar? ':' s
  let (second, s) ← scanTwo? s
  let (nano, s) ← scanFraction? s
  let (offset, s) ← scanDocumentZone? (Text.dropBlanks s)
  if (Text.dropBlanks s).isEmpty then
    (← LocalTime.of? ⟨year, month, day⟩ hour minute second nano).at? offset
  else none

end PartQuery.Calendar
