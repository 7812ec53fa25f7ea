/-!
# Calendar dates

The proleptic Gregorian calendar, in which a year 0 exists. Days are numbered from the first of
March of the year 0; years that begin in March end with their leap day, so a date becomes a day
number without a table of month lengths, and a day number becomes a date again by the cycle of 400
years.
-/

namespace PartQuery.Calendar

/-- A date: year, month and day of the month, counted from one. -/
structure Civil where
  year : Int
  month : Nat
  day : Nat
deriving DecidableEq, Repr, Inhabited

/-- Whether a year has a leap day. -/
def isLeapYear (year : Int) : Bool :=
  year % 4 == 0 && (year % 100 != 0 || year % 400 == 0)

/-- How many days a month has. -/
def monthLength (year : Int) (month : Nat) : Nat :=
  if month = 2 then if isLeapYear year then 29 else 28
  else if month = 4 ∨ month = 6 ∨ month = 9 ∨ month = 11 then 30
  else 31

/-- The first and the last year that instants reach. -/
def firstYear : Int := -262143

@[inherit_doc firstYear] def lastYear : Int := 262142

namespace Civil

/-- A date of the calendar in a year that instants reach. -/
def Valid (c : Civil) : Prop :=
  firstYear ≤ c.year ∧ c.year ≤ lastYear ∧ 1 ≤ c.month ∧ c.month ≤ 12 ∧
    1 ≤ c.day ∧ c.day ≤ monthLength c.year c.month

instance (c : Civil) : Decidable c.Valid :=
  inferInstanceAs (Decidable (_ ∧ _))

/-- The months before this one in a year that begins in March. -/
def monthsFromMarch (c : Civil) : Nat :=
  (c.month + 9) % 12

/-- The year in which the March-based year of this date begins. -/
def marchYear (c : Civil) : Int :=
  if c.month ≤ 2 then c.year - 1 else c.year

/-- The number of this day. -/
def dayNumber (c : Civil) : Int :=
  365 * c.marchYear + c.marchYear / 4 - c.marchYear / 100 + c.marchYear / 400 +
    ((153 * c.monthsFromMarch + 2) / 5 : Nat) + c.day - 1

/-- The date of the day with this number. -/
def ofDayNumber (n : Int) : Civil :=
  let cycle := n / 146097
  let dayOfCycle := (n % 146097).toNat
  let yearOfCycle :=
    (dayOfCycle - dayOfCycle / 1460 + dayOfCycle / 36524 - dayOfCycle / 146096) / 365
  let dayOfYear := dayOfCycle - (365 * yearOfCycle + yearOfCycle / 4 - yearOfCycle / 100)
  let monthOfYear := (5 * dayOfYear + 2) / 153
  let month := if monthOfYear < 10 then monthOfYear + 3 else monthOfYear - 9
  { year := 400 * cycle + yearOfCycle + (if month ≤ 2 then 1 else 0)
    month := month
    day := dayOfYear - (153 * monthOfYear + 2) / 5 + 1 }

end Civil

/-- The number of the first day that instants reach. -/
def firstDay : Int :=
  Civil.dayNumber ⟨firstYear, 1, 1⟩

/-- The number of the last day that instants reach. -/
def lastDay : Int :=
  Civil.dayNumber ⟨lastYear, 12, 31⟩

end PartQuery.Calendar
