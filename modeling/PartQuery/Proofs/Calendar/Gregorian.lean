import Mathlib.Tactic.IntervalCases
import Mathlib.Tactic.Lemma
import PartQuery.Calendar.Civil

/-!
# Dates and day numbers

Numbering days and dating them are inverse to each other, and the date after a date is the one that
the calendar puts there: the next day of the month, or the first of the next month, or the first of
January. So the dates of successive day numbers run through the Gregorian calendar without a gap,
over the ends of months and years and over leap days (`ofDayNumber_add_one`).

Both directions go through the March-based year of a day and its place in that year. A year of the
cycle of 400 is a century, a group of four years and a year in it, each of which may be one day
longer at its end, and the divisions of `Civil.ofDayNumber` find them (`yearOfCycle_eq`).
-/

namespace PartQuery.Calendar

/-! ## Years that begin in March -/

/-- The number of the first of March of a year. -/
def yearStart (year : Int) : Int :=
  365 * year + year / 4 - year / 100 + year / 400

/-- How many days there are from the first of March of a year to the next one. -/
def yearLength (year : Int) : Int :=
  if isLeapYear (year + 1) then 366 else 365

/-- A year has a leap day when four divides it, but not every hundred years unless every four
hundred. -/
lemma isLeapYear_iff {year : Int} :
    isLeapYear year = true ↔ year % 4 = 0 ∧ (year % 100 ≠ 0 ∨ year % 400 = 0) := by
  simp [isLeapYear]

/-- A year has a leap day or not. -/
lemma yearLength_bounds (year : Int) : 365 ≤ yearLength year ∧ yearLength year ≤ 366 := by
  unfold yearLength
  split <;> omega

/-- Each year begins where the one before it ends. -/
lemma yearStart_add_one (year : Int) : yearStart (year + 1) = yearStart year + yearLength year := by
  unfold yearStart yearLength
  split
  · next h =>
    rw [isLeapYear_iff] at h
    omega
  · next h =>
    rw [isLeapYear_iff] at h
    omega

/-- A year that begins earlier ends no later than another begins. -/
lemma yearStart_add_yearLength_le {year year' : Int} (h : year < year') :
    yearStart year + yearLength year ≤ yearStart year' := by
  rw [← yearStart_add_one]
  unfold yearStart
  omega

/-- Every day belongs to one year only, at one place. -/
lemma eq_of_yearStart_add_eq {year year' r r' : Int} (hr : 0 ≤ r ∧ r < yearLength year)
    (hr' : 0 ≤ r' ∧ r' < yearLength year') (h : yearStart year + r = yearStart year' + r') :
    year = year' ∧ r = r' := by
  have hge : ¬year < year' := by
    intro hlt
    have hbefore := yearStart_add_yearLength_le hlt
    omega
  have hle : ¬year' < year := by
    intro hlt
    have hbefore := yearStart_add_yearLength_le hlt
    omega
  obtain rfl : year = year' := by omega
  exact ⟨rfl, by omega⟩

/-! ## The year of a day -/

/-- The days of 400 years are those of centuries, of groups of four years in them, of years in these
and of a year. Only the last year of a group may have a leap day, and the last group of a century
only if the century is the last. -/
lemma exists_cycleParts {d : Nat} (hd : d < 146097) :
    ∃ c q k r : Nat, (c ≤ 3 ∧ q ≤ 24 ∧ k ≤ 3 ∧ r ≤ 365) ∧
      (r = 365 → k = 3 ∧ (q = 24 → c = 3)) ∧ d = 36524 * c + 1461 * q + 365 * k + r := by
  obtain ⟨c, e, hc, he, hlast, rfl⟩ : ∃ c e : Nat, c ≤ 3 ∧ e ≤ 36524 ∧ (e = 36524 → c = 3) ∧
      d = 36524 * c + e :=
    ⟨min (d / 36524) 3, d - 36524 * min (d / 36524) 3, by omega, by omega, by omega, by omega⟩
  obtain ⟨q, f, hq, hf, hfull, rfl⟩ : ∃ q f : Nat, q ≤ 24 ∧ f ≤ 1460 ∧
      (f = 1460 → q = 24 → e = 36524) ∧ e = 1461 * q + f :=
    ⟨e / 1461, e % 1461, by omega, by omega, by omega, by omega⟩
  refine ⟨c, q, min (f / 365) 3, f - 365 * min (f / 365) 3, ?_, ?_, ?_⟩
  all_goals omega

/-- The divisions by which the year of the cycle is found undo this partition. -/
lemma yearOfCycle_eq {c q k r : Nat} (hbounds : c ≤ 3 ∧ q ≤ 24 ∧ k ≤ 3 ∧ r ≤ 365)
    (hleap : r = 365 → k = 3 ∧ (q = 24 → c = 3)) {d : Nat}
    (hd : d = 36524 * c + 1461 * q + 365 * k + r) :
    (d - d / 1460 + d / 36524 - d / 146096) / 365 = 100 * c + 4 * q + k := by
  -- Each division counts what is whole, and one more at the very end of its period.
  have hfour : d / 1460 = 25 * c + q + if 1460 ≤ 24 * c + q + 365 * k + r then 1 else 0 := by
    split <;> omega
  have hcentury : d / 36524 = c + if 1461 * q + 365 * k + r = 36524 then 1 else 0 := by
    split <;> omega
  have hcycle : d / 146096 = if 1461 * q + 365 * k + r = 36524 then 1 else 0 := by
    split <;> omega
  rw [hfour, hcentury, hcycle]
  split <;> split <;> omega

/-! ## Dates in a year -/

namespace Civil

/-- There is such a day in such a month. -/
def Proper (c : Civil) : Prop :=
  1 ≤ c.month ∧ c.month ≤ 12 ∧ 1 ≤ c.day ∧ c.day ≤ monthLength c.year c.month

/-- The date of the next day. -/
def tomorrow (c : Civil) : Civil :=
  if c.day < monthLength c.year c.month then ⟨c.year, c.month, c.day + 1⟩
  else if c.month < 12 then ⟨c.year, c.month + 1, 1⟩
  else ⟨c.year + 1, 1, 1⟩

/-- How many days lie between the first of March and the first of the month that comes so many
months later. -/
def monthStart (m : Nat) : Nat :=
  (153 * m + 2) / 5

/-- How many days lie between the first of March and a date of the same March-based year. -/
def dayOfYear (c : Civil) : Nat :=
  monthStart c.monthsFromMarch + c.day - 1

/-- The date that lies so many days after the first of March of a year. -/
def ofDayOfYear (year : Int) (r : Nat) : Civil :=
  let m := (5 * r + 2) / 153
  let month := if m < 10 then m + 3 else m - 9
  ⟨year + (if month ≤ 2 then 1 else 0), month, r - monthStart m + 1⟩

/-- The number of a day is that of the first of March before it and its place in the year. -/
lemma dayNumber_eq {c : Civil} (hday : 1 ≤ c.day) :
    c.dayNumber = yearStart c.marchYear + c.dayOfYear := by
  unfold dayNumber yearStart dayOfYear monthStart
  omega

/-- A month ends where the next one begins, and February with the year. -/
lemma monthStart_add_monthLength {c : Civil} (hmonth : 1 ≤ c.month ∧ c.month ≤ 12) :
    (monthStart c.monthsFromMarch + monthLength c.year c.month : Int) =
      if c.monthsFromMarch = 11 then yearLength c.marchYear
      else monthStart (c.monthsFromMarch + 1) := by
  obtain ⟨year, month, day⟩ := c
  obtain ⟨hfirst, hlast⟩ := hmonth
  change 1 ≤ month at hfirst
  change month ≤ 12 at hlast
  by_cases hfebruary : month = 2
  · subst hfebruary
    simp only [monthsFromMarch, marchYear, yearLength, monthLength, monthStart]
    cases h : isLeapYear year <;> simp [h]
  · interval_cases month <;>
      simp [monthsFromMarch, monthLength, monthStart] at hfebruary ⊢

/-- The place of a date in its year is within the year, and within its month. -/
lemma Proper.dayOfYear_lt {c : Civil} (h : c.Proper) :
    (c.dayOfYear : Int) < yearLength c.marchYear ∧ c.monthsFromMarch ≤ 11 ∧
      monthStart c.monthsFromMarch ≤ c.dayOfYear ∧
      c.dayOfYear < monthStart (c.monthsFromMarch + 1) := by
  obtain ⟨hfirst, hlast, hday, hlength⟩ := h
  have hmonth := monthStart_add_monthLength ⟨hfirst, hlast⟩
  have hle : c.monthsFromMarch ≤ 11 := by
    unfold monthsFromMarch
    omega
  have hyear := yearLength_bounds c.marchYear
  unfold dayOfYear
  split at hmonth
  · next h =>
    rw [h] at hmonth ⊢
    simp only [monthStart] at hmonth ⊢
    omega
  · simp only [monthStart] at hmonth ⊢
    omega

/-- The month in which a place in the year lies. -/
lemma div_eq_of_monthStart {m r : Nat} (h : monthStart m ≤ r ∧ r < monthStart (m + 1)) :
    (5 * r + 2) / 153 = m := by
  unfold monthStart at h
  omega

/-- A date is found again by its year and its place there. -/
lemma Proper.ofDayOfYear_dayOfYear {c : Civil} (h : c.Proper) :
    ofDayOfYear c.marchYear c.dayOfYear = c := by
  obtain ⟨-, hle, hbounds⟩ := h.dayOfYear_lt
  obtain ⟨hfirst, hlast, hday, -⟩ := h
  have hmonth : (if c.monthsFromMarch < 10 then c.monthsFromMarch + 3
      else c.monthsFromMarch - 9) = c.month := by
    unfold monthsFromMarch
    split <;> omega
  have hyear : c.marchYear + (if c.month ≤ 2 then 1 else 0) = c.year := by
    unfold marchYear
    split <;> omega
  have hplace : c.dayOfYear - monthStart c.monthsFromMarch + 1 = c.day := by
    unfold dayOfYear
    omega
  simp only [ofDayOfYear, div_eq_of_monthStart hbounds, hmonth, hyear, hplace]

/-- A place in a year is that of a date of the calendar. -/
lemma proper_ofDayOfYear {year : Int} {r : Nat} (h : (r : Int) < yearLength year) :
    (ofDayOfYear year r).Proper ∧ (ofDayOfYear year r).marchYear = year ∧
      (ofDayOfYear year r).dayOfYear = r := by
  have hyear := yearLength_bounds year
  obtain ⟨m, hm⟩ : ∃ m, m = (5 * r + 2) / 153 := ⟨_, rfl⟩
  have hle : m ≤ 11 := by omega
  have hstart : monthStart m ≤ r ∧ r < monthStart (m + 1) := by
    unfold monthStart
    omega
  have hmonth : 1 ≤ (ofDayOfYear year r).month ∧ (ofDayOfYear year r).month ≤ 12 := by
    simp only [ofDayOfYear, ← hm]
    split <;> omega
  have hmonths : (ofDayOfYear year r).monthsFromMarch = m := by
    simp only [monthsFromMarch, ofDayOfYear, ← hm]
    split <;> omega
  have hmarch : (ofDayOfYear year r).marchYear = year := by
    simp only [marchYear, ofDayOfYear]
    split <;> omega
  have hday : (ofDayOfYear year r).day = r - monthStart m + 1 := by
    simp only [ofDayOfYear, ← hm]
  have hlength := monthStart_add_monthLength hmonth
  rw [hmonths, hmarch] at hlength
  refine ⟨⟨hmonth.1, hmonth.2, ?_, ?_⟩, hmarch, ?_⟩
  · omega
  · rw [hday]
    split at hlength <;> omega
  · rw [dayOfYear, hmonths, hday]
    omega

/-! ## Dates and day numbers -/

/-- The first of March of a year of a cycle, counted by centuries and groups of four years. -/
lemma yearStart_cycle (cycle : Int) {c q k : Nat} (hq : q ≤ 24) (hk : k ≤ 3) (hc : c ≤ 3) :
    yearStart (400 * cycle + (100 * c + 4 * q + k : Nat)) =
      146097 * cycle + (36524 * c + 1461 * q + 365 * k : Nat) := by
  obtain ⟨y, hy⟩ : ∃ y : Nat, y = 100 * c + 4 * q + k := ⟨_, rfl⟩
  have hfours : (400 * cycle + y) / 4 = 100 * cycle + 25 * c + q := by omega
  have hcenturies : (400 * cycle + y) / 100 = 4 * cycle + c := by omega
  have hcycles : (400 * cycle + y) / 400 = cycle := by omega
  rw [yearStart, ← hy, hfours, hcenturies, hcycles]
  omega

/-- The days that are left over for a year of a cycle are those that it has. -/
lemma lt_yearLength_cycle (cycle : Int) {c q k r : Nat}
    (hbounds : c ≤ 3 ∧ q ≤ 24 ∧ k ≤ 3 ∧ r ≤ 365) (hleap : r = 365 → k = 3 ∧ (q = 24 → c = 3)) :
    (r : Int) < yearLength (400 * cycle + (100 * c + 4 * q + k : Nat)) := by
  unfold yearLength
  split
  · omega
  · next hplain =>
    -- A year with one day more than others has a leap day.
    by_contra hlong
    obtain ⟨rfl, hfull⟩ := hleap (by omega)
    refine hplain (isLeapYear_iff.2 ⟨by omega, ?_⟩)
    by_cases hlast : q = 24
    · obtain rfl := hfull hlast
      exact Or.inr (by omega)
    · exact Or.inl (by omega)

/-- The year of a day number and its place there, from which the date is made. -/
lemma exists_ofDayNumber_eq (n : Int) :
    ∃ (year : Int) (r : Nat), n = yearStart year + r ∧ (r : Int) < yearLength year ∧
      ofDayNumber n = ofDayOfYear year r := by
  obtain ⟨d, hd⟩ : ∃ d : Nat, d = (n % 146097).toNat := ⟨_, rfl⟩
  have hn : n = 146097 * (n / 146097) + d := by omega
  obtain ⟨c, q, k, r, hbounds, hleap, hparts⟩ := exists_cycleParts (d := d) (by omega)
  have hyear := yearOfCycle_eq hbounds hleap hparts
  refine ⟨400 * (n / 146097) + (100 * c + 4 * q + k : Nat), r, ?_, ?_, ?_⟩
  · rw [yearStart_cycle _ hbounds.2.1 hbounds.2.2.1 hbounds.1, add_assoc, ← Nat.cast_add, ← hparts]
    exact hn
  · exact lt_yearLength_cycle _ hbounds hleap
  · have hplace : d - (365 * (100 * c + 4 * q + k) + (100 * c + 4 * q + k) / 4 -
        (100 * c + 4 * q + k) / 100) = r := by
      clear hyear hn hd hleap
      have hfours : (100 * c + 4 * q + k) / 4 = 25 * c + q := by omega
      have hcenturies : (100 * c + 4 * q + k) / 100 = c := by omega
      rw [hfours, hcenturies]
      omega
    simp only [ofDayNumber, ofDayOfYear, monthStart, ← hd, hyear, hplace]

/-- Numbering the date of a day number gives the number again. -/
theorem dayNumber_ofDayNumber (n : Int) : (ofDayNumber n).dayNumber = n := by
  obtain ⟨year, r, hn, hr, hdate⟩ := exists_ofDayNumber_eq n
  obtain ⟨hproper, hmarch, hplace⟩ := proper_ofDayOfYear hr
  rw [hdate, dayNumber_eq hproper.2.2.1, hmarch, hplace, ← hn]

/-- The date of a day number is a date of the calendar. -/
theorem proper_ofDayNumber (n : Int) : (ofDayNumber n).Proper := by
  obtain ⟨year, r, -, hr, hdate⟩ := exists_ofDayNumber_eq n
  rw [hdate]
  exact (proper_ofDayOfYear hr).1

/-- Dating the number of a date of the calendar gives the date again. -/
theorem Proper.ofDayNumber_dayNumber {c : Civil} (h : c.Proper) : ofDayNumber c.dayNumber = c := by
  obtain ⟨year, r, hn, hr, hdate⟩ := exists_ofDayNumber_eq c.dayNumber
  rw [dayNumber_eq h.2.2.1] at hn
  obtain ⟨hyear, hplace⟩ := eq_of_yearStart_add_eq ⟨by omega, h.dayOfYear_lt.1⟩ ⟨by omega, hr⟩ hn
  rw [hdate, ← hyear, ← Int.ofNat_inj.1 hplace]
  exact h.ofDayOfYear_dayOfYear

/-! ## The next day -/

/-- Every month has a day. -/
lemma monthLength_pos (year : Int) (month : Nat) : 1 ≤ monthLength year month := by
  unfold monthLength
  split_ifs <;> decide

/-- The day after a date of the calendar is one. -/
lemma Proper.tomorrow {c : Civil} (h : c.Proper) : c.tomorrow.Proper := by
  obtain ⟨hfirst, hlast, hday, -⟩ := h
  unfold Civil.tomorrow
  split
  · next hlt => exact ⟨hfirst, hlast, Nat.le_add_left 1 _, hlt⟩
  · split
    · next hlt => exact ⟨Nat.le_add_left 1 _, hlt, le_rfl, monthLength_pos _ _⟩
    · exact ⟨le_rfl, Nat.le_add_left 1 11, le_rfl, monthLength_pos _ _⟩

/-- A date lies in the month after that of another, counted by years that begin in March. -/
def MonthAfter (c c' : Civil) : Prop :=
  if c.monthsFromMarch = 11 then c'.marchYear = c.marchYear + 1 ∧ c'.monthsFromMarch = 0
  else c'.marchYear = c.marchYear ∧ c'.monthsFromMarch = c.monthsFromMarch + 1

/-- The month after January to November is the next one of the same year. -/
lemma monthAfter_of_lt {year : Int} {month : Nat} (hmonth : 1 ≤ month ∧ month < 12)
    (day day' : Nat) : MonthAfter ⟨year, month, day⟩ ⟨year, month + 1, day'⟩ := by
  simp only [MonthAfter, marchYear, monthsFromMarch]
  split <;> constructor <;> omega

/-- The month after December is January. -/
lemma monthAfter_december (year : Int) (day day' : Nat) :
    MonthAfter ⟨year, 12, day⟩ ⟨year + 1, 1, day'⟩ := by
  have hdecember : monthsFromMarch ⟨year, 12, day⟩ = 9 := by simp [monthsFromMarch]
  have hjanuary : monthsFromMarch ⟨year + 1, 1, day'⟩ = 10 := by simp [monthsFromMarch]
  have hyear : marchYear ⟨year + 1, 1, day'⟩ = year := add_sub_cancel_right year 1
  rw [MonthAfter, hdecember, if_neg (by decide), hjanuary, hyear]
  exact ⟨rfl, rfl⟩

/-- The first of a month follows the last day of the month before it. -/
lemma MonthAfter.dayNumber_eq_add_one {c c' : Civil} (h : MonthAfter c c')
    (hmonth : 1 ≤ c.month ∧ c.month ≤ 12) (hlast : c.day = monthLength c.year c.month)
    (hfirst : c'.day = 1) : c'.dayNumber = c.dayNumber + 1 := by
  have hlength := monthStart_add_monthLength hmonth
  have hpos := monthLength_pos c.year c.month
  rw [dayNumber_eq hfirst.ge, dayNumber_eq (hlast ▸ hpos), dayOfYear, dayOfYear, hfirst, hlast]
  unfold MonthAfter at h
  split at h
  · -- The March-based year ends with February.
    next hend =>
    rw [if_pos hend] at hlength
    have hstart : monthStart 0 = 0 := rfl
    rw [h.1, h.2, hstart, yearStart_add_one]
    omega
  · next hend =>
    rw [if_neg hend] at hlength
    rw [h.1, h.2]
    omega

/-- The day after a date has the next number. -/
theorem Proper.dayNumber_tomorrow {c : Civil} (h : c.Proper) :
    c.tomorrow.dayNumber = c.dayNumber + 1 := by
  obtain ⟨year, month, day⟩ := c
  obtain ⟨hfirst, hlast, hday, hlength⟩ := h
  simp only at hfirst hlast hday hlength
  unfold Civil.tomorrow
  split
  · -- In the same month.
    simp only [dayNumber, marchYear, monthsFromMarch]
    omega
  · next hend =>
    obtain rfl : day = monthLength year month := le_antisymm hlength (not_lt.1 hend)
    split
    · next hlt =>
      exact (monthAfter_of_lt ⟨hfirst, hlt⟩ _ 1).dayNumber_eq_add_one ⟨hfirst, hlast⟩ rfl rfl
    · next hdecember =>
      obtain rfl : month = 12 := le_antisymm hlast (not_lt.1 hdecember)
      exact (monthAfter_december year _ 1).dayNumber_eq_add_one ⟨hfirst, hlast⟩ rfl rfl

/-- The date of the next day number is the date of the next day. With `ofDayNumber 0`, the first of
March of the year 0, this says which date every day number has. -/
theorem ofDayNumber_add_one (n : Int) : ofDayNumber (n + 1) = (ofDayNumber n).tomorrow := by
  have hproper := proper_ofDayNumber n
  rw [← hproper.tomorrow.ofDayNumber_dayNumber, hproper.dayNumber_tomorrow, dayNumber_ofDayNumber]

end Civil

end PartQuery.Calendar
