import PartQuery.Calendar.Civil

/-!
# Instants

An instant is a day, a second of that day and a fraction of that second, in universal time. A leap
second has no second of its own: it is the second before it with a fraction of one second or more,
so that it comes after that second and before the next one.
-/

namespace PartQuery

/-- A distance from universal time in seconds, positive to the east, of less than a day. -/
structure Offset where
  seconds : Int
  bounded : -86400 < seconds ∧ seconds < 86400
deriving DecidableEq

namespace Offset

/-- Universal time itself. -/
def zero : Offset :=
  ⟨0, by decide⟩

instance : Inhabited Offset := ⟨zero⟩

/-- The offset of so many seconds, if that is less than a day. -/
def ofSeconds? (seconds : Int) : Option Offset :=
  if h : -86400 < seconds ∧ seconds < 86400 then some ⟨seconds, h⟩ else none

end Offset

/-- A point in universal time. -/
structure Instant where
  /-- The number of the day. -/
  day : Int
  /-- The second of the day. -/
  second : Nat
  /-- Billionths of a second, a leap second counting as one second more. -/
  nano : Nat
  day_inRange : Calendar.firstDay ≤ day ∧ day ≤ Calendar.lastDay
  second_lt : second < 86400
  nano_lt : nano < 2000000000
deriving DecidableEq

namespace Instant

instance : Inhabited Instant :=
  ⟨0, 0, 0, by decide, by decide, by decide⟩

/-- The instant with these parts, if its day is in range and its parts are proper. -/
def of? (day : Int) (second nano : Nat) : Option Instant :=
  if h : (Calendar.firstDay ≤ day ∧ day ≤ Calendar.lastDay) ∧ second < 86400 ∧
      nano < 2000000000 then
    some ⟨day, second, nano, h.1, h.2.1, h.2.2⟩
  else none

/-- The place of an instant in the order of time. -/
def rank (t : Instant) : Int :=
  (86400 * t.day + t.second) * 2000000000 + t.nano

instance : LE Instant := ⟨fun s t => s.rank ≤ t.rank⟩

instance : LT Instant := ⟨fun s t => s.rank < t.rank⟩

instance (s t : Instant) : Decidable (s ≤ t) :=
  inferInstanceAs (Decidable (s.rank ≤ t.rank))

instance (s t : Instant) : Decidable (s < t) :=
  inferInstanceAs (Decidable (s.rank < t.rank))

/-- How two instants compare. -/
def compare (s t : Instant) : Ordering :=
  Ord.compare s.rank t.rank

/-- Two instants with one place in the order are the same. -/
theorem eq_of_rank_eq {s t : Instant} (h : s.rank = t.rank) : s = t := by
  obtain ⟨day, second, nano, _, hs, hn⟩ := s
  obtain ⟨day', second', nano', _, hs', hn'⟩ := t
  simp only [rank] at h
  have nanos : nano = nano' := by omega
  subst nanos
  have days : day = day' := by omega
  subst days
  have seconds : second = second' := by omega
  subst seconds
  rfl

theorem rank_inj {s t : Instant} : s.rank = t.rank ↔ s = t :=
  ⟨eq_of_rank_eq, fun h => h ▸ rfl⟩

/-- Whether this is a leap second. -/
def isLeap (t : Instant) : Bool :=
  1000000000 ≤ t.nano

/-- The same time of the next day, if instants reach it; a leap second gives the second before it.
-/
def nextDay? (t : Instant) : Option Instant :=
  of? (t.day + 1) t.second (t.nano % 1000000000)

end Instant

/-- A date and a time of day as a clock somewhere shows them. -/
structure LocalTime where
  day : Int
  second : Nat
  nano : Nat
deriving DecidableEq, Repr

namespace LocalTime

/-- What a clock shows on a date, if there is such a date and time. Second 60 is a leap second. -/
def of? (date : Calendar.Civil) (hour minute second nano : Nat) : Option LocalTime :=
  if date.Valid ∧ hour ≤ 23 ∧ minute ≤ 59 ∧ second ≤ 60 then
    if second = 60 then some ⟨date.dayNumber, 3600 * hour + 60 * minute + 59, nano + 1000000000⟩
    else some ⟨date.dayNumber, 3600 * hour + 60 * minute + second, nano⟩
  else none

/-- The instant at which a clock with this offset shows the given time, if instants reach it. -/
def at? (t : LocalTime) (offset : Offset) : Option Instant :=
  let total := 86400 * t.day + t.second - offset.seconds
  Instant.of? (total / 86400) (total % 86400).toNat t.nano

end LocalTime

end PartQuery
