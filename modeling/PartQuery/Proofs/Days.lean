import PartQuery.Proofs.Calendar.Timestamps
import PartQuery.Proofs.Leaves

/-!
# Days

Equality of a date field with a written date asks for the day of that date. The day begins at its
midnight as a clock with the offset of the configuration shows it and ends at the next one, so an
instant lies in it exactly when that clock shows the date (`onDay_iff_dateAt`). Days of different
dates do not overlap, and as the dates that a clock shows follow one another as in the calendar,
they leave no gap at the ends of months and years and at leap days.
-/

namespace PartQuery

/-! ## What clocks show -/

namespace Instant

/-- The number of the day that a clock with an offset shows. -/
def localDay (x : Instant) (offset : Offset) : Int :=
  (86400 * x.day + x.second + offset.seconds) / 86400

/-- The date that a clock with an offset shows. -/
def dateAt (x : Instant) (offset : Offset) : Calendar.Civil :=
  .ofDayNumber (x.localDay offset)

/-- On the next day a clock shows the next date of the calendar. -/
lemma dateAt_of_localDay_eq_add_one {x y : Instant} {offset : Offset}
    (h : y.localDay offset = x.localDay offset + 1) :
    y.dateAt offset = (x.dateAt offset).tomorrow := by
  rw [dateAt, h]
  exact Calendar.Civil.ofDayNumber_add_one _

end Instant

namespace Calendar.Civil

variable {d : Civil}

/-- A clock shows a date of the calendar exactly when it shows the number of its day. -/
lemma Proper.dateAt_eq_iff (h : d.Proper) {x : Instant} {offset : Offset} :
    x.dateAt offset = d ↔ x.localDay offset = d.dayNumber := by
  constructor
  · rintro rfl
    exact (dayNumber_ofDayNumber _).symm
  · intro hday
    rw [Instant.dateAt, hday]
    exact h.ofDayNumber_dayNumber

end Calendar.Civil

/-! ## From midnight to midnight -/

/-- A clock shows midnight at an instant from which the place of all others in time is counted. -/
lemma exists_midnight {n : Int} (h : Calendar.firstDay + 1 ≤ n ∧ n + 2 ≤ Calendar.lastDay)
    (offset : Offset) :
    ∃ start, (LocalTime.mk n 0 0).at? offset = some start ∧
      start.rank = (86400 * n - offset.seconds) * 2000000000 ∧ start.nano = 0 ∧
      start.day + 1 ≤ Calendar.lastDay := by
  obtain ⟨hwest, heast⟩ := offset.bounded
  obtain ⟨hfirst, hlast⟩ := h
  have hreached : Instant.IsReached ((LocalTime.mk n 0 0).seconds - offset.seconds) := by
    simp only [Instant.IsReached, LocalTime.seconds]
    omega
  have hnone : 0 < 2000000000 := by decide
  obtain ⟨start, hstart⟩ := LocalTime.exists_at?_eq_some hnone hreached
  obtain ⟨hseconds, hnano⟩ := LocalTime.at?_eq_some_iff.1 hstart
  have hsecond := start.second_lt
  simp only [Instant.seconds, LocalTime.seconds] at hseconds hnano
  refine ⟨start, hstart, ?_, hnano, by omega⟩
  simp only [Instant.rank, hnano]
  omega

/-- The next day begins a day later, unless there is none. -/
lemma Instant.exists_nextDay? {start : Instant} (hday : start.day + 1 ≤ Calendar.lastDay)
    (hnano : start.nano = 0) :
    ∃ stop, start.nextDay? = some stop ∧ stop.rank = start.rank + 86400 * 2000000000 := by
  obtain ⟨day, second, nano, ⟨hfirst, hlast⟩, hsecond, hbound⟩ := start
  obtain rfl : nano = 0 := hnano
  refine ⟨⟨day + 1, second, 0, ⟨by omega, hday⟩, hsecond, by decide⟩, ?_, ?_⟩
  · have hfirst' : Calendar.firstDay ≤ day + 1 := by omega
    exact dif_pos ⟨⟨hfirst', hday⟩, hsecond, hbound⟩
  · simp only [rank]
    omega

/-- The instants of the day that begins at a midnight are those at which the clock shows its
number. -/
lemma fallsOn_midnight_iff {n : Int} {offset : Offset} {start : Instant}
    (hrank : start.rank = (86400 * n - offset.seconds) * 2000000000) (hnano : start.nano = 0)
    (hday : start.day + 1 ≤ Calendar.lastDay) {x : Instant} :
    (Scalar.date x).FallsOn start ↔ x.localDay offset = n := by
  obtain ⟨stop, hstop, hlater⟩ := Instant.exists_nextDay? hday hnano
  have hnext := x.nano_lt
  have hfalls : (Scalar.date x).FallsOn start ↔ start.rank ≤ x.rank ∧ x.rank < stop.rank := by
    constructor
    · rintro ⟨t, stop', hx, hstop', hle, hlt⟩
      cases hx
      obtain rfl : stop = stop' := Option.some.inj (hstop.symm.trans hstop')
      exact ⟨hle, hlt⟩
    · rintro ⟨hle, hlt⟩
      exact ⟨x, stop, rfl, hstop, hle, hlt⟩
  rw [hfalls, hlater, hrank]
  simp only [Instant.rank, Instant.localDay]
  omega

/-! ## Comparisons with days -/

namespace Comparison

/-- A field equals a date. -/
def onDay (field : String) (d : Calendar.Civil) : Comparison :=
  ⟨field, .equal, [String.ofList (Calendar.writeDate d)], .date⟩

variable {ctx : CompileContext} {name : String} {field : Field} {d : Calendar.Civil}

/-- Equality of a date field with a plain date compiles. -/
lemma exists_test_onDay (hnames : (onDay name d).Names ctx.family field)
    (hdate : field.valueKind = .date) (hd : d.IsPlain) :
    ∃ test, (Rule.leaf (onDay name d)).compile ctx = .ok (.compare field test) := by
  obtain ⟨start, hstart, -, -, hday⟩ := exists_midnight hd.dayNumber_bounds ctx.timezone
  have hread := (Calendar.readOperand?_writeDate hd ctx.timezone).trans hstart
  have hjudged : (onDay name d).Judged ctx .accepted := by
    refine .ofField hnames (.measure ?_ ?_ ?_ ?_)
    · rw [hdate]
      exact Or.inr (Or.inl rfl)
    · rintro ⟨-, v, hv, hnone⟩
      obtain rfl := List.mem_singleton.1 hv
      simp [onDay, OperandType.read?, hread] at hnone
    · rw [hdate]
      exact ⟨rfl, Nat.le_refl 1⟩
    · rintro ⟨-, -, v, rest, start', hvalues, hstart', hlast⟩
      cases hvalues
      obtain rfl : start = start' := Option.some.inj (hread.symm.trans hstart')
      omega
  obtain ⟨p, hp⟩ := hjudged.announces_compile
  rw [← Rule.compile] at hp
  obtain ⟨test, rfl, -⟩ := exists_tested hnames hp
  exact ⟨test, hp⟩

/-- A value passes the test of equality with a plain date when it is an instant at which the clock
shows that date. -/
lemma passes_onDay_iff (hnames : (onDay name d).Names ctx.family field)
    (hdate : field.valueKind = .date) (hd : d.IsPlain) {test : ValueTest}
    (hp : (Rule.leaf (onDay name d)).compile ctx = .ok (.compare field test)) :
    test.IsOfValues ∧ ∀ v : Scalar,
      test.passes v = true ↔ ∃ x, v = .date x ∧ x.dateAt ctx.timezone = d := by
  obtain ⟨start, hstart, hrank, hnano, hday⟩ := exists_midnight hd.dayNumber_bounds ctx.timezone
  have hread := (Calendar.readOperand?_writeDate hd ctx.timezone).trans hstart
  obtain ⟨made, hcompare, htested⟩ := exists_tested hnames hp
  obtain ⟨-, rfl⟩ := Predicate.compare.inj hcompare
  rw [hdate] at htested
  cases htested with
  | @value kind operands test hoperands hkinds hmakes =>
    obtain rfl : [Scalar.date start] = operands := by
      simpa [onDay, ValueKind.operand?, OperandType.read?, hread] using hoperands
    refine ⟨hmakes.isOfValues, fun v => ?_⟩
    rw [hmakes.passes_iff]
    constructor
    · intro hfalls
      obtain ⟨x, -, rfl, -⟩ := id hfalls
      exact ⟨x, rfl, hd.proper.dateAt_eq_iff.2 ((fallsOn_midnight_iff hrank hnano hday).1 hfalls)⟩
    · rintro ⟨x, rfl, hx⟩
      exact (fallsOn_midnight_iff hrank hnano hday).2 (hd.proper.dateAt_eq_iff.1 hx)

end Comparison

/-- Equality of a date field with a plain date, compiled for any offset, asks for the instants at
which a clock with that offset shows this date: of instants one by one, and of rows that offer some.
So an instant passes for exactly one plain date if the clock shows a year of four digits, and the
dates that the clock shows on successive days follow one another as in the calendar. -/
theorem onDay_iff_dateAt (ctx : CompileContext) {name : String} {field : Field}
    (hnames : Field.ofName? name = some field ∧ field.family = ctx.family)
    (hdate : field.valueKind = .date) :
    (∀ d : Calendar.Civil, d.IsPlain → ∃ test,
      (Rule.leaf (.onDay name d)).compile ctx = .ok (.compare field test) ∧
      (∀ x : Instant, test.passes (.date x) = true ↔ x.dateAt ctx.timezone = d) ∧
      ∀ row : Row, (Predicate.compare field test).holds row = true ↔
        ∃ x, row.Offers field (.date x) ∧ x.dateAt ctx.timezone = d) ∧
    (∀ x : Instant, 0 ≤ (x.dateAt ctx.timezone).year ∧ (x.dateAt ctx.timezone).year ≤ 9999 →
      ∃! d : Calendar.Civil, d.IsPlain ∧ ∃ test,
        (Rule.leaf (.onDay name d)).compile ctx = .ok (.compare field test) ∧
        test.passes (.date x) = true) ∧
    (∀ x y : Instant, y.localDay ctx.timezone = x.localDay ctx.timezone + 1 →
      y.dateAt ctx.timezone = (x.dateAt ctx.timezone).tomorrow) ∧
    Calendar.Civil.ofDayNumber 0 = ⟨0, 3, 1⟩ := by
  refine ⟨?_, ?_, ?_, by decide⟩
  · intro d hd
    obtain ⟨test, htest⟩ := Comparison.exists_test_onDay hnames hdate hd
    obtain ⟨hvalues, hpasses⟩ := Comparison.passes_onDay_iff hnames hdate hd htest
    refine ⟨test, htest, ?_, ?_⟩
    · intro x
      simp [hpasses]
    · intro row
      rw [Predicate.holds_compare, Row.compares_iff_offers hvalues]
      simp only [hpasses]
      constructor
      · rintro ⟨v, hv, x, rfl, hx⟩
        exact ⟨x, hv, hx⟩
      · rintro ⟨x, hv, hx⟩
        exact ⟨_, hv, x, rfl, hx⟩
  · intro x hyear
    have hplain : (x.dateAt ctx.timezone).IsPlain :=
      (Calendar.Civil.proper_ofDayNumber _).isPlain hyear
    obtain ⟨test, htest⟩ := Comparison.exists_test_onDay hnames hdate hplain
    refine ⟨x.dateAt ctx.timezone, ⟨hplain, test, htest, ?_⟩, ?_⟩
    · rw [(Comparison.passes_onDay_iff hnames hdate hplain htest).2]
      exact ⟨x, rfl, rfl⟩
    · rintro d ⟨hd, test', htest', hpasses⟩
      rw [(Comparison.passes_onDay_iff hnames hdate hd htest').2] at hpasses
      obtain ⟨_, hx, hshown⟩ := hpasses
      cases hx
      exact hshown.symm
  · intro x y hnext
    exact Instant.dateAt_of_localDay_eq_add_one hnext

/-- Two in the morning of the first of March 2024. -/
def earlyInMarch : Instant :=
  (Instant.of? 739251 7200 0).get (by decide)

/-- Five hours to the west it is still the leap day. -/
theorem earlyInMarch_onDay_west :
    (Field.ofName? "pr.creationDate" = some (.revision .creationDate) ∧
      Field.family (.revision .creationDate) = .revision ∧
      Field.valueKind (.revision .creationDate) = .date) ∧
    ∃ test, (Rule.leaf (.onDay "pr.creationDate" ⟨2024, 2, 29⟩)).compile
        ⟨.revision, ⟨-18000, by decide⟩⟩ = .ok (.compare (.revision .creationDate) test) ∧
      test.passes (.date earlyInMarch) = true := by
  have hname : Field.ofName? "pr.creationDate" = some (.revision .creationDate) := rfl
  refine ⟨⟨hname, rfl, rfl⟩, ?_⟩
  obtain ⟨hdays, -⟩ := onDay_iff_dateAt ⟨.revision, ⟨-18000, by decide⟩⟩ ⟨hname, rfl⟩ rfl
  obtain ⟨test, htest, hpasses, -⟩ := hdays ⟨2024, 2, 29⟩ (by decide)
  exact ⟨test, htest, (hpasses earlyInMarch).2 (by decide)⟩

end PartQuery
