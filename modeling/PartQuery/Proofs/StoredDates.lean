import PartQuery.Proofs.Calendar.Timestamps
import PartQuery.Proofs.Ordering

/-!
# Stored dates

Documents write an instant as a timestamp in universal time, with as few decimals of the second as
tell it. Whoever copies such a date into a rule finds it again: it is read as the very instant,
whatever the offset of the configuration is and whatever blanks stand around it. So a field that
holds the instant is at most, at least and on the day of the date that is written there, and neither
before nor after nor another than it (`stored_dates_read_back`).
-/

namespace PartQuery

/-! ## Blanks around a text -/

namespace Text

/-- Blanks in front of a text are dropped with those that it begins with. -/
lemma dropBlanks_append {blanks s : List Char} (h : ∀ c ∈ blanks, isBlank c = true) :
    dropBlanks (blanks ++ s) = dropBlanks s :=
  List.dropWhile_append_of_pos h

/-- Of a text with blanks around it the text is left, if it neither begins nor ends with a blank. -/
lemma trimChars_around {before s after : List Char} (hbefore : ∀ c ∈ before, isBlank c = true)
    (hafter : ∀ c ∈ after, isBlank c = true) (hne : s ≠ [])
    (first : ∀ c ∈ s.head?, isBlank c = false) (last : ∀ c ∈ s.getLast?, isBlank c = false) :
    trimChars (before ++ s ++ after) = s := by
  have hfront : dropBlanks (s ++ after) = s ++ after := by
    apply dropBlanks_eq_self
    rw [List.head?_append_of_ne_nil _ hne]
    exact first
  have hback : dropBlanks (after.reverse ++ s.reverse) = s.reverse := by
    rw [dropBlanks_append fun c hc => hafter c (List.mem_reverse.1 hc)]
    apply dropBlanks_eq_self
    rw [List.head?_reverse]
    exact last
  rw [trimChars, List.append_assoc, dropBlanks_append hbefore, hfront, List.reverse_append, hback,
    List.reverse_reverse]

end Text

/-! ## Instants are written as timestamps -/

namespace Calendar

/-- A padded number of at most nine digits counts as decimals for so many billionths. -/
lemma nanoOfDecimals_padded {width n : Nat} (hwidth : 0 < width) (hnine : width ≤ 9)
    (hn : n < tenPow width) : nanoOfDecimals (padded width n) = n * tenPow (9 - width) := by
  have hlength := length_padded width hwidth hn
  rw [nanoOfDecimals_eq, List.take_of_length_le (by omega), ofDigits_padded, hlength]

/-- A number of three, six or nine digits is written as decimals after a point. -/
lemma exists_decimals_of_padded {width n : Nat} (hwidth : width ∈ [3, 6, 9])
    (hn : n < tenPow width) :
    ∃ digits : List Char, (∀ c ∈ digits, c.isDigit = true) ∧ digits.length ∈ [0, 3, 6, 9] ∧
      '.' :: padded width n = writeDecimals digits ∧
      nanoOfDecimals digits = n * tenPow (9 - width) := by
  have hbounds : 0 < width ∧ width ≤ 9 := by
    simp only [List.mem_cons, List.not_mem_nil, or_false] at hwidth
    omega
  obtain ⟨hpos, hnine⟩ := hbounds
  refine ⟨padded width n, fun c => isDigit_of_mem_padded, ?_, ?_,
    nanoOfDecimals_padded hpos hnine hn⟩
  · rw [length_padded width hpos hn]
    exact List.mem_cons_of_mem 0 hwidth
  · obtain ⟨c, digits, hcons, -⟩ := exists_padded_eq_cons width hpos hn
    rw [hcons]
    rfl

/-- A fraction of the second is written with none, three, six or nine decimals, from which it can be
told. -/
lemma exists_decimals {nano : Nat} (h : nano < 1000000000) :
    ∃ digits : List Char, (∀ c ∈ digits, c.isDigit = true) ∧ digits.length ∈ [0, 3, 6, 9] ∧
      writeFraction nano = writeDecimals digits ∧ nanoOfDecimals digits = nano := by
  unfold writeFraction
  split
  · next hzero => exact ⟨[], nofun, List.mem_cons_self, rfl, hzero.symm⟩
  split
  · have hn : nano / 1000000 < tenPow 3 := by
      change nano / 1000000 < 1000
      omega
    obtain ⟨digits, hdigits, hlength, hwritten, hvalue⟩ :=
      exists_decimals_of_padded (by decide) hn
    refine ⟨digits, hdigits, hlength, hwritten, hvalue.trans ?_⟩
    change nano / 1000000 * 1000000 = nano
    omega
  split
  · have hn : nano / 1000 < tenPow 6 := by
      change nano / 1000 < 1000000
      omega
    obtain ⟨digits, hdigits, hlength, hwritten, hvalue⟩ :=
      exists_decimals_of_padded (by decide) hn
    refine ⟨digits, hdigits, hlength, hwritten, hvalue.trans ?_⟩
    change nano / 1000 * 1000 = nano
    omega
  · have hn : nano < tenPow 9 := h
    obtain ⟨digits, hdigits, hlength, hwritten, hvalue⟩ :=
      exists_decimals_of_padded (by decide) hn
    exact ⟨digits, hdigits, hlength, hwritten, hvalue.trans (Nat.mul_one nano)⟩

end Calendar

namespace Instant

variable {x : Instant}

/-- An operand is an instant as documents write it, with any blanks around it. -/
def StandsIn (x : Instant) (operand : String) : Prop :=
  ∃ before after : List Char, (∀ c ∈ before, Text.isBlank c = true) ∧
    (∀ c ∈ after, Text.isBlank c = true) ∧ operand.toList = before ++ x.toText.toList ++ after

/-- The date of an instant is a plain date if its year has four digits. -/
lemma isPlain_civil (hyear : 0 ≤ x.civil.year ∧ x.civil.year ≤ 9999) : x.civil.IsPlain :=
  (Calendar.Civil.proper_ofDayNumber x.day).isPlain hyear

/-- An instant of a year of four digits that is no leap second is written as a timestamp in
universal time, and a clock there shows its parts. -/
lemma exists_timestamp (hyear : 0 ≤ x.civil.year ∧ x.civil.year ≤ 9999)
    (hleap : x.isLeap = false) :
    ∃ t : Calendar.Timestamp, t.WrittenAs x.toText.toList ∧ t.offset = .zero ∧
      t.decimals.length ∈ [0, 3, 6, 9] ∧ t.clock = ⟨x.day, x.second, x.nano⟩ := by
  have hsecond := x.second_lt
  have hnano : x.nano < 1000000000 := by simpa [isLeap] using hleap
  obtain ⟨decimals, hdigits, hlength, hwritten, hvalue⟩ := Calendar.exists_decimals hnano
  refine ⟨⟨x.civil, x.second / 3600, x.second / 60 % 60, x.second % 60, decimals, .zero,
    isPlain_civil hyear, by omega, by omega, by omega, hdigits⟩, ⟨'T', ['Z'], Or.inl rfl,
    .universal (Or.inl rfl) rfl, ?_⟩, rfl, hlength, ?_⟩
  · rw [toText, String.toList_ofList, Nat.mod_eq_of_lt hnano, hwritten]
    simp [Calendar.writeTime, hleap]
  · have hshown : x.second % 60 ≠ 60 := by omega
    have hday : x.civil.dayNumber = x.day := Calendar.Civil.dayNumber_ofDayNumber x.day
    have hclock : 3600 * (x.second / 3600) + 60 * (x.second / 60 % 60) + x.second % 60 =
        x.second := by
      omega
    simp only [Calendar.Timestamp.clock, if_neg hshown, hday, hclock, hvalue]

end Instant

/-! ## Timestamps are read back -/

namespace Calendar

/-- A timestamp begins with a digit of its year. -/
lemma Timestamp.WrittenAs.exists_eq_cons {t : Timestamp} {s : List Char} (h : t.WrittenAs s) :
    ∃ c rest, s = c :: rest ∧ c.isDigit = true := by
  obtain ⟨mark, zone, -, -, rfl⟩ := h
  obtain ⟨c, digits, hyear, hc⟩ := exists_padded_eq_cons 4 (by decide) t.date_isPlain.toNat_year.1
  rw [t.date_isPlain.writeDate_append, hyear]
  exact ⟨c, _, rfl, hc⟩

/-- A timestamp ends with a letter or with a digit of its offset. -/
lemma WritesOffset.isBlank_of_mem {offset : Offset} {zone : List Char}
    (h : WritesOffset offset zone) {c : Char} (hc : c ∈ zone) : Text.isBlank c = false := by
  cases h with
  | universal hletter hzero =>
    obtain rfl := List.mem_singleton.1 hc
    rcases hletter with rfl | rfl <;> decide
  | shifted hsign hhours hminutes hseconds =>
    simp only [List.mem_cons, List.mem_append] at hc
    rcases hc with rfl | hdigit | rfl | hdigit
    · cases hsign <;> decide
    · exact isBlank_of_isDigit (isDigit_of_mem_padded hdigit)
    · decide
    · exact isBlank_of_isDigit (isDigit_of_mem_padded hdigit)

/-- Blanks around a timestamp are trimmed. -/
lemma Timestamp.WrittenAs.trimChars_around {t : Timestamp} {before s after : List Char}
    (h : t.WrittenAs s) (hbefore : ∀ c ∈ before, Text.isBlank c = true)
    (hafter : ∀ c ∈ after, Text.isBlank c = true) :
    Text.trimChars (before ++ s ++ after) = s := by
  obtain ⟨first, rest, hcons, hfirst⟩ := h.exists_eq_cons
  refine Text.trimChars_around hbefore hafter (by simp [hcons]) ?_ ?_
  · intro c hc
    rw [hcons] at hc
    cases hc
    exact isBlank_of_isDigit hfirst
  · obtain ⟨mark, zone, -, hzone, rfl⟩ := h
    intro c hc
    obtain ⟨last, hlast⟩ : ∃ last, zone.getLast? = some last := by
      rw [← Option.ne_none_iff_exists', ne_eq, List.getLast?_eq_none_iff]
      rintro rfl
      cases hzone
    obtain rfl : last = c := by
      simpa [List.getLast?_append, List.getLast?_cons, hlast] using hc
    exact hzone.isBlank_of_mem (List.mem_of_getLast? hlast)

end Calendar

namespace Instant

variable {x : Instant} {operand : String}

/-- An instant that is written in a document is read from there, whatever the offset of the
configuration is. -/
lemma StandsIn.readOperand?_eq (h : x.StandsIn operand)
    (hyear : 0 ≤ x.civil.year ∧ x.civil.year ≤ 9999) (hleap : x.isLeap = false)
    (timezone : Offset) : Calendar.readOperand? timezone operand = some x := by
  obtain ⟨before, after, hbefore, hafter, hoperand⟩ := h
  obtain ⟨t, hwritten, hoffset, -, hclock⟩ := exists_timestamp hyear hleap
  have hread : Calendar.readPadded? x.toText.toList = some x := by
    rw [hwritten.readPadded?_eq, hclock, hoffset]
    exact LocalTime.at?_eq_some_iff.2 ⟨(Int.sub_zero _).symm, rfl⟩
  unfold Calendar.readOperand?
  simp only [hoperand, hwritten.trimChars_around hbefore hafter, hread]

/-- Instants of a year of four digits have a next day. -/
lemma exists_nextDay?_of_year (hyear : 0 ≤ x.civil.year ∧ x.civil.year ≤ 9999) :
    ∃ stop, x.nextDay? = some stop := by
  have hday : x.civil.dayNumber = x.day := Calendar.Civil.dayNumber_ofDayNumber x.day
  have hlast := (isPlain_civil hyear).dayNumber_bounds.2
  rw [← Option.ne_none_iff_exists', ne_eq, nextDay?_eq_none_iff]
  omega

end Instant

/-! ## Comparisons with a stored date -/

/-- A rule that looks for a value of some sort holds of a row that offers one value if that is of
the sort. -/
lemma Rule.AsksFor.holdsIn_iff_of_offersOnly {ctx : CompileContext} {field : Field}
    {R : Scalar → Prop} {rule : Rule} (h : rule.AsksFor ctx field R) {row : Row} {v : Scalar}
    (hv : row.OffersOnly field v) : rule.HoldsIn ctx row ↔ R v := by
  rw [h.holdsIn_iff]
  constructor
  · rintro ⟨w, hw, hR⟩
    obtain rfl := (hv w).1 hw
    exact hR
  · intro hR
    exact ⟨v, hv.offers, hR⟩

namespace Comparison.Reads

variable {c : Comparison} {ctx : CompileContext} {field : Field} {x : Instant} {row : Row}

/-- The date that a field holds is on its own day, at most itself and at least itself. -/
lemma holdsIn_of_same (h : c.Reads ctx field [.date x]) (hrow : row.OffersOnly field (.date x))
    (hday : ∃ stop, x.nextDay? = some stop) :
    ∀ operator ∈ [Operator.equal, .lessOrEqual, .greaterOrEqual],
      (c.asking operator).HoldsIn ctx row := by
  have hle : (Scalar.date x).AtMost (.date x) := le_refl x.rank
  intro operator hoperator
  simp only [List.mem_cons, List.not_mem_nil, or_false] at hoperator
  rcases hoperator with rfl | rfl | rfl
  · obtain ⟨stop, hstop⟩ := hday
    rw [(h.asksFor_equal_of_date hstop).holdsIn_iff_of_offersOnly hrow]
    exact ⟨hle, Instant.lt_of_nextDay? hstop⟩
  · have hasks := h.asksFor_of_ne .lessOrEqual nofun ⟨h.type_eq, Nat.le_refl 1⟩
    exact (hasks.holdsIn_iff_of_offersOnly hrow).2 hle
  · have hasks := h.asksFor_of_ne .greaterOrEqual nofun ⟨h.type_eq, Nat.le_refl 1⟩
    exact (hasks.holdsIn_iff_of_offersOnly hrow).2 hle

/-- The date that a field holds is no other than itself, and neither before nor after itself. -/
lemma not_holdsIn_of_same (h : c.Reads ctx field [.date x])
    (hrow : row.OffersOnly field (.date x)) :
    ∀ operator ∈ [Operator.notEqual, .less, .greater],
      (c.asking operator).Compiles ctx ∧ ¬(c.asking operator).HoldsIn ctx row := by
  have hlt : ¬(Scalar.date x).Below (.date x) := lt_irrefl x.rank
  intro operator hoperator
  simp only [List.mem_cons, List.not_mem_nil, or_false] at hoperator
  rcases hoperator with rfl | rfl | rfl
  · have hasks := h.asksFor_of_ne .notEqual nofun (Nat.le_refl 1)
    refine ⟨hasks.compiles, fun hholds => ?_⟩
    exact (hasks.holdsIn_iff_of_offersOnly hrow).1 hholds rfl
  · have hasks := h.asksFor_of_ne .less nofun ⟨h.type_eq, Nat.le_refl 1⟩
    refine ⟨hasks.compiles, fun hholds => hlt ?_⟩
    exact (hasks.holdsIn_iff_of_offersOnly hrow).1 hholds
  · have hasks := h.asksFor_of_ne .greater nofun ⟨h.type_eq, Nat.le_refl 1⟩
    refine ⟨hasks.compiles, fun hholds => hlt ?_⟩
    exact (hasks.holdsIn_iff_of_offersOnly hrow).1 hholds

end Comparison.Reads

/-- An instant of the years 0 to 9999 that is no leap second is written as a timestamp in universal
time with none, three, six or nine decimals. With any blanks around it this is read as the instant
under every offset. So of a revision and an iteration in which a field, which is no attribute, holds
the instant, the comparisons of the field by `equal`, `less_or_equal` and `greater_or_equal` with
what is written hold, and those by `not_equal`, `less` and `greater` do not, though they compile. -/
theorem stored_dates_read_back {x : Instant} (hyear : 0 ≤ x.civil.year ∧ x.civil.year ≤ 9999)
    (hleap : x.isLeap = false) {operand : String} (hoperand : x.StandsIn operand) :
    (∃ t : Calendar.Timestamp, t.WrittenAs x.toText.toList ∧ t.offset = .zero ∧
      t.decimals.length ∈ [0, 3, 6, 9]) ∧
    (∀ timezone, Calendar.readOperand? timezone operand = some x) ∧
    ∀ (ctx : CompileContext) (name : String) (field : Field),
      Field.ofName? name = some field ∧ field.family = ctx.family → field.IsCore →
      ∀ (r : Revision) (i : Iteration), field.Holds r i (.date x) →
        (∀ operator ∈ [Operator.equal, .lessOrEqual, .greaterOrEqual],
          (Rule.leaf ⟨name, operator, [operand], .date⟩).HoldsIn ctx (i.row r)) ∧
        ∀ operator ∈ [Operator.notEqual, .less, .greater],
          (Rule.leaf ⟨name, operator, [operand], .date⟩).Compiles ctx ∧
          ¬(Rule.leaf ⟨name, operator, [operand], .date⟩).HoldsIn ctx (i.row r) := by
  have hread := hoperand.readOperand?_eq hyear hleap
  refine ⟨?_, hread, ?_⟩
  · obtain ⟨t, hwritten, hoffset, hlength, -⟩ := Instant.exists_timestamp hyear hleap
    exact ⟨t, hwritten, hoffset, hlength⟩
  · intro ctx name field hnames hcore r i hholds
    have hoffers : (i.row r).Offers field (.date x) := Row.offers_row_iff.2 hholds
    have hkind : field.valueKind = .date :=
      ((Row.IsOfEntity.revision r i).kind_of_offers hoffers).symm
    have hreads : Comparison.Reads ⟨name, .equal, [operand], .date⟩ ctx field [.date x] := by
      refine ⟨hnames, Or.inl hkind, ?_, ?_⟩
      · rw [hkind]
        rfl
      · simp [OperandType.read?, hread]
    have honly := hoffers.offersOnly hcore
    exact ⟨hreads.holdsIn_of_same honly (Instant.exists_nextDay?_of_year hyear),
      hreads.not_holdsIn_of_same honly⟩

/-- Half a second after nine in the evening, on the leap day of 2024. -/
def leapEvening : Instant :=
  (Instant.of? 739250 75600 500000000).get (by decide)

/-- The date is found in a rule for the revisions that were created then, though the rule is
compiled for clocks an hour to the east. -/
theorem leapEvening_read_back :
    ((0 ≤ leapEvening.civil.year ∧ leapEvening.civil.year ≤ 9999) ∧ leapEvening.isLeap = false ∧
      leapEvening.StandsIn " 2024-02-29T21:00:00.500Z\n") ∧
    Calendar.readOperand? ⟨3600, by decide⟩ " 2024-02-29T21:00:00.500Z\n" = some leapEvening ∧
    (Rule.leaf ⟨"pr.creationDate", .lessOrEqual, [" 2024-02-29T21:00:00.500Z\n"], .date⟩).HoldsIn
      ⟨.revision, ⟨3600, by decide⟩⟩
      (Iteration.row { (default : Revision) with creationDate := some leapEvening } default) := by
  have hyear : 0 ≤ leapEvening.civil.year ∧ leapEvening.civil.year ≤ 9999 := by decide
  have hstands : leapEvening.StandsIn " 2024-02-29T21:00:00.500Z\n" :=
    ⟨[' '], ['\n'], List.forall_mem_singleton.2 rfl, List.forall_mem_singleton.2 rfl, by decide⟩
  obtain ⟨-, hread, hrules⟩ := stored_dates_read_back hyear rfl hstands
  refine ⟨⟨hyear, rfl, hstands⟩, hread _, ?_⟩
  have hholds : Field.Holds { (default : Revision) with creationDate := some leapEvening } default
      (.revision .creationDate) (.date leapEvening) := ⟨leapEvening, rfl, rfl⟩
  have hrows := hrules ⟨.revision, ⟨3600, by decide⟩⟩ "pr.creationDate" (.revision .creationDate)
    ⟨rfl, rfl⟩ nofun _ _ hholds
  exact hrows.1 .lessOrEqual (by decide)

end PartQuery
