import Mathlib.Tactic.Lemma
import PartQuery.Calendar.Reading
import PartQuery.Calendar.Writing
import PartQuery.Proofs.Calendar.Gregorian

/-!
# Written dates are read

A date of the years 0 to 9999 is written in ten characters, and whatever follows them, the readers
of dates take these characters off and find the date again. As an operand it has no time of day and
names no offset, so it stands for its midnight as a clock with the offset of the configuration shows
it (`readOperand?_writeDate`).
-/

namespace PartQuery.Calendar

variable {width n : Nat}

/-! ## Numbers with zeros in front -/

/-- A digit is no blank. -/
lemma isBlank_of_isDigit {c : Char} (h : c.isDigit = true) : Text.isBlank c = false := by
  have hcode : 48 ≤ c.toNat ∧ c.toNat ≤ 57 := by
    simp only [Char.isDigit, Bool.and_eq_true, decide_eq_true_eq, ge_iff_le,
      UInt32.le_iff_toNat_le] at h
    exact h
  rw [Text.isBlank, ← Bool.not_eq_true, Text.CodePoints.has_iff]
  rintro ⟨r, hr, hlow, hhigh⟩
  simp only [Text.blankCodePoints, List.mem_cons, List.not_mem_nil, or_false] at hr
  rcases hr with rfl | rfl | rfl | rfl | rfl | rfl | rfl | rfl | rfl | rfl <;>
    simp only at hlow hhigh <;> omega

/-- A padded number is written in digits. -/
lemma isDigit_of_mem_padded {c : Char} (h : c ∈ padded width n) : c.isDigit = true := by
  rcases List.mem_append.1 h with hzero | hdigit
  · rw [List.eq_of_mem_replicate hzero]
    rfl
  · exact Nat.isDigit_of_mem_toDigits (by decide) (by decide) hdigit

/-- A number that fits is padded to exactly the width. -/
lemma length_padded (width : Nat) (hwidth : 0 < width) (hn : n < tenPow width) :
    (padded width n).length = width := by
  have hfits : (Nat.toDigits 10 n).length ≤ width :=
    (Nat.length_toDigits_le_iff (by decide) hwidth).2 hn
  rw [padded, List.length_append, List.length_replicate]
  exact Nat.sub_add_cancel hfits

/-- Zeros are worth nothing. -/
lemma ofDigits_replicate_zero (k : Nat) : Decimal.ofDigits (List.replicate k '0') = 0 := by
  induction k with
  | zero => rfl
  | succ k ih => exact ih

/-- Zeros in front do not change a number. -/
lemma ofDigits_padded : Decimal.ofDigits (padded width n) = n := by
  have hzeros := ofDigits_replicate_zero (width - (Nat.toDigits 10 n).length)
  have hdigits := Nat.ofDigitChars_ten_toDigits (n := n)
  rw [Nat.ofDigitChars_eq_foldl] at hdigits
  unfold Decimal.ofDigits Decimal.continueDigits padded at *
  rw [List.foldl_append, hzeros]
  exact hdigits

/-- A padded number is taken off as such. -/
lemma scanPadded?_padded (width : Nat) (hwidth : 0 < width) (hn : n < tenPow width)
    (rest : List Char) : scanPadded? width (padded width n ++ rest) = some (n, rest) := by
  have hlength := length_padded width hwidth hn
  have htake : (padded width n ++ rest).take width = padded width n := List.take_left' hlength
  have hall : (padded width n).all Char.isDigit = true :=
    List.all_eq_true.2 fun c hc => isDigit_of_mem_padded hc
  rw [scanPadded?, htake, if_pos ⟨hlength, hall⟩, ofDigits_padded, List.drop_left' hlength]

/-- A padded number is taken off where so many digits may stand. -/
lemma scanDigits?_padded (width : Nat) (hwidth : 0 < width) (hn : n < tenPow width)
    (rest : List Char) : scanDigits? width (padded width n ++ rest) = some (n, rest) := by
  have hlength := length_padded width hwidth hn
  have htake : (padded width n ++ rest).take width = padded width n := List.take_left' hlength
  have hall : (padded width n).takeWhile Char.isDigit = padded width n := by
    rw [← List.append_nil (padded width n), List.takeWhile_append_of_pos
      fun c hc => isDigit_of_mem_padded hc, List.takeWhile_nil]
  unfold scanDigits?
  rw [htake, hall]
  split
  · next hnil =>
    rw [hnil] at hlength
    exact absurd hlength (Nat.ne_of_lt hwidth)
  · rw [ofDigits_padded, List.drop_left]

/-- A padded number begins with a digit. -/
lemma exists_padded_eq_cons (width : Nat) (hwidth : 0 < width) (hn : n < tenPow width) :
    ∃ c digits, padded width n = c :: digits ∧ c.isDigit = true := by
  cases h : padded width n with
  | nil =>
    have hlength := length_padded width hwidth hn
    rw [h] at hlength
    exact absurd hlength (Nat.ne_of_lt hwidth)
  | cons c digits => exact ⟨c, digits, rfl, isDigit_of_mem_padded (h ▸ List.mem_cons_self)⟩

/-- No blanks stand before a padded number. -/
lemma dropBlanks_padded (hwidth : 0 < width) (hn : n < tenPow width) (rest : List Char) :
    Text.dropBlanks (padded width n ++ rest) = padded width n ++ rest := by
  obtain ⟨c, digits, hpadded, hc⟩ := exists_padded_eq_cons width hwidth hn
  rw [hpadded, List.cons_append, Text.dropBlanks, List.dropWhile_cons_of_neg]
  rw [isBlank_of_isDigit hc]
  exact Bool.false_ne_true

/-- Two digits are read as the number that is padded to them. -/
lemma scanTwo?_padded (hn : n < 100) (rest : List Char) :
    scanTwo? (padded 2 n ++ rest) = some (n, rest) := by
  rw [scanTwo?, dropBlanks_padded (by decide) hn, scanDigits?_padded _ (by decide) hn]

/-- Four digits are read as the year that is padded to them. -/
lemma scanYear?_padded (hn : n < 10000) (rest : List Char) :
    scanYear? (padded 4 n ++ rest) = some ((n : Int), rest) := by
  obtain ⟨c, digits, hpadded, hc⟩ := exists_padded_eq_cons 4 (by decide) hn
  rw [scanYear?, dropBlanks_padded (by decide) hn]
  split
  · next hminus =>
    rw [hpadded, List.cons_append, List.cons.injEq] at hminus
    rw [hminus.1] at hc
    exact absurd hc (by decide)
  · next hplus =>
    rw [hpadded, List.cons_append, List.cons.injEq] at hplus
    rw [hplus.1] at hc
    exact absurd hc (by decide)
  · rw [scanDigits?_padded _ (by decide) hn]
    rfl

/-! ## Dates -/

/-- A date of the calendar in a year of four digits. -/
structure Civil.IsPlain (d : Civil) : Prop where
  valid : d.Valid
  year_bounds : 0 ≤ d.year ∧ d.year ≤ 9999

instance (d : Civil) : Decidable d.IsPlain :=
  decidable_of_iff (d.Valid ∧ 0 ≤ d.year ∧ d.year ≤ 9999)
    ⟨fun h => ⟨h.1, h.2⟩, fun h => ⟨h.valid, h.year_bounds⟩⟩

namespace Civil

variable {d : Civil}

/-- A plain date is a date of the calendar. -/
lemma IsPlain.proper (h : d.IsPlain) : d.Proper := by
  obtain ⟨-, -, hproper⟩ := h.valid
  exact hproper

/-- A date of the calendar in a year of four digits is plain. -/
lemma Proper.isPlain (h : d.Proper) (hyear : 0 ≤ d.year ∧ d.year ≤ 9999) : d.IsPlain := by
  have hfirst : firstYear ≤ 0 := by decide
  have hlast : 9999 ≤ lastYear := by decide
  exact ⟨⟨hfirst.trans hyear.1, hyear.2.trans hlast, h⟩, hyear⟩

/-- Plain dates are far from the ends of the days that instants reach. -/
lemma IsPlain.dayNumber_bounds (h : d.IsPlain) :
    firstDay + 1 ≤ d.dayNumber ∧ d.dayNumber + 2 ≤ lastDay := by
  have hplace := h.proper.dayOfYear_lt.1
  have hlength := yearLength_bounds d.marchYear
  have hyear : -1 ≤ d.marchYear ∧ d.marchYear ≤ 9999 := by
    have hbounds := h.year_bounds
    unfold marchYear
    split <;> omega
  have hfirst : firstDay + 1 ≤ -1000 := by decide
  have hlast : 4000000 ≤ lastDay := by decide
  rw [dayNumber_eq h.proper.2.2.1]
  generalize d.dayOfYear = place at hplace
  unfold yearStart
  omega

end Civil

namespace Civil.IsPlain

variable {d : Civil}

/-- A plain date is written as year, month and day without a sign. -/
lemma writeDate_append (h : d.IsPlain) (rest : List Char) :
    writeDate d ++ rest = padded 4 d.year.toNat ++ '-' :: (padded 2 d.month ++ '-' ::
      (padded 2 d.day ++ rest)) := by
  simp only [writeDate, if_pos h.year_bounds, List.append_assoc, List.cons_append]

/-- Month and day have two digits. -/
lemma lt_hundred (h : d.IsPlain) : d.month < 100 ∧ d.day < 100 := by
  obtain ⟨-, -, -, hmonth, -, hday⟩ := h.valid
  have hlength : monthLength d.year d.month ≤ 31 := by
    unfold monthLength
    repeat' split
    all_goals decide
  constructor
  · omega
  · omega

/-- The year has four digits and no sign. -/
lemma toNat_year (h : d.IsPlain) : d.year.toNat < 10000 ∧ (d.year.toNat : Int) = d.year := by
  have hbounds := h.year_bounds
  omega

/-- A written date is read where its numbers need no padding. -/
lemma scanDate?_writeDate (h : d.IsPlain) (rest : List Char) :
    scanDate? (writeDate d ++ rest) = some (d, rest) := by
  rw [h.writeDate_append]
  simp only [scanDate?, scanYear?_padded h.toNat_year.1, scanTwo?_padded h.lt_hundred.1,
    scanTwo?_padded h.lt_hundred.2, scanChar?, if_pos, Option.bind_eq_bind, Option.bind_some,
    h.toNat_year.2, Option.pure_def]

/-- A written date is read where its numbers must be padded. -/
lemma scanPaddedDate?_writeDate (h : d.IsPlain) (rest : List Char) :
    scanPaddedDate? (writeDate d ++ rest) = some (d, rest) := by
  rw [h.writeDate_append]
  simp only [scanPaddedDate?, scanPadded?_padded 4 (by decide) h.toNat_year.1,
    scanPadded?_padded 2 (by decide) h.lt_hundred.1,
    scanPadded?_padded 2 (by decide) h.lt_hundred.2, scanChar?, if_pos,
    Option.bind_eq_bind, Option.bind_some, h.toNat_year.2, Option.pure_def]

/-- There is nothing to trim around a written date. -/
lemma trimChars_writeDate (h : d.IsPlain) : Text.trimChars (writeDate d) = writeDate d := by
  have hwritten := h.writeDate_append []
  simp only [List.append_nil] at hwritten
  obtain ⟨first, digits, hyear, hfirst⟩ :=
    exists_padded_eq_cons 4 (by decide) h.toNat_year.1
  obtain ⟨tens, units, hday, -⟩ :=
    exists_padded_eq_cons 2 (by decide) h.lt_hundred.2
  have hend : writeDate d =
      padded 4 d.year.toNat ++ '-' :: (padded 2 d.month ++ ['-']) ++ tens :: units := by
    rw [hwritten, hday]
    simp
  apply Text.trimChars_eq_self
  · intro c hc
    rw [hwritten, hyear] at hc
    cases hc
    exact isBlank_of_isDigit hfirst
  · intro c hc
    have hlast : (tens :: units).getLast? = some c := by
      simpa [hend, List.getLast?_append, List.getLast?_cons] using hc
    rw [← hday] at hlast
    exact isBlank_of_isDigit (isDigit_of_mem_padded (List.mem_of_getLast? hlast))

end Civil.IsPlain

/-- A written date is an operand that stands for its midnight. -/
theorem readOperand?_writeDate {d : Civil} (h : d.IsPlain) (timezone : Offset) :
    readOperand? timezone (String.ofList (writeDate d)) =
      (LocalTime.mk d.dayNumber 0 0).at? timezone := by
  have hdate := h.scanDate?_writeDate []
  have hpadded := h.scanPaddedDate?_writeDate []
  rw [List.append_nil] at hdate hpadded
  have hnone : readPadded? (writeDate d) = none := by
    simp only [readPadded?, hpadded]
    rfl
  have hlocal : readLocal? (writeDate d) = some ⟨d.dayNumber, 0, 0⟩ := by
    have hseconds : readLocalSecond? (writeDate d) = none := by
      simp only [readLocalSecond?, hdate]
      rfl
    have hminutes : readLocalMinute? (writeDate d) = none := by
      simp only [readLocalMinute?, hdate]
      rfl
    simp [readLocal?, hseconds, hminutes, readLocalDate?, hdate, LocalTime.of?, h.valid]
  unfold readOperand?
  rw [String.toList_ofList, h.trimChars_writeDate]
  simp only [hnone, hlocal, Option.bind_some]

end PartQuery.Calendar
