import Mathlib.Tactic.Linarith
import Mathlib.Tactic.Ring
import PartQuery.Proofs.Calendar.Written

/-!
# Timestamps

A timestamp is a date and a time of day that names its offset, with all its numbers padded. It
stands for one instant, whatever the offset of the configuration is. `Timestamp.WrittenAs` says how
timestamps are written, and the reader of the padded form accepts the texts that write one and no
others (`readPadded?_eq_some_iff`).

Each part of a timestamp has a reader that takes it off the front of a text. A number of a given
width is written in one way only, so reading it and padding it are inverse to each other
(`scanPadded?_eq_some_iff`). Decimals of the second end where no digit follows.
-/

namespace PartQuery

/-! ## Clocks -/

namespace Instant

/-- How many seconds there are from the beginning of day 0 to an instant. -/
def seconds (x : Instant) : Int :=
  86400 * x.day + x.second

/-- A second, counted from the beginning of day 0, belongs to a day that instants reach. -/
def IsReached (n : Int) : Prop :=
  86400 * Calendar.firstDay ≤ n ∧ n < 86400 * (Calendar.lastDay + 1)

/-- An instant is made of its parts, and of no others. -/
lemma of?_eq_some_iff {day : Int} {second nano : Nat} {x : Instant} :
    of? day second nano = some x ↔ x.day = day ∧ x.second = second ∧ x.nano = nano := by
  unfold of?
  constructor
  · intro h
    split at h
    · cases h
      exact ⟨rfl, rfl, rfl⟩
    · cases h
  · rintro ⟨rfl, rfl, rfl⟩
    exact dif_pos ⟨x.day_inRange, x.second_lt, x.nano_lt⟩

end Instant

namespace LocalTime

/-- How many seconds there are from the beginning of day 0 to what a clock shows. -/
def seconds (l : LocalTime) : Int :=
  86400 * l.day + l.second

variable {l : LocalTime} {offset : Offset} {x : Instant}

/-- A clock shows a date of the calendar and a time that there is, and a leap second as the second
before it that is longer. -/
lemma of?_eq_some_iff {date : Calendar.Civil} {hour minute second nano : Nat} :
    of? date hour minute second nano = some l ↔
      (date.Valid ∧ hour ≤ 23 ∧ minute ≤ 59 ∧ second ≤ 60) ∧
        l = if second = 60 then ⟨date.dayNumber, 3600 * hour + 60 * minute + 59, nano + 1000000000⟩
          else ⟨date.dayNumber, 3600 * hour + 60 * minute + second, nano⟩ := by
  unfold of?
  rw [Option.ite_none_right_eq_some]
  refine and_congr_right fun _ => ?_
  split
  all_goals rw [Option.some.injEq, eq_comm]

/-- A clock shows a time at the instant that comes earlier by its offset. -/
lemma at?_eq_some_iff :
    l.at? offset = some x ↔ x.seconds = l.seconds - offset.seconds ∧ x.nano = l.nano := by
  have hsecond := x.second_lt
  simp only [at?, Instant.of?_eq_some_iff, Instant.seconds, seconds]
  constructor
  · rintro ⟨hday, hsecond', hnano⟩
    exact ⟨by omega, hnano⟩
  · rintro ⟨hseconds, hnano⟩
    exact ⟨by omega, by omega, hnano⟩

/-- There is no such instant exactly when its second is out of reach. -/
lemma at?_eq_none_iff (hnano : l.nano < 2000000000) :
    l.at? offset = none ↔ ¬Instant.IsReached (l.seconds - offset.seconds) := by
  unfold at? Instant.of? Instant.IsReached seconds
  simp only [dite_eq_right_iff, reduceCtorEq, imp_false]
  refine not_congr ?_
  constructor
  · rintro ⟨⟨hfirst, hlast⟩, -⟩
    omega
  · rintro ⟨hfirst, hlast⟩
    exact ⟨⟨by omega, by omega⟩, by omega, hnano⟩

/-- There is such an instant if its second is within reach. -/
lemma exists_at?_eq_some (hnano : l.nano < 2000000000)
    (hreached : Instant.IsReached (l.seconds - offset.seconds)) : ∃ x, l.at? offset = some x := by
  rwa [← Option.ne_none_iff_exists', ne_eq, at?_eq_none_iff hnano, not_not]

end LocalTime

namespace Calendar

/-! ## Rows of digits -/

/-- A row of digits is worth its first digit, moved to the front, and the rest. -/
lemma continueDigits_eq (start : Nat) (digits : List Char) :
    Decimal.continueDigits start digits =
      start * tenPow digits.length + Decimal.ofDigits digits := by
  induction digits generalizing start with
  | nil => simp [Decimal.ofDigits, Decimal.continueDigits, tenPow]
  | cons c digits ih =>
    have hstart := ih (10 * start + Decimal.digitValue c)
    have hzero := ih (10 * 0 + Decimal.digitValue c)
    have hpow : tenPow (digits.length + 1) = tenPow digits.length * 10 := rfl
    unfold Decimal.ofDigits Decimal.continueDigits at *
    rw [List.foldl_cons, List.foldl_cons, hstart, hzero, List.length_cons, hpow]
    ring

/-- The digits of a row count the more the further they are to the left. -/
lemma ofDigits_cons (c : Char) (digits : List Char) :
    Decimal.ofDigits (c :: digits) =
      Decimal.digitValue c * tenPow digits.length + Decimal.ofDigits digits := by
  change Decimal.continueDigits (10 * 0 + Decimal.digitValue c) digits = _
  rw [continueDigits_eq, Nat.mul_zero, Nat.zero_add]

/-- What follows a row of digits moves it to the front. -/
lemma ofDigits_append (digits others : List Char) :
    Decimal.ofDigits (digits ++ others) =
      Decimal.ofDigits digits * tenPow others.length + Decimal.ofDigits others := by
  rw [← continueDigits_eq]
  exact List.foldl_append

/-- A digit is worth less than ten. -/
lemma digitValue_lt {c : Char} (h : c.isDigit = true) : Decimal.digitValue c < 10 := by
  have hcode := Char.isDigit_iff_toNat.1 h
  have hzero : '0'.toNat = 48 := rfl
  have hnine : '9'.toNat = 57 := rfl
  unfold Decimal.digitValue
  omega

/-- Digits that are worth the same are the same. -/
lemma eq_of_digitValue_eq {c d : Char} (hc : c.isDigit = true) (hd : d.isDigit = true)
    (h : Decimal.digitValue c = Decimal.digitValue d) : c = d := by
  have hcode := Char.isDigit_iff_toNat.1 hc
  have hcode' := Char.isDigit_iff_toNat.1 hd
  have hzero : '0'.toNat = 48 := rfl
  unfold Decimal.digitValue at h
  exact Char.toNat_inj.1 (by omega)

/-- A row of digits is worth less than the power of ten that has one digit more. -/
lemma ofDigits_lt {digits : List Char} (h : ∀ c ∈ digits, c.isDigit = true) :
    Decimal.ofDigits digits < tenPow digits.length := by
  induction digits with
  | nil => exact tenPow_pos 0
  | cons c digits ih =>
    obtain ⟨hc, hdigits⟩ := List.forall_mem_cons.1 h
    have hfirst := digitValue_lt hc
    have hrest := ih hdigits
    have hpow : tenPow (digits.length + 1) = tenPow digits.length * 10 := rfl
    rw [ofDigits_cons, List.length_cons, hpow]
    nlinarith

/-- Rows of as many digits that are worth the same are the same. -/
lemma eq_of_ofDigits_eq {digits others : List Char} (hdigits : ∀ c ∈ digits, c.isDigit = true)
    (hothers : ∀ c ∈ others, c.isDigit = true) (hlength : digits.length = others.length)
    (h : Decimal.ofDigits digits = Decimal.ofDigits others) : digits = others := by
  induction digits generalizing others with
  | nil => exact (List.eq_nil_of_length_eq_zero hlength.symm).symm
  | cons c digits ih =>
    obtain ⟨d, others, rfl⟩ := List.exists_cons_of_length_eq_add_one hlength.symm
    obtain ⟨hc, hdigits⟩ := List.forall_mem_cons.1 hdigits
    obtain ⟨hd, hothers⟩ := List.forall_mem_cons.1 hothers
    have hlength' : digits.length = others.length := Nat.succ.inj hlength
    have hbound := ofDigits_lt hdigits
    have hbound' := ofDigits_lt hothers
    rw [ofDigits_cons, ofDigits_cons, hlength'] at h
    rw [hlength'] at hbound
    -- The rests are remainders by the same power of ten.
    have hvalue : Decimal.digitValue c = Decimal.digitValue d := by
      have hdiv := congrArg (· / tenPow others.length) h
      have hpos := tenPow_pos others.length
      simpa only [Nat.mul_comm _ (tenPow _), Nat.mul_add_div hpos, Nat.div_eq_of_lt hbound,
        Nat.div_eq_of_lt hbound', Nat.add_zero] using hdiv
    have hrest : Decimal.ofDigits digits = Decimal.ofDigits others := by
      rw [hvalue] at h
      exact Nat.add_left_cancel h
    rw [eq_of_digitValue_eq hc hd hvalue, ih hdigits hothers hlength' hrest]

/-- A row of digits is the padded number that it is worth. -/
lemma padded_ofDigits {digits : List Char} (hne : 0 < digits.length)
    (h : ∀ c ∈ digits, c.isDigit = true) :
    padded digits.length (Decimal.ofDigits digits) = digits :=
  eq_of_ofDigits_eq (fun _ hc => isDigit_of_mem_padded hc) h
    (length_padded _ hne (ofDigits_lt h)) ofDigits_padded

/-- What is taken off as a padded number is the padded number. -/
lemma scanPadded?_eq_some_iff {width n : Nat} {s rest : List Char} (hwidth : 0 < width) :
    scanPadded? width s = some (n, rest) ↔ n < tenPow width ∧ s = padded width n ++ rest := by
  constructor
  · intro h
    unfold scanPadded? at h
    obtain ⟨⟨hlength, hall⟩, hread⟩ := Option.ite_none_right_eq_some.1 h
    obtain ⟨rfl, rfl⟩ := Prod.mk.inj (Option.some.inj hread)
    have hdigits := List.all_eq_true.1 hall
    have hlt := ofDigits_lt hdigits
    have hpadded := padded_ofDigits (by omega) hdigits
    rw [hlength] at hlt hpadded
    rw [hpadded, List.take_append_drop]
    exact ⟨hlt, rfl⟩
  · rintro ⟨hn, rfl⟩
    exact scanPadded?_padded width hwidth hn rest

/-! ## How the parts are written -/

/-- The characters that may stand between a date and a time of day. -/
def IsTimeMark (c : Char) : Prop :=
  c = 'T' ∨ c = 't' ∨ c = ' '

/-- Decimals of the second, after a point; if there are none, there is no point. -/
def writeDecimals : List Char → List Char
  | [] => []
  | c :: digits => '.' :: c :: digits

/-- How many billionths of a second decimals are: the first nine count, and zeros stand for those
that are not written. -/
def nanoOfDecimals (digits : List Char) : Nat :=
  Decimal.ofDigits ((digits ++ List.replicate 9 '0').take 9)

/-- The signs of offsets to the east and to the west, of which the latter may be the mathematical
minus. -/
inductive OffsetSign : Char → Int → Prop
  | plus : OffsetSign '+' 1
  | hyphen : OffsetSign '-' (-1)
  | minus : OffsetSign '−' (-1)

/-- How an offset from universal time is written: as a letter if there is none, or as a sign and two
digits each of hours and of minutes. -/
inductive WritesOffset (offset : Offset) : List Char → Prop
  | universal {letter : Char} (hletter : letter = 'Z' ∨ letter = 'z') (hzero : offset = .zero) :
      WritesOffset offset [letter]
  | shifted {sign : Char} {factor : Int} {hours minutes : Nat} (hsign : OffsetSign sign factor)
      (hhours : hours ≤ 23) (hminutes : minutes ≤ 59)
      (hseconds : offset.seconds = factor * (3600 * hours + 60 * minutes : Nat)) :
      WritesOffset offset (sign :: (padded 2 hours ++ ':' :: padded 2 minutes))

/-- A date and a time of day that names its offset. -/
structure Timestamp where
  date : Civil
  hour : Nat
  minute : Nat
  /-- Second 60 is a leap second. -/
  second : Nat
  decimals : List Char
  offset : Offset
  date_isPlain : date.IsPlain
  hour_le : hour ≤ 23
  minute_le : minute ≤ 59
  second_le : second ≤ 60
  isDigit_of_mem_decimals : ∀ c ∈ decimals, c.isDigit = true

namespace Timestamp

/-- What a clock shows, with a leap second as the second before it that is longer. -/
def clock (t : Timestamp) : LocalTime :=
  if t.second = 60 then
    ⟨t.date.dayNumber, 3600 * t.hour + 60 * t.minute + 59, nanoOfDecimals t.decimals + 1000000000⟩
  else ⟨t.date.dayNumber, 3600 * t.hour + 60 * t.minute + t.second, nanoOfDecimals t.decimals⟩

/-- A text writes a timestamp. -/
def WrittenAs (t : Timestamp) (s : List Char) : Prop :=
  ∃ mark zone, IsTimeMark mark ∧ WritesOffset t.offset zone ∧
    s = writeDate t.date ++ mark :: (padded 2 t.hour ++ ':' :: (padded 2 t.minute ++ ':' ::
      (padded 2 t.second ++ (writeDecimals t.decimals ++ zone))))

end Timestamp

/-- A text writes some timestamp. -/
def IsTimestamp (s : List Char) : Prop :=
  ∃ t : Timestamp, t.WrittenAs s

/-! ## Reading the parts -/

variable {s rest : List Char} {offset : Offset}

/-- The expected character is taken off. -/
lemma scanChar?_eq_some_iff {c : Char} : scanChar? c s = some rest ↔ s = c :: rest := by
  cases s with
  | nil => simp [scanChar?]
  | cons d s =>
    simp only [scanChar?, Option.ite_none_right_eq_some, Option.some.injEq, List.cons.injEq]

/-- What stands between a date and a time of day is taken off. -/
lemma scanTimeMark?_eq_some_iff :
    scanTimeMark? s = some rest ↔ ∃ mark, IsTimeMark mark ∧ s = mark :: rest := by
  cases s with
  | nil => simp [scanTimeMark?]
  | cons c s =>
    simp only [scanTimeMark?, Option.ite_none_right_eq_some, Option.some.injEq, List.cons.injEq]
    constructor
    · rintro ⟨hmark, rfl⟩
      exact ⟨c, hmark, rfl, rfl⟩
    · rintro ⟨mark, hmark, rfl, rfl⟩
      exact ⟨hmark, rfl⟩

/-- Zeros at the end of decimals multiply what is written. -/
lemma nanoOfDecimals_eq (digits : List Char) :
    nanoOfDecimals digits =
      Decimal.ofDigits (digits.take 9) * tenPow (9 - (digits.take 9).length) := by
  have hfilled : (digits ++ List.replicate 9 '0').take 9 =
      digits.take 9 ++ List.replicate (9 - (digits.take 9).length) '0' := by
    rw [List.take_append, List.take_replicate, List.length_take]
    congr 2
    omega
  rw [nanoOfDecimals, hfilled, ofDigits_append, ofDigits_replicate_zero, Nat.add_zero,
    List.length_replicate]

/-- Decimals that are taken off are digits, and count for so many billionths. -/
lemma exists_of_scanFraction? {nano : Nat} (h : scanFraction? s = some (nano, rest)) :
    ∃ digits, (∀ c ∈ digits, c.isDigit = true) ∧ s = writeDecimals digits ++ rest ∧
      nano = nanoOfDecimals digits := by
  unfold scanFraction? at h
  split at h
  · next s =>
    obtain ⟨digits, hdigits⟩ : ∃ digits, s.takeWhile Char.isDigit = digits := ⟨_, rfl⟩
    have hsplit := List.takeWhile_append_dropWhile (p := Char.isDigit) (l := s)
    have hall : ∀ c ∈ digits, c.isDigit = true :=
      hdigits ▸ List.all_eq_true.1 List.all_takeWhile
    rw [hdigits] at h hsplit
    cases digits with
    | nil => cases h
    | cons c digits =>
      obtain ⟨rfl, rfl⟩ := Prod.mk.inj (Option.some.inj h)
      refine ⟨c :: digits, hall, ?_, (nanoOfDecimals_eq _).symm⟩
      rw [← hsplit, List.drop_left]
      rfl
  · obtain ⟨rfl, rfl⟩ := Prod.mk.inj (Option.some.inj h)
    exact ⟨[], nofun, rfl, rfl⟩

/-- Decimals are taken off where no digit follows, and no point if there are none. -/
lemma scanFraction?_writeDecimals {digits : List Char} (hdigits : ∀ c ∈ digits, c.isDigit = true)
    (hrest : ∀ c ∈ rest.head?, c.isDigit = false ∧ c ≠ '.') :
    scanFraction? (writeDecimals digits ++ rest) = some (nanoOfDecimals digits, rest) := by
  rw [nanoOfDecimals_eq]
  cases digits with
  | nil =>
    unfold writeDecimals scanFraction?
    split
    · next hpoint =>
      obtain ⟨-, hne⟩ := hrest '.' (by rw [← List.nil_append rest, hpoint]; rfl)
      exact absurd rfl hne
    · rfl
  | cons c digits =>
    have hnone : rest.takeWhile Char.isDigit = [] := by
      cases rest with
      | nil => rfl
      | cons d rest => rw [List.takeWhile_cons_of_neg (by simp [hrest d rfl])]
    have hall : (c :: digits ++ rest).takeWhile Char.isDigit = c :: digits := by
      rw [List.takeWhile_append_of_pos hdigits, hnone, List.append_nil]
    have hdrop : (c :: digits ++ rest).drop (c :: digits).length = rest := List.drop_left
    unfold writeDecimals scanFraction?
    simp only [List.cons_append] at hall hdrop ⊢
    simp only [hall, hdrop]

/-- Minutes of an offset are two digits below sixty. -/
lemma scanMinutes?_eq_some_iff {n : Nat} :
    scanMinutes? s = some (n, rest) ↔ n ≤ 59 ∧ s = padded 2 n ++ rest := by
  have htwo : tenPow 2 = 100 := rfl
  simp only [scanMinutes?, Option.bind_eq_some_iff, Prod.exists, Option.ite_none_right_eq_some,
    Option.some.injEq, Prod.mk.injEq, scanPadded?_eq_some_iff Nat.two_pos, htwo]
  constructor
  · rintro ⟨n, rest, ⟨-, rfl⟩, hn, rfl, rfl⟩
    exact ⟨hn, rfl⟩
  · rintro ⟨hn, rfl⟩
    exact ⟨n, rest, ⟨by omega, rfl⟩, hn, rfl, rfl⟩

/-- An offset has less seconds than a day. -/
lemma ofSeconds?_eq_some_iff {seconds : Int} :
    Offset.ofSeconds? seconds = some offset ↔ offset.seconds = seconds := by
  unfold Offset.ofSeconds?
  constructor
  · intro h
    split at h
    · cases h
      rfl
    · cases h
  · rintro rfl
    exact dif_pos offset.bounded

/-- After a sign, hours, what separates them, and minutes are taken off. -/
lemma scanOffset?_cons {sign : Char} {factor : Int} (hsign : OffsetSign sign factor)
    (separator : List Char → Option (List Char)) (s : List Char) :
    scanOffset? separator (sign :: s) =
      (scanPadded? 2 s).bind fun x => (separator x.2).bind fun r =>
        (scanMinutes? r).bind fun y =>
          (Offset.ofSeconds? (factor * (3600 * x.1 + 60 * y.1 : Nat))).bind fun o =>
            some (o, y.2) := by
  cases hsign <;> rfl

/-- What is taken off as an offset begins with a sign. -/
lemma exists_offsetSign {sign : Char} {separator : List Char → Option (List Char)}
    (h : scanOffset? separator (sign :: s) = some (offset, rest)) :
    ∃ factor, OffsetSign sign factor := by
  by_contra hnone
  have hplus : sign ≠ '+' := by
    rintro rfl
    exact hnone ⟨_, .plus⟩
  have hminus : ¬(sign = '-' ∨ sign = '−') := by
    rintro (rfl | rfl)
    · exact hnone ⟨_, .hyphen⟩
    · exact hnone ⟨_, .minus⟩
  simp [scanOffset?, hplus, hminus] at h

/-- After a sign, hours and minutes are taken off as an offset. -/
lemma scanOffset?_eq_some_iff {sign : Char} {factor : Int} (hsign : OffsetSign sign factor) :
    scanOffset? (scanChar? ':') (sign :: s) = some (offset, rest) ↔ ∃ hours minutes : Nat,
      hours ≤ 23 ∧ minutes ≤ 59 ∧ offset.seconds = factor * (3600 * hours + 60 * minutes : Nat) ∧
      s = padded 2 hours ++ ':' :: (padded 2 minutes ++ rest) := by
  have htwo : tenPow 2 = 100 := rfl
  rw [scanOffset?_cons hsign]
  simp only [Option.bind_eq_some_iff, Prod.exists, Option.some.injEq, Prod.mk.injEq,
    scanPadded?_eq_some_iff Nat.two_pos, scanChar?_eq_some_iff, scanMinutes?_eq_some_iff,
    ofSeconds?_eq_some_iff, htwo]
  constructor
  · rintro ⟨hours, _, ⟨-, rfl⟩, _, rfl, minutes, _, ⟨hminutes, rfl⟩, _, hseconds, rfl, rfl⟩
    obtain ⟨hwest, heast⟩ := Offset.bounded _
    refine ⟨hours, minutes, ?_, hminutes, hseconds, rfl⟩
    rw [hseconds] at hwest heast
    cases hsign <;> omega
  · rintro ⟨hours, minutes, hhours, hminutes, hseconds, rfl⟩
    exact ⟨hours, _, ⟨by omega, rfl⟩, _, rfl, minutes, _, ⟨hminutes, rfl⟩, _, hseconds, rfl, rfl⟩

/-- What is taken off as an offset writes it. -/
lemma exists_of_scanZone? (h : scanZone? (scanChar? ':') s = some (offset, rest)) :
    ∃ zone, WritesOffset offset zone ∧ s = zone ++ rest := by
  unfold scanZone? at h
  split at h
  · obtain ⟨rfl, rfl⟩ := Prod.mk.inj (Option.some.inj h)
    exact ⟨['Z'], .universal (Or.inl rfl) rfl, rfl⟩
  · obtain ⟨rfl, rfl⟩ := Prod.mk.inj (Option.some.inj h)
    exact ⟨['z'], .universal (Or.inr rfl) rfl, rfl⟩
  · cases s with
    | nil => cases h
    | cons sign s =>
      obtain ⟨factor, hsign⟩ := exists_offsetSign h
      obtain ⟨hours, minutes, hhours, hminutes, hseconds, rfl⟩ :=
        (scanOffset?_eq_some_iff hsign).1 h
      exact ⟨_, .shifted hsign hhours hminutes hseconds, by simp⟩

/-- An offset that is written is taken off. -/
lemma WritesOffset.scanZone?_append {zone : List Char} (h : WritesOffset offset zone)
    (rest : List Char) : scanZone? (scanChar? ':') (zone ++ rest) = some (offset, rest) := by
  cases h with
  | universal hletter hzero =>
    subst hzero
    rcases hletter with rfl | rfl <;> rfl
  | @shifted sign factor hours minutes hsign hhours hminutes hseconds =>
    have hscan : scanOffset? (scanChar? ':')
        (sign :: (padded 2 hours ++ ':' :: (padded 2 minutes ++ rest))) = some (offset, rest) :=
      (scanOffset?_eq_some_iff hsign).2 ⟨hours, minutes, hhours, hminutes, hseconds, rfl⟩
    have hskip : ∀ s, scanZone? (scanChar? ':') (sign :: s) =
        scanOffset? (scanChar? ':') (sign :: s) := by
      intro s
      cases hsign <;> rfl
    rw [List.cons_append, List.append_assoc, List.cons_append, hskip, hscan]

/-- An offset begins with no digit and no point. -/
lemma WritesOffset.of_mem_head? {zone : List Char} (h : WritesOffset offset zone) {c : Char}
    (hc : c ∈ zone.head?) : c.isDigit = false ∧ c ≠ '.' := by
  cases h with
  | universal hletter hzero =>
    cases hc
    rcases hletter with rfl | rfl <;> decide
  | shifted hsign hhours hminutes hseconds =>
    cases hc
    cases hsign <;> decide

/-! ## Reading timestamps -/

namespace Timestamp

variable {t : Timestamp}

/-- What a clock shows is read. -/
lemma of?_eq_clock (t : Timestamp) :
    LocalTime.of? t.date t.hour t.minute t.second (nanoOfDecimals t.decimals) = some t.clock :=
  LocalTime.of?_eq_some_iff.2
    ⟨⟨t.date_isPlain.valid, t.hour_le, t.minute_le, t.second_le⟩, rfl⟩

/-- Where a timestamp is written, the instant is read at which a clock shows it. -/
lemma WrittenAs.readPadded?_eq {s : List Char} (h : t.WrittenAs s) :
    readPadded? s = t.clock.at? t.offset := by
  obtain ⟨mark, zone, hmark, hzone, rfl⟩ := h
  have htwo : ∀ n ≤ 60, ∀ rest, scanPadded? 2 (padded 2 n ++ rest) = some (n, rest) := by
    intro n hn rest
    have hlt : n < tenPow 2 := Nat.lt_of_le_of_lt hn (by decide)
    exact scanPadded?_padded 2 Nat.two_pos hlt rest
  have hmarked : ∀ rest, scanTimeMark? (mark :: rest) = some rest :=
    fun rest => scanTimeMark?_eq_some_iff.2 ⟨mark, hmark, rfl⟩
  have hcolon : ∀ rest, scanChar? ':' (':' :: rest) = some rest :=
    fun rest => scanChar?_eq_some_iff.2 rfl
  have hfraction := scanFraction?_writeDecimals t.isDigit_of_mem_decimals
    fun c hc => hzone.of_mem_head? hc
  have hoffset := hzone.scanZone?_append []
  rw [List.append_nil] at hoffset
  simp only [readPadded?, t.date_isPlain.scanPaddedDate?_writeDate, Option.bind_eq_bind,
    Option.bind_some, hmarked, hcolon, htwo t.hour (t.hour_le.trans (by decide)),
    htwo t.minute (t.minute_le.trans (by decide)), htwo t.second t.second_le, hfraction, hoffset,
    t.of?_eq_clock, List.isEmpty_nil, if_true]

end Timestamp

/-- A date that is taken off in full is written there, if it is a date of the calendar. -/
lemma exists_of_scanPaddedDate? {date : Civil} (h : scanPaddedDate? s = some (date, rest))
    (hvalid : date.Valid) : date.IsPlain ∧ s = writeDate date ++ rest := by
  have hfour : 0 < 4 := by decide
  simp only [scanPaddedDate?, Option.bind_eq_bind, Option.bind_eq_some_iff, Prod.exists,
    Option.pure_def, Option.some.injEq, Prod.mk.injEq, scanPadded?_eq_some_iff Nat.two_pos,
    scanPadded?_eq_some_iff hfour, scanChar?_eq_some_iff] at h
  obtain ⟨year, _, ⟨hyear, rfl⟩, _, rfl, month, _, ⟨-, rfl⟩, _, rfl, day, _, ⟨-, rfl⟩, rfl, rfl⟩ :=
    h
  have hbound : year < 10000 := hyear
  have hplain : Civil.IsPlain ⟨year, month, day⟩ := ⟨hvalid, by simp only; omega⟩
  rw [hplain.writeDate_append, Int.toNat_natCast]
  exact ⟨hplain, rfl⟩

/-- The padded form is read from the texts that write a timestamp, and from no others. -/
theorem readPadded?_eq_some_iff {x : Instant} :
    readPadded? s = some x ↔
      ∃ t : Timestamp, t.WrittenAs s ∧ t.clock.at? t.offset = some x := by
  constructor
  · intro h
    simp only [readPadded?, Option.bind_eq_bind, Option.bind_eq_some_iff, Prod.exists,
      Option.ite_none_right_eq_some, List.isEmpty_iff, scanPadded?_eq_some_iff Nat.two_pos,
      scanChar?_eq_some_iff, scanTimeMark?_eq_some_iff] at h
    obtain ⟨date, _, hdate, _, ⟨mark, hmark, rfl⟩, hour, _, ⟨-, rfl⟩, _, rfl, minute, _, ⟨-, rfl⟩,
      _, rfl, second, _, ⟨-, rfl⟩, nano, _, hfraction, offset, _, hzone, rfl, l, hclock, hx⟩ := h
    obtain ⟨⟨hvalid, hhour, hminute, hsecond⟩, rfl⟩ := LocalTime.of?_eq_some_iff.1 hclock
    obtain ⟨hplain, rfl⟩ := exists_of_scanPaddedDate? hdate hvalid
    obtain ⟨decimals, hdecimals, rfl, rfl⟩ := exists_of_scanFraction? hfraction
    obtain ⟨zone, hwrites, rfl⟩ := exists_of_scanZone? hzone
    refine ⟨⟨date, hour, minute, second, decimals, offset, hplain, hhour, hminute, hsecond,
      hdecimals⟩, ⟨mark, zone, hmark, hwrites, ?_⟩, hx⟩
    rw [List.append_nil]
  · rintro ⟨t, hwritten, hx⟩
    rw [hwritten.readPadded?_eq, hx]

/-! ## The instant of a timestamp -/

/-- Decimals are less than a second. -/
lemma nanoOfDecimals_lt {digits : List Char} (h : ∀ c ∈ digits, c.isDigit = true) :
    nanoOfDecimals digits < 1000000000 := by
  have hfilled : ∀ c ∈ (digits ++ List.replicate 9 '0').take 9, c.isDigit = true := by
    intro c hc
    rcases List.mem_append.1 (List.mem_of_mem_take hc) with hdigit | hzero
    · exact h c hdigit
    · rw [List.eq_of_mem_replicate hzero]
      rfl
  have hlength : ((digits ++ List.replicate 9 '0').take 9).length = 9 := by
    rw [List.length_take, List.length_append, List.length_replicate]
    omega
  have hlt := ofDigits_lt hfilled
  rw [hlength] at hlt
  exact hlt

/-- Every timestamp stands for an instant, as its date is far from the ends of what instants
reach. -/
lemma Timestamp.exists_instant (t : Timestamp) : ∃ x, t.clock.at? t.offset = some x := by
  have hdecimals := nanoOfDecimals_lt t.isDigit_of_mem_decimals
  have hclock : 86400 * t.date.dayNumber ≤ t.clock.seconds ∧
      t.clock.seconds < 86400 * t.date.dayNumber + 86400 ∧ t.clock.nano < 2000000000 := by
    have hhour := t.hour_le
    have hminute := t.minute_le
    have hsecond := t.second_le
    unfold Timestamp.clock LocalTime.seconds
    split
    · refine ⟨?_, ?_, ?_⟩ <;> simp only <;> omega
    · refine ⟨?_, ?_, ?_⟩ <;> simp only <;> omega
  obtain ⟨hbegin, hend, hnano⟩ := hclock
  have hreached : Instant.IsReached (t.clock.seconds - t.offset.seconds) := by
    obtain ⟨hfirst, hlast⟩ := t.date_isPlain.dayNumber_bounds
    obtain ⟨hwest, heast⟩ := t.offset.bounded
    unfold Instant.IsReached
    omega
  exact LocalTime.exists_at?_eq_some hnano hreached

/-- The padded form is read exactly where a timestamp is written. -/
theorem exists_readPadded?_eq_some_iff : (∃ x, readPadded? s = some x) ↔ IsTimestamp s := by
  constructor
  · rintro ⟨x, hx⟩
    obtain ⟨t, hwritten, -⟩ := readPadded?_eq_some_iff.1 hx
    exact ⟨t, hwritten⟩
  · rintro ⟨t, hwritten⟩
    obtain ⟨x, hx⟩ := t.exists_instant
    exact ⟨x, readPadded?_eq_some_iff.2 ⟨t, hwritten, hx⟩⟩

end Calendar

end PartQuery
