import PartQuery.Json.Reader
import PartQuery.Proofs.Calendar.Timestamps
import PartQuery.Proofs.Json.Written
import PartQuery.Proofs.Number.Scaling
import PartQuery.Proofs.Traversal

/-!
# Numbers that documents and operands have in common

A text that a document has as a number can also be given as an operand, and there it is the same
decimal (`read?_of_scan`). The document keeps only so many of its digits as fit 64 bits. What is
lost makes less than one factor of `1 + 2⁻⁵³` (`kept_eq_or_within`), and with what rounding loses,
the two magnitudes are a few steps apart; they are the same if the decimal is held in full
(`readsNear_of_value?`).
-/

namespace PartQuery

/-- A decimal whose significand and power of ten are held without rounding, or which has no power of
ten and a significand that fits 64 bits. -/
def Decimal.IsHeld (d : Decimal) : Prop :=
  d.exponent = 0 ∧ d.significand < twoPow 64 ∨
    d.significand ≤ twoPow 53 ∧ d.exponent.natAbs ≤ 22

/-- The significand of such a decimal fits 64 bits. -/
lemma Decimal.IsHeld.lt {d : Decimal} (h : d.IsHeld) : d.significand < twoPow 64 := by
  rcases h with ⟨-, hs⟩ | ⟨hs, -⟩
  · exact hs
  · exact hs.trans_lt (by decide)

namespace Json

open Binary64

/-- The floating-point number that a number of a document is taken for. -/
def Number.binary : Number → Binary64
  | .whole k => ⟨k < 0, (ofNat k.natAbs).magnitude⟩
  | .real x => x

/-- Whoever wants any number takes the floating-point number. -/
lemma Reader.real_number (v : Number) : Reader.real (.number (.ok v)) = .ok v.binary := by
  cases v <;> rfl

namespace Numeral

variable {n : Numeral} {v : Number} {s rest digits others : List Char} {d : Decimal} {m : Nat}
  {c : Char}

/-! ## The same text as an operand -/

/-- The power of ten that a number names. -/
def power (n : Numeral) : Int :=
  match n.exponent with
  | none => 0
  | some (minus, digits) =>
    if minus then -(Decimal.ofDigits digits : Int) else Decimal.ofDigits digits

/-- The decimal that a number writes, without its sign. -/
def decimal (n : Numeral) : Decimal :=
  ⟨Decimal.continueDigits (Decimal.ofDigits n.whole) n.fraction, n.power - n.fraction.length⟩

/-- Digits are taken off as long as there are any. -/
lemma scanDigits_eq_ok (h : scanDigits s = .ok (digits, rest)) :
    s.takeWhile Char.isDigit = digits ∧ s.dropWhile Char.isDigit = rest ∧ digits ≠ [] := by
  unfold scanDigits at h
  split at h
  · cases h
  · next hne =>
    obtain ⟨hdigits, hrest⟩ := Prod.mk.inj (Except.ok.inj h)
    refine ⟨hdigits, ?_, fun hnil => hne (hdigits.trans hnil)⟩
    have hsplit := List.takeWhile_append_dropWhile (p := Char.isDigit) (l := s)
    rw [hdigits] at hsplit hrest
    rw [← hrest]
    nth_rewrite 2 [← hsplit]
    exact List.drop_left.symm

/-- The digits are digits, and what follows is what is left. -/
lemma scanDigits_split (h : scanDigits s = .ok (digits, rest)) :
    s = digits ++ rest ∧ ∀ c ∈ digits, c.isDigit = true := by
  obtain ⟨rfl, rfl, -⟩ := scanDigits_eq_ok h
  exact ⟨List.takeWhile_append_dropWhile.symm, List.all_eq_true.1 List.all_takeWhile⟩

/-- The whole part is made of digits. -/
lemma scanDigits_of_scanWhole (h : scanWhole s = .ok (digits, rest)) :
    scanDigits s = .ok (digits, rest) := by
  obtain ⟨⟨found, after⟩, hdigits, hproper⟩ := bind_eq_ok_iff.1 h
  dsimp only at hproper
  split at hproper
  · cases hproper
  · rw [hdigits, ← hproper]

/-- The fraction is made of digits after a point, if there is one. -/
lemma scanDigits_of_scanFraction (h : scanFraction s = .ok (digits, rest)) :
    (∃ t, s = '.' :: t ∧ scanDigits t = .ok (digits, rest)) ∨
      s.head? ≠ some '.' ∧ digits = [] ∧ rest = s := by
  unfold scanFraction at h
  split at h
  · next t => exact Or.inl ⟨t, rfl, h⟩
  · next hpoint =>
    obtain ⟨rfl, rfl⟩ := Prod.mk.inj (Except.ok.inj h)
    refine Or.inr ⟨?_, rfl, rfl⟩
    cases s with
    | nil => exact nofun
    | cons c t =>
      intro hc
      exact hpoint t (by rw [Option.some.inj hc])

/-- A power of ten to which a text comes at its end is the whole rest of the text. -/
lemma scanDigits_of_scanExponent {exponent : Option (Bool × List Char)}
    (h : scanExponent s = .ok (exponent, [])) :
    s = [] ∧ exponent = none ∨
      ∃ c t minus unsigned digits, s = c :: t ∧ (c = 'e' ∨ c = 'E') ∧
        Decimal.readSign t = (minus, unsigned) ∧ scanDigits unsigned = .ok (digits, []) ∧
        exponent = some (minus, digits) := by
  cases s with
  | nil => exact Or.inl ⟨rfl, (Prod.mk.inj (Except.ok.inj h)).1.symm⟩
  | cons c t =>
    rw [scanExponent] at h
    split at h
    · next hmark =>
      obtain ⟨⟨digits, after⟩, hdigits, hresult⟩ := bind_eq_ok_iff.1 h
      obtain ⟨rfl, rfl⟩ := Prod.mk.inj (Except.ok.inj hresult)
      exact Or.inr ⟨c, t, _, _, digits, rfl, hmark, rfl, hdigits, rfl⟩
    · cases h

/-- A number is a sign, a whole part, a fraction and a power of ten. -/
lemma exists_of_scan (h : scan s = .ok (n, rest)) :
    ∃ unsigned afterWhole afterFraction, Decimal.readSign s = (n.negative, unsigned) ∧
      (s = '-' :: unsigned ∨ s = unsigned) ∧
      scanDigits unsigned = .ok (n.whole, afterWhole) ∧
      scanFraction afterWhole = .ok (n.fraction, afterFraction) ∧
      scanExponent afterFraction = .ok (n.exponent, rest) := by
  unfold scan at h
  split at h
  next negative unsigned hsign =>
    obtain ⟨⟨whole, afterWhole⟩, hwhole, h⟩ := bind_eq_ok_iff.1 h
    obtain ⟨⟨fraction, afterFraction⟩, hfraction, h⟩ := bind_eq_ok_iff.1 h
    obtain ⟨⟨exponent, afterExponent⟩, hexponent, h⟩ := bind_eq_ok_iff.1 h
    obtain ⟨rfl, rfl⟩ := Prod.mk.inj (Except.ok.inj h)
    have hdigits := scanDigits_of_scanWhole hwhole
    split at hsign
    · obtain ⟨rfl, rfl⟩ := Prod.mk.inj hsign
      exact ⟨_, afterWhole, afterFraction, rfl, Or.inl rfl, hdigits, hfraction, hexponent⟩
    · next hminus =>
      obtain ⟨rfl, rfl⟩ := Prod.mk.inj hsign
      refine ⟨_, afterWhole, afterFraction, ?_, Or.inr rfl, hdigits, hfraction, hexponent⟩
      unfold Decimal.readSign
      split
      · next t => exact absurd rfl (hminus t)
      · cases hdigits
      · rfl

/-- An operand that ends with the power of ten of a number has that power of ten. -/
lemma readExponent?_of_scanExponent (h : scanExponent s = .ok (n.exponent, [])) :
    Decimal.readExponent? s = some n.power := by
  unfold power
  rcases scanDigits_of_scanExponent h with
    ⟨rfl, hnone⟩ | ⟨c, t, minus, unsigned, digits, rfl, hmark, hsign, hdigits, hsome⟩
  · rw [hnone]
    rfl
  · obtain ⟨-, -, hne⟩ := scanDigits_eq_ok hdigits
    obtain ⟨hsplit, hall⟩ := scanDigits_split hdigits
    rw [List.append_nil] at hsplit
    have hproper : (digits.isEmpty || !digits.all Char.isDigit) = false := by
      simpa [hne] using hall
    rw [hsome, Decimal.readExponent?, if_pos hmark, hsign, hsplit]
    simp [hproper]

/-- An operand that is a number without its sign is the decimal that the number writes. -/
lemma readUnsigned?_of_scanned {afterWhole afterFraction : List Char}
    (hwhole : scanDigits s = .ok (n.whole, afterWhole))
    (hfraction : scanFraction afterWhole = .ok (n.fraction, afterFraction))
    (hexponent : scanExponent afterFraction = .ok (n.exponent, [])) :
    Decimal.readUnsigned? s = some n.decimal := by
  obtain ⟨hdigits, hafter, hne⟩ := scanDigits_eq_ok hwhole
  have hpower := readExponent?_of_scanExponent hexponent
  unfold Decimal.readUnsigned?
  simp only [hdigits, hafter]
  rcases scanDigits_of_scanFraction hfraction with ⟨t, rfl, hplaces⟩ | ⟨hpoint, hnone, rfl⟩
  · obtain ⟨hplaces', hafter', -⟩ := scanDigits_eq_ok hplaces
    simp [hplaces', hafter', hpower, hne, decimal]
  · split
    · exact absurd rfl hpoint
    · simp [hpower, hne, decimal, hnone]

/-- Blanks are no part of what is taken off as digits. -/
lemma isBlank_of_scanDigits (h : scanDigits s = .ok (digits, rest))
    (hrest : ∀ c ∈ rest, Text.isBlank c = false) : ∀ c ∈ s, Text.isBlank c = false := by
  obtain ⟨rfl, hdigits⟩ := scanDigits_split h
  intro c hc
  rcases List.mem_append.1 hc with hdigit | hafter
  · exact Calendar.isBlank_of_isDigit (hdigits c hdigit)
  · exact hrest c hafter

/-- There is no blank in a number. -/
lemma isBlank_of_scan (h : scan s = .ok (n, [])) : ∀ c ∈ s, Text.isBlank c = false := by
  obtain ⟨unsigned, afterWhole, afterFraction, -, hs, hwhole, hfraction, hexponent⟩ :=
    exists_of_scan h
  have hpower : ∀ c ∈ afterFraction, Text.isBlank c = false := by
    rcases scanDigits_of_scanExponent hexponent with
      ⟨rfl, -⟩ | ⟨c, t, minus, digits, places, rfl, hmark, hsign, hdigits, -⟩
    · exact List.forall_mem_nil _
    · have hplaces := isBlank_of_scanDigits hdigits (List.forall_mem_nil _)
      have ht : ∀ c ∈ t, Text.isBlank c = false := by
        unfold Decimal.readSign at hsign
        split at hsign
        all_goals obtain ⟨-, rfl⟩ := Prod.mk.inj hsign
        · exact List.forall_mem_cons.2 ⟨by decide, hplaces⟩
        · exact List.forall_mem_cons.2 ⟨by decide, hplaces⟩
        · exact hplaces
      refine List.forall_mem_cons.2 ⟨?_, ht⟩
      rcases hmark with rfl | rfl <;> decide
  have hpoint : ∀ c ∈ afterWhole, Text.isBlank c = false := by
    rcases scanDigits_of_scanFraction hfraction with ⟨t, rfl, hdigits⟩ | ⟨-, -, rfl⟩
    · exact List.forall_mem_cons.2 ⟨by decide, isBlank_of_scanDigits hdigits hpower⟩
    · exact hpower
  have hunsigned := isBlank_of_scanDigits hwhole hpoint
  rcases hs with rfl | rfl
  · exact List.forall_mem_cons.2 ⟨by decide, hunsigned⟩
  · exact hunsigned

/-- A text that begins with a digit is not a word for infinity. -/
lemma map_toLower_ne (h : scanDigits s = .ok (digits, rest)) (word : List Char) :
    s.map Char.toLower ≠ 'i' :: word := by
  obtain ⟨hsplit, hall⟩ := scanDigits_split h
  obtain ⟨-, -, hne⟩ := scanDigits_eq_ok h
  obtain ⟨c, others, rfl⟩ := List.exists_cons_of_ne_nil hne
  have hdigit := hall c List.mem_cons_self
  have hlower : c.toLower = c := by
    have hcode := Char.isDigit_iff_toNat.1 hdigit
    unfold Char.toLower
    rw [dif_neg]
    rintro ⟨hcapital, -⟩
    have hletter : 65 ≤ c.toNat := UInt32.le_iff_toNat_le.1 hcapital
    have hnine : '9'.toNat = 57 := rfl
    omega
  rw [hsplit]
  rintro heq
  have hfirst : c.toLower = 'i' := (List.cons.inj heq).1
  rw [hlower] at hfirst
  rw [hfirst] at hdigit
  exact absurd hdigit (by decide)

/-- A text that is a number of a document is as an operand the nearest number to its decimal. -/
theorem read?_of_scan {t : String} (h : scan t.toList = .ok (n, [])) :
    Binary64.read? t = some ⟨n.negative, n.decimal.nearestMagnitude⟩ := by
  obtain ⟨unsigned, afterWhole, afterFraction, hsign, -, hwhole, hfraction, hexponent⟩ :=
    exists_of_scan h
  have hblank := isBlank_of_scan h
  have htrim : Text.trimChars t.toList = t.toList :=
    Text.trimChars_eq_self (fun c hc => hblank c (List.mem_of_mem_head? hc))
      (fun c hc => hblank c (List.mem_of_mem_getLast? hc))
  have hword : ¬(unsigned.map Char.toLower = "inf".toList ∨
      unsigned.map Char.toLower = "infinity".toList) := by
    rintro (hinf | hinfinity)
    · exact map_toLower_ne hwhole _ hinf
    · exact map_toLower_ne hwhole _ hinfinity
  unfold Binary64.read?
  simp only [htrim, hsign, if_neg hword, readUnsigned?_of_scanned hwhole hfraction hexponent,
    Option.map_some]

/-! ## The digits that are kept -/

/-- The decimal that is left of a number when its digits are taken as long as they fit 64 bits:
those of the whole part that are dropped count as powers of ten. -/
def kept (n : Numeral) : Decimal :=
  let (significand, taken) := takeDigits 0 0 n.whole
  let (significand', places) := takeDigits significand 0 n.fraction
  ⟨significand', (n.whole.length - taken : Nat) - places + n.power⟩

/-- Digits are taken up to one that would make the significand too large. -/
lemma exists_takeDigits (significand taken : Nat) (hdigits : ∀ c ∈ digits, c.isDigit = true) :
    ∃ front back, digits = front ++ back ∧
      takeDigits significand taken digits =
        (Decimal.continueDigits significand front, taken + front.length) ∧
      (back ≠ [] → twoPow 60 ≤ Decimal.continueDigits significand front) := by
  induction digits generalizing significand taken with
  | nil => exact ⟨[], [], rfl, rfl, fun hne => absurd rfl hne⟩
  | cons c digits ih =>
    obtain ⟨hc, hdigits⟩ := List.forall_mem_cons.1 hdigits
    rw [takeDigits]
    split
    · obtain ⟨front, back, rfl, htake, hlarge⟩ :=
        ih (10 * significand + Decimal.digitValue c) (taken + 1) hdigits
      refine ⟨c :: front, back, rfl, ?_, hlarge⟩
      rw [htake, List.length_cons, Nat.add_assoc, Nat.add_comm 1]
      rfl
    · next hmore =>
      refine ⟨[], c :: digits, rfl, rfl, fun _ => ?_⟩
      have hvalue := Calendar.digitValue_lt hc
      have hgreatest : maxSignificand = 18446744073709551615 := rfl
      have hlow : twoPow 60 = 1152921504606846976 := rfl
      rw [hgreatest] at hmore
      rw [hlow]
      change _ ≤ significand
      omega

/-- Digits whose number fits are all kept. -/
lemma kept_eq_decimal (h : n.decimal.significand < twoPow 64) : n.kept = n.decimal := by
  have hfits : n.decimal.significand ≤ maxSignificand := Nat.le_sub_one_of_lt h
  have hwhole : Decimal.continueDigits 0 n.whole ≤ maxSignificand :=
    (le_continueDigits _ n.fraction).trans hfits
  have htake : takeDigits (Decimal.continueDigits 0 n.whole) 0 n.fraction =
      (n.decimal.significand, 0 + n.fraction.length) := takeDigits_eq hfits
  unfold kept
  simp only [takeDigits_eq hwhole, htake, Nat.zero_add, Nat.sub_self]
  rw [decimal, Decimal.mk.injEq]
  exact ⟨rfl, by omega⟩

/-- Digits that continue a number move it to the front, and are worth less than one there. -/
lemma value_continueDigits_mem (start : Nat) (e : Int)
    (hdigits : ∀ c ∈ digits, c.isDigit = true) :
    start * 10 ^ (e + digits.length) ≤
        (Decimal.mk (Decimal.continueDigits start digits) e).value ∧
      (Decimal.mk (Decimal.continueDigits start digits) e).value ≤
        (start + 1) * 10 ^ (e + digits.length) := by
  have hpower : (10 : ℚ) ^ (e + digits.length) = tenPow digits.length * 10 ^ e := by
    rw [zpow_add₀ (by norm_num), zpow_natCast, cast_tenPow, mul_comm]
  have hlow : start * tenPow digits.length ≤ Decimal.continueDigits start digits := by
    rw [Calendar.continueDigits_eq]
    exact Nat.le_add_right _ _
  have hhigh : Decimal.continueDigits start digits ≤ (start + 1) * tenPow digits.length := by
    rw [Calendar.continueDigits_eq, Nat.succ_mul]
    exact Nat.add_le_add_left (Calendar.ofDigits_lt hdigits).le _
  rw [hpower, ← mul_assoc, ← mul_assoc]
  refine ⟨mul_le_mul_of_nonneg_right ?_ (ten_zpow_pos e).le,
    mul_le_mul_of_nonneg_right ?_ (ten_zpow_pos e).le⟩
  · exact_mod_cast hlow
  · exact_mod_cast hhigh

/-- Digits that continue a large number make less than one factor. -/
lemma within_continueDigits {start : Nat} {e f : Int} (hstart : twoPow 60 ≤ start)
    (hdigits : ∀ c ∈ digits, c.isDigit = true) (hothers : ∀ c ∈ others, c.isDigit = true)
    (hplaces : e + digits.length = f + others.length) :
    Within 1 (Decimal.mk (Decimal.continueDigits start digits) e).value
      (Decimal.mk (Decimal.continueDigits start others) f).value := by
  obtain ⟨hlow, hhigh⟩ := value_continueDigits_mem start e hdigits
  obtain ⟨hlow', hhigh'⟩ := value_continueDigits_mem start f hothers
  rw [hplaces] at hlow hhigh
  have hpower := ten_zpow_pos (f + others.length)
  have hpos : (0 : ℚ) < start := by
    have hnat : 0 < start := (twoPow_pos 60).trans_le hstart
    exact_mod_cast hnat
  have hnext : (start + 1 : ℚ) ≤ start * growth := by
    have hwidth : (0 : ℚ) < twoPow 53 := by exact_mod_cast twoPow_pos 53
    have hwide : (twoPow 53 : ℚ) ≤ start := by
      exact_mod_cast (twoPow_le_twoPow (by decide)).trans hstart
    have hunit := (one_le_div hwidth).2 hwide
    rw [growth, mul_add, mul_one, mul_one_div]
    exact (add_le_add_iff_left _).2 hunit
  have hgrown := mul_le_mul_of_nonneg_right hnext hpower.le
  rw [mul_right_comm] at hgrown
  have hgrowth := growth_pos.le
  refine ⟨(mul_pos hpos hpower).trans_le hlow, (mul_pos hpos hpower).trans_le hlow', ?_, ?_⟩
  · rw [pow_one]
    exact (hhigh.trans hgrown).trans (mul_le_mul_of_nonneg_right hlow' hgrowth)
  · rw [pow_one]
    exact (hhigh'.trans hgrown).trans (mul_le_mul_of_nonneg_right hlow hgrowth)

/-- Digits continue what the digits before them continue. -/
lemma continueDigits_append (start : Nat) (a b : List Char) :
    Decimal.continueDigits start (a ++ b) =
      Decimal.continueDigits (Decimal.continueDigits start a) b :=
  List.foldl_append

/-- What is kept of a number are the digits in front of its whole part and of its fraction, and
where some are left behind the others make a large significand. -/
lemma exists_kept (hwhole : ∀ c ∈ n.whole, c.isDigit = true)
    (hfraction : ∀ c ∈ n.fraction, c.isDigit = true) :
    ∃ front back front' back', n.whole = front ++ back ∧ n.fraction = front' ++ back' ∧
      n.kept = ⟨Decimal.continueDigits (Decimal.continueDigits 0 front) front',
        back.length - front'.length + n.power⟩ ∧
      (back ≠ [] → twoPow 60 ≤ Decimal.continueDigits 0 front) ∧
      (back' ≠ [] →
        twoPow 60 ≤ Decimal.continueDigits (Decimal.continueDigits 0 front) front') := by
  obtain ⟨front, back, hsplit, htake, hlarge⟩ := exists_takeDigits 0 0 hwhole
  obtain ⟨front', back', hsplit', htake', hlarge'⟩ :=
    exists_takeDigits (Decimal.continueDigits 0 front) 0 hfraction
  have hback : n.whole.length - front.length = back.length := by
    rw [hsplit, List.length_append, Nat.add_sub_cancel_left]
  refine ⟨front, back, front', back', hsplit, hsplit', ?_, hlarge, hlarge'⟩
  unfold kept
  simp only [htake, htake', Nat.zero_add, hback]

/-- Nothing is lost of a number, or less than one factor. -/
lemma kept_eq_or_within (hwhole : ∀ c ∈ n.whole, c.isDigit = true)
    (hfraction : ∀ c ∈ n.fraction, c.isDigit = true) :
    n.kept = n.decimal ∨ Within 1 n.kept.value n.decimal.value := by
  obtain ⟨front, back, front', back', hsplit, hsplit', hkept, hlarge, hlarge'⟩ :=
    exists_kept hwhole hfraction
  have hdecimal : n.decimal = ⟨Decimal.continueDigits (Decimal.continueDigits 0 front)
      (back ++ (front' ++ back')), n.power - (front' ++ back').length⟩ := by
    rw [decimal, Decimal.ofDigits, hsplit, hsplit', continueDigits_append 0,
      continueDigits_append _ back]
  rw [hsplit] at hwhole
  rw [hsplit'] at hfraction
  rw [hkept, hdecimal, List.length_append]
  by_cases hall : back = []
  · subst hall
    rw [List.nil_append, continueDigits_append _ front']
    by_cases hall' : back' = []
    · subst hall'
      refine Or.inl ((Decimal.mk.injEq ..).mpr ⟨rfl, ?_⟩)
      rw [List.length_nil]
      omega
    · have hnone : ∀ c ∈ ([] : List Char), c.isDigit = true := List.forall_mem_nil _
      refine Or.inr (within_continueDigits (hlarge' hall') hnone
        (fun c hc => hfraction c (List.mem_append_right _ hc)) ?_)
      rw [List.length_nil]
      omega
  · refine Or.inr (within_continueDigits (hlarge hall)
      (fun c hc => hfraction c (List.mem_append_left _ hc)) ?_ ?_)
    · intro c hc
      rcases List.mem_append.1 hc with hback | hrest
      · exact hwhole c (List.mem_append_right _ hback)
      · exact hfraction c hrest
    · rw [List.length_append, List.length_append]
      omega

/-- What is kept fits 64 bits. -/
lemma takeDigits_lt {significand taken : Nat} (h : significand < twoPow 64) :
    (takeDigits significand taken digits).1 < twoPow 64 := by
  induction digits generalizing significand taken with
  | nil => exact h
  | cons c digits ih =>
    rw [takeDigits]
    split
    · next hfits => exact ih (Nat.lt_of_le_sub_one (twoPow_pos 64) hfits)
    · exact h

/-! ## What numbers are taken for -/

/-- A magnitude is made of a decimal by rounding its parts, one by one, and then both together. -/
structure Approximates (d : Decimal) (m : Nat) : Prop where
  near : 0 < d.significand →
    ∃ q, IsNearest q m ∧ Within (slack d.exponent) q (d.value * twoPow 1074)
  zero : d.significand = 0 → m = 0
  held : d.IsHeld → m = d.nearestMagnitude

/-- So is that of a significand that is scaled by a power of ten. -/
lemma approximates_of_scaled? {significand : Nat} {e : Int} {y : Binary64}
    (hfits : significand < twoPow 64) (h : scaled? significand e = some y) :
    Approximates ⟨significand, e⟩ y.magnitude := by
  refine ⟨fun hpos => exists_isNearest_of_scaled? hpos hfits h, ?_, ?_⟩
  · rintro rfl
    exact magnitude_of_scaled?_zero h
  · rintro (⟨rfl, -⟩ | ⟨hexact, hpower⟩)
    · exact magnitude_of_scaled?_exponent_zero h
    · dsimp only at hexact hpower
      exact magnitude_of_scaled?_of_isExact (isExact_of_le hexact) (by omega) (by omega)
        (isExact_tenPow hpower) h

/-- So is that of a natural number. -/
lemma approximates_ofNat (significand : Nat) :
    Approximates ⟨significand, 0⟩ (ofNat significand).magnitude := by
  have hnearest := Decimal.nearestMagnitude_of_exponent_zero significand
  refine ⟨fun hpos => ⟨_, isNearest_ofNat significand, ?_⟩, ?_, fun _ => hnearest.symm⟩
  · have hvalue : (Decimal.mk significand 0).value = significand := by
      rw [Decimal.value, zpow_zero, mul_one]
    have hunits : (0 : ℚ) < significand * twoPow 1074 := by
      exact_mod_cast Nat.mul_pos hpos (twoPow_pos 1074)
    rw [hvalue]
    exact (Within.refl hunits).mono (Nat.zero_le _)
  · intro hzero
    rw [← hnearest]
    exact Decimal.nearestMagnitude_of_zero hzero

/-- A scaled significand keeps the sign that it is given. -/
lemma approximates_of_real? {negative : Bool} {significand : Nat} {e : Int}
    (hfits : significand < twoPow 64) (h : real? negative significand e = some v) :
    v.binary.negative = negative ∧ Approximates ⟨significand, e⟩ v.binary.magnitude := by
  obtain ⟨y, hy, rfl⟩ := Option.map_eq_some_iff.1 h
  have happroximates := approximates_of_scaled? hfits hy
  exact ⟨rfl, happroximates⟩

/-- So does a whole number. -/
lemma approximates_of_wholeValue? {negative : Bool} {significand dropped : Nat}
    (hfits : significand < twoPow 64) (h : wholeValue? negative significand dropped = some v) :
    v.binary.negative = negative ∧ Approximates ⟨significand, dropped⟩ v.binary.magnitude := by
  unfold wholeValue? at h
  split at h
  · exact approximates_of_real? hfits h
  · next hnone =>
    obtain rfl : dropped = 0 := by omega
    split at h
    · next hplus =>
      obtain rfl := Option.some.inj h
      refine ⟨?_, approximates_ofNat significand⟩
      have hsign : negative = false := by simpa using hplus
      rw [hsign]
      exact decide_eq_false (by omega)
    · next hminus =>
      have hsign : negative = true := by simpa using hminus
      subst hsign
      split at h
      · next hbounds =>
        obtain rfl := Option.some.inj h
        refine ⟨decide_eq_true (by omega), ?_⟩
        rw [Number.binary, Int.natAbs_neg, Int.natAbs_natCast]
        exact approximates_ofNat significand
      · exact approximates_of_real? hfits h

/-- A number is taken for a floating-point number of its sign and of a magnitude that is made of
what is kept of it; or it is zero or next to it, and the power of ten too large to be told apart. -/
lemma approximates_of_value? (h : n.value? = some v) :
    v.binary.negative = n.negative ∧ (Approximates n.kept v.binary.magnitude ∨
      v.binary.magnitude = 0 ∧ ∃ minus digits, n.exponent = some (minus, digits) ∧
        maxExponent < Decimal.ofDigits digits ∧ (n.kept.significand = 0 ∨ minus = true)) := by
  have hfits : (takeDigits 0 0 n.whole).1 < twoPow 64 := takeDigits_lt (twoPow_pos 64)
  have hfits' : (takeDigits (takeDigits 0 0 n.whole).1 0 n.fraction).1 < twoPow 64 :=
    takeDigits_lt hfits
  unfold value? at h
  simp only at h
  split at h
  · next hwhole =>
    simp only [Bool.and_eq_true, List.isEmpty_iff, Option.isNone_iff_eq_none] at hwhole
    obtain ⟨hsign, happroximates⟩ := approximates_of_wholeValue? hfits h
    have hkept : n.kept = ⟨(takeDigits 0 0 n.whole).1,
        (n.whole.length - (takeDigits 0 0 n.whole).2 : Nat)⟩ := by
      simp [kept, power, hwhole.1, hwhole.2, takeDigits]
    rw [hkept]
    exact ⟨hsign, Or.inl happroximates⟩
  · split at h
    · next hnone =>
      obtain ⟨hsign, happroximates⟩ := approximates_of_real? hfits' h
      refine ⟨hsign, Or.inl ?_⟩
      simpa [kept, power, hnone] using happroximates
    · next minus digits hsome =>
      split at h
      · obtain ⟨hsign, happroximates⟩ := approximates_of_real? hfits' h
        refine ⟨hsign, Or.inl ?_⟩
        cases minus <;> simpa [kept, power, hsome, sub_eq_add_neg] using happroximates
      · next hmore =>
        split at h
        · cases h
        · next hsmall =>
          obtain ⟨hsign, happroximates⟩ := approximates_of_real? (twoPow_pos 64) h
          refine ⟨hsign, Or.inr ⟨happroximates.zero rfl, minus, digits, hsome, by omega, ?_⟩⟩
          rw [not_and_or, not_ne_iff, Bool.not_eq_false] at hsmall
          exact hsmall

/-- What a number is taken for has its sign, and a magnitude that is a few steps from the one
nearest to its decimal, or the same if that is held. -/
structure ReadsNear (n : Numeral) (x : Binary64) : Prop where
  negative_eq : x.negative = n.negative
  le : x.magnitude ≤ n.decimal.nearestMagnitude + (slack n.kept.exponent + 1)
  ge : n.decimal.nearestMagnitude ≤ x.magnitude + (slack n.kept.exponent + 1)
  held : n.decimal.IsHeld → x.magnitude = n.decimal.nearestMagnitude

/-- A magnitude that is made of what is kept of a number is near to that of its decimal. -/
lemma near_of_approximates (hwhole : ∀ c ∈ n.whole, c.isDigit = true)
    (hfraction : ∀ c ∈ n.fraction, c.isDigit = true) (h : Approximates n.kept m) :
    m ≤ n.decimal.nearestMagnitude + (slack n.kept.exponent + 1) ∧
      n.decimal.nearestMagnitude ≤ m + (slack n.kept.exponent + 1) := by
  have hdecimal := n.decimal.isNearest_nearestMagnitude
  have hone : 1 ≤ slack n.kept.exponent + 1 := Nat.le_add_left 1 _
  rcases kept_eq_or_within hwhole hfraction with hkept | hwithin
  · rcases Nat.eq_zero_or_pos n.decimal.significand with hzero | hpos
    · rw [← hkept] at hzero
      rw [h.zero hzero, ← hkept, Decimal.nearestMagnitude_of_zero hzero]
      exact ⟨Nat.zero_le _, Nat.zero_le _⟩
    · rw [← hkept] at hpos
      obtain ⟨q, hnear, hq⟩ := h.near hpos
      rw [← hkept] at hdecimal ⊢
      exact hnear.near hdecimal (hq.mono (Nat.le_succ _)) hone
  · obtain ⟨q, hnear, hq⟩ := h.near (Decimal.significand_pos hwithin.left_pos)
    have hunit : (0 : ℚ) < twoPow 1074 := by exact_mod_cast twoPow_pos 1074
    exact hnear.near hdecimal (hq.trans (hwithin.mul (.refl hunit))) hone

/-- With a power of ten below all that are told apart, a number of no more than `2 ^ 30` digits is
next to zero. -/
lemma nearestMagnitude_of_power (hwhole : ∀ c ∈ n.whole, c.isDigit = true)
    (hfraction : ∀ c ∈ n.fraction, c.isDigit = true) (hlength : n.whole.length ≤ twoPow 30)
    (hpower : n.power < -maxExponent) : n.decimal.nearestMagnitude = 0 := by
  have hgreatest : maxExponent = 2147483647 := rfl
  have hlong : twoPow 30 = 1073741824 := rfl
  obtain ⟨k, hk⟩ : ∃ k : Nat, n.whole.length + n.power = -k :=
    ⟨(-(n.whole.length + n.power)).toNat, by omega⟩
  have hten : (0 : ℚ) < tenPow k := by exact_mod_cast tenPow_pos k
  have hvalue : n.decimal.value ≤ (tenPow k : ℚ)⁻¹ := by
    have hdigits : (Decimal.ofDigits n.whole + 1 : ℚ) ≤ 10 ^ n.whole.length := by
      rw [← cast_tenPow]
      exact_mod_cast Calendar.ofDigits_lt hwhole
    calc n.decimal.value ≤
          (Decimal.ofDigits n.whole + 1) * 10 ^ (n.power - n.fraction.length + n.fraction.length) :=
          (value_continueDigits_mem _ _ hfraction).2
      _ ≤ 10 ^ n.whole.length * 10 ^ n.power := by
          rw [Int.sub_add_cancel]
          exact mul_le_mul_of_nonneg_right hdigits (ten_zpow_pos _).le
      _ = (tenPow k : ℚ)⁻¹ := by
          rw [← zpow_natCast, ← zpow_add₀ (by norm_num), hk, zpow_neg, zpow_natCast, cast_tenPow]
  refine n.decimal.isNearest_nearestMagnitude.eq_zero ?_
  have hunits : (4 * twoPow 1074 : ℚ) ≤ tenPow k := by
    exact_mod_cast four_units_le_tenPow (by omega)
  have hunit : (0 : ℚ) ≤ twoPow 1074 := Nat.cast_nonneg _
  generalize (twoPow 1074 : ℚ) = unit at hunits hunit ⊢
  calc 2 * (n.decimal.value * unit) ≤ 2 * ((tenPow k : ℚ)⁻¹ * unit) := by gcongr
    _ = 2 * unit / tenPow k := by ring
    _ < 1 := by
      rw [div_lt_one hten]
      linarith

/-- A number that is taken off a text is written in digits of the text. -/
lemma digits_of_scan (h : scan s = .ok (n, rest)) :
    (∀ c ∈ n.whole, c.isDigit = true) ∧ (∀ c ∈ n.fraction, c.isDigit = true) ∧
      n.whole.length ≤ s.length := by
  obtain ⟨unsigned, afterWhole, afterFraction, -, hs, hwhole, hfraction, -⟩ := exists_of_scan h
  obtain ⟨hsplit, hdigits⟩ := scanDigits_split hwhole
  have hlength := congrArg List.length hsplit
  rw [List.length_append] at hlength
  refine ⟨hdigits, ?_, ?_⟩
  · rcases scanDigits_of_scanFraction hfraction with ⟨t, -, hplaces⟩ | ⟨-, hnone, -⟩
    · exact (scanDigits_split hplaces).2
    · rw [hnone]
      exact List.forall_mem_nil _
  · rcases hs with rfl | rfl
    · rw [List.length_cons]
      omega
    · omega

/-- What a document takes a number for is a few steps from what an operand takes it for. -/
theorem readsNear_of_value? (hscan : scan s = .ok (n, rest)) (hlength : s.length ≤ twoPow 30)
    (h : n.value? = some v) : n.ReadsNear v.binary := by
  obtain ⟨hwhole, hfraction, hfits⟩ := digits_of_scan hscan
  obtain ⟨hsign, happroximates | ⟨hzero, minus, digits, hexponent, hmore, hsmall⟩⟩ :=
    approximates_of_value? h
  · obtain ⟨hle, hge⟩ := near_of_approximates hwhole hfraction happroximates
    refine ⟨hsign, hle, hge, fun hheld => ?_⟩
    have hkept := kept_eq_decimal hheld.lt
    rw [← hkept] at hheld ⊢
    exact happroximates.held hheld
  · have hsame : n.decimal.nearestMagnitude = 0 := by
      rcases hsmall with hnothing | rfl
      · rcases kept_eq_or_within hwhole hfraction with hkept | hwithin
        · rw [← hkept]
          exact Decimal.nearestMagnitude_of_zero hnothing
        · have hpos := Decimal.significand_pos hwithin.left_pos
          omega
      · refine nearestMagnitude_of_power hwhole hfraction (hfits.trans hlength) ?_
        rw [power, hexponent]
        simp only [if_true]
        omega
    refine ⟨hsign, ?_, ?_, fun _ => hzero.trans hsame.symm⟩
    · rw [hzero]
      exact Nat.zero_le _
    · rw [hsame]
      exact Nat.zero_le _

end Numeral

end Json

end PartQuery
