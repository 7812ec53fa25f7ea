import Mathlib.Algebra.Order.Ring.Pow
import PartQuery.Json.Numeral
import PartQuery.Proofs.Number.Rounding

/-!
# Powers of ten

An operand is rounded once: its magnitude is nearest to the value of the decimal
(`Decimal.isNearest_nearestMagnitude`). A number of a document is rounded several times: the
significand, the power of ten and what is made of both. Each time, the value moves by no more than
one factor of `1 + 2⁻⁵³` (`exists_isNearest_of_scaled?`). If the significand and the power of ten
are held in full, nothing is moved before the last time, and the result is the magnitude of the
decimal (`magnitude_of_scaled?_of_isExact`).
-/

namespace PartQuery

open Binary64

/-! ## Operands -/

/-- Powers of ten are those of the number ten. -/
lemma cast_tenPow (n : Nat) : (tenPow n : ℚ) = 10 ^ n := by
  unfold tenPow
  exact_mod_cast rfl

/-- Powers of ten are positive. -/
lemma ten_zpow_pos (e : Int) : (0 : ℚ) < 10 ^ e :=
  zpow_pos (by norm_num) e

/-- A greater exponent gives a greater power of ten. -/
lemma tenPow_le_tenPow {a b : Nat} (h : a ≤ b) : tenPow a ≤ tenPow b :=
  Nat.pow_le_pow_right (by decide) h

/-- Powers of ten are multiplied by adding their exponents. -/
lemma tenPow_add (a b : Nat) : tenPow (a + b) = tenPow a * tenPow b :=
  Nat.pow_add 10 a b

/-- Three binary places are less than a decimal one. -/
lemma twoPow_le_tenPow {a b : Nat} (h : a ≤ 3 * b) : twoPow a ≤ tenPow b := by
  have hplaces : twoPow (3 * b) = (2 ^ 3) ^ b := Nat.pow_mul 2 3 b
  exact (twoPow_le_twoPow h).trans (hplaces.trans_le (Nat.pow_le_pow_left (by decide) b))

/-- In units of the least positive number, four is less than the powers of ten from the 401st on. -/
lemma four_units_le_tenPow {k : Nat} (hk : 401 ≤ k) : 4 * twoPow 1074 ≤ tenPow k := by
  have hfour : twoPow 2 = 4 := rfl
  rw [← hfour, ← twoPow_add]
  exact twoPow_le_tenPow (by omega)

namespace Decimal

/-- The number that a decimal stands for. -/
def value (d : Decimal) : ℚ :=
  d.significand * 10 ^ d.exponent

/-- A decimal with a value has a significand. -/
lemma significand_pos {d : Decimal} (h : 0 < d.value) : 0 < d.significand := by
  by_contra hnone
  have hzero : d.significand = 0 := by omega
  rw [value, hzero, Nat.cast_zero, zero_mul] at h
  exact lt_irrefl _ h

/-- Powers of ten above 309 exceed every finite number. -/
lemma infinite_le_value {d : Decimal} (hpos : 0 < d.significand) (h : 309 < d.exponent) :
    (units infiniteMagnitude : ℚ) ≤ d.value * twoPow 1074 := by
  have hbound : (units infiniteMagnitude : ℚ) ≤ tenPow 310 * twoPow 1074 := by
    have hnat : units infiniteMagnitude ≤ tenPow 310 * twoPow 1074 := by
      decide +kernel
    exact_mod_cast hnat
  have hpower : (tenPow 310 : ℚ) ≤ 10 ^ d.exponent := by
    rw [cast_tenPow, ← zpow_natCast]
    exact zpow_le_zpow_right₀ (by norm_num) h
  have hone : (1 : ℚ) ≤ d.significand := by exact_mod_cast hpos
  calc (units infiniteMagnitude : ℚ) ≤ tenPow 310 * twoPow 1074 := hbound
    _ ≤ d.value * twoPow 1074 := by
      refine mul_le_mul_of_nonneg_right ?_ (Nat.cast_nonneg _)
      exact hpower.trans (le_mul_of_one_le_left (ten_zpow_pos _).le hone)

/-- Values that are far below the least positive number are rounded to zero. -/
lemma value_small {d : Decimal} (h : d.exponent + d.significand.log2 < -400) :
    2 * (d.value * twoPow 1074) ≤ 1 := by
  obtain ⟨k, hk⟩ : ∃ k : Nat, d.significand.log2 + d.exponent = -k :=
    ⟨(-(d.significand.log2 + d.exponent)).toNat, by omega⟩
  have hbound : (4 * twoPow 1074 : ℚ) ≤ tenPow k := by
    exact_mod_cast four_units_le_tenPow (by omega)
  have hsignificand : (d.significand : ℚ) ≤ 2 * 10 ^ d.significand.log2 := by
    have hlog : d.significand ≤ 2 ^ (d.significand.log2 + 1) := Nat.lt_log2_self.le
    have hpower : 2 ^ d.significand.log2 ≤ 10 ^ d.significand.log2 :=
      Nat.pow_le_pow_left (by decide) _
    have hnat : d.significand ≤ 2 * 10 ^ d.significand.log2 := by
      rw [Nat.pow_succ] at hlog
      omega
    exact_mod_cast hnat
  have hpower : (10 : ℚ) ^ d.significand.log2 * 10 ^ d.exponent = (tenPow k : ℚ)⁻¹ := by
    rw [← zpow_natCast, ← zpow_add₀ (by norm_num), hk, zpow_neg, zpow_natCast, cast_tenPow]
  have hvalue : d.value ≤ 2 * (tenPow k : ℚ)⁻¹ := by
    calc d.value ≤ 2 * 10 ^ d.significand.log2 * 10 ^ d.exponent :=
          mul_le_mul_of_nonneg_right hsignificand (ten_zpow_pos _).le
      _ = 2 * (tenPow k : ℚ)⁻¹ := by rw [mul_assoc, hpower]
  have hpos : (0 : ℚ) < tenPow k := by exact_mod_cast tenPow_pos k
  have hunit : (0 : ℚ) ≤ twoPow 1074 := Nat.cast_nonneg _
  generalize (twoPow 1074 : ℚ) = unit at hbound hunit ⊢
  calc 2 * (d.value * unit) ≤ 2 * (2 * (tenPow k : ℚ)⁻¹ * unit) := by gcongr
    _ = 4 * unit / tenPow k := by ring
    _ ≤ 1 := (div_le_one hpos).2 hbound

/-- The magnitude of a decimal is nearest to its value. -/
theorem isNearest_nearestMagnitude (d : Decimal) :
    IsNearest (d.value * twoPow 1074) d.nearestMagnitude := by
  unfold nearestMagnitude
  split
  · next hzero =>
    refine isNearest_zero ?_
    rw [value, hzero, Nat.cast_zero, zero_mul, zero_mul, mul_zero]
    exact zero_le_one
  split
  · next hne hlarge => exact isNearest_infinite (infinite_le_value (Nat.pos_of_ne_zero hne) hlarge)
  split
  · next hsmall => exact isNearest_zero (value_small hsmall)
  split
  · next hnonneg =>
    obtain ⟨k, hk⟩ := Int.eq_ofNat_of_zero_le hnonneg
    have hnear := Binary64.isNearest_nearestMagnitude (d.significand * tenPow d.exponent.toNat)
      Nat.one_pos
    rw [hk, Int.toNat_natCast, Nat.cast_one, div_one, Nat.cast_mul, Nat.cast_mul] at hnear
    rw [value, hk, Int.toNat_natCast, zpow_natCast, ← cast_tenPow]
    exact hnear
  · next hneg =>
    obtain ⟨k, hk⟩ : ∃ k : Nat, d.exponent = -k := ⟨(-d.exponent).toNat, by omega⟩
    have hnear := Binary64.isNearest_nearestMagnitude d.significand (tenPow_pos (-d.exponent).toNat)
    rw [hk, neg_neg, Int.toNat_natCast, Nat.cast_mul] at hnear
    rw [value, hk, neg_neg, Int.toNat_natCast, zpow_neg, zpow_natCast, ← cast_tenPow,
      ← div_eq_mul_inv, div_mul_eq_mul_div]
    exact hnear

/-- Without a significand the magnitude is zero. -/
lemma nearestMagnitude_of_zero {d : Decimal} (h : d.significand = 0) : d.nearestMagnitude = 0 := by
  rw [nearestMagnitude, if_pos h]

/-- A power of ten that is not too large is multiplied in. -/
lemma nearestMagnitude_of_nonneg {s k : Nat} (hpos : 0 < s) (hk : k ≤ 309) :
    (Decimal.mk s k).nearestMagnitude = Binary64.nearestMagnitude (s * tenPow k) 1 := by
  have hle : ¬309 < (k : Int) := by omega
  have hge : ¬(k : Int) + s.log2 < -400 := by omega
  unfold nearestMagnitude
  simp only [if_neg hpos.ne', if_neg hle, if_neg hge, if_pos (Int.natCast_nonneg k),
    Int.toNat_natCast]

/-- Without a power of ten the magnitude is that of the significand. -/
lemma nearestMagnitude_of_exponent_zero (s : Nat) :
    (Decimal.mk s 0).nearestMagnitude = (ofNat s).magnitude := by
  rcases Nat.eq_zero_or_pos s with rfl | hpos
  · exact (nearestMagnitude_of_zero rfl).trans magnitude_ofNat_zero.symm
  · refine (nearestMagnitude_of_nonneg hpos (Nat.zero_le 309)).trans ?_
    exact congrArg (Binary64.nearestMagnitude · 1) (Nat.mul_one s)

/-- One that is not too small is divided out. -/
lemma nearestMagnitude_of_neg {s p : Nat} (hpos : 0 < s) (hp : 0 < p) (hle : p ≤ 400) :
    (Decimal.mk s (-p)).nearestMagnitude = Binary64.nearestMagnitude s (tenPow p) := by
  have hless : ¬309 < (-p : Int) := by omega
  have hge : ¬(-p : Int) + s.log2 < -400 := by omega
  have hneg : ¬0 ≤ (-p : Int) := by omega
  have hplaces : (- -(p : Int)).toNat = p := by omega
  unfold nearestMagnitude
  simp only [if_neg hpos.ne', if_neg hless, if_neg hge, if_neg hneg, hplaces]

end Decimal

/-! ## Numbers of documents -/

namespace Json.Numeral

variable {x : Binary64} {a : ℚ} {j k s : Nat} {e : Int} {y : Binary64}

/-- The powers of ten that are multiplied or divided in are finite. -/
lemma tenPow_fits (hk : k ≤ 308) : tenPow k * twoPow 1074 < units (infiniteMagnitude - 1) := by
  have hlargest : tenPow 308 * twoPow 1074 < units (infiniteMagnitude - 1) := by
    decide +kernel
  exact (Nat.mul_le_mul_right _ (tenPow_le_tenPow hk)).trans_lt hlargest

/-- So are significands. -/
lemma significand_fits (hs : s < twoPow 64) : s * twoPow 1074 < units (infiniteMagnitude - 1) := by
  have hless : twoPow 64 ≤ tenPow 308 := twoPow_le_tenPow (by decide)
  exact (Nat.mul_le_mul_right _ (hs.le.trans hless)).trans_lt (tenPow_fits (Nat.le_refl _))

/-- Multiplying a power of ten in moves a value by no more than one factor, beside what rounding
does. -/
lemma exists_scaleUp (hx : Within j (units x.magnitude) a) (hk : k ≤ 308) :
    ∃ q, IsNearest q (x.scaleUp (ofNat (tenPow k))).magnitude ∧
      Within (j + 1) q (a * tenPow k) := by
  have hpower := within_ofNat (tenPow_pos k) (tenPow_fits hk)
  have hunit : (0 : ℚ) < twoPow 1074 := by exact_mod_cast twoPow_pos 1074
  refine ⟨_, isNearest_scaleUp x (ofNat (tenPow k)), ?_⟩
  have hvalue : a * (tenPow k * twoPow 1074) / twoPow 1074 = a * tenPow k := by
    rw [← mul_assoc, mul_div_cancel_right₀ _ hunit.ne']
  rw [← hvalue]
  exact (hx.mul hpower).div (.refl hunit)

/-- So does dividing it out. -/
lemma exists_scaleDown (hx : Within j (units x.magnitude) a) (hk : k ≤ 308) :
    ∃ q, IsNearest q (x.scaleDown (ofNat (tenPow k))).magnitude ∧
      Within (j + 1) q (a / tenPow k) := by
  have hpower := within_ofNat (tenPow_pos k) (tenPow_fits hk)
  have hunit : (0 : ℚ) < twoPow 1074 := by exact_mod_cast twoPow_pos 1074
  have hpos : 0 < units (ofNat (tenPow k)).magnitude := by exact_mod_cast hpower.left_pos
  refine ⟨_, isNearest_scaleDown x hpos, ?_⟩
  have hvalue : a * twoPow 1074 / (tenPow k * twoPow 1074) = a / tenPow k :=
    mul_div_mul_right _ _ hunit.ne'
  rw [← hvalue]
  exact (hx.mul (.refl hunit)).div hpower

/-- A significand is moved by no more than one factor. -/
lemma within_significand (hpos : 0 < s) (hs : s < twoPow 64) :
    Within 1 (units (ofNat s).magnitude) (s * twoPow 1074) :=
  within_ofNat hpos (significand_fits hs)

/-- Quotients of natural numbers are compared by products. -/
lemma within_of_nat {c d f : Nat} (hc : 0 < c) (hd : 0 < d) (hf : 0 < f)
    (hle : c * f * twoPow 53 ≤ d * (twoPow 53 + k))
    (hge : d * twoPow 53 ≤ c * f * (twoPow 53 + k)) : Within k c (d / f) := by
  have hwidth : (0 : ℚ) < twoPow 53 := by exact_mod_cast twoPow_pos 53
  have hc' : (0 : ℚ) < c := by exact_mod_cast hc
  have hd' : (0 : ℚ) < d := by exact_mod_cast hd
  have hf' : (0 : ℚ) < f := by exact_mod_cast hf
  have hpower : (twoPow 53 + k : ℚ) ≤ twoPow 53 * growth ^ k := by
    have hbernoulli : 1 + (k : ℚ) * (1 / twoPow 53) ≤ growth ^ k :=
      one_add_mul_le_pow ((by norm_num : (-2 : ℚ) ≤ 0).trans (one_div_pos.2 hwidth).le) k
    calc (twoPow 53 + k : ℚ) = twoPow 53 * (1 + k * (1 / twoPow 53)) := by
          field_simp
      _ ≤ twoPow 53 * growth ^ k := mul_le_mul_of_nonneg_left hbernoulli hwidth.le
  have hle' : (c * f * twoPow 53 : ℚ) ≤ d * (twoPow 53 + k) := by exact_mod_cast hle
  have hge' : (d * twoPow 53 : ℚ) ≤ c * f * (twoPow 53 + k) := by exact_mod_cast hge
  refine ⟨hc', div_pos hd' hf', ?_, ?_⟩
  · rw [div_mul_eq_mul_div, le_div_iff₀ hf']
    refine le_of_mul_le_mul_right (hle'.trans ?_) hwidth
    calc (d * (twoPow 53 + k) : ℚ) ≤ d * (twoPow 53 * growth ^ k) :=
          mul_le_mul_of_nonneg_left hpower hd'.le
      _ = d * growth ^ k * twoPow 53 := by ring
  · rw [div_le_iff₀ hf']
    refine le_of_mul_le_mul_right (hge'.trans ?_) hwidth
    calc (c * f * (twoPow 53 + k) : ℚ) ≤ c * f * (twoPow 53 * growth ^ k) :=
          mul_le_mul_of_nonneg_left hpower (mul_pos hc' hf').le
      _ = c * growth ^ k * f * twoPow 53 := by ring

/-- The square of the growth is small. -/
lemma growth_sq_le : growth ^ 2 ≤ 5 / 4 := by
  have hwidth : (twoPow 53 : ℚ) = 9007199254740992 := by exact_mod_cast (rfl : twoPow 53 = _)
  rw [growth, hwidth]
  norm_num

/-- When the greatest power of ten is divided out once, the value is moved by no more than three
factors, also where the quotient is below the first binade. -/
lemma within_first_quotient (hpos : 0 < s) (hs : s < twoPow 64) :
    Within 3 (units ((ofNat s).scaleDown (ofNat (tenPow 308))).magnitude)
      (s * twoPow 1074 / tenPow 308) := by
  have hcast : ((s * twoPow 1074 : Nat) : ℚ) = s * twoPow 1074 := Nat.cast_mul _ _
  rw [← hcast]
  rcases Nat.lt_or_ge s 3 with hsmall | hlarge
  · have hsmall' : s = 1 ∨ s = 2 := by omega
    rcases hsmall' with rfl | rfl
    · exact within_of_nat (by decide +kernel) (by decide +kernel) (tenPow_pos _)
        (by decide +kernel) (by decide +kernel)
    · exact within_of_nat (by decide +kernel) (by decide +kernel) (tenPow_pos _)
        (by decide +kernel) (by decide +kernel)
  · obtain ⟨q, hnear, hq⟩ := exists_scaleDown (within_significand hpos hs) (Nat.le_refl 308)
    rw [← hcast] at hq
    have hten : (0 : ℚ) < tenPow 308 := by exact_mod_cast tenPow_pos 308
    have hbinade : (twoPow 52 : ℚ) ≤ q := by
      have hnat : 5 * twoPow 52 * tenPow 308 ≤ 4 * (s * twoPow 1074) := by
        have hthree : 5 * twoPow 52 * tenPow 308 ≤ 4 * (3 * twoPow 1074) := by
          decide +kernel
        exact hthree.trans (Nat.mul_le_mul_left 4 (Nat.mul_le_mul_right _ hlarge))
      have hvalue : (5 / 4 * twoPow 52 : ℚ) ≤ (s * twoPow 1074 : Nat) / tenPow 308 := by
        rw [le_div_iff₀ hten]
        have hrat : (5 * twoPow 52 * tenPow 308 : ℚ) ≤ 4 * (s * twoPow 1074 : Nat) := by
          exact_mod_cast hnat
        linarith
      have hmoved := hvalue.trans hq.ge
      have hgrown : q * growth ^ 2 ≤ q * (5 / 4) :=
        mul_le_mul_of_nonneg_left growth_sq_le hq.left_pos.le
      linarith
    have hfinite : q < units (infiniteMagnitude - 1) := by
      have hnat : 2 * (s * twoPow 1074) ≤ s * twoPow 1074 * tenPow 308 := by
        have htwo : 2 ≤ tenPow 308 := twoPow_le_tenPow (a := 1) (by decide)
        rw [Nat.mul_comm 2]
        exact Nat.mul_le_mul_left _ htwo
      have hvalue : (2 * ((s * twoPow 1074 : Nat) / tenPow 308) : ℚ) ≤ (s * twoPow 1074 : Nat) := by
        rw [← mul_div_assoc, div_le_iff₀ hten]
        exact_mod_cast hnat
      have hfits : ((s * twoPow 1074 : Nat) : ℚ) < units (infiniteMagnitude - 1) := by
        exact_mod_cast significand_fits hs
      have hgrown := mul_le_mul_of_nonneg_left growth_sq_le hq.right_pos.le
      have hmoved := hq.le
      have hpos' := hq.right_pos
      linarith
    exact (hnear.within hbinade (hnear.ne_infinite hfinite)).trans hq

/-- Nothing is left of zero. -/
lemma magnitude_scaleDown_of_zero (hx : x.magnitude = 0) (y : Binary64) :
    (x.scaleDown y).magnitude = 0 := by
  have hzero : units 0 = 0 := units_of_lt (twoPow_pos 52)
  unfold scaleDown nearestMagnitude halfEven
  simp [hx, hzero]

/-- Nothing is divided out of zero. -/
lemma divideOut_of_zero (n : Nat) (hx : x.magnitude = 0) : divideOut n x = x := by
  cases n with
  | zero => rfl
  | succ n => rw [divideOut, if_pos hx]

/-- A significand that is not zero has a magnitude. -/
lemma magnitude_ofNat_ne_zero (hpos : 0 < s) (hs : s < twoPow 64) : (ofNat s).magnitude ≠ 0 := by
  intro hzero
  have hunits := (within_significand hpos hs).left_pos
  rw [hzero, units_of_lt (twoPow_pos 52), Nat.cast_zero] at hunits
  exact lt_irrefl _ hunits

/-- Significands are small beside the square of the greatest power of ten. -/
lemma significand_small (hs : s < twoPow 64) :
    (4 * (s * twoPow 1074) : ℚ) < tenPow 308 * tenPow 308 := by
  have hnat : 4 * (s * twoPow 1074) < tenPow 308 * tenPow 308 := by
    calc 4 * (s * twoPow 1074) = s * (4 * twoPow 1074) := Nat.mul_left_comm _ _ _
      _ ≤ s * tenPow 401 := Nat.mul_le_mul_left s (four_units_le_tenPow (Nat.le_refl 401))
      _ < twoPow 64 * tenPow 401 := Nat.mul_lt_mul_of_pos_right hs (tenPow_pos 401)
      _ ≤ tenPow 64 * tenPow 401 := Nat.mul_le_mul_right _ (twoPow_le_tenPow (by decide))
      _ = tenPow 465 := (tenPow_add 64 401).symm
      _ ≤ tenPow 616 := tenPow_le_tenPow (by decide)
      _ = tenPow 308 * tenPow 308 := tenPow_add 308 308
  exact_mod_cast hnat

/-- Of a significand nothing is left when the greatest power of ten is divided out twice. -/
lemma magnitude_divideOut (hpos : 0 < s) (hs : s < twoPow 64) (n : Nat) :
    (divideOut (n + 2) (ofNat s)).magnitude = 0 := by
  obtain ⟨q, hnear, hq⟩ := exists_scaleDown (within_first_quotient hpos hs) (Nat.le_refl 308)
  have hten : (0 : ℚ) < tenPow 308 := by exact_mod_cast tenPow_pos 308
  have hsmall : 2 * q < 1 := by
    have hvalue : (4 * (s * twoPow 1074 / tenPow 308 / tenPow 308) : ℚ) < 1 := by
      rw [div_div, ← mul_div_assoc, div_lt_one (mul_pos hten hten)]
      exact significand_small hs
    have hgrown : growth ^ (3 + 1) ≤ 2 := by
      calc growth ^ (3 + 1) = growth ^ 2 * growth ^ 2 := by ring
        _ ≤ 5 / 4 * (5 / 4) :=
          mul_le_mul growth_sq_le growth_sq_le (pow_pos growth_pos 2).le (by norm_num)
        _ ≤ 2 := by norm_num
    have hmoved := mul_le_mul_of_nonneg_left hgrown hq.right_pos.le
    have hle := hq.le
    linarith
  have htwice := hnear.eq_zero hsmall
  rw [divideOut]
  split
  · assumption
  · rw [divideOut]
    split
    · assumption
    · rwa [divideOut_of_zero n htwice]

/-- How far a value is moved while its power of ten is multiplied or divided in, before the last
rounding. -/
def slack (e : Int) : Nat :=
  if -308 ≤ e then 2 else 4

/-- A power of ten is divided out, multiplied in, or too large for anything but zero. -/
lemma scaled?_cases (h : scaled? s e = some y) :
    (∃ p : Nat, 0 < p ∧ e = -p ∧ y = (divideOut ((p - 1) / 308) (ofNat s)).scaleDown
        (ofNat (tenPow (p - 308 * ((p - 1) / 308))))) ∨
      (∃ k : Nat, k ≤ 308 ∧ e = k ∧ y = (ofNat s).scaleUp (ofNat (tenPow k))) ∨
      308 < e ∧ (ofNat s).magnitude = 0 ∧ y = ofNat s := by
  unfold scaled? at h
  simp only at h
  split at h
  · next hneg =>
    obtain ⟨p, rfl⟩ : ∃ p : Nat, e = -p := ⟨(-e).toNat, by omega⟩
    rw [neg_neg, Int.toNat_natCast] at h
    exact Or.inl ⟨p, by omega, rfl, (Option.some.inj h).symm⟩
  · next hnonneg =>
    obtain ⟨k, rfl⟩ := Int.eq_ofNat_of_zero_le (Int.not_lt.1 hnonneg)
    split at h
    · split at h
      · cases h
      · exact Or.inr (Or.inl ⟨k, by omega, rfl, (Option.some.inj h).symm⟩)
    · split at h
      · next hzero => exact Or.inr (Or.inr ⟨by omega, hzero, (Option.some.inj h).symm⟩)
      · cases h

/-- Dividing a power of ten out of a significand moves it by no more than two factors, or four if it
is done in two goes, beside what rounding does. -/
lemma exists_isNearest_divideOut (hpos : 0 < s) (hs : s < twoPow 64) (p : Nat) :
    ∃ q, IsNearest q ((divideOut ((p - 1) / 308) (ofNat s)).scaleDown
        (ofNat (tenPow (p - 308 * ((p - 1) / 308))))).magnitude ∧
      Within (slack (-p)) q (s * twoPow 1074 / tenPow p) := by
  have hsignificand := within_significand hpos hs
  rcases Nat.lt_or_ge 308 p with hmore | hfew
  · have hslack : slack (-p) = 4 := if_neg (by omega)
    rw [hslack]
    rcases Nat.lt_or_ge 616 p with hmany | honce
    · -- Both the value and the result are too small.
      obtain ⟨n, hn⟩ : ∃ n, (p - 1) / 308 = n + 2 := ⟨(p - 1) / 308 - 2, by omega⟩
      rw [hn, magnitude_scaleDown_of_zero (magnitude_divideOut hpos hs n)]
      have hten : (0 : ℚ) < tenPow p := by exact_mod_cast tenPow_pos p
      have hpower : (tenPow 308 * tenPow 308 : ℚ) ≤ tenPow p := by
        rw [← Nat.cast_mul, ← tenPow_add]
        exact_mod_cast tenPow_le_tenPow (by omega)
      have hunit : (0 : ℚ) < s * twoPow 1074 := hsignificand.right_pos
      refine ⟨_, isNearest_zero ?_, (Within.refl (div_pos hunit hten)).mono (Nat.zero_le 4)⟩
      rw [← mul_div_assoc, div_le_one hten]
      have hsmall := significand_small hs
      linarith
    · have hrounds : (p - 1) / 308 = 1 := by omega
      obtain ⟨rest, hrest⟩ : ∃ rest, p = 308 + rest := ⟨p - 308, by omega⟩
      have hplaces : p - 308 * 1 = rest := by omega
      rw [hrounds, divideOut, if_neg (magnitude_ofNat_ne_zero hpos hs), divideOut, hplaces, hrest,
        tenPow_add, Nat.cast_mul, ← div_div]
      exact exists_scaleDown (within_first_quotient hpos hs) (by omega)
  · have hrounds : (p - 1) / 308 = 0 := by omega
    have hslack : slack (-p) = 2 := if_pos (by omega)
    rw [hrounds, hslack, divideOut]
    exact exists_scaleDown hsignificand hfew

/-- A significand with its power of ten is rounded from a value near its own. -/
theorem exists_isNearest_of_scaled? (hpos : 0 < s) (hs : s < twoPow 64)
    (h : scaled? s e = some y) :
    ∃ q, IsNearest q y.magnitude ∧
      Within (slack e) q ((Decimal.mk s e).value * twoPow 1074) := by
  rcases scaled?_cases h with ⟨p, -, rfl, rfl⟩ | ⟨k, hk, rfl, rfl⟩ | ⟨-, hzero, -⟩
  · have hvalue : (Decimal.mk s (-p)).value * twoPow 1074 = s * twoPow 1074 / tenPow p := by
      rw [Decimal.value, zpow_neg, zpow_natCast, ← cast_tenPow, ← div_eq_mul_inv,
        div_mul_eq_mul_div]
    rw [hvalue]
    exact exists_isNearest_divideOut hpos hs p
  · have hslack : slack k = 2 := if_pos (by omega)
    have hvalue : (Decimal.mk s k).value * twoPow 1074 = s * twoPow 1074 * tenPow k := by
      rw [Decimal.value, zpow_natCast, ← cast_tenPow, mul_right_comm]
    rw [hvalue, hslack]
    exact exists_scaleUp (within_significand hpos hs) hk
  · exact absurd hzero (magnitude_ofNat_ne_zero hpos hs)

/-- A product with zero is zero. -/
lemma magnitude_scaleUp_of_zero (hx : x.magnitude = 0) (y : Binary64) :
    (x.scaleUp y).magnitude = 0 := by
  have hnear := isNearest_scaleUp x y
  rw [hx, units_of_lt (twoPow_pos 52), Nat.cast_zero, zero_mul, zero_div] at hnear
  exact hnear.eq_zero (by norm_num)

/-- Zero with any power of ten is zero. -/
theorem magnitude_of_scaled?_zero (h : scaled? 0 e = some y) : y.magnitude = 0 := by
  have hzero := magnitude_ofNat_zero
  rcases scaled?_cases h with ⟨p, -, -, rfl⟩ | ⟨k, -, -, rfl⟩ | ⟨-, -, rfl⟩
  · rw [divideOut_of_zero _ hzero]
    exact magnitude_scaleDown_of_zero hzero _
  · exact magnitude_scaleUp_of_zero hzero _
  · exact hzero

/-! ## Numbers that are held in full -/

/-- Powers of ten up to the twenty-second are held in full. -/
lemma isExact_tenPow (hk : k ≤ 22) : IsExact (tenPow k) := by
  have hfactors : tenPow k = 5 ^ k * twoPow k := by
    unfold tenPow twoPow
    exact Nat.mul_pow 5 2 k
  have hfive : 5 ^ k ≤ twoPow 53 := by
    calc 5 ^ k ≤ 5 ^ 22 := Nat.pow_le_pow_right (by decide) hk
      _ ≤ twoPow 53 := by decide
  rw [hfactors]
  exact isExact_mul_twoPow hfive (by omega)

/-- Natural numbers of no more than 53 digits in base two are held in full. -/
lemma isExact_of_le (hs : s ≤ twoPow 53) : IsExact s := by
  have hzero : s * twoPow 0 = s := Nat.mul_one s
  rw [← hzero]
  exact isExact_mul_twoPow hs (by decide)

/-- Without a power of ten a significand is rounded once. -/
theorem magnitude_of_scaled?_exponent_zero (h : scaled? s 0 = some y) :
    y.magnitude = (Decimal.mk s 0).nearestMagnitude := by
  rcases scaled?_cases h with ⟨p, hp, hexponent, -⟩ | ⟨k, -, hexponent, rfl⟩ | ⟨hlarge, -, -⟩
  · omega
  · obtain rfl : k = 0 := by omega
    have hone : units (ofNat (tenPow 0)).magnitude = twoPow 1074 := by
      have hexact : IsExact (tenPow 0) := isExact_tenPow (Nat.zero_le 22)
      have hpower : tenPow 0 = 1 := rfl
      rw [hexact, hpower, Nat.one_mul]
    have hunit : (0 : ℚ) < twoPow 1074 := by exact_mod_cast twoPow_pos 1074
    have hnear := isNearest_scaleUp (ofNat s) (ofNat (tenPow 0))
    rw [hone, mul_div_cancel_right₀ _ hunit.ne'] at hnear
    rw [hnear.eq_of_units (isNearest_ofNat s).le_infinite,
      Decimal.nearestMagnitude_of_exponent_zero]
  · omega

/-- A significand and a power of ten that are both held in full are rounded once. -/
theorem magnitude_of_scaled?_of_isExact (hs : IsExact s) (hle : e ≤ 308) (hge : -308 ≤ e)
    (hten : IsExact (tenPow e.natAbs)) (h : scaled? s e = some y) :
    y.magnitude = (Decimal.mk s e).nearestMagnitude := by
  rcases Nat.eq_zero_or_pos s with rfl | hpos
  · rw [magnitude_of_scaled?_zero h, Decimal.nearestMagnitude_of_zero rfl]
  rcases scaled?_cases h with ⟨p, hp, rfl, rfl⟩ | ⟨k, hk, rfl, rfl⟩ | ⟨hlarge, -, -⟩
  · have hrounds : (p - 1) / 308 = 0 := by omega
    rw [Int.natAbs_neg, Int.natAbs_natCast] at hten
    rw [hrounds, divideOut, Nat.mul_zero, Nat.sub_zero,
      Decimal.nearestMagnitude_of_neg hpos hp (by omega)]
    have hpositive : 0 < units (ofNat (tenPow p)).magnitude := by
      rw [hten]
      exact Nat.mul_pos (tenPow_pos p) (twoPow_pos 1074)
    refine nearestMagnitude_congr hpositive (tenPow_pos p) ?_
    rw [hs, hten]
    ring
  · rw [Decimal.nearestMagnitude_of_nonneg hpos (by omega)]
    rw [Int.natAbs_natCast] at hten
    refine nearestMagnitude_congr (twoPow_pos 2148) Nat.one_pos ?_
    have hsquare : twoPow 2148 = twoPow 1074 * twoPow 1074 := twoPow_add 1074 1074
    rw [hs, hten, hsquare]
    ring
  · omega

end Json.Numeral

end PartQuery
