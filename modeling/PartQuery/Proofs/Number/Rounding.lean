import Mathlib.Algebra.Order.Field.Rat
import Mathlib.Tactic.FieldSimp
import Mathlib.Tactic.GCongr
import Mathlib.Tactic.Linarith
import Mathlib.Tactic.Positivity
import Mathlib.Tactic.Ring
import PartQuery.Number.Binary64

/-!
# Rounding

A magnitude is nearest to a value when the value lies between the midpoints below and above it
(`Binary64.IsNearest`), and rounding a quotient finds such a magnitude
(`isNearest_nearestMagnitude`). Values are told in units of the least positive number, as rational
numbers.

One step from a magnitude to the next multiplies its units by more than `1 + 2⁻⁵³`, and, from the
first binade on, by no more than `1 + 2⁻⁵²`. From the first it follows that values whose quotient is
no more than the `k`-th power of `1 + 2⁻⁵³` are rounded to magnitudes that are no more than `k`
steps apart (`IsNearest.le_add`), and from the second that rounding moves a value by no more than
one such factor (`IsNearest.within`).
-/

namespace PartQuery.Binary64

/-! ## Units of magnitudes -/

variable {s h m n : Nat}

/-- Powers of two are multiplied by adding their exponents. -/
lemma twoPow_add (a b : Nat) : twoPow (a + b) = twoPow a * twoPow b :=
  Nat.pow_add 2 a b

/-- A greater exponent gives a greater power of two. -/
lemma twoPow_le_twoPow {a b : Nat} (h : a ≤ b) : twoPow a ≤ twoPow b :=
  Nat.pow_le_pow_right Nat.two_pos h

/-- A magnitude made of a binade and of the places in it. At the end of a binade begins the next
one. -/
lemma units_eq (hlow : twoPow 52 ≤ h ∨ s = 0) (hhigh : h ≤ twoPow 53) :
    units (s * twoPow 52 + h) = h * twoPow s := by
  have hplaces : twoPow 52 = 4503599627370496 := rfl
  have hdouble : twoPow 53 = 9007199254740992 := rfl
  have hsucc : twoPow (s + 1) = twoPow s * 2 := rfl
  rw [hplaces] at hlow ⊢
  rw [hdouble] at hhigh
  unfold units
  rw [hplaces]
  rcases Nat.lt_or_ge (s * 4503599627370496 + h) 4503599627370496 with hsmall | hlarge
  · obtain rfl : s = 0 := by omega
    rw [if_pos hsmall, Nat.zero_mul, Nat.zero_add]
    exact (Nat.mul_one h).symm
  · rw [if_neg (by omega)]
    rcases Nat.lt_or_ge h 9007199254740992 with hinside | hend
    · have hbinade : (s * 4503599627370496 + h) / 4503599627370496 - 1 = s := by omega
      have hplace : 4503599627370496 + (s * 4503599627370496 + h) % 4503599627370496 = h := by omega
      rw [hbinade, hplace]
    · obtain rfl : h = 9007199254740992 := by omega
      have hbinade : (s * 4503599627370496 + 9007199254740992) / 4503599627370496 - 1 = s + 1 := by
        omega
      have hplace : (s * 4503599627370496 + 9007199254740992) % 4503599627370496 = 0 := by omega
      rw [hbinade, hplace, hsucc]
      ring

/-- Every magnitude is made of a binade and of the places in it. -/
lemma exists_binade (m : Nat) :
    ∃ s h, m = s * twoPow 52 + h ∧ (twoPow 52 ≤ h ∨ s = 0) ∧ h < twoPow 53 := by
  have hplaces : twoPow 52 = 4503599627370496 := rfl
  have hdouble : twoPow 53 = 9007199254740992 := rfl
  rw [hplaces, hdouble]
  rcases Nat.lt_or_ge m 9007199254740992 with hsmall | hlarge
  · exact ⟨0, m, by omega, Or.inr rfl, hsmall⟩
  · exact ⟨m / 4503599627370496 - 1, m % 4503599627370496 + 4503599627370496, by omega,
      Or.inl (by omega), by omega⟩

/-- The first binade begins with its own value. -/
lemma units_first_binade : units (twoPow 52) = twoPow 52 := by
  decide

/-- One more place in a binade is worth the unit of the binade. -/
lemma units_succ (hlow : twoPow 52 ≤ h ∨ s = 0) (hhigh : h < twoPow 53) :
    units (s * twoPow 52 + h + 1) = units (s * twoPow 52 + h) + twoPow s := by
  rw [Nat.add_assoc, units_eq (hlow.imp_left Nat.le_succ_of_le) hhigh,
    units_eq hlow (Nat.le_of_lt hhigh), Nat.succ_mul]

/-- A step multiplies by more than `1 + 2⁻⁵³`. -/
lemma units_lt_units_succ (m : Nat) :
    (twoPow 53 + 1) * units m < twoPow 53 * units (m + 1) := by
  obtain ⟨s, h, rfl, hlow, hhigh⟩ := exists_binade m
  have hpos := twoPow_pos s
  rw [units_succ hlow hhigh, units_eq hlow (Nat.le_of_lt hhigh)]
  nlinarith

/-- From the first binade on it multiplies by no more than `1 + 2⁻⁵²`. -/
lemma units_succ_le (hm : twoPow 52 ≤ m) :
    twoPow 52 * units (m + 1) ≤ (twoPow 52 + 1) * units m := by
  obtain ⟨s, h, rfl, hlow, hhigh⟩ := exists_binade m
  have hbinade : twoPow 52 ≤ h := by
    rcases hlow with hlow | rfl
    · exact hlow
    · simpa using hm
  rw [units_succ hlow hhigh, units_eq hlow (Nat.le_of_lt hhigh)]
  nlinarith [Nat.mul_le_mul_right (twoPow s) hbinade]

/-- Larger magnitudes have more units. -/
lemma units_strictMono : StrictMono units := by
  refine strictMono_nat_of_lt_succ fun m => ?_
  have hstep := units_lt_units_succ m
  have hpos : 0 < twoPow 53 := twoPow_pos 53
  by_contra hle
  have hmul := Nat.mul_le_mul_left (twoPow 53) (Nat.le_of_not_lt hle)
  nlinarith

/-! ## Nearest magnitudes -/

/-- A magnitude that is nearest to a value in units of the least positive number: the value is no
further than the midpoints between it and its neighbours. Above infinity there is no further one. -/
structure IsNearest (q : ℚ) (m : Nat) : Prop where
  le_infinite : m ≤ infiniteMagnitude
  above : m ≠ infiniteMagnitude → 2 * q ≤ units m + units (m + 1)
  below : ∀ n, n + 1 = m → (units n + units (n + 1) : ℚ) ≤ 2 * q

/-- A quotient rounded to a natural number is no more than half of one away. -/
lemma halfEven_near (num : Nat) {den : Nat} (hden : 0 < den) :
    2 * num ≤ (2 * halfEven num den + 1) * den ∧ 2 * halfEven num den * den ≤ 2 * num + den := by
  have hsplit := Nat.div_add_mod num den
  have hrest := Nat.mod_lt num hden
  unfold halfEven
  simp only
  generalize num / den = quotient at hsplit ⊢
  generalize num % den = rest at hsplit hrest ⊢
  subst hsplit
  have hparity : quotient % 2 = 0 ∨ quotient % 2 = 1 := by omega
  split
  · constructor <;> nlinarith
  · split
    · constructor <;> nlinarith
    · obtain rfl : den = 2 * rest := by omega
      rcases hparity with hparity | hparity <;> rw [hparity] <;> constructor <;> nlinarith

/-- A quotient between two natural numbers is rounded to one between them. -/
lemma halfEven_mem {num den low high : Nat} (hden : 0 < den) (hlow : low * den ≤ num)
    (hhigh : num < high * den) : low ≤ halfEven num den ∧ halfEven num den ≤ high := by
  have hquotient : low ≤ num / den := (Nat.le_div_iff_mul_le hden).2 hlow
  have hbelow : num / den < high := (Nat.div_lt_iff_lt_mul hden).2 hhigh
  have hparity : num / den % 2 ≤ 1 := by omega
  unfold halfEven
  simp only
  split
  · omega
  · split <;> omega

/-- A positive number of more than 53 digits, shifted by the others. -/
lemma bounds_of_log2 {k : Nat} (hk : twoPow 53 ≤ k) :
    twoPow 52 * twoPow (k.log2 - 52) ≤ k ∧ k < twoPow 53 * twoPow (k.log2 - 52) := by
  have hne : k ≠ 0 := by
    rintro rfl
    exact absurd hk (by decide)
  have hlog : 53 ≤ k.log2 := (Nat.le_log2 hne).2 hk
  have hlow : 2 ^ k.log2 ≤ k := Nat.log2_self_le hne
  have hhigh : k < 2 ^ (k.log2 + 1) := Nat.lt_log2_self
  have hsplit : k.log2 = 52 + (k.log2 - 52) := by omega
  have hsplit' : k.log2 + 1 = 53 + (k.log2 - 52) := by omega
  constructor
  · calc twoPow 52 * twoPow (k.log2 - 52) = twoPow (52 + (k.log2 - 52)) := (twoPow_add _ _).symm
      _ = 2 ^ k.log2 := by
        rw [← hsplit]
        rfl
      _ ≤ k := hlow
  · calc k < 2 ^ (k.log2 + 1) := hhigh
      _ = twoPow (53 + (k.log2 - 52)) := by
        rw [← hsplit']
        rfl
      _ = twoPow 53 * twoPow (k.log2 - 52) := twoPow_add _ _

/-- The binade and the places in it that a quotient is rounded to, before infinity is considered. -/
structure IsRounded (num den s h : Nat) : Prop where
  low : twoPow 52 ≤ h ∨ s = 0
  high : h ≤ twoPow 53
  above : 2 * num ≤ (2 * h + 1) * (den * twoPow s)
  below : 2 * h * (den * twoPow s) ≤ 2 * num + den * twoPow s
  /-- At the beginning of a binade, nothing was rounded up. -/
  start : s = 0 ∨ twoPow 52 * (den * twoPow s) ≤ num

/-- Rounding a quotient finds its binade and the places in it. -/
lemma isRounded (num : Nat) {den : Nat} (hden : 0 < den) :
    IsRounded num den ((num / den).log2 - 52)
      (halfEven num (den * twoPow ((num / den).log2 - 52))) := by
  have hunit : 0 < den * twoPow ((num / den).log2 - 52) := Nat.mul_pos hden (twoPow_pos _)
  obtain ⟨habove, hbelow⟩ := halfEven_near num hunit
  rcases Nat.lt_or_ge (num / den) (twoPow 53) with hsmall | hlarge
  · have hshift : (num / den).log2 - 52 = 0 := by
      by_cases hzero : num / den = 0
      · rw [hzero]
        rfl
      · have hlog : (num / den).log2 < 53 := (Nat.log2_lt hzero).2 hsmall
        omega
    rw [hshift] at habove hbelow hunit ⊢
    have hnum : num < twoPow 53 * (den * twoPow 0) := by
      have hone : twoPow 0 = 1 := rfl
      rw [hone, Nat.mul_one]
      exact (Nat.div_lt_iff_lt_mul hden).1 hsmall
    have hzero : 0 * (den * twoPow 0) ≤ num := by
      rw [Nat.zero_mul]
      exact Nat.zero_le num
    exact ⟨Or.inr rfl, (halfEven_mem hunit hzero hnum).2, habove, hbelow, Or.inl rfl⟩
  · obtain ⟨hlow, hhigh⟩ := bounds_of_log2 hlarge
    have hstart : twoPow 52 * (den * twoPow ((num / den).log2 - 52)) ≤ num := by
      calc twoPow 52 * (den * twoPow ((num / den).log2 - 52))
          = twoPow 52 * twoPow ((num / den).log2 - 52) * den := by ring
        _ ≤ num / den * den := Nat.mul_le_mul_right den hlow
        _ ≤ num := Nat.div_mul_le_self num den
    have hend : num < twoPow 53 * (den * twoPow ((num / den).log2 - 52)) := by
      calc num < twoPow 53 * twoPow ((num / den).log2 - 52) * den :=
            (Nat.div_lt_iff_lt_mul hden).1 hhigh
        _ = twoPow 53 * (den * twoPow ((num / den).log2 - 52)) := by ring
    obtain ⟨hmin, hmax⟩ := halfEven_mem hunit hstart hend
    exact ⟨Or.inl hmin, hmax, habove, hbelow, Or.inr hstart⟩

namespace IsRounded

variable {num den : Nat}

/-- The value is no further above than half of a step. -/
lemma le_midpoint (hr : IsRounded num den s h) :
    2 * num ≤ (units (s * twoPow 52 + h) + units (s * twoPow 52 + h + 1)) * den := by
  have hstep : units (s * twoPow 52 + h) + twoPow s ≤ units (s * twoPow 52 + h + 1) := by
    rcases Nat.lt_or_eq_of_le hr.high with hinside | rfl
    · exact (units_succ hr.low hinside).ge
    · -- Behind the last place of a binade, steps are twice as wide.
      have hnext : s * twoPow 52 + twoPow 53 = (s + 1) * twoPow 52 + twoPow 52 := by
        have hdouble : twoPow 53 = 2 * twoPow 52 := rfl
        rw [hdouble]
        ring
      have hwide : twoPow (s + 1) = twoPow s * 2 := rfl
      rw [hnext, units_succ (Or.inl (Nat.le_refl _)) (by decide), hwide]
      have hpos := twoPow_pos s
      omega
  have hunits := units_eq hr.low hr.high
  calc 2 * num ≤ (2 * h + 1) * (den * twoPow s) := hr.above
    _ = (h * twoPow s + (h * twoPow s + twoPow s)) * den := by ring
    _ ≤ _ := by
      rw [← hunits]
      gcongr

/-- The value is no further below than half of a step. -/
lemma midpoint_le (hr : IsRounded num den s h) (hn : n + 1 = s * twoPow 52 + h) :
    (units n + units (n + 1)) * den ≤ 2 * num := by
  by_cases hinside : twoPow 52 < h ∨ s = 0
  · obtain ⟨k, rfl⟩ : ∃ k, h = k + 1 := by
      refine ⟨h - 1, ?_⟩
      have hpos := twoPow_pos 52
      rcases hinside with hinside | rfl <;> omega
    obtain rfl : n = s * twoPow 52 + k := by omega
    have hbelow := hr.below
    have hlow : twoPow 52 ≤ k ∨ s = 0 := hinside.imp_left Nat.le_of_lt_succ
    have hhigh : k < twoPow 53 := hr.high
    rw [units_succ hlow hhigh, units_eq hlow (Nat.le_of_lt hhigh)]
    nlinarith
  · -- Below the first place of a binade the steps are narrower, and the value is not there.
    rw [not_or] at hinside
    obtain rfl : h = twoPow 52 := by
      rcases hr.low with hlow | hzero
      · exact Nat.le_antisymm (Nat.le_of_not_lt hinside.1) hlow
      · exact absurd hzero hinside.2
    have hstart := hr.start.resolve_left hinside.2
    have hless : units n ≤ units (n + 1) := units_strictMono.monotone (Nat.le_succ n)
    have hunits : units (n + 1) = twoPow 52 * twoPow s := by
      rw [hn, units_eq hr.low hr.high]
    calc (units n + units (n + 1)) * den ≤ (units (n + 1) + units (n + 1)) * den := by gcongr
      _ = 2 * (twoPow 52 * (den * twoPow s)) := by
        rw [hunits]
        ring
      _ ≤ 2 * num := Nat.mul_le_mul_left 2 hstart

end IsRounded

/-- Rounding a quotient finds a magnitude that is nearest to it. -/
theorem isNearest_nearestMagnitude (num : Nat) {den : Nat} (hden : 0 < den) :
    IsNearest ((num * twoPow 1074 : Nat) / den) (nearestMagnitude num den) := by
  have hr := isRounded (num * twoPow 1074) hden
  unfold nearestMagnitude
  simp only
  generalize num * twoPow 1074 = scaled at hr ⊢
  generalize (scaled / den).log2 - 52 = s at hr ⊢
  generalize halfEven scaled (den * twoPow s) = h at hr ⊢
  have hpos : (0 : ℚ) < den := by exact_mod_cast hden
  have habove : (2 * (scaled / den) : ℚ) ≤
      units (s * twoPow 52 + h) + units (s * twoPow 52 + h + 1) := by
    rw [← mul_div_assoc, div_le_iff₀ hpos]
    exact_mod_cast hr.le_midpoint
  have hbelow : ∀ n, n + 1 ≤ s * twoPow 52 + h →
      (units n + units (n + 1) : ℚ) ≤ 2 * (scaled / den) := by
    intro n hn
    obtain ⟨k, hk⟩ : ∃ k, k + 1 = s * twoPow 52 + h := ⟨s * twoPow 52 + h - 1, by omega⟩
    have hmid := hr.midpoint_le hk
    have hmono : units n + units (n + 1) ≤ units k + units (k + 1) :=
      Nat.add_le_add (units_strictMono.monotone (by omega)) (units_strictMono.monotone (by omega))
    rw [← mul_div_assoc, le_div_iff₀ hpos]
    exact_mod_cast (Nat.mul_le_mul_right den hmono).trans hmid
  refine ⟨Nat.min_le_right _ _, ?_, ?_⟩
  · intro hne
    rw [Nat.min_def] at hne ⊢
    split
    · exact habove
    · next hlarge => exact absurd (if_neg hlarge) hne
  · intro n hn
    exact hbelow n (hn.le.trans (Nat.min_le_left _ _))

/-! ## Steps between magnitudes -/

/-- Half of the width of a step at the end of a binade, added to one. -/
def growth : ℚ :=
  1 + 1 / twoPow 53

/-- Growing makes greater. -/
lemma one_lt_growth : 1 < growth := by
  have hpos : (0 : ℚ) < twoPow 53 := by exact_mod_cast twoPow_pos 53
  have hunit : 0 < 1 / (twoPow 53 : ℚ) := one_div_pos.2 hpos
  exact lt_add_of_pos_right 1 hunit

/-- The growth is positive, and so are its powers. -/
lemma growth_pos : 0 < growth :=
  one_pos.trans one_lt_growth

/-- A step multiplies by more than the growth. -/
lemma growth_mul_units_lt (m : Nat) : growth * units m < units (m + 1) := by
  have hpos : (0 : ℚ) < twoPow 53 := by exact_mod_cast twoPow_pos 53
  have hstep : ((twoPow 53 + 1) * units m : ℚ) < twoPow 53 * units (m + 1) := by
    exact_mod_cast units_lt_units_succ m
  have hgrowth : twoPow 53 * growth = (twoPow 53 + 1 : ℚ) := by
    rw [growth, mul_add, mul_one, mul_one_div_cancel hpos.ne']
  refine lt_of_mul_lt_mul_left ?_ hpos.le
  rwa [← mul_assoc, hgrowth]

/-- Steps multiply by more than so many powers of the growth. -/
lemma growth_pow_mul_units_le (m k : Nat) : growth ^ k * units m ≤ units (m + k) := by
  induction k with
  | zero => simp
  | succ k ih =>
    calc growth ^ (k + 1) * units m = growth * (growth ^ k * units m) := by ring
      _ ≤ growth * units (m + k) := mul_le_mul_of_nonneg_left ih growth_pos.le
      _ ≤ units (m + k + 1) := (growth_mul_units_lt (m + k)).le

/-- At least one step multiplies by more than so many powers of the growth. -/
lemma growth_pow_mul_units_lt (m : Nat) {k : Nat} (hk : 1 ≤ k) :
    growth ^ k * units m < units (m + k) := by
  obtain ⟨k, rfl⟩ := Nat.exists_eq_add_of_le' hk
  calc growth ^ (k + 1) * units m = growth * (growth ^ k * units m) := by ring
    _ ≤ growth * units (m + k) :=
      mul_le_mul_of_nonneg_left (growth_pow_mul_units_le m k) growth_pos.le
    _ < units (m + k + 1) := growth_mul_units_lt (m + k)

/-- Two values of which each is no more than a power of the growth above the other. -/
structure Within (k : Nat) (a b : ℚ) : Prop where
  left_pos : 0 < a
  right_pos : 0 < b
  le : a ≤ b * growth ^ k
  ge : b ≤ a * growth ^ k

namespace Within

variable {a b c d : ℚ} {j k : Nat}

/-- A positive value is within itself. -/
lemma refl (h : 0 < a) : Within 0 a a :=
  ⟨h, h, by simp, by simp⟩

/-- A greater power allows for more. -/
lemma mono (h : Within j a b) (hjk : j ≤ k) : Within k a b := by
  have hpow : growth ^ j ≤ growth ^ k := pow_le_pow_right₀ one_lt_growth.le hjk
  exact ⟨h.left_pos, h.right_pos, h.le.trans (mul_le_mul_of_nonneg_left hpow h.right_pos.le),
    h.ge.trans (mul_le_mul_of_nonneg_left hpow h.left_pos.le)⟩

lemma trans (h : Within j a b) (h' : Within k b c) : Within (j + k) a c := by
  have hj := pow_pos growth_pos j
  have hk := pow_pos growth_pos k
  refine ⟨h.left_pos, h'.right_pos, ?_, ?_⟩
  · calc a ≤ b * growth ^ j := h.le
      _ ≤ c * growth ^ k * growth ^ j := mul_le_mul_of_nonneg_right h'.le hj.le
      _ = c * growth ^ (j + k) := by ring
  · calc c ≤ b * growth ^ k := h'.ge
      _ ≤ a * growth ^ j * growth ^ k := mul_le_mul_of_nonneg_right h.ge hk.le
      _ = a * growth ^ (j + k) := by ring

/-- Products are as near as both factors together. -/
lemma mul (h : Within j a b) (h' : Within k c d) : Within (j + k) (a * c) (b * d) := by
  have hj := pow_pos growth_pos j
  have hk := pow_pos growth_pos k
  refine ⟨mul_pos h.left_pos h'.left_pos, mul_pos h.right_pos h'.right_pos, ?_, ?_⟩
  · calc a * c ≤ b * growth ^ j * (d * growth ^ k) :=
          mul_le_mul h.le h'.le h'.left_pos.le (mul_pos h.right_pos hj).le
      _ = b * d * growth ^ (j + k) := by ring
  · calc b * d ≤ a * growth ^ j * (c * growth ^ k) :=
          mul_le_mul h.ge h'.ge h'.right_pos.le (mul_pos h.left_pos hj).le
      _ = a * c * growth ^ (j + k) := by ring

/-- Inverses are as near as the values. -/
lemma inv (h : Within k a b) : Within k a⁻¹ b⁻¹ := by
  have hk := pow_pos growth_pos k
  refine ⟨inv_pos.2 h.left_pos, inv_pos.2 h.right_pos, ?_, ?_⟩
  · rw [inv_mul_eq_div, le_div_iff₀ h.right_pos, inv_mul_le_iff₀ h.left_pos]
    exact h.ge
  · rw [inv_mul_eq_div, le_div_iff₀ h.left_pos, inv_mul_le_iff₀ h.right_pos]
    exact h.le

/-- Quotients are as near as both parts together. -/
lemma div (h : Within j a b) (h' : Within k c d) : Within (j + k) (a / c) (b / d) := by
  rw [div_eq_mul_inv, div_eq_mul_inv]
  exact h.mul h'.inv

end Within

namespace IsNearest

variable {a b q : ℚ} {k : Nat}

/-- Values that are less than so many powers of the growth apart are rounded to magnitudes that are
no more than so many steps apart. -/
theorem le_add (ha : IsNearest a m) (hb : IsNearest b n) (h : b ≤ a * growth ^ k) (hk : 1 ≤ k) :
    n ≤ m + k := by
  by_contra hfar
  obtain ⟨l, hl⟩ : ∃ l, l + 1 = n := ⟨n - 1, by omega⟩
  have hfinite : m ≠ infiniteMagnitude := by
    have hle := hb.le_infinite
    omega
  have hmono : (units (m + k) : ℚ) + units (m + k + 1) ≤ units l + units (l + 1) := by
    exact_mod_cast Nat.add_le_add (units_strictMono.monotone (by omega : m + k ≤ l))
      (units_strictMono.monotone (by omega : m + k + 1 ≤ l + 1))
  have hfirst := growth_pow_mul_units_lt m hk
  have hsecond := growth_pow_mul_units_lt (m + 1) hk
  rw [Nat.add_right_comm] at hsecond
  have hcontradiction : (2 * b : ℚ) < 2 * b := by
    calc (2 * b : ℚ) ≤ 2 * a * growth ^ k := by linarith
      _ ≤ (units m + units (m + 1)) * growth ^ k :=
        mul_le_mul_of_nonneg_right (ha.above hfinite) (pow_pos growth_pos k).le
      _ < units (m + k) + units (m + k + 1) := by linarith
      _ ≤ units l + units (l + 1) := hmono
      _ ≤ 2 * b := hb.below l hl
  exact lt_irrefl _ hcontradiction

/-- Near values are rounded to near magnitudes. -/
theorem near (ha : IsNearest a m) (hb : IsNearest b n) (h : Within k a b) (hk : 1 ≤ k) :
    m ≤ n + k ∧ n ≤ m + k :=
  ⟨hb.le_add ha h.le hk, ha.le_add hb h.ge hk⟩

/-- The value of a magnitude is rounded to that magnitude. -/
theorem eq_of_units (h : IsNearest (units m) n) (hm : m ≤ infiniteMagnitude) : n = m := by
  rcases Nat.lt_trichotomy n m with hless | heq | hmore
  · have habove := h.above (by omega)
    have hfirst : (units n : ℚ) < units m := by exact_mod_cast units_strictMono hless
    have hsecond : (units (n + 1) : ℚ) ≤ units m := by
      exact_mod_cast units_strictMono.monotone hless
    linarith
  · exact heq
  · obtain ⟨l, hl⟩ : ∃ l, l + 1 = n := ⟨n - 1, by omega⟩
    have hbelow := h.below l hl
    have hfirst : (units m : ℚ) ≤ units l := by
      exact_mod_cast units_strictMono.monotone (by omega : m ≤ l)
    have hsecond : (units m : ℚ) < units (l + 1) := by
      exact_mod_cast units_strictMono (by omega : m < l + 1)
    linarith

/-- What is less than half of the least positive number is rounded to zero. -/
theorem eq_zero (h : IsNearest q m) (hq : 2 * q < 1) : m = 0 := by
  by_contra hne
  obtain ⟨l, hl⟩ : ∃ l, l + 1 = m := ⟨m - 1, by omega⟩
  have hbelow := h.below l hl
  have hunit : (1 : ℚ) ≤ units (l + 1) := by
    have hone : units 1 ≤ units (l + 1) := units_strictMono.monotone (by omega)
    exact_mod_cast hone
  have hnonneg : (0 : ℚ) ≤ units l := Nat.cast_nonneg _
  linarith

/-- A value of at least the first binade is rounded to a magnitude of at least that binade. -/
lemma first_binade_le (h : IsNearest q m) (hq : twoPow 52 ≤ q) (hm : m ≠ infiniteMagnitude) :
    twoPow 52 ≤ m := by
  have habove := h.above hm
  by_contra hsmall
  have hfirst : (units m : ℚ) < units (twoPow 52) := by
    exact_mod_cast units_strictMono (Nat.lt_of_not_le hsmall)
  have hsecond : (units (m + 1) : ℚ) ≤ units (twoPow 52) := by
    exact_mod_cast units_strictMono.monotone (Nat.lt_of_not_le hsmall)
  rw [units_first_binade] at hfirst hsecond
  linarith

/-- From the first binade on, rounding moves a value by no more than one factor. -/
theorem within (h : IsNearest q m) (hq : twoPow 52 ≤ q) (hm : m ≠ infiniteMagnitude) :
    Within 1 (units m) q := by
  have hpos : (0 : ℚ) < twoPow 52 := by exact_mod_cast twoPow_pos 52
  have hgrowth : growth = 1 + 1 / (2 * twoPow 52) := by
    have hdouble : (twoPow 53 : ℚ) = 2 * twoPow 52 := by
      exact_mod_cast (rfl : twoPow 53 = 2 * twoPow 52)
    rw [growth, hdouble]
  have hgrown : ∀ a b : ℚ, a ≤ b * growth ^ 1 ↔ (a - b) * (2 * twoPow 52) ≤ b := by
    intro a b
    rw [pow_one, hgrowth, mul_one_add, mul_one_div, ← sub_le_iff_le_add',
      le_div_iff₀ (mul_pos two_pos hpos)]
  have habove := h.above hm
  have hbinade := h.first_binade_le hq hm
  have hunits : (twoPow 52 : ℚ) ≤ units m := by
    rw [← units_first_binade]
    exact_mod_cast units_strictMono.monotone hbinade
  have hstep : (twoPow 52 * units (m + 1) : ℚ) ≤ (twoPow 52 + 1) * units m := by
    exact_mod_cast units_succ_le hbinade
  refine ⟨hpos.trans_le hunits, hpos.trans_le hq, (hgrown _ _).2 ?_, (hgrown _ _).2 ?_⟩
  · rcases Nat.eq_or_lt_of_le hbinade with rfl | hinside
    · rw [units_first_binade]
      nlinarith
    · obtain ⟨l, hl⟩ : ∃ l, l + 1 = m := ⟨m - 1, by omega⟩
      have hbelow := h.below l hl
      have hstep' : (twoPow 52 * units m : ℚ) ≤ (twoPow 52 + 1) * units l := by
        rw [← hl]
        exact_mod_cast units_succ_le (by omega : twoPow 52 ≤ l)
      rw [hl] at hbelow
      have hmid : ((2 * twoPow 52 + 1) * units m : ℚ) ≤ (twoPow 52 + 1) * (2 * q) := by
        nlinarith
      have hsquare : (2 * (twoPow 52 + 1) * (2 * twoPow 52 * units m) : ℚ) ≤
          2 * (twoPow 52 + 1) * ((2 * twoPow 52 + 1) * q) := by
        nlinarith
      have hcancel : (2 * twoPow 52 * units m : ℚ) ≤ (2 * twoPow 52 + 1) * q :=
        le_of_mul_le_mul_left hsquare (by positivity)
      linarith
  · nlinarith

end IsNearest

/-! ## Quotients that are the same -/

/-- Rounding a quotient to a natural number depends on nothing but the quotient. -/
lemma halfEven_mul (num den : Nat) {c : Nat} (hc : 0 < c) :
    halfEven (num * c) (den * c) = halfEven num den := by
  have hless : ∀ a b : Nat, a * c < b * c ↔ a < b := fun a b => Nat.mul_lt_mul_right hc
  unfold halfEven
  simp only [Nat.mul_div_mul_right num den hc, Nat.mul_mod_mul_right, ← Nat.mul_assoc, hless]

/-- So does rounding it to a magnitude. -/
lemma nearestMagnitude_mul (num den : Nat) {c : Nat} (hc : 0 < c) :
    nearestMagnitude (num * c) (den * c) = nearestMagnitude num den := by
  have hscaled : num * c * twoPow 1074 = num * twoPow 1074 * c := by ring
  have hunit : ∀ s, den * c * twoPow s = den * twoPow s * c := fun s => by ring
  unfold nearestMagnitude
  simp only [hscaled, hunit, Nat.mul_div_mul_right _ den hc, halfEven_mul _ _ hc]

/-- Quotients that are the same are rounded to the same magnitude. -/
theorem nearestMagnitude_congr {num den num' den' : Nat} (hden : 0 < den) (hden' : 0 < den')
    (h : num * den' = num' * den) : nearestMagnitude num den = nearestMagnitude num' den' := by
  rw [← nearestMagnitude_mul num den hden', h, Nat.mul_comm den den',
    nearestMagnitude_mul num' den' hden]

/-! ## Natural numbers, products and quotients -/

/-- Values that reach infinity are rounded to it. -/
lemma isNearest_infinite {q : ℚ} (h : (units infiniteMagnitude : ℚ) ≤ q) :
    IsNearest q infiniteMagnitude := by
  refine ⟨Nat.le_refl _, fun hne => absurd rfl hne, fun l hl => ?_⟩
  have hfirst : (units l : ℚ) ≤ units infiniteMagnitude := by
    exact_mod_cast units_strictMono.monotone (by omega : l ≤ infiniteMagnitude)
  rw [hl]
  linarith

/-- Values of no more than half of the least positive number are rounded to zero. -/
lemma isNearest_zero {q : ℚ} (h : 2 * q ≤ 1) : IsNearest q 0 := by
  refine ⟨Nat.zero_le _, fun _ => ?_, fun l hl => absurd hl (Nat.succ_ne_zero l)⟩
  have hzero : units 0 = 0 := units_of_lt (twoPow_pos 52)
  have hone : units (0 + 1) = 1 := by decide
  rw [hzero, hone]
  simpa using h

/-- What is below the greatest finite number is not rounded to infinity. -/
lemma IsNearest.ne_infinite {q : ℚ} (h : IsNearest q m)
    (hq : q < units (infiniteMagnitude - 1)) : m ≠ infiniteMagnitude := by
  rintro rfl
  have hbelow := h.below (infiniteMagnitude - 1) (by decide)
  have hmore : (units (infiniteMagnitude - 1) : ℚ) ≤ units (infiniteMagnitude - 1 + 1) := by
    exact_mod_cast units_strictMono.monotone (Nat.le_succ _)
  linarith

variable {x y : Binary64}

/-- A natural number is rounded. -/
lemma isNearest_ofNat (n : Nat) : IsNearest (n * twoPow 1074) (ofNat n).magnitude := by
  have hnear := isNearest_nearestMagnitude n Nat.one_pos
  rw [Nat.cast_one, div_one, Nat.cast_mul] at hnear
  exact hnear

/-- Zero is rounded to zero. -/
lemma magnitude_ofNat_zero : (ofNat 0).magnitude = 0 := by
  refine (isNearest_ofNat 0).eq_zero ?_
  rw [Nat.cast_zero, zero_mul, mul_zero]
  exact zero_lt_one

/-- A product is rounded. -/
lemma isNearest_scaleUp (x y : Binary64) :
    IsNearest (units x.magnitude * units y.magnitude / twoPow 1074) (x.scaleUp y).magnitude := by
  have hproduct := isNearest_nearestMagnitude (units x.magnitude * units y.magnitude)
    (twoPow_pos 2148)
  have hpos : (0 : ℚ) < twoPow 1074 := by exact_mod_cast twoPow_pos 1074
  have hsquare : twoPow 2148 = twoPow 1074 * twoPow 1074 := twoPow_add 1074 1074
  have hvalue : ((units x.magnitude * units y.magnitude * twoPow 1074 : Nat) /
      (twoPow 2148 : Nat) : ℚ) = units x.magnitude * units y.magnitude / twoPow 1074 := by
    rw [hsquare]
    push_cast
    rw [mul_div_mul_right _ _ hpos.ne']
  rwa [hvalue] at hproduct

/-- A quotient is rounded. -/
lemma isNearest_scaleDown (x : Binary64) (hy : 0 < units y.magnitude) :
    IsNearest (units x.magnitude * twoPow 1074 / units y.magnitude) (x.scaleDown y).magnitude := by
  have hnear := isNearest_nearestMagnitude (units x.magnitude) hy
  rw [Nat.cast_mul] at hnear
  exact hnear

/-- A natural number that is not too large is moved by no more than one factor. -/
lemma within_ofNat {n : Nat} (hpos : 0 < n)
    (hle : n * twoPow 1074 < units (infiniteMagnitude - 1)) :
    Within 1 (units (ofNat n).magnitude) (n * twoPow 1074) := by
  have hnear := isNearest_ofNat n
  refine hnear.within ?_ (hnear.ne_infinite (by exact_mod_cast hle))
  have hone : twoPow 1074 ≤ n * twoPow 1074 := Nat.le_mul_of_pos_left _ hpos
  have hplaces : twoPow 52 ≤ twoPow 1074 := twoPow_le_twoPow (by decide)
  exact_mod_cast hplaces.trans hone

/-- A natural number is held in full. -/
def IsExact (n : Nat) : Prop :=
  units (ofNat n).magnitude = n * twoPow 1074

/-- A magnitude with the value of a natural number holds it in full. -/
lemma isExact_of_units {n : Nat} (hm : m ≤ infiniteMagnitude) (h : units m = n * twoPow 1074) :
    IsExact n := by
  have hnear := isNearest_ofNat n
  have hvalue : (n * twoPow 1074 : ℚ) = units m := by exact_mod_cast h.symm
  rw [hvalue] at hnear
  rw [IsExact, hnear.eq_of_units hm, h]

/-- Numbers of no more than 53 digits are held in full, with zeros behind them. -/
lemma isExact_mul_twoPow {a b : Nat} (ha : a ≤ twoPow 53) (hb : b ≤ 900) :
    IsExact (a * twoPow b) := by
  rcases Nat.eq_zero_or_pos a with rfl | hpos
  · refine isExact_of_units (Nat.zero_le _) ?_
    rw [units_of_lt (twoPow_pos 52), Nat.zero_mul, Nat.zero_mul]
  · -- As many places are moved to the front as the first binade has.
    have hlow : twoPow 52 ≤ a * twoPow (52 - a.log2) := by
      calc twoPow 52 ≤ twoPow (a.log2 + (52 - a.log2)) := twoPow_le_twoPow (by omega)
        _ = twoPow a.log2 * twoPow (52 - a.log2) := twoPow_add _ _
        _ ≤ a * twoPow (52 - a.log2) := Nat.mul_le_mul_right _ (Nat.log2_self_le hpos.ne')
    have hhigh : a * twoPow (52 - a.log2) ≤ twoPow 53 := by
      rcases Nat.lt_or_ge a.log2 53 with hsmall | hlarge
      · have hlog : a < twoPow (a.log2 + 1) := Nat.lt_log2_self
        calc a * twoPow (52 - a.log2) ≤ twoPow (a.log2 + 1) * twoPow (52 - a.log2) :=
              Nat.mul_le_mul_right _ hlog.le
          _ = twoPow (a.log2 + 1 + (52 - a.log2)) := (twoPow_add _ _).symm
          _ = twoPow 53 := by
            congr 1
            omega
      · have hnone : 52 - a.log2 = 0 := by omega
        rw [hnone]
        exact (Nat.mul_one a).trans_le ha
    have hfits : (1074 + b - (52 - a.log2)) * twoPow 52 + a * twoPow (52 - a.log2) ≤
        infiniteMagnitude := by
      have hplaces : twoPow 52 = 4503599627370496 := rfl
      have hdouble : twoPow 53 = 9007199254740992 := rfl
      unfold infiniteMagnitude
      rw [hdouble] at hhigh
      rw [hplaces]
      omega
    refine isExact_of_units hfits ?_
    rw [units_eq (Or.inl hlow) hhigh, Nat.mul_assoc, ← twoPow_add, Nat.mul_assoc, ← twoPow_add]
    congr 2
    omega

end PartQuery.Binary64
