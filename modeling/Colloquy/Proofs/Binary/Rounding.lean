import Colloquy.Binary.Number
import Mathlib.Algebra.Order.Field.Power
import Mathlib.Data.Rat.Cast.Order
import Mathlib.Tactic.FieldSimp
import Mathlib.Tactic.Linarith
import Mathlib.Tactic.Positivity
import Mathlib.Tactic.Ring

/-! # Rounding to the nearest

A number in the middle between its neighbours is found again from whatever lies closer to it than to
these.  `BinaryFormat.Near` is the interval of rationals that round to `m · 2 ^ e`, ends included
when `m` is even, and the main statement is `BinaryFormat.roundRatio_of_near`, that they do.  Exact
values are the special case in which nothing is lost, so a number that is carried over to a wider
format comes back (`Single.toSingle_toDouble`). -/

namespace Colloquy

/-! ## Division to the nearest -/

/-- The nearest quotient is the one that is off by at most one half, and is even where it is off by
one half. -/
theorem roundDiv_eq {n d z : Nat} (positive : 0 < d) (low : 2 * z * d ≤ 2 * n + d)
    (high : 2 * n ≤ 2 * z * d + d)
    (tie : 2 * z * d = 2 * n + d ∨ 2 * n = 2 * z * d + d → z % 2 = 0) : roundDiv n d = z := by
  have split := Nat.div_add_mod n d
  have remainder := Nat.mod_lt n positive
  rw [roundDiv]
  generalize n / d = q at *
  generalize n % d = r at *
  have below : q ≤ z := by
    by_contra less
    have : (z + 1) * d ≤ q * d := Nat.mul_le_mul_right d (by omega)
    nlinarith
  have above : z ≤ q + 1 := by
    by_contra more
    have : (q + 2) * d ≤ z * d := Nat.mul_le_mul_right d (by omega)
    nlinarith
  obtain rfl | rfl : z = q ∨ z = q + 1 := by omega
  · have half : 2 * r ≤ d := by nlinarith
    have even : 2 * r = d → z % 2 = 0 := fun h => tie (.inr (by nlinarith))
    split_ifs <;> omega
  · have half : d ≤ 2 * r := by nlinarith
    have even : 2 * r = d → (q + 1) % 2 = 0 := fun h => tie (.inl (by nlinarith))
    split_ifs <;> omega

namespace BinaryFormat

variable {f : BinaryFormat} {num den m : Nat} {e : Int}

/-! ## Scaling -/

/-- Scaling divides by a power of two. -/
theorem unscale_ratio (num : Nat) (positive : 0 < den) (e : Int) :
    0 < (unscale num den e).2 ∧
      ((unscale num den e).1 : ℚ) / (unscale num den e).2 = num / den / 2 ^ e := by
  have positive' : (0 : ℚ) < den := by exact_mod_cast positive
  rw [unscale]
  by_cases up : 0 ≤ e
  · obtain ⟨k, rfl⟩ := Int.eq_ofNat_of_zero_le up
    rw [if_pos up]
    refine ⟨Nat.mul_pos positive (Nat.pow_pos (by omega)), ?_⟩
    simp only [Int.toNat_natCast, Nat.pow_eq, zpow_natCast]
    push_cast
    rw [div_div]
  · obtain ⟨k, hk⟩ := Int.eq_ofNat_of_zero_le (a := -e) (by omega)
    obtain rfl : e = -(k : Int) := by omega
    rw [if_neg up]
    refine ⟨positive, ?_⟩
    simp only [neg_neg, Int.toNat_natCast, Nat.pow_eq, zpow_neg, zpow_natCast, div_inv_eq_mul]
    push_cast
    ring

/-- A scaled number is compared by scaling the other one. -/
theorem unscale_lt (num : Nat) (positive : 0 < den) (e : Int) (c : Nat) :
    (unscale num den e).1 < c * (unscale num den e).2 ↔ (num / den : ℚ) < c * 2 ^ e := by
  obtain ⟨above, ratio⟩ := unscale_ratio num positive e
  have above' : (0 : ℚ) < (unscale num den e).2 := by exact_mod_cast above
  have power : (0 : ℚ) < 2 ^ e := by positivity
  rw [← div_lt_iff₀ power, ← ratio, div_lt_iff₀ above']
  exact_mod_cast Iff.rfl

/-- The logarithms of numerator and denominator tell a quotient up to a factor of two. -/
theorem log2_bounds (hnum : 0 < num) (hden : 0 < den) :
    (2 : ℚ) ^ ((num.log2 : Int) - den.log2 - 1) ≤ num / den ∧
      (num / den : ℚ) < 2 ^ ((num.log2 : Int) - den.log2 + 1) := by
  have two : (2 : ℚ) ≠ 0 := by norm_num
  have hden' : (0 : ℚ) < den := by exact_mod_cast hden
  have low : (2 : ℚ) ^ (num.log2 : Int) ≤ num := by
    rw [zpow_natCast]
    exact_mod_cast Nat.log2_self_le hnum.ne'
  have high : (num : ℚ) < 2 ^ ((num.log2 : Int) + 1) := by
    have := Nat.lt_log2_self (n := num)
    exact_mod_cast this
  have low' : (2 : ℚ) ^ (den.log2 : Int) ≤ den := by
    rw [zpow_natCast]
    exact_mod_cast Nat.log2_self_le hden.ne'
  have high' : (den : ℚ) < 2 ^ ((den.log2 : Int) + 1) := by
    have := Nat.lt_log2_self (n := den)
    exact_mod_cast this
  constructor
  · rw [le_div_iff₀ hden']
    calc (2 : ℚ) ^ ((num.log2 : Int) - den.log2 - 1) * den
        ≤ 2 ^ ((num.log2 : Int) - den.log2 - 1) * 2 ^ ((den.log2 : Int) + 1) := by gcongr
      _ = 2 ^ (num.log2 : Int) := by rw [← zpow_add₀ two]; congr 1; ring
      _ ≤ num := low
  · rw [div_lt_iff₀ hden']
    calc (num : ℚ) < 2 ^ ((num.log2 : Int) + 1) := high
      _ = 2 ^ ((num.log2 : Int) - den.log2 + 1) * 2 ^ (den.log2 : Int) := by
        rw [← zpow_add₀ two]; congr 1; ring
      _ ≤ 2 ^ ((num.log2 : Int) - den.log2 + 1) * den := by gcongr

/-- Whether an exponent is the one with which a number has as many bits as the format keeps, or the
least exponent if it has fewer. -/
structure Scales (f : BinaryFormat) (x : ℚ) (e : Int) : Prop where
  /-- The exponent is not below the least one. -/
  least : f.minExponent ≤ e
  /-- The number has no more bits. -/
  fits : x < 2 ^ (f.precision : Int) * 2 ^ e
  /-- It has no fewer, unless the exponent is the least one. -/
  leading : f.minExponent < e → 2 ^ ((f.precision : Int) - 1) * 2 ^ e ≤ x

/-- **Rounding divides to the nearest** at the exponent that scales the number. -/
theorem exists_scales (f : BinaryFormat) (hnum : 0 < num) (hden : 0 < den) :
    ∃ e, f.Scales (num / den) e ∧ f.roundRatio num den =
      min ((e - f.minExponent).toNat * 2 ^ (f.precision - 1) +
        roundDiv (unscale num den e).1 (unscale num den e).2) f.infinityBits := by
  have two : (2 : ℚ) ≠ 0 := by norm_num
  obtain ⟨low, high⟩ := log2_bounds hnum hden
  rw [roundRatio, if_neg hnum.ne']
  generalize hl : (num.log2 : Int) - den.log2 = l at *
  have mono : ∀ {a b : Int}, a ≤ b → (2 : ℚ) ^ a ≤ 2 ^ b := fun h =>
    zpow_le_zpow_right₀ (by norm_num) h
  set guess : Int := max f.minExponent (l - f.precision) with hguess
  have fits : (unscale num den guess).1 < Nat.pow 2 f.precision * (unscale num den guess).2 ↔
      (num / den : ℚ) < 2 ^ (f.precision : Int) * 2 ^ guess := by
    rw [unscale_lt num hden guess, Nat.pow_eq, zpow_natCast]
    push_cast
    rfl
  by_cases small : (num / den : ℚ) < 2 ^ (f.precision : Int) * 2 ^ guess
  · refine ⟨guess, ⟨le_max_left _ _, small, fun above => ?_⟩, ?_⟩
    · have here : guess = l - f.precision := by omega
      refine le_trans ?_ low
      rw [← zpow_add₀ two]
      exact mono (by omega)
    · simp only [if_pos (fits.mpr small)]
      rfl
  · refine ⟨guess + 1, ⟨by omega, ?_, fun _ => ?_⟩, ?_⟩
    · refine lt_of_lt_of_le high ?_
      rw [← zpow_add₀ two]
      exact mono (by omega)
    · refine le_trans (le_of_eq ?_) (not_lt.mp small)
      rw [← zpow_add₀ two, ← zpow_add₀ two]
      congr 1
      ring
    · simp only [if_neg (mt fits.mp small)]
      rfl

/-! ## Patterns -/

/-- Whether a significand and an exponent are those of a number of a format: the leading bit is
there unless the exponent is the least one. -/
structure Regular (f : BinaryFormat) (m : Nat) (e : Int) : Prop where
  /-- The significand has no more bits than the format keeps. -/
  fits : m < 2 ^ f.precision
  /-- The exponent is not below the least one. -/
  least : f.minExponent ≤ e
  /-- The significand has no fewer bits, unless the exponent is the least one. -/
  leading : f.minExponent < e → 2 ^ (f.precision - 1) ≤ m

/-- The bit pattern of a magnitude. -/
def pattern (f : BinaryFormat) (m : Nat) (e : Int) : Nat :=
  (e - f.minExponent).toNat * 2 ^ (f.precision - 1) + m

/-- Half of the significands have the leading bit. -/
theorem two_pow_precision (f : BinaryFormat) (wide : 1 < f.precision) :
    2 ^ f.precision = 2 * 2 ^ (f.precision - 1) := by
  rw [← pow_succ']
  congr 1
  omega

/-- Zero has the least exponent. -/
theorem Regular.exponent_zero (regular : f.Regular 0 e) : e = f.minExponent := by
  by_contra above
  have := regular.leading (lt_of_le_of_ne regular.least (Ne.symm above))
  have := Nat.two_pow_pos (f.precision - 1)
  omega

/-- The pattern of zero has no bits. -/
theorem Regular.pattern_zero (regular : f.Regular 0 e) : f.pattern 0 e = 0 := by
  rw [pattern, regular.exponent_zero, sub_self, Int.toNat_zero, Nat.zero_mul]

/-- The bit pattern of a sign. -/
def signPattern (f : BinaryFormat) (negative : Bool) : Nat := if negative then f.signBit else 0

/-- Whether a number lies closer to `m · 2 ^ e` than to its neighbours in a format, or in the middle
if `m` is even.  Below a power of two the neighbour is half as far away. -/
structure Near (f : BinaryFormat) (m : Nat) (e : Int) (x : ℚ) : Prop where
  /-- The neighbour below is no closer. -/
  low : (4 * m - 2) * 2 ^ e ≤ 4 * x
  /-- The neighbour above is no closer. -/
  high : 4 * x ≤ (4 * m + 2) * 2 ^ e
  /-- The neighbour below a power of two is no closer. -/
  edge : m = 2 ^ (f.precision - 1) → f.minExponent < e → (4 * m - 1) * 2 ^ e ≤ 4 * x
  /-- The middle does not belong to odd significands. -/
  odd : m % 2 = 1 → (4 * m - 2) * 2 ^ e < 4 * x ∧ 4 * x < (4 * m + 2) * 2 ^ e

/-- A number is near itself. -/
theorem near_self (f : BinaryFormat) (m : Nat) (e : Int) : f.Near m e (m * 2 ^ e) := by
  have power : (0 : ℚ) < 2 ^ e := by positivity
  refine ⟨?_, ?_, fun _ _ => ?_, fun _ => ⟨?_, ?_⟩⟩ <;> nlinarith

/-- What is near a positive number is positive. -/
theorem Near.positive {x : ℚ} (near : f.Near m e x) (hm : 0 < m) : 0 < x := by
  have power : (0 : ℚ) < 2 ^ e := by positivity
  have one : (1 : ℚ) ≤ m := by exact_mod_cast hm
  have := near.low
  nlinarith

/-- What lies within the interval at the scale of the number itself is divided to its
significand. -/
theorem roundDiv_of_near (hden : 0 < den) (near : f.Near m e (num / den)) :
    roundDiv (unscale num den e).1 (unscale num den e).2 = m := by
  obtain ⟨above, ratio⟩ := unscale_ratio num hden e
  have power : (0 : ℚ) < 2 ^ e := by positivity
  generalize (unscale num den e).1 = n at *
  generalize (unscale num den e).2 = d at *
  have above' : (0 : ℚ) < d := by exact_mod_cast above
  -- Everything is measured in the last bit, which is what the scaled numerator counts.
  have scaled : (num / den : ℚ) = n / d * 2 ^ e := by rw [ratio]; field_simp
  have low := near.low
  have high := near.high
  rw [scaled, ← mul_assoc, mul_le_mul_iff_of_pos_right power, ← mul_div_assoc,
    le_div_iff₀ above'] at low
  rw [scaled, ← mul_assoc, mul_le_mul_iff_of_pos_right power, ← mul_div_assoc,
    div_le_iff₀ above'] at high
  have low' : 2 * (m : ℚ) * d ≤ 2 * n + d := by linarith
  have high' : 2 * (n : ℚ) ≤ 2 * m * d + d := by linarith
  refine roundDiv_eq above (by exact_mod_cast low') (by exact_mod_cast high') fun tie => ?_
  by_contra other
  obtain ⟨below, beyond⟩ := near.odd (by omega)
  rw [scaled, ← mul_assoc, mul_lt_mul_iff_of_pos_right power, ← mul_div_assoc,
    lt_div_iff₀ above'] at below
  rw [scaled, ← mul_assoc, mul_lt_mul_iff_of_pos_right power, ← mul_div_assoc,
    div_lt_iff₀ above'] at beyond
  rcases tie with tie | tie
  · have : 2 * (m : ℚ) * d = 2 * n + d := by exact_mod_cast tie
    linarith
  · have : 2 * (n : ℚ) = 2 * m * d + d := by exact_mod_cast tie
    linarith

/-- A number just below a power of two has one bit more, and lies as close to the power at that
scale. -/
theorem near_doubled {x : ℚ} (near : f.Near m e x) (edge : m = 2 ^ (f.precision - 1))
    (above : f.minExponent < e) (below : x < m * 2 ^ e) : f.Near (2 * m) (e - 1) x := by
  have two : (2 : ℚ) ≠ 0 := by norm_num
  have power : (0 : ℚ) < 2 ^ (e - 1) := by positivity
  have double : (2 : ℚ) ^ e = 2 * 2 ^ (e - 1) := by
    rw [zpow_sub_one₀ two]
    field_simp
  have close := near.edge edge above
  rw [double] at close below
  have bound : m < 2 * m := by
    have : 0 < 2 ^ (f.precision - 1) := Nat.two_pow_pos _
    omega
  refine ⟨?_, ?_, fun same => ?_, fun odd => ?_⟩
  · push_cast
    nlinarith
  · push_cast
    nlinarith
  · omega
  · omega

/-- Below the scale of a number, what is near it is as small as a power of two. -/
theorem Scales.lt_of_lt {x : ℚ} {s : Int} (scales : f.Scales x s) (wide : 1 < f.precision)
    {k : Nat} (lower : s + k < e) : 2 ^ k * x < (2 ^ (f.precision - 1) : Nat) * 2 ^ e := by
  have two : (2 : ℚ) ≠ 0 := by norm_num
  have bits : ((f.precision - 1 : Nat) : Int) = (f.precision : Int) - 1 := by omega
  calc 2 ^ k * x < 2 ^ k * (2 ^ (f.precision : Int) * 2 ^ s) := by
        gcongr
        exact scales.fits
    _ = 2 ^ ((f.precision : Int) - 1) * 2 ^ (s + k + 1) := by
        rw [← zpow_natCast, ← zpow_add₀ two, ← zpow_add₀ two, ← zpow_add₀ two]
        congr 1
        ring
    _ ≤ 2 ^ ((f.precision : Int) - 1) * 2 ^ e := by
        gcongr
        · norm_num
        · omega
    _ = (2 ^ (f.precision - 1) : Nat) * 2 ^ e := by
        rw [← bits, zpow_natCast]
        push_cast
        rfl

/-- What is near a number has no greater scale: there is no room above the significand. -/
theorem Scales.le_of_near {x : ℚ} {s : Int} (scales : f.Scales x s) (regular : f.Regular m e)
    (near : f.Near m e x) : s ≤ e := by
  have two : (2 : ℚ) ≠ 0 := by norm_num
  have power : (0 : ℚ) < 2 ^ e := by positivity
  by_contra higher
  have lead := scales.leading (by have := regular.least; omega)
  have room : (m : ℚ) + 1 ≤ 2 ^ (f.precision : Int) := by
    rw [zpow_natCast]
    exact_mod_cast regular.fits
  have full : (2 : ℚ) ^ (f.precision : Int) * 2 ^ e ≤ 2 ^ ((f.precision : Int) - 1) * 2 ^ s :=
    calc (2 : ℚ) ^ (f.precision : Int) * 2 ^ e
        = 2 ^ ((f.precision : Int) - 1) * 2 ^ (e + 1) := by
          rw [← zpow_add₀ two, ← zpow_add₀ two]
          congr 1
          ring
      _ ≤ 2 ^ ((f.precision : Int) - 1) * 2 ^ s := by
          gcongr
          · norm_num
          · omega
  have := near.high
  nlinarith

/-- What is near a number and has a smaller scale lies just below a power of two. -/
theorem Scales.edge_of_lt {x : ℚ} {s : Int} (scales : f.Scales x s) (wide : 1 < f.precision)
    (regular : f.Regular m e) (near : f.Near m e x) (lower : s < e) :
    f.minExponent < e ∧ m = 2 ^ (f.precision - 1) ∧ s = e - 1 ∧ x < m * 2 ^ e := by
  have power : (0 : ℚ) < 2 ^ e := by positivity
  have above : f.minExponent < e := lt_of_le_of_lt scales.least lower
  have under := scales.lt_of_lt wide (k := 0) (e := e) (by omega)
  rw [pow_zero, one_mul] at under
  have edge : m = 2 ^ (f.precision - 1) := by
    refine le_antisymm ?_ (regular.leading above)
    have := near.low
    have : (m : ℚ) < (2 ^ (f.precision - 1) : Nat) + 1 := by nlinarith
    have : m < 2 ^ (f.precision - 1) + 1 := by exact_mod_cast this
    omega
  refine ⟨above, edge, ?_, by rwa [edge]⟩
  -- Two scales below, the number would be half as large.
  by_contra farther
  have half := scales.lt_of_lt wide (k := 1) (e := e) (by omega)
  have close := near.edge edge above
  have one : (1 : ℚ) ≤ m := by
    rw [edge]
    exact_mod_cast Nat.one_le_two_pow
  rw [← edge] at half
  nlinarith

/-- **`roundRatio` rounds numbers near `m · 2 ^ e` to it.** -/
theorem roundRatio_of_near (wide : 1 < f.precision) (regular : f.Regular m e) (hm : 0 < m)
    (hden : 0 < den) (near : f.Near m e (num / den)) :
    f.roundRatio num den = min (f.pattern m e) f.infinityBits := by
  have hden' : (0 : ℚ) < den := by exact_mod_cast hden
  have hnum : 0 < num := by
    have : (0 : ℚ) < num := (div_pos_iff_of_pos_right hden').mp (near.positive hm)
    exact_mod_cast this
  obtain ⟨s, scales, round⟩ := f.exists_scales hnum hden
  rw [round, pattern]
  congr 1
  rcases (scales.le_of_near regular near).lt_or_eq with lower | same
  · -- The significand is a power of two, which is one bit longer at the scale of the number.
    obtain ⟨above, edge, next, below⟩ := scales.edge_of_lt wide regular near lower
    rw [next, roundDiv_of_near hden (near_doubled near edge above below), ← edge]
    have step : (e - f.minExponent).toNat = (e - 1 - f.minExponent).toNat + 1 := by omega
    rw [step]
    ring
  · rw [same, roundDiv_of_near hden near]

/-! ## Encoding and decoding -/

/-- The sign lies above all magnitudes. -/
theorem infinityBits_lt_signBit (f : BinaryFormat) (wide : 1 < f.precision) :
    f.infinityBits < f.signBit := by
  have split : f.exponentBits + f.precision - 1 = f.exponentBits + (f.precision - 1) := by omega
  rw [infinityBits, signBit, Nat.pow_eq, Nat.pow_eq, Nat.pow_eq, split, pow_add]
  have := Nat.two_pow_pos f.exponentBits
  exact Nat.mul_lt_mul_of_pos_right (by omega) (Nat.two_pow_pos _)

/-- **`decode` gives a finite number from its `pattern`.** -/
theorem decode_pattern (wide : 1 < f.precision) (regular : f.Regular m e)
    (finite : f.pattern m e < f.infinityBits) (negative : Bool) :
    f.decode (f.pattern m e + f.signPattern negative) = .finite negative m e := by
  have below := f.infinityBits_lt_signBit wide
  have sign : (f.pattern m e + f.signPattern negative) / f.signBit % 2 = 1 ↔ negative = true := by
    cases negative with
    | false =>
      rw [signPattern, if_neg (by simp), Nat.add_zero, Nat.div_eq_of_lt (by omega)]
      simp
    | true =>
      rw [signPattern, if_pos rfl, Nat.add_div_right _ (by omega), Nat.div_eq_of_lt (by omega)]
      simp
  have magnitude : (f.pattern m e + f.signPattern negative) % f.signBit = f.pattern m e := by
    cases negative with
    | false => exact Nat.mod_eq_of_lt (by simp [signPattern]; omega)
    | true =>
      rw [signPattern, if_pos rfl, Nat.add_mod_right]
      exact Nat.mod_eq_of_lt (by omega)
  have power := Nat.two_pow_pos (f.precision - 1)
  have double := f.two_pow_precision wide
  rw [decode]
  simp only [sign, magnitude, if_neg finite.not_gt, if_neg finite.ne, Nat.pow_eq]
  have fits := regular.fits
  by_cases least : e = f.minExponent ∧ m < 2 ^ (f.precision - 1)
  · obtain ⟨rfl, small⟩ := least
    have same : f.pattern m f.minExponent = m := by simp [pattern]
    rw [same, Nat.div_eq_of_lt small, if_pos rfl, Nat.mod_eq_of_lt small]
    simp
  · have lead : 2 ^ (f.precision - 1) ≤ m := by
      by_cases above : f.minExponent < e
      · exact regular.leading above
      · have := regular.least
        by_contra small
        exact least ⟨by omega, by omega⟩
    obtain ⟨fraction, rfl⟩ := Nat.exists_eq_add_of_le lead
    have parts : f.pattern (2 ^ (f.precision - 1) + fraction) e =
        2 ^ (f.precision - 1) * ((e - f.minExponent).toNat + 1) + fraction := by
      rw [pattern]
      ring
    have small : fraction < 2 ^ (f.precision - 1) := by omega
    rw [parts, Nat.mul_add_div power, Nat.div_eq_of_lt small, Nat.mul_add_mod,
      Nat.mod_eq_of_lt small, if_neg (by omega)]
    have := regular.least
    congr 1
    · simp
    · omega
    · omega

/-- **A pattern of a finite number is that of what it decodes to.** -/
theorem decode_eq_finite (wide : 1 < f.precision) {bits : Nat} (bound : bits < 2 * f.signBit)
    {negative : Bool} (h : f.decode bits = .finite negative m e) :
    f.Regular m e ∧ f.pattern m e < f.infinityBits ∧
      bits = f.pattern m e + f.signPattern negative := by
  have power := Nat.two_pow_pos (f.precision - 1)
  have double := f.two_pow_precision wide
  have split := Nat.div_add_mod bits f.signBit
  have sign : f.signPattern (decide (bits / f.signBit % 2 = 1)) =
      f.signBit * (bits / f.signBit) := by
    have small : bits / f.signBit < 2 := Nat.div_lt_of_lt_mul (by omega)
    rw [signPattern]
    generalize bits / f.signBit = q at small
    obtain rfl | rfl : q = 0 ∨ q = 1 := by omega
    · simp
    · simp
  rw [decode] at h
  simp only [Nat.pow_eq] at h
  generalize bits % f.signBit = magnitude at *
  split_ifs at h with nan infinite least
  · -- Without an exponent field the fraction is the significand.
    obtain ⟨rfl, rfl, rfl⟩ := BinaryValue.finite.inj h
    have small : magnitude < 2 ^ (f.precision - 1) := by
      rwa [Nat.div_eq_zero_iff_lt power] at least
    have same : f.pattern (magnitude % 2 ^ (f.precision - 1)) f.minExponent = magnitude := by
      simp [pattern, Nat.mod_eq_of_lt small]
    refine ⟨⟨by have := Nat.mod_lt magnitude power; omega, le_refl _, fun above => ?_⟩, ?_, ?_⟩
    · exact absurd above (lt_irrefl _)
    · omega
    · rw [same, sign]
      omega
  · obtain ⟨rfl, rfl, rfl⟩ := BinaryValue.finite.inj h
    have fraction := Nat.mod_lt magnitude power
    have parts := Nat.div_add_mod magnitude (2 ^ (f.precision - 1))
    generalize magnitude % 2 ^ (f.precision - 1) = r at *
    obtain ⟨field, step⟩ := Nat.exists_eq_succ_of_ne_zero least
    rw [step] at parts ⊢
    have same : f.pattern (r + 2 ^ (f.precision - 1)) (f.minExponent + (field + 1 - 1 : Nat)) =
        magnitude := by
      rw [pattern, ← parts]
      simp
      ring
    refine ⟨⟨by omega, by omega, fun _ => by omega⟩, ?_, ?_⟩
    · rw [Nat.succ_eq_add_one, same]
      omega
    · rw [Nat.succ_eq_add_one, same, sign]
      omega

/-- **`encode` gives numbers near a finite one its pattern.** -/
theorem encode_of_near (wide : 1 < f.precision) {e' : Int} (regular : f.Regular m e') (hm : 0 < m)
    (finite : f.pattern m e' < f.infinityBits) (hden : 0 < den)
    (near : f.Near m e' (num / den * 2 ^ e)) (negative : Bool) :
    f.encode negative num den e = f.pattern m e' + f.signPattern negative := by
  obtain ⟨above, ratio⟩ := unscale_ratio num hden (-e)
  rw [zpow_neg, div_inv_eq_mul] at ratio
  rw [← ratio] at near
  rw [encode, signPattern]
  simp only [roundRatio_of_near wide regular hm above near, min_eq_left finite.le]

/-- Zero is encoded as its sign. -/
theorem encode_zero (f : BinaryFormat) (negative : Bool) (den : Nat) (e : Int) :
    f.encode negative 0 den e = f.signPattern negative := by
  have zero : (unscale 0 den (-e)).1 = 0 := by
    rw [unscale]
    split_ifs
    · rfl
    · exact Nat.zero_mul _
  rw [encode, signPattern]
  simp only [roundRatio, zero, if_true, Nat.zero_add]

/-- A number that is carried over to a format which has it is encoded as its pattern there. -/
theorem convert_eq {g : BinaryFormat} (wide : 1 < g.precision) {bits m' : Nat} {e' : Int}
    {negative : Bool} (h : f.decode bits = .finite negative m e) (regular : g.Regular m' e')
    (finite : g.pattern m' e' < g.infinityBits) (same : (m : ℚ) * 2 ^ e = m' * 2 ^ e') :
    f.convert g bits = g.pattern m' e' + g.signPattern negative := by
  have power : (0 : ℚ) < 2 ^ e := by positivity
  have power' : (0 : ℚ) < 2 ^ e' := by positivity
  rw [convert, h]
  rcases Nat.eq_zero_or_pos m' with rfl | positive
  · have zero : (m : ℚ) = 0 := by
      rw [Nat.cast_zero, zero_mul] at same
      exact (mul_eq_zero.mp same).resolve_right power.ne'
    obtain rfl : m = 0 := by exact_mod_cast zero
    simp only [encode_zero, regular.pattern_zero, Nat.zero_add]
  · refine encode_of_near wide regular positive finite Nat.one_pos ?_ negative
    rw [Nat.cast_one, div_one, same]
    exact g.near_self m' e'

end BinaryFormat

/-! ## Singles among doubles -/

open BinaryFormat (double single)

/-- **Every finite single is a double**, whose significand has more bits. -/
theorem BinaryFormat.Regular.widen {m : Nat} {e : Int} (regular : single.Regular m e)
    (finite : single.pattern m e < single.infinityBits) :
    ∃ m' e', double.Regular m' e' ∧ double.pattern m' e' < double.infinityBits ∧
      (m : ℚ) * 2 ^ e = m' * 2 ^ e' := by
  have least : single.minExponent = -149 := by decide
  have least' : double.minExponent = -1074 := by decide
  have low := regular.least
  have fits : m < 2 ^ 24 := regular.fits
  rw [least] at low
  have high : e < 106 := by
    have bound : single.infinityBits = 255 * 2 ^ 23 := by decide
    rw [pattern, least, bound] at finite
    change (e - -149).toNat * 2 ^ 23 + m < 255 * 2 ^ 23 at finite
    omega
  have bound : double.infinityBits = 2047 * 2 ^ 52 := by decide
  rcases Nat.eq_zero_or_pos m with rfl | positive
  · refine ⟨0, -1074, ⟨by decide, by decide, fun above => ?_⟩, by decide, by simp⟩
    exact absurd (least' ▸ above) (lt_irrefl _)
  · obtain ⟨k, hk⟩ : ∃ k, m.log2 + k = 52 := by
      have : m.log2 < 24 := (Nat.log2_lt positive.ne').mpr fits
      exact ⟨52 - m.log2, by omega⟩
    have lead : 2 ^ 52 ≤ m * 2 ^ k := by
      rw [← hk, pow_add]
      exact Nat.mul_le_mul_right _ (Nat.log2_self_le positive.ne')
    have room : m * 2 ^ k < 2 ^ 53 := by
      have split : 2 ^ 53 = 2 ^ (m.log2 + 1) * 2 ^ k := by rw [← pow_add]; congr 1; omega
      rw [split]
      exact Nat.mul_lt_mul_of_pos_right Nat.lt_log2_self (Nat.two_pow_pos k)
    refine ⟨m * 2 ^ k, e - k, ⟨room, by omega, fun _ => lead⟩, ?_, ?_⟩
    · rw [pattern, least', bound]
      change (e - k - -1074).toNat * 2 ^ 52 + m * 2 ^ k < 2047 * 2 ^ 52
      omega
    · rw [zpow_sub₀ (by norm_num), zpow_natCast]
      push_cast
      field_simp

namespace Single

variable {x : Single}

/-- **A finite single becomes a finite double.** -/
theorem value_toDouble {negative : Bool} {m : Nat} {e : Int} (h : x.value = .finite negative m e) :
    ∃ m' e', x.toDouble.value = .finite negative m' e' ∧ (m : ℚ) * 2 ^ e = m' * 2 ^ e' := by
  obtain ⟨regular, finite, -⟩ := BinaryFormat.decode_eq_finite (by decide) x.bits.toNat_lt h
  obtain ⟨m', e', regular', finite', same⟩ := regular.widen finite
  refine ⟨m', e', ?_, same⟩
  have bits : single.convert double x.bits.toNat = double.pattern m' e' + double.signPattern negative :=
    BinaryFormat.convert_eq (by decide) h regular' finite' same
  have bound : double.pattern m' e' + double.signPattern negative < 2 ^ 64 := by
    have : double.infinityBits = 2047 * 2 ^ 52 := by decide
    have sign : double.signPattern negative ≤ 2 ^ 63 := by cases negative <;> decide
    omega
  rw [toDouble, Double.value, bits, UInt64.toNat_ofNat_of_lt' bound]
  exact BinaryFormat.decode_pattern (by decide) regular' finite' negative

/-- **`x.toDouble.toSingle = x` for finite singles.** -/
theorem toSingle_toDouble {negative : Bool} {m : Nat} {e : Int}
    (h : x.value = .finite negative m e) : x.toDouble.toSingle = x := by
  obtain ⟨regular, finite, bits⟩ := BinaryFormat.decode_eq_finite (by decide) x.bits.toNat_lt h
  obtain ⟨m', e', wide, same⟩ := value_toDouble h
  have back : double.convert single x.toDouble.bits.toNat =
      single.pattern m e + single.signPattern negative :=
    BinaryFormat.convert_eq (by decide) wide regular finite same.symm
  rw [Double.toSingle, back, ← bits, UInt32.ofNat_toNat]

end Single

end Colloquy
