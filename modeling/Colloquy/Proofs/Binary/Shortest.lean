import Colloquy.Proofs.Binary.Rounding
import Mathlib.Tactic.LinearCombination

/-! # Shortest decimals read back

The search for the shortest decimal goes through finer and finer grids.  A point that it accepts lies
near the number (`BinaryFormat.near_of_onGrid`), and a grid as fine as a quarter of the last bit has
such a point, so the search of a double comes to an end (`BinaryFormat.exists_shortest`).
-/

namespace Colloquy

namespace BinaryFormat

variable {f : BinaryFormat} {m d : Nat} {e k : Int}

/-! ## Points of a grid -/

/-- Quarters of the last bit, in the measure of a grid. -/
def unit (e k : Int) : Nat := 2 ^ (e - 2).toNat * 10 ^ (-k).toNat

/-- The step of a grid, in the same measure. -/
def step (e k : Int) : Nat := 2 ^ (2 - e).toNat * 10 ^ k.toNat

/-- The step of a grid in terms of the last bit. -/
theorem step_eq (e k : Int) : (step e k : ℚ) * 2 ^ e = unit e k * (4 * 10 ^ k) := by
  have split : ∀ (b : ℚ), b ≠ 0 → ∀ i : Int, b ^ i.toNat = b ^ i * b ^ (-i).toNat := by
    intro b hb i
    rw [← zpow_natCast, ← zpow_natCast, ← zpow_add₀ hb]
    congr 1
    omega
  have two := split 2 (by norm_num) (2 - e)
  have ten := split 10 (by norm_num) k
  rw [neg_sub] at two
  have four : (2 : ℚ) ^ (2 - e) * 2 ^ e = 4 := by
    rw [← zpow_add₀ (by norm_num), sub_add_cancel]
    norm_num
  rw [step, unit]
  push_cast
  rw [two, ten]
  linear_combination (2 ^ (e - 2).toNat * (10 ^ k * 10 ^ (-k).toNat)) * four

/-- Quarters of the last bit are something. -/
theorem unit_pos (e k : Int) : 0 < unit e k :=
  Nat.mul_pos (Nat.two_pow_pos _) (Nat.pow_pos (by omega))

/-- Quarters of the last bit are compared with a point of a grid. -/
theorem quarters_le (a d : Nat) (e k : Int) :
    a * unit e k ≤ d * step e k ↔ (a : ℚ) * 2 ^ e ≤ 4 * (d * 10 ^ k) := by
  have positive : (0 : ℚ) < unit e k := by exact_mod_cast unit_pos e k
  have power : (0 : ℚ) < 2 ^ e := by positivity
  have scaled : (d : ℚ) * step e k * 2 ^ e = 4 * (d * 10 ^ k) * unit e k := by
    linear_combination (d : ℚ) * step_eq e k
  rw [← Nat.cast_le (α := ℚ), ← mul_le_mul_iff_of_pos_right power,
    ← mul_le_mul_iff_of_pos_right (a := (unit e k : ℚ)) (b := a * 2 ^ e) positive, ← scaled]
  push_cast
  rw [mul_right_comm]

/-- A point of a grid is compared with quarters of the last bit. -/
theorem le_quarters (a d : Nat) (e k : Int) :
    d * step e k ≤ a * unit e k ↔ 4 * (d * 10 ^ k) ≤ (a : ℚ) * 2 ^ e := by
  have positive : (0 : ℚ) < unit e k := by exact_mod_cast unit_pos e k
  have power : (0 : ℚ) < 2 ^ e := by positivity
  have scaled : (d : ℚ) * step e k * 2 ^ e = 4 * (d * 10 ^ k) * unit e k := by
    linear_combination (d : ℚ) * step_eq e k
  rw [← Nat.cast_le (α := ℚ), ← mul_le_mul_iff_of_pos_right power,
    ← mul_le_mul_iff_of_pos_right (c := (a : ℚ) * 2 ^ e) positive, ← scaled]
  push_cast
  rw [mul_right_comm (a : ℚ)]

/-- The neighbour below, in quarters of the last bit. -/
def lowerQuarter (f : BinaryFormat) (m : Nat) (e : Int) : Nat :=
  if m = 2 ^ (f.precision - 1) ∧ f.minExponent < e then 4 * m - 1 else 4 * m - 2

/-- Whether a point of a grid lies between the neighbours. -/
def Between (f : BinaryFormat) (m : Nat) (e k : Int) (d : Nat) : Prop :=
  if m % 2 = 0 then
    f.lowerQuarter m e * unit e k ≤ d * step e k ∧ d * step e k ≤ (4 * m + 2) * unit e k
  else f.lowerQuarter m e * unit e k < d * step e k ∧ d * step e k < (4 * m + 2) * unit e k

/-- The two points of a grid that are next to the number are looked at, and one of them is taken if
it lies between the neighbours. -/
theorem onGrid_cases (f : BinaryFormat) (m : Nat) (e k : Int) :
    (∃ d, f.onGrid m e k = some d ∧ f.Between m e k d) ∨
      f.onGrid m e k = none ∧ ¬ f.Between m e k (4 * m * unit e k / step e k) := by
  unfold onGrid
  extract_lets lower upper unit' step' inside below rest
  have accepts : ∀ d, inside d = true ↔ f.Between m e k d := by
    intro d
    rw [Between, lowerQuarter]
    by_cases even : m % 2 = 0
    · simp only [inside, if_pos even]
      simp [lower, upper, unit', step', unit, step]
    · simp only [inside, if_neg even]
      simp [lower, upper, unit', step', unit, step]
  change (∃ d, _ ∧ _) ∨ _ ∧ ¬ f.Between m e k below
  simp only [← accepts]
  cases first : inside below with
  | true =>
    left
    cases second : inside (below + 1) with
    | true =>
      by_cases closer : 2 * rest < step'
      · exact ⟨below, if_pos closer, first⟩
      by_cases farther : step' < 2 * rest
      · exact ⟨below + 1, (if_neg closer).trans (if_pos farther), second⟩
      by_cases even : below % 2 = 0
      · exact ⟨below, (if_neg closer).trans ((if_neg farther).trans (if_pos even)), first⟩
      · exact ⟨below + 1, (if_neg closer).trans ((if_neg farther).trans (if_neg even)), second⟩
    | false => exact ⟨below, rfl, first⟩
  | false =>
    cases second : inside (below + 1) with
    | true => exact .inl ⟨below + 1, rfl, second⟩
    | false => exact .inr ⟨rfl, by simp⟩

/-- **A point that is accepted lies near the number.** -/
theorem near_of_onGrid (hm : 0 < m) (h : f.onGrid m e k = some d) :
    f.Near m e (d * 10 ^ k) := by
  have between : f.Between m e k d := by
    rcases f.onGrid_cases m e k with ⟨d', found, between⟩ | ⟨missed, -⟩
    · obtain rfl : d' = d := Option.some.inj (found.symm.trans h)
      exact between
    · exact absurd (missed.symm.trans h) nofun
  have power : (0 : ℚ) < 2 ^ e := by positivity
  have one : (1 : ℚ) ≤ m := by exact_mod_cast hm
  -- The ends belong to the interval at most.
  have within : f.lowerQuarter m e * unit e k ≤ d * step e k ∧
      d * step e k ≤ (4 * m + 2) * unit e k := by
    rw [Between] at between
    split_ifs at between with even
    · exact between
    · exact ⟨between.1.le, between.2.le⟩
  rw [quarters_le, le_quarters] at within
  obtain ⟨low, high⟩ := within
  push_cast at high
  have lower : (4 * (m : ℚ) - 2) ≤ f.lowerQuarter m e := by
    rw [lowerQuarter]
    split_ifs
    · push_cast [Nat.cast_sub (show 1 ≤ 4 * m by omega)]
      linarith
    · push_cast [Nat.cast_sub (show 2 ≤ 4 * m by omega)]
      linarith
  refine ⟨?_, high, fun edge above => ?_, fun odd => ?_⟩
  · nlinarith
  · rw [lowerQuarter, if_pos ⟨edge, above⟩] at low
    push_cast [Nat.cast_sub (show 1 ≤ 4 * m by omega)] at low
    exact low
  · rw [Between, if_neg (by omega), ← not_le, ← not_le, le_quarters, quarters_le] at between
    push_cast at between
    obtain ⟨below, beyond⟩ := between
    exact ⟨by nlinarith, by linarith⟩

/-- **A fine grid has a point near the number.** -/
theorem isSome_onGrid (hm : 0 < m) (fine : (10 : ℚ) ^ k ≤ 2 ^ (e - 2)) :
    (f.onGrid m e k).isSome = true := by
  have narrow : step e k ≤ unit e k := by
    have power : (0 : ℚ) < 2 ^ e := by positivity
    have quarter : (4 : ℚ) * 2 ^ (e - 2) = 2 ^ e := by
      rw [zpow_sub₀ (by norm_num)]
      norm_num
      ring
    have : (step e k : ℚ) * 2 ^ e ≤ unit e k * 2 ^ e := by
      rw [step_eq, ← quarter]
      gcongr
    exact_mod_cast le_of_mul_le_mul_right this power
  have positive : 0 < step e k := Nat.mul_pos (Nat.two_pow_pos _) (Nat.pow_pos (by omega))
  rcases f.onGrid_cases m e k with ⟨d, found, -⟩ | ⟨-, outside⟩
  · rw [found]
    rfl
  · -- The point below is off by less than a quarter of the last bit.
    have split := Nat.div_add_mod (4 * m * unit e k) (step e k)
    have rest := Nat.mod_lt (4 * m * unit e k) positive
    rw [mul_comm (step e k)] at split
    have lower : f.lowerQuarter m e * unit e k ≤ (4 * m - 1) * unit e k := by
      refine Nat.mul_le_mul_right _ ?_
      rw [lowerQuarter]
      split_ifs <;> omega
    have below : (4 * m - 1) * unit e k + unit e k = 4 * m * unit e k := by
      rw [← Nat.succ_mul, Nat.succ_eq_add_one, Nat.sub_add_cancel (by omega)]
    have upper : (4 * m + 2) * unit e k = 4 * m * unit e k + 2 * unit e k := by ring
    refine absurd ?_ outside
    rw [Between]
    by_cases even : m % 2 = 0
    · rw [if_pos even]
      omega
    · rw [if_neg even]
      omega

/-! ## The search -/

/-- The search stops at the first grid that has a point between the neighbours. -/
theorem exists_shortestFrom {fuel i : Nat} (h : i < fuel)
    (fine : (f.onGrid m e (k - i)).isSome = true) :
    ∃ d j, f.shortestFrom m e fuel k = ⟨d, j⟩ ∧ f.onGrid m e j = some d ∧ k - i ≤ j := by
  induction fuel generalizing k i with
  | zero => omega
  | succ fuel ih =>
    rw [shortestFrom]
    cases found : f.onGrid m e k with
    | some d => exact ⟨d, k, rfl, found, by omega⟩
    | none =>
      obtain ⟨i, rfl⟩ : ∃ i', i = i' + 1 := by
        refine Nat.exists_eq_succ_of_ne_zero fun here => ?_
        subst here
        rw [Nat.cast_zero, sub_zero, found] at fine
        exact absurd fine nofun
      have finer : k - ((i + 1 : Nat) : Int) = k - 1 - i := by omega
      rw [finer] at fine ⊢
      exact ih (by omega) fine

/-- Powers of ten and two are compared by `10 ^ 3 ≤ 2 ^ 10` above one, and by `2 ^ 33 ≤ 10 ^ 10`
below. -/
theorem ten_zpow_le {k e : Int} (large : 0 ≤ k → 10 * k ≤ 3 * e) (small : k < 0 → 33 * k ≤ 10 * e) :
    (10 : ℚ) ^ k ≤ 2 ^ e := by
  by_cases whole : 0 ≤ k
  · refine le_of_pow_le_pow_left₀ (n := 3) (by omega) (by positivity) ?_
    calc ((10 : ℚ) ^ k) ^ 3 = (10 ^ 3) ^ k := by rw [← zpow_natCast, zpow_comm]; norm_num
      _ ≤ (2 ^ 10) ^ k := zpow_le_zpow_left₀ whole (by norm_num) (by norm_num)
      _ = 2 ^ (10 * k) := by rw [zpow_mul]; norm_num
      _ ≤ 2 ^ (3 * e) := zpow_le_zpow_right₀ (by norm_num) (large whole)
      _ = (2 ^ e) ^ 3 := by rw [mul_comm, zpow_mul]; norm_cast
  · refine le_of_pow_le_pow_left₀ (n := 10) (by omega) (by positivity) ?_
    calc ((10 : ℚ) ^ k) ^ 10 = (10 ^ 10) ^ k := by rw [← zpow_natCast, zpow_comm]; norm_num
      _ ≤ (2 ^ 33) ^ k := by
        obtain ⟨n, rfl⟩ : ∃ n : Nat, k = -n := ⟨k.natAbs, by omega⟩
        rw [zpow_neg, zpow_neg, zpow_natCast, zpow_natCast]
        gcongr
        norm_num
      _ = 2 ^ (33 * k) := by rw [zpow_mul]; norm_num
      _ ≤ 2 ^ (10 * e) := zpow_le_zpow_right₀ (by norm_num) (small (by omega))
      _ = (2 ^ e) ^ 10 := by rw [mul_comm, zpow_mul]; norm_cast

/-- The exponents of finite doubles. -/
theorem exponent_bounds (regular : double.Regular m e)
    (finite : double.pattern m e < double.infinityBits) : -1074 ≤ e ∧ e ≤ 971 := by
  have least : double.minExponent = -1074 := by decide
  have bound : double.infinityBits = 2047 * 2 ^ 52 := by decide
  have low := regular.least
  rw [least] at low
  refine ⟨low, ?_⟩
  by_contra larger
  have lead := regular.leading (by rw [least]; omega)
  rw [pattern, least, bound] at finite
  change 2 ^ 52 ≤ m at lead
  change (e - -1074).toNat * 2 ^ 52 + m < 2047 * 2 ^ 52 at finite
  omega

/-- **`shortest` of a positive double lies near it.** -/
theorem exists_shortest (regular : double.Regular m e) (hm : 0 < m)
    (finite : double.pattern m e < double.infinityBits) :
    ∃ d k, double.shortest m e = ⟨d, k⟩ ∧ double.Near m e (d * 10 ^ k) ∧ -400 ≤ k ∧
      (d * 10 ^ k : ℚ) < 10 ^ 400 := by
  obtain ⟨low, high⟩ := exponent_bounds regular finite
  have fits : m < 2 ^ 53 := regular.fits
  have log : m.log2 ≤ 52 := by
    have : m.log2 < 53 := (Nat.log2_lt hm.ne').mpr fits
    omega
  rw [shortest]
  set guess : Int := ((m.log2 : Int) + e) * 30103 / 100000 + 1 with hguess
  have fine : (10 : ℚ) ^ (guess - (21 : Nat)) ≤ 2 ^ (e - 2) :=
    ten_zpow_le (fun _ => by omega) (fun _ => by omega)
  obtain ⟨d, k, found, point, near⟩ :=
    exists_shortestFrom (show 21 < 22 by omega) (isSome_onGrid (f := double) hm fine)
  have close := near_of_onGrid hm point
  refine ⟨d, k, found, close, by omega, ?_⟩
  have fits' : (m : ℚ) + 1 ≤ 2 ^ 53 := by exact_mod_cast fits
  have power : (2 : ℚ) ^ e ≤ 2 ^ (971 : Int) := zpow_le_zpow_right₀ (by norm_num) high
  have positive : (0 : ℚ) < 2 ^ e := by positivity
  calc (d * 10 ^ k : ℚ) ≤ (m + 1) * 2 ^ e := by have := close.high; nlinarith
    _ ≤ 2 ^ 53 * 2 ^ (971 : Int) := by gcongr
    _ = (2 ^ 3) ^ 341 * 2 := by
      rw [← pow_mul, ← pow_succ, zpow_ofNat, ← pow_add]
    _ ≤ 10 ^ 341 * 10 := by gcongr <;> norm_num
    _ < 10 ^ 400 := by
      rw [← pow_succ]
      exact pow_lt_pow_right₀ (by norm_num) (by norm_num)

end BinaryFormat

end Colloquy
