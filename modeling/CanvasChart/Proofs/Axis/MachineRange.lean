import CanvasChart.Proofs.Axis.TickChoice
import CanvasChart.Proofs.Binary64.PowersOfTen

set_option autoImplicit false

/-! The order of magnitude of a range of machine numbers. The logarithm of the machine need not be
exact: a logarithm within one of the true one still tells the range up to a factor of one
thousand. -/

namespace CanvasChart

open Binary64

/-! ### Ticks with a logarithm -/

/-- Machine numbers with a logarithm to the base ten that is chosen freely. -/
@[reducible]
def withLogarithm (log10 : Float → Float) : Scalar Float :=
  { (inferInstance : Scalar Float) with log10 := log10 }

def ticksWith (log10 : Float → Float) (least greatest : Float) : List Float :=
  @niceTicks Float (withLogarithm log10) least greatest

theorem ticksWith_machine (least greatest : Float) :
    ticksWith Float.log10 least greatest = niceTicks least greatest := rfl

section Unchanged

variable (log10 : Float → Float)

private theorem powerStep_withLogarithm (fuel : ℕ) (product base : Float) (exponent : ℕ) :
    @Scalar.powerStep Float (withLogarithm log10) fuel product base exponent =
      Scalar.powerStep fuel product base exponent := by
  induction fuel generalizing product base exponent with
  | zero => rfl
  | succ fuel ih =>
      simp only [Scalar.powerStep]
      rw [ih]

private theorem power_withLogarithm (base : Float) (power : ℤ) :
    @Scalar.power Float (withLogarithm log10) base power = Scalar.power base power := by
  cases power with
  | ofNat exponent => exact powerStep_withLogarithm log10 _ _ _ _
  | negSucc exponent =>
      exact congrArg ((1 : Float) / ·) (powerStep_withLogarithm log10 _ _ _ _)

/-- The logarithm counts only for the power of ten: the rest is as on machine numbers. -/
theorem spacings_withLogarithm (power : ℤ) :
    @NiceTicks.spacings Float (withLogarithm log10) power = NiceTicks.spacings power := by
  unfold NiceTicks.spacings
  dsimp only
  rw [power_withLogarithm]

theorem clean_withLogarithm (power : ℤ) (offset : Float) :
    @NiceTicks.clean Float (withLogarithm log10) power offset = NiceTicks.clean power offset := by
  unfold NiceTicks.clean
  dsimp only
  rw [power_withLogarithm]
  rfl

end Unchanged

def exponentWith (log10 : Float → Float) (range : Float) : ℤ :=
  Scalar.toExponent (Scalar.floor (log10 range)) - 1

/-- The logarithm of a number misses the true one by less than one. -/
structure Accurate (log10 : Float → Float) (number : Float) : Prop where
  isFinite : (log10 number).isFinite = true
  near : |(toRat (log10 number) : ℝ) - Real.logb 10 (toRat number)| < 1

/-! ### Orders of magnitude -/

private theorem ten_zpow_le_toRat {number : Float} (positive : 0 < toRat number) :
    (10 : ℚ) ^ (-325 : ℤ) ≤ toRat number := by
  obtain ⟨mantissa, exponent, _small, least, same⟩ := representable_toRat number
  have whole : (1 : ℚ) ≤ mantissa := by
    rw [same] at positive
    have some : (0 : ℚ) < mantissa := pos_of_mul_pos_left positive (two_zpow_pos exponent).le
    exact_mod_cast some
  have powers : (2 : ℚ) ^ 1074 ≤ 10 ^ 325 :=
    calc (2 : ℚ) ^ 1074 = (2 ^ 53) ^ 20 * 2 ^ 14 := by rw [← pow_mul, ← pow_add]
      _ ≤ (10 ^ 16) ^ 20 * 10 ^ 5 := by gcongr ?_ ^ 20 * ?_ <;> norm_num
      _ = 10 ^ 325 := by rw [← pow_mul, ← pow_add]
  calc (10 : ℚ) ^ (-325 : ℤ) ≤ 2 ^ (-1074 : ℤ) := by
        rw [zpow_neg, zpow_neg]
        exact inv_anti₀ (by positivity) (by exact_mod_cast powers)
    _ ≤ 2 ^ exponent := two_zpow_le.mpr least
    _ ≤ mantissa * 2 ^ exponent := le_mul_of_one_le_left (two_zpow_pos exponent).le whole
    _ = toRat number := same.symm

private theorem toRat_lt_ten_zpow {number : Float} (finite : number.isFinite = true) :
    toRat number < (10 : ℚ) ^ (309 : ℤ) := by
  have power : overflowBound = (2 ^ 256) ^ 4 := by
    rw [← pow_mul]
    exact zpow_natCast 2 1024
  calc toRat number < overflowBound := (le_abs_self _).trans_lt (abs_toRat_lt finite)
    _ = (2 ^ 256) ^ 4 := power
    _ ≤ (116 * 10 ^ 75) ^ 4 := by gcongr; norm_num
    _ ≤ 10 ^ 9 * (10 ^ 75) ^ 4 := by rw [mul_pow]; gcongr; norm_num
    _ = 10 ^ (309 : ℤ) := by rw [← pow_mul, ← pow_add]; exact (zpow_natCast 10 309).symm

theorem ten_zpow_le_iff {mantissa places zeros : ℕ} :
    (10 : ℚ) ^ (-zeros : ℤ) ≤ mantissa * 2 ^ (-places : ℤ) ↔
      2 ^ places ≤ mantissa * 10 ^ zeros := by
  have power : (0 : ℚ) < 10 ^ zeros := by positivity
  rw [zpow_neg, zpow_neg, zpow_natCast, zpow_natCast, ← div_eq_mul_inv,
    le_div_iff₀ (by positivity), inv_mul_le_iff₀ power, mul_comm]
  exact_mod_cast Iff.rfl

section Magnitude

variable {log10 : Float → Float} {range : Float} (finite : range.isFinite = true)
  (positive : 0 < toRat range) (accurate : Accurate log10 range)

include positive in
theorem logb_bounds (power : ℤ) :
    ((10 : ℚ) ^ power ≤ toRat range ↔ (power : ℝ) ≤ Real.logb 10 (toRat range)) ∧
      (toRat range < (10 : ℚ) ^ power ↔ Real.logb 10 (toRat range) < power) := by
  have real : (0 : ℝ) < toRat range := by exact_mod_cast positive
  have cast : ((10 ^ power : ℚ) : ℝ) = 10 ^ power := by rw [Rat.cast_zpow, Rat.cast_ofNat]
  rw [Real.le_logb_iff_rpow_le (by norm_num) real, Real.logb_lt_iff_lt_rpow (by norm_num) real,
    Real.rpow_intCast, ← cast, Rat.cast_le, Rat.cast_lt]
  exact ⟨Iff.rfl, Iff.rfl⟩

include finite positive accurate

/-- The power of ten is below the range, by less than three decades. -/
theorem magnitude_spec :
    -327 ≤ exponentWith log10 range ∧ exponentWith log10 range ≤ 308 ∧
      (10 : ℚ) ^ exponentWith log10 range ≤ toRat range ∧
      toRat range < 10 ^ (exponentWith log10 range + 3) := by
  obtain ⟨floorFinite, value⟩ := toRat_floor accurate.isFinite
  have above := (logb_bounds positive (-325)).1.mp (ten_zpow_le_toRat positive)
  have below := (logb_bounds positive 309).2.mp (toRat_lt_ten_zpow finite)
  obtain ⟨less, greater⟩ := abs_lt.mp accurate.near
  let whole := ⌊toRat (log10 range)⌋
  have lower : (whole : ℝ) ≤ toRat (log10 range) := by
    exact_mod_cast Int.floor_le (toRat (log10 range))
  have upper : (toRat (log10 range) : ℝ) < whole + 1 := by
    exact_mod_cast Int.lt_floor_add_one (toRat (log10 range))
  push_cast at above below
  have least : -327 < whole := by
    have cast : ((-327 : ℤ) : ℝ) < whole := by push_cast; linarith
    exact_mod_cast cast
  have greatest : whole < 310 := by
    have cast : (whole : ℝ) < (310 : ℤ) := by push_cast; linarith
    exact_mod_cast cast
  have exponent : exponentWith log10 range = whole - 1 := by
    have same := toExponent_eq floorFinite value (least.le.trans' (by decide))
      (greatest.le.trans (by decide))
    exact congrArg (· - 1) same
  rw [exponent]
  refine ⟨by omega, by omega, (logb_bounds positive _).1.mpr ?_, (logb_bounds positive _).2.mpr ?_⟩
  · push_cast
    linarith
  · push_cast
    linarith

end Magnitude

end CanvasChart
