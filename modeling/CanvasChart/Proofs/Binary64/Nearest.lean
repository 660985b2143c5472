import Mathlib

set_option autoImplicit false

/-! Rounding rational numbers to 53 binary digits. The nearest number is taken, and of two that are
equally near the one with an even last digit. Places below the least one of the format are not
kept; what exceeds its greatest number is, so that overflow is a matter of the operations. -/

namespace CanvasChart.Binary64

variable {number other : ℚ}

/-! ### Whole numbers -/

/-- The nearest whole number, the even one of two that are equally near. -/
def roundEven (number : ℚ) : ℤ :=
  if Int.fract number < 1 / 2 then ⌊number⌋
  else if 1 / 2 < Int.fract number then ⌊number⌋ + 1
  else ⌊number⌋ + ⌊number⌋ % 2

private theorem roundEven_near (number : ℚ) :
    |number - roundEven number| ≤ 1 / 2 ∧
      (|number - roundEven number| = 1 / 2 → roundEven number % 2 = 0) := by
  have parts := Int.floor_add_fract number
  have below := Int.fract_nonneg number
  have above := Int.fract_lt_one number
  unfold roundEven
  split_ifs with down up
  · have distance : number - ⌊number⌋ = Int.fract number := by linarith
    rw [distance, abs_of_nonneg below]
    exact ⟨down.le, fun half => absurd half down.ne⟩
  · have distance : number - (⌊number⌋ + 1 : ℤ) = -(1 - Int.fract number) := by
      push_cast
      linarith
    rw [distance, abs_neg, abs_of_pos (by linarith)]
    exact ⟨by linarith, fun half => absurd half (by linarith)⟩
  · have half : Int.fract number = 1 / 2 := le_antisymm (not_lt.mp up) (not_lt.mp down)
    have even : (⌊number⌋ + ⌊number⌋ % 2) % 2 = 0 := by omega
    refine ⟨?_, fun _half => even⟩
    push_cast
    rcases Int.emod_two_eq_zero_or_one ⌊number⌋ with rest | rest <;> rw [rest, abs_le] <;>
      push_cast <;> constructor <;> linarith

theorem roundEven_unique {whole : ℤ} (near : |number - whole| ≤ 1 / 2)
    (even : |number - whole| = 1 / 2 → whole % 2 = 0) : roundEven number = whole := by
  obtain ⟨near', even'⟩ := roundEven_near number
  by_contra different
  -- two different whole numbers are only as near as this when the number is halfway between them
  have apart : (1 : ℚ) ≤ |(roundEven number : ℚ) - whole| := by
    have distance : 1 ≤ |roundEven number - whole| :=
      Int.one_le_abs (sub_ne_zero.mpr different)
    exact_mod_cast distance
  have triangle : |(roundEven number : ℚ) - whole| ≤
      |number - roundEven number| + |number - whole| := by
    rw [abs_sub_comm number (roundEven number)]
    exact abs_sub_le _ _ _
  have half : |number - whole| = 1 / 2 := by linarith
  have half' : |number - roundEven number| = 1 / 2 := by linarith
  have touching : |(roundEven number : ℚ) - whole| = 1 := by linarith
  have one : |roundEven number - whole| = 1 := by exact_mod_cast touching
  have evenWhole := even half
  have evenRounded := even' half'
  rcases (abs_eq zero_le_one).mp one with more | less <;> omega

theorem roundEven_intCast (whole : ℤ) : roundEven whole = whole :=
  roundEven_unique (by simp) (by simp)

theorem roundEven_zero : roundEven 0 = 0 := by exact_mod_cast roundEven_intCast 0

private theorem roundEven_neg (number : ℚ) : roundEven (-number) = -roundEven number := by
  obtain ⟨near, even⟩ := roundEven_near number
  have distance : -number - (-roundEven number : ℤ) = -(number - roundEven number) := by
    push_cast
    ring
  refine roundEven_unique ?_ fun half => ?_
  · rwa [distance, abs_neg]
  · rw [distance, abs_neg] at half
    have := even half
    omega

theorem roundEven_mono (le : number ≤ other) : roundEven number ≤ roundEven other := by
  by_contra above
  have apart : (roundEven other : ℚ) + 1 ≤ roundEven number := by
    exact_mod_cast Int.add_one_le_of_lt (not_le.mp above)
  have lower := (abs_le.mp (roundEven_near number).1).1
  have upper := (abs_le.mp (roundEven_near other).1).2
  have same : number = other := by linarith
  rw [same] at above
  exact above le_rfl

/-! ### Places -/

/-- The exponent of the last binary digit that is kept of a number. -/
def lastPlace (number : ℚ) : ℤ := max (Int.log 2 |number| - 52) (-1074)

def nearest (number : ℚ) : ℚ := roundEven (number / 2 ^ lastPlace number) * 2 ^ lastPlace number

theorem two_zpow_pos (exponent : ℤ) : (0 : ℚ) < 2 ^ exponent := zpow_pos (by norm_num) exponent

theorem two_zpow_add (first second : ℤ) : (2 : ℚ) ^ (first + second) = 2 ^ first * 2 ^ second :=
  zpow_add₀ (by norm_num) first second

theorem two_zpow_le {first second : ℤ} : (2 : ℚ) ^ first ≤ 2 ^ second ↔ first ≤ second :=
  zpow_le_zpow_iff_right₀ (by norm_num)

theorem two_zpow_lt {first second : ℤ} : (2 : ℚ) ^ first < 2 ^ second ↔ first < second :=
  zpow_lt_zpow_iff_right₀ (by norm_num)

private theorem lastPlace_neg (number : ℚ) : lastPlace (-number) = lastPlace number := by
  rw [lastPlace, abs_neg, lastPlace]

theorem least_le_lastPlace (number : ℚ) : -1074 ≤ lastPlace number := le_max_right _ _

theorem log_eq {exponent : ℤ} (above : (2 : ℚ) ^ exponent ≤ |number|)
    (below : |number| < 2 ^ (exponent + 1)) : Int.log 2 |number| = exponent := by
  have positive : 0 < |number| := (two_zpow_pos exponent).trans_le above
  have lower := (Int.zpow_le_iff_le_log (b := 2) (by norm_num) positive).mp
    (by exact_mod_cast above)
  have upper := (Int.lt_zpow_iff_log_lt (b := 2) (by norm_num) positive).mp
    (by exact_mod_cast below)
  omega

theorem lastPlace_le {exponent : ℤ} (small : |number| < 2 ^ (exponent + 53))
    (least : -1074 ≤ exponent) (nonzero : number ≠ 0) : lastPlace number ≤ exponent := by
  have below := (Int.lt_zpow_iff_log_lt (b := 2) (by norm_num) (abs_pos.mpr nonzero)).mp
    (by exact_mod_cast small)
  unfold lastPlace
  omega

private theorem lastPlace_mono (nonzero : number ≠ 0) (le : |number| ≤ |other|) :
    lastPlace number ≤ lastPlace other :=
  max_le_max_right _ (sub_le_sub_right (Int.log_mono_right (abs_pos.mpr nonzero) le) 52)

private theorem abs_lt_of_lastPlace (number : ℚ) : |number| < 2 ^ (lastPlace number + 53) := by
  have below : |number| < 2 ^ (Int.log 2 |number| + 1) := by
    exact_mod_cast Int.lt_zpow_succ_log_self (b := 2) (by norm_num) |number|
  refine below.trans_le (two_zpow_le.mpr ?_)
  unfold lastPlace
  omega

private theorem le_abs_of_lastPlace (nonzero : number ≠ 0) (normal : -1074 < lastPlace number) :
    (2 : ℚ) ^ (lastPlace number + 52) ≤ |number| := by
  have above : (2 : ℚ) ^ Int.log 2 |number| ≤ |number| := by
    exact_mod_cast Int.zpow_log_le_self (b := 2) (by norm_num) (abs_pos.mpr nonzero)
  refine le_trans (two_zpow_le.mpr ?_) above
  unfold lastPlace at normal ⊢
  omega

theorem le_lastPlace {place : ℤ} (large : (2 : ℚ) ^ (place + 52) ≤ |number|) :
    place ≤ lastPlace number := by
  have positive := (two_zpow_pos _).trans_le large
  have lower := (Int.zpow_le_iff_le_log (b := 2) (by norm_num) positive).mp
    (by exact_mod_cast large)
  unfold lastPlace
  omega

/-- The last place of a number that has the digits of the format, or the least place. -/
theorem lastPlace_eq {exponent : ℤ} (nonzero : number ≠ 0) (least : -1074 ≤ exponent)
    (normal : (2 : ℚ) ^ (exponent + 52) ≤ |number| ∨ exponent = -1074)
    (small : |number| < 2 ^ (exponent + 53)) : lastPlace number = exponent := by
  refine le_antisymm (lastPlace_le small least nonzero) ?_
  rcases normal with above | rfl
  · exact le_lastPlace above
  · exact least_le_lastPlace number

/-! ### The nearest number -/

theorem nearest_neg (number : ℚ) : nearest (-number) = -nearest number := by
  rw [nearest, lastPlace_neg, neg_div, roundEven_neg, nearest]
  push_cast
  ring

theorem nearest_zero : nearest 0 = 0 := by
  rw [nearest, zero_div, roundEven_zero, Int.cast_zero, zero_mul]

theorem nearest_error (number : ℚ) :
    |nearest number - number| ≤ 2 ^ lastPlace number / 2 := by
  have unit := two_zpow_pos (lastPlace number)
  have near := (roundEven_near (number / 2 ^ lastPlace number)).1
  have scaled : nearest number - number =
      -((number / 2 ^ lastPlace number - roundEven (number / 2 ^ lastPlace number)) *
        2 ^ lastPlace number) := by
    rw [nearest, sub_mul, div_mul_cancel₀ _ unit.ne']
    ring
  rw [scaled, abs_neg, abs_mul, abs_of_pos unit]
  linarith [mul_le_mul_of_nonneg_right near unit.le]

/-- A number that has at most 53 binary digits, above the least place of the format. -/
def Representable (number : ℚ) : Prop :=
  ∃ (mantissa exponent : ℤ), |mantissa| < 2 ^ 53 ∧ -1074 ≤ exponent ∧
    number = mantissa * 2 ^ exponent

theorem Representable.neg (representable : Representable number) : Representable (-number) := by
  obtain ⟨mantissa, exponent, small, least, rfl⟩ := representable
  exact ⟨-mantissa, exponent, by rwa [abs_neg], least, by push_cast; ring⟩

theorem Representable.abs (representable : Representable number) : Representable |number| := by
  rcases abs_choice number with same | mirrored
  · rwa [same]
  · rw [mirrored]
    exact representable.neg

theorem representable_zpow {exponent : ℤ} (least : -1074 ≤ exponent) :
    Representable (2 ^ exponent) :=
  ⟨1, exponent, by norm_num, least, by norm_num⟩

theorem representable_intCast {whole : ℤ} (small : |whole| ≤ 2 ^ 53) : Representable whole := by
  rcases small.lt_or_eq with less | greatest
  · exact ⟨whole, 0, less, by norm_num, by norm_num⟩
  · rcases (abs_eq (by norm_num)).mp greatest with rfl | rfl
    · exact ⟨1, 53, by norm_num, by norm_num, by norm_num⟩
    · exact ⟨-1, 53, by norm_num, by norm_num, by norm_num⟩

theorem nearest_eq {whole : ℤ} {exponent : ℤ} (place : lastPlace number = exponent)
    (near : |number - whole * 2 ^ exponent| ≤ 2 ^ exponent / 2)
    (even : |number - whole * 2 ^ exponent| = 2 ^ exponent / 2 → whole % 2 = 0) :
    nearest number = whole * 2 ^ exponent := by
  have unit := two_zpow_pos exponent
  have scaled :
      |number / 2 ^ exponent - whole| * 2 ^ exponent = |number - whole * 2 ^ exponent| := by
    rw [← abs_of_pos unit, ← abs_mul, abs_of_pos unit, sub_mul, div_mul_cancel₀ _ unit.ne']
  rw [← scaled] at near even
  rw [nearest, place, roundEven_unique ?_ fun half => even ?_]
  · refine le_of_mul_le_mul_right ?_ unit
    linarith
  · rw [half]
    ring

theorem exists_multiple_nearest {place : ℤ} (le : place ≤ lastPlace number) :
    ∃ whole : ℤ, nearest number = whole * 2 ^ place := by
  obtain ⟨shift, shifted⟩ := Int.le.dest le
  refine ⟨roundEven (number / 2 ^ lastPlace number) * 2 ^ shift, ?_⟩
  rw [nearest, ← shifted, two_zpow_add, zpow_natCast]
  push_cast
  ring

private theorem nearest_of_multiple {whole : ℤ} (multiple : number = whole * 2 ^ lastPlace number) :
    nearest number = number := by
  have quotient : number / 2 ^ lastPlace number = whole := by
    rw [div_eq_iff (two_zpow_pos _).ne']
    exact multiple
  rw [nearest, quotient, roundEven_intCast]
  exact multiple.symm

theorem Representable.exists_multiple (representable : Representable number) :
    ∃ whole : ℤ, number = whole * 2 ^ lastPlace number := by
  obtain ⟨mantissa, exponent, small, least, same⟩ := representable
  rcases eq_or_ne number 0 with zero | nonzero
  · exact ⟨0, by rw [zero, Int.cast_zero, zero_mul]⟩
  · have place : lastPlace number ≤ exponent := by
      refine lastPlace_le ?_ least nonzero
      have cast : |(mantissa : ℚ)| < 2 ^ (53 : ℤ) := by exact_mod_cast small
      rw [same, abs_mul, abs_of_pos (two_zpow_pos exponent), add_comm, two_zpow_add]
      exact mul_lt_mul_of_pos_right cast (two_zpow_pos exponent)
    obtain ⟨shift, shifted⟩ := Int.le.dest place
    refine ⟨mantissa * 2 ^ shift, ?_⟩
    conv_lhs => rw [same, ← shifted, two_zpow_add, zpow_natCast]
    push_cast
    ring

/-- Between a number of all 53 digits and the next one there is none. -/
theorem Representable.le_of_lt_next (representable : Representable number) {mantissa exponent : ℤ}
    (normal : 2 ^ 52 ≤ mantissa) (less : number < (mantissa + 1 : ℤ) * 2 ^ exponent) :
    number ≤ mantissa * 2 ^ exponent := by
  have unit := two_zpow_pos exponent
  have least : (2 : ℚ) ^ (exponent + 52) ≤ mantissa * 2 ^ exponent := by
    rw [add_comm, two_zpow_add]
    exact mul_le_mul_of_nonneg_right (by exact_mod_cast normal) unit.le
  by_cases small : number ≤ 2 ^ (exponent + 52)
  · exact small.trans least
  · have large := (not_le.mp small).le.trans (le_abs_self number)
    obtain ⟨whole, multiple⟩ := representable.exists_multiple
    obtain ⟨shift, shifted⟩ := Int.le.dest (le_lastPlace large)
    have scaled : number = (whole * 2 ^ shift : ℤ) * 2 ^ exponent := by
      rw [multiple, ← shifted, two_zpow_add, zpow_natCast]
      push_cast
      ring
    rw [scaled] at less ⊢
    have below : whole * 2 ^ shift < mantissa + 1 := by
      exact_mod_cast lt_of_mul_lt_mul_right less unit.le
    exact mul_le_mul_of_nonneg_right (by exact_mod_cast Int.le_of_lt_add_one below) unit.le

theorem nearest_of_representable (representable : Representable number) :
    nearest number = number := by
  obtain ⟨whole, multiple⟩ := representable.exists_multiple
  exact nearest_of_multiple multiple

theorem nearest_intCast {whole : ℤ} (small : |whole| ≤ 2 ^ 53) : nearest whole = whole :=
  nearest_of_representable (representable_intCast small)

private theorem nearest_le_units {units : ℤ} (le : number ≤ units * 2 ^ lastPlace number) :
    nearest number ≤ units * 2 ^ lastPlace number := by
  have unit := two_zpow_pos (lastPlace number)
  have rounded := roundEven_mono ((div_le_iff₀ unit).mpr le)
  rw [roundEven_intCast] at rounded
  exact mul_le_mul_of_nonneg_right (by exact_mod_cast rounded) unit.le

private theorem units_le_nearest {units : ℤ} (ge : units * 2 ^ lastPlace number ≤ number) :
    units * 2 ^ lastPlace number ≤ nearest number := by
  have unit := two_zpow_pos (lastPlace number)
  have rounded := roundEven_mono ((le_div_iff₀ unit).mpr ge)
  rw [roundEven_intCast] at rounded
  exact mul_le_mul_of_nonneg_right (by exact_mod_cast rounded) unit.le

theorem nearest_nonneg (nonneg : 0 ≤ number) : 0 ≤ nearest number := by
  have none : ((0 : ℤ) : ℚ) * 2 ^ lastPlace number = 0 := by rw [Int.cast_zero, zero_mul]
  rw [← none] at nonneg
  exact none.ge.trans (units_le_nearest nonneg)

private theorem zpow_lastPlace_add (number : ℚ) (places : ℕ) :
    (2 : ℚ) ^ (lastPlace number + places) = (2 ^ places : ℤ) * 2 ^ lastPlace number := by
  rw [add_comm, two_zpow_add]
  norm_cast

private theorem nearest_le_zpow (number : ℚ) : nearest number ≤ 2 ^ (lastPlace number + 53) := by
  have power := zpow_lastPlace_add number 53
  have below := (le_abs_self number).trans (abs_lt_of_lastPlace number).le
  exact (nearest_le_units (below.trans_eq power)).trans_eq power.symm

private theorem zpow_le_nearest (positive : 0 < number) (normal : -1074 < lastPlace number) :
    (2 : ℚ) ^ (lastPlace number + 52) ≤ nearest number := by
  have power := zpow_lastPlace_add number 52
  have above := (le_abs_of_lastPlace positive.ne' normal).trans_eq (abs_of_pos positive)
  exact power.trans_le (units_le_nearest (power.symm.trans_le above))

private theorem nearest_mono_of_pos (positive : 0 < number) (le : number ≤ other) :
    nearest number ≤ nearest other := by
  have positive' := positive.trans_le le
  have places : lastPlace number ≤ lastPlace other := by
    refine lastPlace_mono positive.ne' ?_
    rwa [abs_of_pos positive, abs_of_pos positive']
  rcases places.eq_or_lt with same | less
  · have unit := two_zpow_pos (lastPlace other)
    rw [nearest, nearest, same]
    refine mul_le_mul_of_nonneg_right ?_ unit.le
    exact_mod_cast roundEven_mono (div_le_div_of_nonneg_right le unit.le)
  · -- a power of two lies between the two
    have normal := (least_le_lastPlace number).trans_lt less
    calc nearest number ≤ 2 ^ (lastPlace number + 53) := nearest_le_zpow number
      _ ≤ 2 ^ (lastPlace other + 52) := two_zpow_le.mpr (by omega)
      _ ≤ nearest other := zpow_le_nearest positive' normal

theorem nearest_mono (le : number ≤ other) : nearest number ≤ nearest other := by
  rcases lt_or_ge 0 number with positive | nonpositive
  · exact nearest_mono_of_pos positive le
  · rcases lt_or_ge other 0 with negative | nonnegative
    · have mirrored := nearest_mono_of_pos (neg_pos.mpr negative) (neg_le_neg le)
      rw [nearest_neg, nearest_neg] at mirrored
      exact neg_le_neg_iff.mp mirrored
    · have lower := nearest_nonneg (neg_nonneg.mpr nonpositive)
      rw [nearest_neg] at lower
      exact (neg_nonneg.mp lower).trans (nearest_nonneg nonnegative)

theorem nearest_le_of_representable (bound : Representable other) (le : number ≤ other) :
    nearest number ≤ other :=
  (nearest_mono le).trans_eq (nearest_of_representable bound)

theorem le_nearest_of_representable (bound : Representable number) (le : number ≤ other) :
    number ≤ nearest other :=
  (nearest_of_representable bound).symm.trans_le (nearest_mono le)

theorem abs_nearest_le {bound : ℚ} (representable : Representable bound) (le : |number| ≤ bound) :
    |nearest number| ≤ bound := by
  obtain ⟨lower, upper⟩ := abs_le.mp le
  exact abs_le.mpr ⟨le_nearest_of_representable representable.neg lower,
    nearest_le_of_representable representable upper⟩

/-- Below a power of two, rounding misses a number by no more than half the last place there. -/
theorem nearest_error_le {exponent : ℤ} (small : |number| < 2 ^ (exponent + 53))
    (least : -1074 ≤ exponent) : |nearest number - number| ≤ 2 ^ exponent / 2 := by
  rcases eq_or_ne number 0 with rfl | nonzero
  · rw [nearest_zero, sub_self, abs_zero]
    positivity
  · exact (nearest_error number).trans
      (div_le_div_of_nonneg_right (two_zpow_le.mpr (lastPlace_le small least nonzero))
        (by norm_num))

theorem nearest_relative (normal : (2 : ℚ) ^ (-1022 : ℤ) ≤ |number|) :
    |nearest number - number| ≤ |number| / 2 ^ 53 := by
  have positive : 0 < |number| := (two_zpow_pos _).trans_le normal
  have place : lastPlace number = Int.log 2 |number| - 52 := by
    have above := (Int.zpow_le_iff_le_log (b := 2) (by norm_num) positive).mp
      (by exact_mod_cast normal)
    unfold lastPlace
    omega
  have power : (2 : ℚ) ^ Int.log 2 |number| ≤ |number| := by
    exact_mod_cast Int.zpow_log_le_self (b := 2) (by norm_num) positive
  have unit : (2 : ℚ) ^ lastPlace number = 2 ^ Int.log 2 |number| * (2 / 2 ^ 53) := by
    rw [place, sub_eq_add_neg, two_zpow_add]
    norm_num
  have error := nearest_error number
  rw [unit] at error
  linarith [div_le_div_of_nonneg_right power (by norm_num : (0 : ℚ) ≤ 2 ^ 53)]

theorem nearest_error_sum (number : ℚ) :
    |nearest number - number| ≤ |number| / 2 ^ 53 + 2 ^ (-1075 : ℤ) := by
  have least : (0 : ℚ) < 2 ^ (-1075 : ℤ) := two_zpow_pos _
  rcases le_or_gt ((2 : ℚ) ^ (-1022 : ℤ)) |number| with normal | subnormal
  · exact (nearest_relative normal).trans (le_add_of_nonneg_right least.le)
  · have small : |number| < 2 ^ (-1074 + 53 : ℤ) := subnormal.trans (two_zpow_lt.mpr (by norm_num))
    have error := nearest_error_le small le_rfl
    have half : (2 : ℚ) ^ (-1074 + -1 : ℤ) = 2 ^ (-1074 : ℤ) / 2 := by
      rw [two_zpow_add, zpow_neg_one, div_eq_mul_inv]
    rw [← half] at error
    exact error.trans (le_add_of_nonneg_left (by positivity))

end CanvasChart.Binary64
