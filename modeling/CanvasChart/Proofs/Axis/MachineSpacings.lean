import CanvasChart.Proofs.Axis.MachineRange
import CanvasChart.Proofs.Binary64.Infinite

set_option autoImplicit false

/-! Spacings and their counts on machine numbers. Down to the least power of ten of the format
every spacing has a count; below it the spacings are zero and fit without end. -/

namespace CanvasChart.NiceTicks

open Binary64

variable {range spacing : Float} {power : ℤ}

private theorem spacings_machine (power : ℤ) : spacings (α := Float) power =
    factors.map fun factor : ℕ => Float.ofNat factor * Scalar.power 10 power := rfl

/-- A spacing is at least about its power of ten, and may exceed all numbers. -/
private theorem spacing_cases (least : -308 ≤ power) (greatest : power ≤ 308)
    (listed : spacing ∈ spacings power) : spacing = Scalar.infinity ∨
      spacing.isFinite = true ∧ 98 / 100 * 10 ^ power ≤ toRat spacing := by
  rw [spacings_machine, List.mem_map] at listed
  obtain ⟨factor, member, rfl⟩ := listed
  have some : (1 : ℚ) ≤ factor := by exact_mod_cast factor_pos member
  have few : factor ≤ 2 ^ 53 := by
    revert factor
    decide
  have unit := power_tenfold least greatest
  obtain ⟨factorFinite, value⟩ := toRat_ofNat few
  have product := mul_rounds factorFinite unit.isFinite
  rw [value] at product
  have above : toRat (Scalar.power (10 : Float) power) ≤
      nearest (factor * toRat (Scalar.power (10 : Float) power)) :=
    le_nearest_of_representable (representable_toRat _) (le_mul_of_one_le_left unit.pos.le some)
  rcases le_or_gt overflowBound
    (nearest (factor * toRat (Scalar.power (10 : Float) power))) with overflow | fits
  · exact .inl (product.overflow overflow)
  · rw [← abs_of_nonneg (unit.pos.le.trans above)] at fits
    refine .inr ⟨product.isFinite_iff.mpr fits, ?_⟩
    rw [product.toRat_eq fits]
    exact unit.above.trans above

theorem spacing_eq_zero (least : -329 ≤ power) (greatest : power < -308)
    (listed : spacing ∈ spacings power) : spacing = 0 := by
  have unit : Scalar.power (10 : Float) power = 1 / Scalar.infinity := by
    cases power with
    | ofNat exponent =>
        rw [Int.ofNat_eq_natCast] at greatest
        omega
    | negSucc exponent =>
        have infinite : Scalar.powerNat (10 : Float) (exponent + 1) = Scalar.infinity :=
          powerNat_infinity (by omega) (by omega)
        simp only [Scalar.power, infinite]
  have zeros : ∀ spacing ∈ factors.map fun factor : ℕ =>
      Float.ofNat factor * (1 / Scalar.infinity), spacing = 0 := by decide
  rw [spacings_machine, unit] at listed
  exact zeros spacing listed

/-! ### Counts -/

private theorem slack_machine : (countingSlack : Float).isFinite = true ∧
    0 < toRat (countingSlack : Float) ∧ toRat (countingSlack : Float) ≤ 1 / 10 ^ 7 := by
  have taken : parts (countingSlack : Float) = .finite false 6044629098073146 (-79) := by
    rfl
  obtain ⟨finite, value, _small⟩ := toRat_of_parts taken
  rw [value]
  norm_num
  exact finite

private theorem toCount_wholeSteps (finite : (range / spacing).isFinite = true)
    (nonneg : 0 ≤ toRat (range / spacing)) (small : toRat (range / spacing) ≤ 1024) :
    (Scalar.toCount (wholeSteps range spacing) : ℤ) =
        ⌊nearest (toRat (range / spacing) + toRat (countingSlack : Float))⌋ ∧
      Scalar.toCount (wholeSteps range spacing) ≤ 1025 := by
  obtain ⟨slackFinite, some, little⟩ := slack_machine
  have bounded : |toRat (range / spacing) + toRat (countingSlack : Float)| ≤ (1025 : ℕ) := by
    rw [abs_of_nonneg (by positivity)]
    norm_num at little ⊢
    linarith
  obtain ⟨sumFinite, sum, rounded⟩ :=
    (add_rounds finite slackFinite).of_abs_le_natCast (by norm_num) bounded
  obtain ⟨floorFinite, value⟩ := toRat_floor sumFinite
  rw [sum] at value
  let whole := ⌊nearest (toRat (range / spacing) + toRat (countingSlack : Float))⌋
  have least : 0 ≤ whole := Int.floor_nonneg.mpr (nearest_nonneg (by positivity))
  have greatest : whole ≤ (1025 : ℕ) := by
    exact_mod_cast (Int.floor_le _).trans ((le_abs_self _).trans rounded)
  have count : (Scalar.toCount (wholeSteps range spacing) : ℤ) = whole := by
    have taken := toCount_eq floorFinite (by rw [value]; exact_mod_cast least)
    rw [value, Int.floor_intCast, min_eq_left (greatest.trans (by decide))] at taken
    exact taken
  exact ⟨count, by omega⟩

section Range

variable (least : -308 ≤ power) (greatest : power ≤ 308) (finite : range.isFinite = true)
  (positive : 0 < toRat range) (below : toRat range < 10 ^ (power + 3))
  (listed : spacing ∈ spacings power)

include least greatest finite positive below listed

private theorem quotient_cases : (range / spacing).isFinite = true ∧
    0 ≤ toRat (range / spacing) ∧ toRat (range / spacing) ≤ 1024 ∧
    (toRat (range / spacing) = 0 ∨ spacing.isFinite = true ∧ 0 < toRat spacing ∧
      toRat (range / spacing) = nearest (toRat range / toRat spacing)) := by
  rcases spacing_cases least greatest listed with rfl | ⟨spacingFinite, above⟩
  · obtain ⟨quotientFinite, zero⟩ := div_infinity finite
    rw [zero]
    exact ⟨quotientFinite, le_rfl, by norm_num, .inl rfl⟩
  · have unit : (0 : ℚ) < 10 ^ power := by positivity
    have divisor : 0 < toRat spacing := by linarith
    have quotient : 0 ≤ toRat range / toRat spacing := by positivity
    have small : |toRat range / toRat spacing| ≤ (1024 : ℕ) := by
      rw [zpow_add₀ (by norm_num)] at below
      rw [abs_of_nonneg quotient, div_le_iff₀ divisor]
      norm_num at below ⊢
      linarith
    obtain ⟨quotientFinite, value, rounded⟩ :=
      (div_rounds finite spacingFinite divisor.ne').of_abs_le_natCast (by norm_num) small
    rw [value]
    exact ⟨quotientFinite, nearest_nonneg quotient,
      (le_abs_self _).trans (by exact_mod_cast rounded), .inr ⟨spacingFinite, divisor, rfl⟩⟩

theorem countAt_le : countAt range spacing ≤ 1026 := by
  obtain ⟨quotientFinite, nonneg, small, _cases⟩ :=
    quotient_cases least greatest finite positive below listed
  exact Nat.succ_le_succ (toCount_wholeSteps quotientFinite nonneg small).2

/-- A spacing that gives three ticks or more is a number, and the last tick is at most a part in
one thousand beyond the range. -/
theorem spacing_of_count (three : 3 ≤ countAt range spacing) :
    spacing.isFinite = true ∧ 0 < toRat spacing ∧
      ((countAt range spacing : ℚ) - 1) * toRat spacing ≤ toRat range * (1001 / 1000) := by
  obtain ⟨quotientFinite, nonneg, small, shape⟩ :=
    quotient_cases least greatest finite positive below listed
  obtain ⟨_slackFinite, some, little⟩ := slack_machine
  obtain ⟨count, _bounded⟩ := toCount_wholeSteps quotientFinite nonneg small
  have counts : (countAt range spacing : ℚ) - 1 =
      ⌊nearest (toRat (range / spacing) + toRat (countingSlack : Float))⌋ := by
    rw [← count, countAt]
    push_cast
    ring
  have two : (2 : ℚ) ≤ countAt range spacing - 1 := by
    have cast : ((3 : ℕ) : ℚ) ≤ countAt range spacing := Nat.cast_le.mpr three
    push_cast at cast
    linarith
  have part := Int.floor_le (nearest (toRat (range / spacing) + toRat (countingSlack : Float)))
  rw [← counts] at part
  rcases shape with zero | ⟨spacingFinite, divisor, quotient⟩
  · have one : toRat (range / spacing) + toRat (countingSlack : Float) ≤ (1 : ℕ) := by
      rw [zero, zero_add]
      norm_num at little ⊢
      linarith
    have bound := nearest_le_of_representable (representable_natCast (by norm_num)) one
    push_cast at bound
    linarith
  · refine ⟨spacingFinite, divisor, ?_⟩
    have tiny : (2 : ℚ) ^ (-1075 : ℤ) ≤ 10 ^ (-(3 * (3 : ℕ)) : ℤ) :=
      (two_zpow_le.mpr (by norm_num)).trans (two_zpow_le_ten_zpow 3)
    have share : 0 ≤ toRat range / toRat spacing := by positivity
    have sum : 0 ≤ toRat (range / spacing) + toRat (countingSlack : Float) := by positivity
    have first := (abs_le.mp (nearest_error_sum (toRat range / toRat spacing))).2
    have second := (abs_le.mp (nearest_error_sum
      (toRat (range / spacing) + toRat (countingSlack : Float)))).2
    rw [abs_of_nonneg share, ← quotient] at first
    rw [abs_of_nonneg sum] at second
    have fits : (countAt range spacing : ℚ) - 1 ≤ toRat range / toRat spacing * (1001 / 1000) := by
      generalize (2 : ℚ) ^ (-1075 : ℤ) = half at tiny first second
      norm_num at tiny little
      linarith
    calc ((countAt range spacing : ℚ) - 1) * toRat spacing
        ≤ toRat range / toRat spacing * (1001 / 1000) * toRat spacing :=
          mul_le_mul_of_nonneg_right fits divisor.le
      _ = toRat range * (1001 / 1000) := by field_simp

end Range

end CanvasChart.NiceTicks
