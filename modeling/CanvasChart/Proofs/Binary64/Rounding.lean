import CanvasChart.Proofs.Binary64.Values

set_option autoImplicit false

/-! The digits that the operations keep. Shifted digits with two bits for what was dropped stand
for the exact number, and rounding them gives the nearest number of the format. -/

namespace CanvasChart.Binary64

open Float.Model UnpackedFloat

/-! ### Digits and what was dropped after them -/

/-- The mantissa is the whole part of the number. The round bit tells which half of the next unit
the number is in, the sticky bit whether it is off the beginning of that half. -/
def Stands (digits : ExtendedMantissa) (number : ℚ) : Prop :=
  match digits.roundBit, digits.stickyBit with
  | false, false => number = digits.mantissa
  | false, true => digits.mantissa < number ∧ number < digits.mantissa + 1 / 2
  | true, false => number = digits.mantissa + 1 / 2
  | true, true => digits.mantissa + 1 / 2 < number ∧ number < digits.mantissa + 1

variable {digits : ExtendedMantissa} {number : ℚ}

theorem Stands.between (stands : Stands digits number) :
    digits.mantissa ≤ number ∧ number < digits.mantissa + 1 := by
  obtain ⟨mantissa, _ | _, _ | _⟩ := digits <;> simp only [Stands] at stands ⊢ <;>
    constructor <;> linarith

theorem Stands.roundedMantissa_eq (stands : Stands digits number) :
    (digits.roundedMantissa : ℤ) = roundEven number := by
  symm
  obtain ⟨mantissa, _ | _, _ | _⟩ := digits <;>
    simp only [Stands] at stands <;>
    simp only [ExtendedMantissa.roundedMantissa, ExtendedMantissa.accuracy,
      Accuracy.roundToNearestEven]
  · rw [stands]
    exact_mod_cast roundEven_intCast mantissa
  · have distance : number - ((mantissa : ℕ) : ℤ) < 1 / 2 := by
      rw [Int.cast_natCast]
      linarith
    have above : 0 < number - ((mantissa : ℕ) : ℤ) := by
      rw [Int.cast_natCast]
      linarith
    refine roundEven_unique (abs_le.mpr ⟨by linarith, distance.le⟩) fun half => ?_
    rw [abs_of_pos above] at half
    exact absurd half distance.ne
  · -- halfway; the even neighbour is taken
    have parity : ((mantissa + mantissa % 2 : ℕ) : ℤ) % 2 = 0 := by omega
    refine roundEven_unique ?_ fun _half => parity
    rw [stands]
    rcases Nat.mod_two_eq_zero_or_one mantissa with rest | rest <;> rw [rest, abs_le] <;>
      push_cast <;> constructor <;> linarith
  · have distance : -(1 / 2) < number - ((mantissa + 1 : ℕ) : ℤ) := by
      push_cast
      linarith
    have below : number - ((mantissa + 1 : ℕ) : ℤ) < 0 := by
      push_cast
      linarith
    refine roundEven_unique (abs_le.mpr ⟨distance.le, by linarith⟩) fun half => ?_
    rw [abs_of_neg below] at half
    exact absurd half (by linarith)

theorem Stands.shiftRightOne (stands : Stands digits number) :
    Stands digits.shiftRightOne (number / 2) := by
  obtain ⟨mantissa, roundBit, stickyBit⟩ := digits
  have parts : (mantissa : ℚ) = 2 * (mantissa / 2 : ℕ) + (mantissa % 2 : ℕ) := by
    exact_mod_cast (Nat.div_add_mod mantissa 2).symm
  rcases Nat.mod_two_eq_zero_or_one mantissa with rest | rest
  · have bit : (mantissa % 2 != 0) = false := by rw [rest]; rfl
    rw [rest, Nat.cast_zero] at parts
    cases roundBit <;> cases stickyBit <;>
      simp only [Stands, ExtendedMantissa.shiftRightOne, bit, Bool.or_false, Bool.or_true]
        at stands ⊢ <;>
      (try constructor) <;> linarith
  · have bit : (mantissa % 2 != 0) = true := by rw [rest]; rfl
    rw [rest, Nat.cast_one] at parts
    cases roundBit <;> cases stickyBit <;>
      simp only [Stands, ExtendedMantissa.shiftRightOne, bit, Bool.or_false, Bool.or_true]
        at stands ⊢ <;>
      (try constructor) <;> linarith

theorem Stands.shift (stands : Stands digits number) (count : ℕ) :
    Stands (Nat.repeat ExtendedMantissa.shiftRightOne count digits) (number / 2 ^ count) := by
  induction count with
  | zero => rwa [pow_zero, div_one]
  | succ count ih =>
      rw [pow_succ, ← div_div]
      exact ih.shiftRightOne

private theorem ofMantissaAndAccuracy_mantissa (mantissa : ℕ) (accuracy : Accuracy) :
    (ExtendedMantissa.ofMantissaAndAccuracy mantissa accuracy).mantissa = mantissa := by
  rcases accuracy with _ | (_ | _ | _) <;> rfl

theorem stands_exact (mantissa : ℕ) :
    Stands (ExtendedMantissa.ofMantissaAndAccuracy mantissa .exact) mantissa := rfl

theorem stands_fraction (mantissa : ℕ) {remainder divisor : ℕ} (less : remainder < divisor) :
    Stands (ExtendedMantissa.ofMantissaAndAccuracy mantissa (accuracyOfFraction remainder divisor))
      (mantissa + remainder / divisor) := by
  have positive : (0 : ℚ) < divisor := by exact_mod_cast less.pos
  have proper : (remainder : ℚ) / divisor < 1 :=
    (div_lt_one positive).mpr (by exact_mod_cast less)
  unfold accuracyOfFraction
  split
  case isTrue zero =>
    rw [zero, Nat.cast_zero, zero_div, add_zero]
    exact stands_exact mantissa
  case isFalse nonzero =>
    have some : (0 : ℚ) < remainder / divisor :=
      div_pos (by exact_mod_cast Nat.pos_of_ne_zero nonzero) positive
    cases compared : compare (2 * remainder) divisor with
    | lt =>
        have below : ((2 * remainder : ℕ) : ℚ) < divisor := by
          exact_mod_cast Std.compare_eq_lt.mp compared
        push_cast at below
        have half : (remainder : ℚ) / divisor < 1 / 2 := by
          rw [div_lt_iff₀ positive]
          linarith
        change (mantissa : ℚ) < _ ∧ _ < (mantissa : ℚ) + 1 / 2
        constructor <;> linarith
    | eq =>
        have same : ((2 * remainder : ℕ) : ℚ) = divisor := by
          exact_mod_cast Std.compare_eq_iff_eq.mp compared
        push_cast at same
        have half : (remainder : ℚ) / divisor = 1 / 2 := by
          rw [div_eq_iff positive.ne']
          linarith
        exact congrArg ((mantissa : ℚ) + ·) half
    | gt =>
        have above : (divisor : ℚ) < (2 * remainder : ℕ) := by
          exact_mod_cast Std.compare_eq_gt.mp compared
        push_cast at above
        have half : 1 / 2 < (remainder : ℚ) / divisor := by
          rw [lt_div_iff₀ positive]
          linarith
        change (mantissa : ℚ) + 1 / 2 < _ ∧ _ < (mantissa : ℚ) + 1
        constructor <;> linarith

/-! ### Rounding to the format -/

def target (mantissa : ℕ) (exponent : ℤ) : ℤ := max (mantissa.log2 + 1 + exponent - 53) (-1074)

private theorem shiftToTargetExponent_eq (mantissa : ℕ) (exponent : ℤ) (accuracy : Accuracy) :
    shiftToTargetExponent .binary64 mantissa exponent accuracy =
      (Nat.repeat ExtendedMantissa.shiftRightOne (target mantissa exponent - exponent).toNat
          (ExtendedMantissa.ofMantissaAndAccuracy mantissa accuracy),
        exponent + (target mantissa exponent - exponent).toNat) := rfl

private theorem shiftToTargetExponent_exact_of_lt {mantissa : ℕ} {exponent : ℤ}
    (small : mantissa < 2 ^ 53) (least : -1074 ≤ exponent) :
    shiftToTargetExponent .binary64 mantissa exponent .exact =
      (⟨mantissa, false, false⟩, exponent) := by
  have logarithm : mantissa.log2 ≤ 52 := by
    rcases Nat.eq_zero_or_pos mantissa with rfl | positive
    · decide
    · exact Nat.le_of_lt_succ ((Nat.log2_lt positive.ne').mpr small)
  have stays : (target mantissa exponent - exponent).toNat = 0 := by
    unfold target
    omega
  rw [shiftToTargetExponent_eq, stays]
  simp only [Nat.repeat, ExtendedMantissa.ofMantissaAndAccuracy, Nat.cast_zero, add_zero]

private theorem shiftToTargetExponent_exact_pow {exponent : ℤ} (least : -1074 ≤ exponent) :
    shiftToTargetExponent .binary64 (2 ^ 53) exponent .exact =
      (⟨2 ^ 52, false, false⟩, exponent + 1) := by
  have once : (target (2 ^ 53) exponent - exponent).toNat = 1 := by
    rw [target, Nat.log2_two_pow]
    omega
  rw [shiftToTargetExponent_eq, once]
  rfl

private theorem holds_of_rounded (sign : Sign) {mantissa : ℕ} {exponent : ℤ}
    (bounded : mantissa ≤ 2 ^ 53)
    (least : -1074 ≤ exponent) (normal : 2 ^ 52 ≤ mantissa ∨ exponent = -1074) :
    Holds sign (mantissa * 2 ^ exponent)
      (if h : (shiftToTargetExponent .binary64 mantissa exponent .exact).1.mantissa = 0 then
        .zero sign
      else .finite sign (shiftToTargetExponent .binary64 mantissa exponent .exact).1.mantissa
        (shiftToTargetExponent .binary64 mantissa exponent .exact).2 (Nat.pos_of_ne_zero h)) := by
  rcases bounded.lt_or_eq with small | rfl
  · simp only [shiftToTargetExponent_exact_of_lt small least]
    split
    case isTrue zero => exact ⟨rfl, by rw [zero, Nat.cast_zero, zero_mul]⟩
    case isFalse => exact ⟨rfl, rfl, small, least, normal⟩
  · simp only [shiftToTargetExponent_exact_pow least]
    rw [dif_neg (by decide)]
    refine ⟨rfl, ?_, by decide, by omega, .inl le_rfl⟩
    rw [two_zpow_add]
    norm_num
    ring

section Target

variable {mantissa : ℕ} {exponent : ℤ}

/-- Enough digits to choose the last place from, or a last place that is fixed. -/
def Enough (mantissa : ℕ) (exponent : ℤ) : Prop := 2 ^ 52 ≤ mantissa ∨ exponent ≤ -1074

theorem Enough.le_target (enough : Enough mantissa exponent) :
    exponent ≤ target mantissa exponent := by
  unfold target
  rcases enough with many | low
  · have logarithm : 52 ≤ mantissa.log2 := (Nat.le_log2 (by omega)).mpr many
    omega
  · omega

/-- The digits are shifted to the last place that is kept of the number. -/
theorem Enough.target_eq (enough : Enough mantissa exponent) (above : mantissa ≤ number)
    (below : number < mantissa + 1) (nonzero : number ≠ 0) :
    target mantissa exponent = lastPlace (number * 2 ^ exponent) := by
  have unit := two_zpow_pos exponent
  have positive : 0 < number := lt_of_le_of_ne ((Nat.cast_nonneg mantissa).trans above) nonzero.symm
  have scaled : |number * 2 ^ exponent| = number * 2 ^ exponent :=
    abs_of_pos (mul_pos positive unit)
  rcases Nat.eq_zero_or_pos mantissa with none | some
  · have low : exponent ≤ -1074 := by
      rcases enough with many | low
      · omega
      · exact low
    have small : Int.log 2 |number * 2 ^ exponent| < exponent := by
      rw [← Int.lt_zpow_iff_log_lt (by norm_num) (by rw [scaled]; positivity), scaled]
      rw [none, Nat.cast_zero, zero_add] at below
      exact_mod_cast mul_lt_of_lt_one_left unit below
    rw [target, lastPlace, none, Nat.log2_zero]
    omega
  · have least : (2 ^ mantissa.log2 : ℚ) ≤ number := by
      refine above.trans' ?_
      exact_mod_cast Nat.log2_self_le some.ne'
    have greatest : number < 2 ^ (mantissa.log2 + 1) := by
      refine below.trans_le ?_
      exact_mod_cast Nat.lt_log2_self
    have logarithm : Int.log 2 |number * 2 ^ exponent| = mantissa.log2 + exponent := by
      refine log_eq ?_ ?_ <;> rw [scaled]
      · rw [two_zpow_add, zpow_natCast]
        exact mul_le_mul_of_nonneg_right least unit.le
      · rw [add_right_comm, two_zpow_add]
        exact mul_lt_mul_of_pos_right (by exact_mod_cast greatest) unit
    rw [target, lastPlace, logarithm]
    congr 1
    ring

private theorem roundEven_target (enough : Enough mantissa exponent) {shift : ℕ}
    (shifted : exponent + shift = target mantissa exponent) (above : mantissa ≤ number)
    (below : number < mantissa + 1) :
    roundEven (number / 2 ^ shift) ≤ 2 ^ 53 ∧
      (2 ^ 52 ≤ roundEven (number / 2 ^ shift) ∨ target mantissa exponent = -1074) := by
  have unit : (0 : ℚ) < 2 ^ shift := by positivity
  have digits : mantissa.log2 + 1 ≤ 53 + shift := by
    unfold target at shifted
    omega
  have greatest : number / 2 ^ shift ≤ ((2 ^ 53 : ℤ) : ℚ) := by
    rw [div_le_iff₀ unit]
    have power : mantissa + 1 ≤ 2 ^ (53 + shift) :=
      (Nat.succ_le_of_lt Nat.lt_log2_self).trans (Nat.pow_le_pow_right (by decide) digits)
    rw [Nat.pow_add] at power
    exact below.le.trans (by exact_mod_cast power)
  have bounded := roundEven_mono greatest
  rw [roundEven_intCast] at bounded
  refine ⟨bounded, ?_⟩
  by_cases least : target mantissa exponent = -1074
  · exact .inr least
  · left
    have many : 52 + shift = mantissa.log2 := by
      unfold target at shifted least
      omega
    have some : mantissa ≠ 0 := by
      rintro rfl
      rw [Nat.log2_zero] at many
      omega
    have smallest : ((2 ^ 52 : ℤ) : ℚ) ≤ number / 2 ^ shift := by
      rw [le_div_iff₀ unit]
      have power : 2 ^ (52 + shift) ≤ mantissa := by
        rw [many]
        exact Nat.log2_self_le some
      rw [Nat.pow_add] at power
      exact above.trans' (by exact_mod_cast power)
    have filled := roundEven_mono smallest
    rwa [roundEven_intCast] at filled

end Target

/-- Rounding an exact number with the digits and the accuracy that stand for it gives the nearest
number, with the sign. -/
theorem roundWithAccuracy_holds (sign : Sign) {mantissa : ℕ} {exponent : ℤ} {accuracy : Accuracy}
    (stands : Stands (ExtendedMantissa.ofMantissaAndAccuracy mantissa accuracy) number)
    (enough : Enough mantissa exponent) :
    Holds sign (nearest (number * 2 ^ exponent))
      (roundWithAccuracy .binary64 sign mantissa exponent accuracy) := by
  obtain ⟨above, below⟩ := stands.between
  rw [ofMantissaAndAccuracy_mantissa] at above below
  obtain ⟨shift, shifted⟩ := Int.le.dest enough.le_target
  have steps : (target mantissa exponent - exponent).toNat = shift := by omega
  have first := shiftToTargetExponent_eq mantissa exponent accuracy
  rw [steps, shifted] at first
  have rounded := (stands.shift shift).roundedMantissa_eq
  generalize Nat.repeat ExtendedMantissa.shiftRightOne shift
    (ExtendedMantissa.ofMantissaAndAccuracy mantissa accuracy) = kept at first rounded
  obtain ⟨bounded, normal⟩ := roundEven_target enough shifted above below
  have value : nearest (number * 2 ^ exponent) =
      kept.roundedMantissa * 2 ^ target mantissa exponent := by
    have whole : (kept.roundedMantissa : ℚ) = roundEven (number / 2 ^ shift) := by
      exact_mod_cast rounded
    rw [whole]
    rcases eq_or_ne number 0 with rfl | nonzero
    · rw [zero_mul, nearest_zero, zero_div, roundEven_zero, Int.cast_zero, zero_mul]
    · have place := enough.target_eq above below nonzero
      have scaled : number * 2 ^ exponent / 2 ^ target mantissa exponent = number / 2 ^ shift := by
        rw [← shifted, two_zpow_add, zpow_natCast, mul_comm (2 ^ exponent),
          mul_div_mul_right _ _ (two_zpow_pos exponent).ne']
      rw [nearest, ← place, scaled]
  rw [← rounded] at bounded normal
  rw [value, roundWithAccuracy, first]
  exact holds_of_rounded sign (by exact_mod_cast bounded) (le_max_right _ _)
    (normal.imp_left fun many => by exact_mod_cast many)

theorem decreaseExponent_value (mantissa : ℕ) {exponent lower : ℤ} (below : lower ≤ exponent) :
    ((decreaseExponent mantissa exponent lower).1 : ℚ) * 2 ^ lower = mantissa * 2 ^ exponent := by
  obtain ⟨shift, shifted⟩ := Int.le.dest below
  have steps : (exponent - lower).toNat = shift := by omega
  simp only [decreaseExponent, steps, Nat.shiftLeft_eq]
  rw [← shifted, two_zpow_add, zpow_natCast]
  push_cast
  ring

private theorem round_holds (sign : Sign) {mantissa : ℕ} (exponent : ℤ) (positive : 0 < mantissa) :
    Holds sign (nearest (mantissa * 2 ^ exponent))
      (UnpackedFloat.round .binary64 sign mantissa exponent) := by
  have reached : Format.binary64.targetExponent (totalExponent mantissa exponent) =
      target mantissa exponent := rfl
  unfold UnpackedFloat.round
  rw [reached]
  rcases le_total exponent (target mantissa exponent) with below | above
  · -- the exponent stays
    have none : (exponent - target mantissa exponent).toNat = 0 := by omega
    have enough : Enough mantissa exponent := by
      by_cases low : exponent ≤ -1074
      · exact .inr low
      · left
        have many : 52 ≤ mantissa.log2 := by
          unfold target at below
          omega
        exact (Nat.le_log2 positive.ne').mp many
    simp only [decreaseExponent, none, Nat.shiftLeft_zero, Nat.cast_zero, sub_zero]
    exact roundWithAccuracy_holds sign (stands_exact mantissa) enough
  · have value := decreaseExponent_value mantissa above
    obtain ⟨shift, shifted⟩ := Int.le.dest above
    have steps : (exponent - target mantissa exponent).toNat = shift := by omega
    have lowered : exponent - shift = target mantissa exponent := by omega
    simp only [decreaseExponent, steps, lowered] at value ⊢
    have enough : Enough (mantissa <<< shift) (target mantissa exponent) := by
      by_cases low : target mantissa exponent ≤ -1074
      · exact .inr low
      · left
        have many : mantissa.log2 + shift = 52 := by
          unfold target at shifted low
          omega
        rw [Nat.shiftLeft_eq, ← many, Nat.pow_add]
        exact Nat.mul_le_mul_right _ (Nat.log2_self_le positive.ne')
    rw [← value]
    exact roundWithAccuracy_holds sign (stands_exact _) enough

def IsNearest (exact : ℚ) (unpacked : UnpackedFloat) : Prop :=
  ∃ sign magnitude, Holds sign magnitude unpacked ∧ signed sign magnitude = nearest exact

theorem IsNearest.of_holds {sign : Sign} {magnitude : ℚ} {unpacked : UnpackedFloat}
    (holds : Holds sign (nearest magnitude) unpacked) :
    IsNearest (signed sign magnitude) unpacked :=
  ⟨sign, nearest magnitude, holds, (nearest_signed sign magnitude).symm⟩

theorem normalize_isNearest (mantissa : ℤ) (exponent : ℤ) (zeroSign : Sign) :
    IsNearest (mantissa * 2 ^ exponent)
      (UnpackedFloat.normalize .binary64 mantissa exponent zeroSign) := by
  unfold UnpackedFloat.normalize
  cases compared : compare mantissa 0 with
  | lt =>
      have negative := Std.compare_eq_lt.mp compared
      have some : 0 < (-mantissa).toNat := by omega
      have holds := round_holds .negative exponent some
      have magnitude : (((-mantissa).toNat : ℕ) : ℚ) = -mantissa := by
        exact_mod_cast (by omega : ((-mantissa).toNat : ℤ) = -mantissa)
      have mirrored : (mantissa : ℚ) * 2 ^ exponent =
          signed .negative ((-mantissa).toNat * 2 ^ exponent) := by
        rw [magnitude, signed]
        ring
      rw [mirrored]
      exact .of_holds holds
  | eq =>
      rw [Std.compare_eq_iff_eq.mp compared, Int.cast_zero, zero_mul]
      refine ⟨zeroSign, 0, ⟨rfl, rfl⟩, ?_⟩
      rw [nearest_zero]
      cases zeroSign <;> simp [signed]
  | gt =>
      have positive := Std.compare_eq_gt.mp compared
      have some : 0 < mantissa.toNat := by omega
      have holds := round_holds .positive exponent some
      have magnitude : ((mantissa.toNat : ℕ) : ℚ) = mantissa := by
        exact_mod_cast (by omega : (mantissa.toNat : ℤ) = mantissa)
      rw [magnitude] at holds
      have near := IsNearest.of_holds holds
      exact near

end CanvasChart.Binary64
