import CanvasChart.Proofs.Binary64.Packing

set_option autoImplicit false

/-! Operations that give numbers. Rounding makes a number of every mantissa and exponent, so that
only infinities and divisions by zero can lead out of the numbers. -/

namespace CanvasChart.Binary64

open Float.Model UnpackedFloat

variable {left right value : Float}

theorem isNaN_of_isFinite (finite : value.isFinite = true) : value.isNaN = false := by
  change value.toModel.unpack.isFinite = true at finite
  refine isNaN_eq_false_iff.mpr fun noNumber => ?_
  rw [noNumber] at finite
  cases finite

private theorem roundWithAccuracy_ne_notANumber (sign : Sign) (mantissa : Nat) (exponent : Int)
    (accuracy : Accuracy) :
    roundWithAccuracy .binary64 sign mantissa exponent accuracy ≠ .notANumber := by
  unfold roundWithAccuracy
  dsimp only
  split <;> exact UnpackedFloat.noConfusion

private theorem mul_ne_notANumber {first second : UnpackedFloat}
    (firstFinite : first.isFinite = true) (secondFinite : second.isFinite = true) :
    UnpackedFloat.mul .binary64 first second ≠ .notANumber := by
  cases first with
  | notANumber | infinity => cases firstFinite
  | zero =>
      cases second with
      | notANumber | infinity => cases secondFinite
      | zero | finite => exact UnpackedFloat.noConfusion
  | finite =>
      cases second with
      | notANumber | infinity => cases secondFinite
      | zero => exact UnpackedFloat.noConfusion
      | finite => exact roundWithAccuracy_ne_notANumber _ _ _ _

private theorem div_ne_notANumber {dividend : UnpackedFloat} (number : dividend ≠ .notANumber)
    (sign : Sign) {mantissa : Nat} (exponent : Int) (positive : 0 < mantissa) :
    UnpackedFloat.div .binary64 dividend (.finite sign mantissa exponent positive) ≠
      .notANumber := by
  cases dividend with
  | notANumber => exact absurd rfl number
  | infinity | zero => exact UnpackedFloat.noConfusion
  | finite => exact roundWithAccuracy_ne_notANumber _ _ _ _

theorem isNaN_mul (leftFinite : left.isFinite = true) (rightFinite : right.isFinite = true) :
    (left * right).isNaN = false :=
  isNaN_ofModel_pack (mul_ne_notANumber leftFinite rightFinite)

theorem isNaN_div (number : left.isNaN = false) (divisor : right.isFinite = true)
    (nonzero : (right == 0) = false) : (left / right).isNaN = false := by
  refine isNaN_ofModel_pack ?_
  change right.toModel.unpack.isFinite = true at divisor
  change right.toModel.unpack.beq (0 : Float).toModel.unpack = false at nonzero
  have origin : (0 : Float).toModel.unpack = .zero .positive := rfl
  rw [origin] at nonzero
  cases unpacked : right.toModel.unpack with
  | notANumber | infinity =>
      rw [unpacked] at divisor
      cases divisor
  | zero =>
      rw [unpacked] at nonzero
      cases nonzero
  | finite sign mantissa exponent positive =>
      exact div_ne_notANumber (isNaN_eq_false_iff.mp number) sign exponent positive

private theorem isNaN_neg (number : value.isNaN = false) : (-value).isNaN = false := by
  refine isNaN_ofModel_pack ?_
  have ne := isNaN_eq_false_iff.mp number
  cases unpacked : value.toModel.unpack with
  | notANumber => exact absurd unpacked ne
  | infinity | zero | finite => exact UnpackedFloat.noConfusion

private theorem ofScientific_ne_notANumber (digits : Nat) :
    UnpackedFloat.ofScientific .binary64 digits 0 ≠ .notANumber := by
  rcases Nat.eq_zero_or_pos digits with rfl | positive
  · exact UnpackedFloat.noConfusion
  · obtain ⟨scaledPositive, same⟩ := ofScientific_whole positive
    rw [same]
    exact mul_ne_notANumber rfl rfl

theorem isNaN_ofNat (whole : Nat) : (Float.ofNat whole).isNaN = false := by
  by_cases small : whole < 2 ^ 64
  · exact isNaN_of_isFinite (isFinite_ofNat small)
  · have large : ¬ (whole < 2 ^ 53 ∧ 0 ≤ 22) := by omega
    change (Float.ofScientific whole false 0).isNaN = false
    rw [Float.ofScientific, dif_neg large]
    exact isNaN_ofModel_pack (ofScientific_ne_notANumber whole)

theorem isNaN_roundWith (rounding : Rounding) (number : value.isNaN = false) :
    (roundWith rounding value).isNaN = false := by
  unfold roundWith
  split
  case h_1 =>
    dsimp only
    split
    · exact isNaN_neg (isNaN_ofNat _)
    · exact isNaN_ofNat _
  case h_2 => exact number

/-! ### Infinity -/

theorem isNaN_infinity : (Scalar.infinity : Float).isNaN = false := rfl

private theorem rank_infinity : rank Scalar.infinity = .of 2 0 0 := rfl

private theorem not_rank_infinity_lt (unpacked : UnpackedFloat) :
    ¬ Rank.of 2 0 0 < rankOf unpacked := by
  rcases unpacked with (_ | _) | _ | _ | ⟨_ | _, mantissa, exponent, positive⟩ <;>
    simp [rankOf, Rank.of_lt_of]

private theorem eq_infinity_of_rank {unpacked : UnpackedFloat}
    (greatest : rankOf unpacked = .of 2 0 0) : unpacked = .infinity .positive := by
  rcases unpacked with (_ | _) | _ | _ | ⟨_ | _, mantissa, exponent, positive⟩ <;>
    simp [rankOf, Rank.of_inj] at greatest
  rfl

private theorem rank_neg_infinity : rank (-Scalar.infinity) = .of (-2) 0 0 := rfl

private theorem rank_of_isFinite {unpacked : UnpackedFloat} (finite : unpacked.isFinite = true) :
    Rank.of (-2) 0 0 < rankOf unpacked ∧ rankOf unpacked < Rank.of 2 0 0 := by
  cases unpacked with
  | notANumber | infinity => cases finite
  | zero => simp [rankOf, Rank.of_lt_of]
  | finite sign => cases sign <;> simp [rankOf, Rank.of_lt_of]

private theorem lt_infinity (finite : value.isFinite = true) : value < Scalar.infinity := by
  rw [lt_iff (isNaN_of_isFinite finite) isNaN_infinity, rank_infinity]
  exact (rank_of_isFinite finite).2

private theorem neg_infinity_lt (finite : value.isFinite = true) : -Scalar.infinity < value := by
  rw [lt_iff (isNaN_neg isNaN_infinity) (isNaN_of_isFinite finite), rank_neg_infinity]
  exact (rank_of_isFinite finite).1

theorem min_infinity (finite : value.isFinite = true) :
    Scalar.min Scalar.infinity value = value := by
  rw [Scalar.min, isNaN_eq, isNaN_infinity, if_neg Bool.false_ne_true, if_pos (lt_infinity finite)]

theorem max_neg_infinity (finite : value.isFinite = true) :
    Scalar.max (-Scalar.infinity) value = value := by
  rw [Scalar.max, isNaN_eq, isNaN_neg isNaN_infinity, if_neg Bool.false_ne_true,
    if_pos (neg_infinity_lt finite)]

theorem le_infinity (number : value.isNaN = false) : value ≤ Scalar.infinity := by
  rw [le_iff number isNaN_infinity, rank_infinity]
  exact not_lt.mp (not_rank_infinity_lt _)

theorem eq_infinity_of_le (above : Scalar.infinity ≤ value) : value = Scalar.infinity := by
  have number := (isNaN_of_le above).2
  rw [le_iff isNaN_infinity number, rank_infinity] at above
  have greatest := le_antisymm (not_lt.mp (not_rank_infinity_lt value.toModel.unpack)) above
  rw [← ofModel_pack_unpack value, eq_infinity_of_rank greatest]
  rfl

/-! ### Zeros -/

private theorem zero_or_neg_zero_of_beq_zero (zero : (value == 0) = true) :
    value = 0 ∨ value = -0 := by
  obtain ⟨_number, _zeroNumber, same⟩ := Float.beq_iff_ne_nan_and_eq.mp zero
  rcases same with same | ⟨same, _opposite⟩ | ⟨same, _opposite⟩
  · exact .inl same
  · exact .inl same
  · exact .inr same

theorem eq_of_beq (same : (left == right) = true) (nonzero : (left == 0) = false) :
    left = right := by
  obtain ⟨_number, _otherNumber, same⟩ := Float.beq_iff_ne_nan_and_eq.mp same
  rcases same with same | ⟨rfl, _opposite⟩ | ⟨rfl, _opposite⟩
  · exact same
  · cases nonzero
  · cases nonzero

/-- Adding to zero keeps a number, but for the sign of a zero. -/
theorem zero_add_eq (value : Float) : 0 + value = value ∨ (0 + value == value) = true := by
  have origin : (0 : Float).toModel.unpack = .zero .positive := rfl
  have sum : 0 + value =
      .ofModel (.pack (UnpackedFloat.add .binary64 (.zero .positive) value.toModel.unpack)) := by
    rw [← origin]
    rfl
  have restored := ofModel_pack_unpack value
  rw [sum]
  cases unpacked : value.toModel.unpack with
  | notANumber | infinity | finite =>
      left
      rwa [unpacked] at restored
  | zero sign =>
      right
      rw [unpacked] at restored
      rw [← restored]
      cases sign <;> rfl

theorem isFinite_of_beq_zero (zero : (value == 0) = true) : value.isFinite = true := by
  rcases zero_or_neg_zero_of_beq_zero zero with rfl | rfl <;> rfl

theorem add_one_of_zero (zero : (value == 0) = true) : value + 1 = 1 := by
  rcases zero_or_neg_zero_of_beq_zero zero with rfl | rfl <;> rfl

end CanvasChart.Binary64
