import CanvasChart.Proofs.Binary64.Arithmetic

set_option autoImplicit false

/-! Operations with zero and infinity where the exact result says nothing. What is lost to an
infinity does not come back: dividing by infinity gives zero, or no number at all. -/

namespace CanvasChart.Binary64

open Float.Model UnpackedFloat

variable {value other : Float}

private theorem isNaN_eq_true_iff : value.isNaN = true ↔ value.toModel.unpack = .notANumber := by
  rw [← Bool.not_eq_false, isNaN_eq_false_iff, not_not]

private theorem isNaN_pack_notANumber : (Float.ofModel (.pack .notANumber)).isNaN = true := by
  rfl

private theorem isFinite_pack_infinity (sign : Sign) :
    (Float.ofModel (.pack (.infinity sign))).isFinite = false := by
  cases sign <;> rfl

private theorem toRat_pack_zero (sign : Sign) :
    (Float.ofModel (.pack (.zero sign))).isFinite = true ∧
      toRat (Float.ofModel (.pack (.zero sign))) = 0 := by
  cases sign <;> exact ⟨rfl, rfl⟩

theorem isFinite_mul_infinity (value : Float) : (value * Scalar.infinity).isFinite = false := by
  change (Float.ofModel (.pack
    (UnpackedFloat.mul .binary64 value.toModel.unpack (.infinity .positive)))).isFinite = false
  cases value.toModel.unpack with
  | notANumber => rfl
  | zero sign => cases sign <;> rfl
  | infinity | finite => exact isFinite_pack_infinity _

theorem isNaN_div_infinity (infinite : value.isFinite = false) :
    (value / Scalar.infinity).isNaN = true := by
  change (Float.ofModel (.pack
    (UnpackedFloat.div .binary64 value.toModel.unpack (.infinity .positive)))).isNaN = true
  change value.toModel.unpack.isFinite = false at infinite
  cases unpacked : value.toModel.unpack with
  | notANumber | infinity => exact isNaN_pack_notANumber
  | zero | finite =>
      rw [unpacked] at infinite
      cases infinite

theorem div_infinity (finite : value.isFinite = true) :
    (value / Scalar.infinity).isFinite = true ∧ toRat (value / Scalar.infinity) = 0 := by
  change (Float.ofModel (.pack (UnpackedFloat.div .binary64 value.toModel.unpack
    (.infinity .positive)))).isFinite = true ∧ toRat (Float.ofModel (.pack
    (UnpackedFloat.div .binary64 value.toModel.unpack (.infinity .positive)))) = 0
  obtain ⟨sign, unpacked⟩ | ⟨sign, mantissa, exponent, positive, unpacked, _canonical⟩ :=
    unpack_of_isFinite finite
  all_goals
    rw [unpacked]
    exact toRat_pack_zero _

theorem isNaN_add_right (none : other.isNaN = true) : (value + other).isNaN = true := by
  change (Float.ofModel (.pack
    (UnpackedFloat.add .binary64 value.toModel.unpack other.toModel.unpack))).isNaN = true
  rw [isNaN_eq_true_iff.mp none]
  cases value.toModel.unpack <;> exact isNaN_pack_notANumber

theorem div_zero (finite : value.isFinite = true) (positive : 0 < toRat value) :
    value / 0 = Scalar.infinity := by
  change Float.ofModel (.pack
    (UnpackedFloat.div .binary64 value.toModel.unpack (.zero .positive))) = _
  unfold toRat at positive
  obtain ⟨sign, unpacked⟩ | ⟨sign, mantissa, exponent, some, unpacked, canonical⟩ :=
    unpack_of_isFinite finite
  all_goals rw [unpacked] at positive ⊢
  · exact absurd positive (lt_irrefl 0)
  · cases sign with
    | negative => exact absurd positive (neg_neg_of_pos canonical.magnitude_pos).asymm
    | positive => rfl

theorem roundWith_of_not_isFinite (rounding : Rounding) (infinite : value.isFinite = false) :
    roundWith rounding value = value := by
  change value.toModel.unpack.isFinite = false at infinite
  unfold roundWith parts
  cases unpacked : value.toModel.unpack with
  | notANumber | infinity | zero => rfl
  | finite =>
      rw [unpacked] at infinite
      cases infinite

end CanvasChart.Binary64
