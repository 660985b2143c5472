import Mathlib.Algebra.Group.Nat.Defs
import Mathlib.Algebra.Ring.Int.Defs
import CanvasChart.Binary64.Parts

set_option autoImplicit false

/-! Whole numbers of 64 bits as binary64 numbers. Rounding moves the exponent by no more than the
number of binary digits, so that none of them overflows. -/

namespace CanvasChart.Binary64

open Float.Model UnpackedFloat

/-- A number whose exponent is below a bound and whose mantissa has at most `digits` digits. -/
def Within (digits : Nat) (bound : Int) : UnpackedFloat → Prop
  | .zero _ => True
  | .finite _ mantissa exponent _ => mantissa < 2 ^ digits ∧ exponent < bound
  | _ => False

theorem Within.isFinite {digits : Nat} {bound : Int} {value : UnpackedFloat}
    (within : Within digits bound value) : value.isFinite = true := by
  cases value with
  | notANumber => cases within
  | infinity sign => cases within
  | zero sign => rfl
  | finite sign mantissa exponent positive => rfl

theorem Within.mono {digits : Nat} {bound wider : Int} {value : UnpackedFloat}
    (within : Within digits bound value) (le : bound ≤ wider) : Within digits wider value := by
  cases value with
  | notANumber => exact within
  | infinity sign => exact within
  | zero sign => trivial
  | finite sign mantissa exponent positive => exact ⟨within.1, Int.lt_of_lt_of_le within.2 le⟩

/-! ### Rounding -/

private theorem binary64_bits : (Format.binary64.mantissaBits : Int) = 53 := rfl

theorem binary64_minExponent : Format.binary64.minExponent = -1074 := rfl

private theorem mantissa_repeat_le (count : Nat) (value : ExtendedMantissa) :
    (Nat.repeat ExtendedMantissa.shiftRightOne count value).mantissa ≤ value.mantissa := by
  induction count with
  | zero => exact Nat.le_refl _
  | succ count ih => exact Nat.le_trans (Nat.div_le_self _ 2) ih

private theorem roundedMantissa_le (value : ExtendedMantissa) :
    value.roundedMantissa ≤ value.mantissa + 1 := by
  obtain ⟨mantissa, round, sticky⟩ := value
  cases round <;> cases sticky <;>
    simp only [ExtendedMantissa.roundedMantissa, ExtendedMantissa.accuracy,
      Accuracy.roundToNearestEven] <;> omega

private theorem shiftToTargetExponent_le {mantissa digits : Nat} (exponent : Int)
    (small : mantissa < 2 ^ digits) :
    (shiftToTargetExponent .binary64 mantissa exponent .exact).1.mantissa ≤ mantissa ∧
      (shiftToTargetExponent .binary64 mantissa exponent .exact).2 ≤
        max exponent (-1074) + digits := by
  refine ⟨mantissa_repeat_le _ _, ?_⟩
  have logarithm : mantissa.log2 ≤ digits := by
    by_cases none : mantissa = 0
    · rw [none]
      exact Nat.zero_le digits
    · exact Nat.le_of_lt ((Nat.log2_lt none).mpr small)
  simp only [shiftToTargetExponent, shiftToExponent, Format.targetExponent, totalExponent,
    binary64_bits, binary64_minExponent]
  omega

private theorem roundWithAccuracy_within {mantissa digits : Nat} (sign : Sign) (exponent : Int)
    (small : mantissa < 2 ^ digits) :
    Within (digits + 1) (max exponent (-1074) + (2 * digits + 2))
      (roundWithAccuracy .binary64 sign mantissa exponent .exact) := by
  obtain ⟨firstMantissa, firstExponent⟩ := shiftToTargetExponent_le exponent small
  unfold roundWithAccuracy
  generalize shiftToTargetExponent .binary64 mantissa exponent .exact = first at *
  have grown := roundedMantissa_le first.1
  have smallRounded : first.1.roundedMantissa < 2 ^ (digits + 1) := by
    rw [Nat.pow_succ]
    omega
  obtain ⟨secondMantissa, secondExponent⟩ := shiftToTargetExponent_le first.2 smallRounded
  dsimp only
  generalize shiftToTargetExponent .binary64 first.1.roundedMantissa first.2 .exact = second at *
  by_cases none : second.1.mantissa = 0
  · rw [dif_pos none]
    trivial
  · rw [dif_neg none]
    refine ⟨by omega, ?_⟩
    omega

/-! ### Packing -/

private theorem within_unpack {bits : BitVec Format.binary64.numBits} {bound : Int}
    (ordinary : (unpackExponent bits).toNat ≠ 2047) (least : -1074 < bound)
    (below : ((unpackExponent bits).toNat : Int) - 1075 < bound) :
    Within 53 bound (UnpackedFloat.unpack .binary64 bits) := by
  have mantissaSmall : (unpackMantissa bits).toNat < 2 ^ 52 := (unpackMantissa bits).isLt
  have whole : (1#1 ++ unpackMantissa bits).toNat < 2 ^ 53 := (1#1 ++ unpackMantissa bits).isLt
  have bias : (Format.binary64.exponentBias : Int) = 1023 := rfl
  have explicit : (Format.binary64.mantissaBitsWithoutImplicit : Int) = 52 := rfl
  have notGreatest : unpackExponent bits ≠ -BitVec.ofNat Format.binary64.exponentBits 1 :=
    fun greatest => ordinary (congrArg BitVec.toNat greatest)
  unfold UnpackedFloat.unpack
  dsimp only
  rw [if_neg notGreatest]
  by_cases none : unpackExponent bits = BitVec.ofNat Format.binary64.exponentBits 0
  · have zero : (unpackExponent bits).toNat = 0 := congrArg BitVec.toNat none
    rw [if_pos none]
    by_cases blank : unpackMantissa bits =
        BitVec.ofNat Format.binary64.mantissaBitsWithoutImplicit 0
    · rw [dif_pos blank]
      trivial
    · rw [dif_neg blank]
      constructor <;> omega
  · rw [if_neg none]
    constructor <;> omega

private theorem within_unpack_of_isFinite {bits : BitVec Format.binary64.numBits}
    (finite : (UnpackedFloat.unpack .binary64 bits).isFinite = true) :
    Within 53 972 (UnpackedFloat.unpack .binary64 bits) := by
  have exponentSmall : (unpackExponent bits).toNat < 2 ^ 11 := (unpackExponent bits).isLt
  have ordinary : (unpackExponent bits).toNat ≠ 2047 := by
    intro greatest
    unfold UnpackedFloat.unpack at finite
    dsimp only at finite
    rw [if_pos (BitVec.eq_of_toNat_eq greatest)] at finite
    split at finite <;> cases finite
  exact within_unpack ordinary (by decide) (by omega)

private theorem within_unpack_packComponents (sign : Sign)
    {exponent : BitVec Format.binary64.exponentBits}
    (mantissa : BitVec Format.binary64.mantissaBitsWithoutImplicit) {bound : Int}
    (ordinary : exponent.toNat ≠ 2047) (least : -1074 < bound)
    (below : (exponent.toNat : Int) - 1075 < bound) :
    Within 53 bound
      (UnpackedFloat.unpack .binary64 (packComponents .binary64 sign exponent mantissa)) := by
  refine within_unpack ?_ least ?_
  · rwa [unpackExponent_packComponents]
  · rwa [unpackExponent_packComponents]

/-- Packing and unpacking keeps an exponent that leaves room, or makes it the least one. -/
private theorem within_unpack_pack {digits : Nat} {bound : Int} {value : UnpackedFloat}
    (within : Within digits bound value) (least : -1074 < bound) (greatest : bound ≤ 972) :
    Within 53 bound (UnpackedFloat.unpack .binary64 (UnpackedFloat.pack .binary64 value)) := by
  cases value with
  | notANumber => cases within
  | infinity sign => cases within
  | zero sign =>
      refine within_unpack_packComponents sign 0 ?_ least ?_
      · decide
      · change (0 : Int) - 1075 < bound
        omega
  | finite sign mantissa exponent positive =>
      have bias : (Format.binary64.exponentBias : Int) = 1023 := rfl
      have explicit : (Format.binary64.mantissaBitsWithoutImplicit : Int) = 52 := rfl
      have below := within.2
      have biased : (exponent + 1023 + 52).toNat < 2 ^ 11 := by omega
      unfold UnpackedFloat.pack
      rw [bias, explicit]
      dsimp only
      split
      case isTrue overflow =>
        change 2048 ≤ _ at overflow
        omega
      case isFalse =>
        have kept : (BitVec.ofNat Format.binary64.exponentBits (exponent + 1023 + 52).toNat).toNat =
            (exponent + 1023 + 52).toNat := Nat.mod_eq_of_lt biased
        split
        · refine within_unpack_packComponents sign _ ?_ least ?_
          · rw [kept]
            omega
          · rw [kept]
            omega
        · refine within_unpack_packComponents sign _ ?_ least ?_
          · decide
          · change (0 : Int) - 1075 < bound
            omega

/-! ### Whole numbers -/

private theorem isFinite_of_within {digits : Nat} {bound : Int} {value : UnpackedFloat}
    (within : Within digits bound value) (greatest : bound ≤ 972) :
    (Float.ofModel (.pack value)).isFinite = true :=
  (within_unpack_pack (within.mono greatest) (by decide) (Int.le_refl 972)).isFinite

theorem isFinite_neg {value : Float} (finite : value.isFinite = true) :
    (-value).isFinite = true := by
  change value.toModel.unpack.isFinite = true at finite
  have small : Within 53 972 value.toModel.unpack.neg := by
    have within : Within 53 972 value.toModel.unpack := within_unpack_of_isFinite finite
    cases unpacked : value.toModel.unpack with
    | notANumber | infinity | finite =>
        rw [unpacked] at within
        exact within
    | zero sign => trivial
  exact isFinite_of_within small (Int.le_refl 972)

private theorem within_mul {leftDigits rightDigits : Nat} {leftBound rightBound : Int}
    {left right : UnpackedFloat} (leftWithin : Within leftDigits leftBound left)
    (rightWithin : Within rightDigits rightBound right) :
    Within (leftDigits + rightDigits + 1)
      (max (leftBound + rightBound) (-1074) + (2 * (leftDigits + rightDigits) + 2))
      (UnpackedFloat.mul .binary64 left right) := by
  cases left with
  | notANumber | infinity => cases leftWithin
  | zero =>
      cases right with
      | notANumber | infinity => cases rightWithin
      | zero | finite => trivial
  | finite leftSign leftMantissa leftExponent =>
      cases right with
      | notANumber | infinity => cases rightWithin
      | zero => trivial
      | finite rightSign rightMantissa rightExponent =>
          have product : leftMantissa * rightMantissa < 2 ^ (leftDigits + rightDigits) := by
            rw [Nat.pow_add]
            exact Nat.mul_lt_mul'' leftWithin.1 rightWithin.1
          have below := leftWithin.2
          have otherBelow := rightWithin.2
          refine (roundWithAccuracy_within _ (leftExponent + rightExponent) product).mono ?_
          omega

private theorem within_ofNat {value : Nat} (small : value < 2 ^ 53) :
    Within 106 212 (UnpackedFloat.ofNat .binary64 value) := by
  unfold UnpackedFloat.ofNat UnpackedFloat.ofInt UnpackedFloat.normalize
  split
  case h_1 negative =>
    exact absurd (Std.compare_eq_lt.mp negative) (by omega)
  case h_2 => trivial
  case h_3 =>
    have shift : ((0 : Int) - Format.binary64.targetExponent (totalExponent value 0)).toNat ≤ 52 := by
      simp only [Format.targetExponent, totalExponent, binary64_bits, binary64_minExponent]
      omega
    have shifted : value <<< ((0 : Int) -
        Format.binary64.targetExponent (totalExponent value 0)).toNat < 2 ^ 105 := by
      rw [Nat.shiftLeft_eq]
      calc value * 2 ^ _ < 2 ^ 53 * 2 ^ _ := Nat.mul_lt_mul_of_pos_right small (Nat.two_pow_pos _)
        _ ≤ 2 ^ 53 * 2 ^ 52 := Nat.mul_le_mul_left _ (Nat.pow_le_pow_right (by decide) shift)
    refine (roundWithAccuracy_within .positive _ shifted).mono ?_
    omega

theorem ofScientific_whole {value : Nat} (positive : 0 < value) :
    ∃ scaledPositive, UnpackedFloat.ofScientific .binary64 value 0 =
      UnpackedFloat.mul .binary64
        (.finite .positive (value <<< Format.binary64.mantissaBits) (-Format.binary64.mantissaBits)
          scaledPositive)
        (.finite .positive 1 0 Nat.one_pos) := by
  have notGreat : ¬ (0 : Int) > 2 ^ Format.binary64.exponentBits := by
    change ¬ (0 : Int) > 2 ^ 11
    omega
  have notSmall : ¬ (0 : Int) < -(2 ^ Format.binary64.exponentBits + value.log2) := by
    change ¬ (0 : Int) < -(2 ^ 11 + value.log2)
    omega
  unfold UnpackedFloat.ofScientific
  rw [dif_neg (Nat.ne_of_gt positive), if_neg notGreat, if_neg notSmall, if_pos (Int.le_refl 0)]
  exact ⟨_, rfl⟩

private theorem within_ofScientific {value : Nat} (positive : 0 < value) (small : value < 2 ^ 64) :
    Within 118 236 (UnpackedFloat.ofScientific .binary64 value 0) := by
  obtain ⟨scaledPositive, same⟩ := ofScientific_whole positive
  have shifted : value <<< Format.binary64.mantissaBits < 2 ^ 117 := by
    rw [Nat.shiftLeft_eq]
    exact Nat.mul_lt_mul_of_pos_right small (Nat.two_pow_pos 53)
  rw [same]
  generalize value <<< Format.binary64.mantissaBits = mantissa at *
  rw [← Nat.mul_one mantissa] at shifted
  exact (roundWithAccuracy_within .positive (-Format.binary64.mantissaBits + 0) shifted).mono
    (by rw [binary64_bits]; omega)

theorem isFinite_ofNat {value : Nat} (small : value < 2 ^ 64) :
    (Float.ofNat value).isFinite = true := by
  change (Float.ofScientific value false 0).isFinite = true
  unfold Float.ofScientific
  split
  case isTrue representable =>
    have kept : value.toUInt64.toNat = value := Nat.mod_eq_of_lt small
    have whole : Within 106 212 (UnpackedFloat.ofNat .binary64 value.toUInt64.toNat) := by
      rw [kept]
      exact within_ofNat representable.1
    have converted : Within 53 212 value.toUInt64.toFloat.toModel.unpack :=
      within_unpack_pack whole (by decide) (by decide)
    have unpacked : (Float.ofBits 0x3ff0000000000000).toModel.unpack =
        .finite .positive (2 ^ 52) (-52) (by decide) := rfl
    have one : Within 53 0 (Float.ofBits 0x3ff0000000000000).toModel.unpack := by
      rw [unpacked]
      constructor <;> decide
    exact isFinite_of_within (within_mul converted one) (by decide)
  case isFalse large =>
    have positive : 0 < value := by omega
    exact isFinite_of_within (within_ofScientific positive small) (by decide)

end CanvasChart.Binary64
