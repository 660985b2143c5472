import CanvasChart.Proofs.Binary64.Finite
import CanvasChart.Proofs.Binary64.Order

set_option autoImplicit false

/-! Numbers and their bits. The bits of a number are those that packing its parts gives, so that
numbers with equal parts are the same; and packing makes a number out of every number. -/

namespace CanvasChart.Binary64

open Float.Model UnpackedFloat

/-! ### Packing keeps numbers numbers -/

private theorem unpack_ne_notANumber {bits : BitVec Format.binary64.numBits}
    (ordinary : unpackExponent bits = -1 → unpackMantissa bits = 0) :
    UnpackedFloat.unpack .binary64 bits ≠ .notANumber := by
  unfold UnpackedFloat.unpack
  dsimp only
  split_ifs with greatest blank
  · simp
  · exact absurd (ordinary greatest) blank
  all_goals simp

private theorem unpack_packComponents_ne_notANumber (sign : Sign)
    {exponent : BitVec Format.binary64.exponentBits}
    {mantissa : BitVec Format.binary64.mantissaBitsWithoutImplicit}
    (ordinary : exponent = -1 → mantissa = 0) :
    UnpackedFloat.unpack .binary64 (packComponents .binary64 sign exponent mantissa) ≠
      .notANumber := by
  refine unpack_ne_notANumber ?_
  rwa [unpackExponent_packComponents, unpackMantissa_packComponents]

private theorem unpack_pack_ne_notANumber {value : UnpackedFloat} (number : value ≠ .notANumber) :
    UnpackedFloat.unpack .binary64 (UnpackedFloat.pack .binary64 value) ≠ .notANumber := by
  unfold UnpackedFloat.pack
  cases value with
  | notANumber => exact absurd rfl number
  | infinity sign => exact unpack_packComponents_ne_notANumber sign fun _greatest => rfl
  | zero sign => exact unpack_packComponents_ne_notANumber sign fun _greatest => rfl
  | finite sign mantissa exponent positive =>
      dsimp only
      split_ifs with overflow normal
      · exact unpack_packComponents_ne_notANumber sign fun _greatest => rfl
      · refine unpack_packComponents_ne_notANumber sign fun greatest => ?_
        have biased := congrArg BitVec.toNat greatest
        change _ % 2 ^ 11 = 2047 at biased
        change ¬ 2 ^ 11 ≤ _ at overflow
        omega
      · refine unpack_packComponents_ne_notANumber sign fun greatest => ?_
        cases greatest

theorem isNaN_ofModel_pack {value : UnpackedFloat} (number : value ≠ .notANumber) :
    (Float.ofModel (.pack value)).isNaN = false :=
  isNaN_eq_false_iff.mpr (unpack_pack_ne_notANumber number)

/-! ### The parts of a number -/

theorem ofModel_pack_unpack (value : Float) :
    Float.ofModel (.pack value.toModel.unpack) = value := by
  obtain ⟨⟨bits, valid⟩⟩ := value
  have restored : UInt64.ofBitVec (UnpackedFloat.pack .binary64
      (UnpackedFloat.unpack .binary64 bits.toBitVec)) = bits :=
    congrArg UInt64.ofBitVec (pack_unpack_of_valid valid)
  simp only [Float.Model.pack, Float.Model.unpack, restored]

/-- The parts of a number: no digit more than the format has, and no digit less unless the
exponent is the least one. -/
structure Canonical (mantissa : Nat) (exponent : Int) : Prop where
  positive : 0 < mantissa
  small : mantissa < 2 ^ 53
  least : -1074 ≤ exponent
  greatest : exponent ≤ 971
  normal : 2 ^ 52 ≤ mantissa ∨ exponent = -1074

theorem toNat_one_append (mantissa : BitVec Format.binary64.mantissaBitsWithoutImplicit) :
    (1#1 ++ mantissa).toNat = 2 ^ 52 + mantissa.toNat := by
  rw [BitVec.toNat_append, ← Nat.shiftLeft_add_eq_or_of_lt mantissa.isLt, Nat.shiftLeft_eq]
  rfl

private theorem canonical_unpack {bits : BitVec Format.binary64.numBits} {sign : Sign}
    {mantissa : Nat} {exponent : Int} {positive : 0 < mantissa}
    (unpacked : UnpackedFloat.unpack .binary64 bits = .finite sign mantissa exponent positive) :
    Canonical mantissa exponent := by
  have mantissaSmall : (unpackMantissa bits).toNat < 2 ^ 52 := (unpackMantissa bits).isLt
  have exponentSmall : (unpackExponent bits).toNat < 2 ^ 11 := (unpackExponent bits).isLt
  have appended := toNat_one_append (unpackMantissa bits)
  have bias : (Format.binary64.exponentBias : Int) = 1023 := rfl
  have explicit : (Format.binary64.mantissaBitsWithoutImplicit : Int) = 52 := rfl
  unfold UnpackedFloat.unpack at unpacked
  dsimp only at unpacked
  split_ifs at unpacked with greatest blank least blank
  · have least : (unpackExponent bits).toNat = 0 := congrArg BitVec.toNat least
    cases unpacked
    constructor <;> omega
  · have ordinary : (unpackExponent bits).toNat ≠ 2047 :=
      fun all => greatest (BitVec.eq_of_toNat_eq all)
    have normal : (unpackExponent bits).toNat ≠ 0 := fun all => least (BitVec.eq_of_toNat_eq all)
    cases unpacked
    constructor <;> omega

/-! ### Finite numbers taken apart -/

section Apart

variable {value : Float}

/-- A finite number is a zero, or has a mantissa and an exponent of the format. -/
theorem unpack_of_isFinite (finite : value.isFinite = true) :
    (∃ sign, value.toModel.unpack = .zero sign) ∨
      ∃ sign mantissa exponent positive,
        value.toModel.unpack = .finite sign mantissa exponent positive ∧
          Canonical mantissa exponent := by
  change value.toModel.unpack.isFinite = true at finite
  cases unpacked : value.toModel.unpack with
  | notANumber | infinity =>
      rw [unpacked] at finite
      cases finite
  | zero sign => exact .inl ⟨sign, rfl⟩
  | finite sign mantissa exponent positive =>
      exact .inr ⟨sign, mantissa, exponent, positive, rfl, canonical_unpack unpacked⟩

theorem unpack_of_parts {negative : Bool} {mantissa : Nat} {exponent : Int}
    (taken : parts value = .finite negative mantissa exponent) :
    ∃ sign, isNegative sign = negative ∧
      (value.toModel.unpack = .zero sign ∧ mantissa = 0 ∧ exponent = 0 ∨
        ∃ positive, value.toModel.unpack = .finite sign mantissa exponent positive ∧
          Canonical mantissa exponent) := by
  unfold parts at taken
  cases unpacked : value.toModel.unpack with
  | notANumber | infinity =>
      rw [unpacked] at taken
      cases taken
  | zero sign =>
      rw [unpacked] at taken
      cases taken
      exact ⟨sign, rfl, .inl ⟨rfl, rfl, rfl⟩⟩
  | finite sign mantissa exponent positive =>
      rw [unpacked] at taken
      cases taken
      exact ⟨sign, rfl, .inr ⟨positive, rfl, canonical_unpack unpacked⟩⟩

end Apart

end CanvasChart.Binary64
