import CanvasChart.Proofs.Binary64.Nearest
import CanvasChart.Proofs.Binary64.Numbers

set_option autoImplicit false

/-! The rational numbers that binary64 numbers are. Packing keeps what has the digits of the format,
or makes it infinite when it exceeds the greatest number; comparing finite numbers is comparing
the rational ones. -/

namespace CanvasChart.Binary64

open Float.Model UnpackedFloat

def signed : Sign → ℚ → ℚ
  | .positive, magnitude => magnitude
  | .negative, magnitude => -magnitude

def amount : UnpackedFloat → ℚ
  | .finite sign mantissa exponent _ => signed sign (mantissa * 2 ^ exponent)
  | _ => 0

/-- The number as a rational one; zero for what is not finite. -/
def toRat (number : Float) : ℚ := amount number.toModel.unpack

def overflowBound : ℚ := 2 ^ (1024 : ℤ)

theorem overflowBound_pos : 0 < overflowBound := two_zpow_pos 1024

/-- The unpacked number is a magnitude with a sign, in the digits of the format. Its exponent may
still be too great. -/
def Holds (sign : Sign) (magnitude : ℚ) : UnpackedFloat → Prop
  | .zero sign' => sign' = sign ∧ magnitude = 0
  | .finite sign' mantissa exponent _ => sign' = sign ∧ magnitude = mantissa * 2 ^ exponent ∧
      mantissa < 2 ^ 53 ∧ -1074 ≤ exponent ∧ (2 ^ 52 ≤ mantissa ∨ exponent = -1074)
  | _ => False

theorem signed_nonneg_abs (sign : Sign) {magnitude : ℚ} (nonneg : 0 ≤ magnitude) :
    |signed sign magnitude| = magnitude := by
  cases sign with
  | positive => exact abs_of_nonneg nonneg
  | negative => exact (abs_neg magnitude).trans (abs_of_nonneg nonneg)

theorem nearest_signed (sign : Sign) (magnitude : ℚ) :
    nearest (signed sign magnitude) = signed sign (nearest magnitude) := by
  cases sign with
  | positive => rfl
  | negative => exact nearest_neg magnitude

/-! ### Packing -/

section Canonical

variable {sign : Sign} {mantissa : ℕ} {exponent : ℤ} (canonical : Canonical mantissa exponent)

include canonical

theorem Canonical.biased_small :
    ¬ 2 ^ Format.binary64.exponentBits ≤ (exponent + 1023 + 52).toNat + 1 := by
  have greatest := canonical.greatest
  change ¬ 2 ^ 11 ≤ _
  omega

private theorem unpack_pack_normal (whole : 2 ^ 52 ≤ mantissa) :
    UnpackedFloat.unpack .binary64 (UnpackedFloat.pack .binary64
      (.finite sign mantissa exponent canonical.positive)) =
      .finite sign mantissa exponent canonical.positive := by
  have biased := canonical.biased_small
  obtain ⟨positive, small, least, greatest, _normal⟩ := canonical
  have bias : (Format.binary64.exponentBias : ℤ) = 1023 := rfl
  have explicit : (Format.binary64.mantissaBitsWithoutImplicit : ℤ) = 52 := rfl
  have digits : mantissa.log2 + 1 = Format.binary64.mantissaBits := by
    have bits : mantissa.log2 = 52 := (Nat.log2_eq_iff positive.ne').mpr ⟨whole, small⟩
    rw [bits]
    rfl
  have kept : (BitVec.ofNat Format.binary64.exponentBits (exponent + 1023 + 52).toNat).toNat =
      (exponent + 1023 + 52).toNat := Nat.mod_eq_of_lt (by change _ < 2 ^ 11; omega)
  have notGreatest : BitVec.ofNat Format.binary64.exponentBits (exponent + 1023 + 52).toNat ≠
      -BitVec.ofNat Format.binary64.exponentBits 1 := by
    intro same
    have all := congrArg BitVec.toNat same
    rw [kept] at all
    change _ = 2047 at all
    omega
  have notLeast : BitVec.ofNat Format.binary64.exponentBits (exponent + 1023 + 52).toNat ≠
      BitVec.ofNat Format.binary64.exponentBits 0 := by
    intro same
    have none := congrArg BitVec.toNat same
    rw [kept] at none
    change _ = 0 at none
    omega
  have restored : (1#1 ++ BitVec.ofNat Format.binary64.mantissaBitsWithoutImplicit mantissa).toNat
      = mantissa := by
    have rest : (BitVec.ofNat Format.binary64.mantissaBitsWithoutImplicit mantissa).toNat =
        mantissa % 2 ^ 52 := rfl
    rw [toNat_one_append, rest]
    omega
  simp only [UnpackedFloat.pack, bias, explicit, if_neg biased, if_pos digits,
    UnpackedFloat.unpack, unpackExponent_packComponents, unpackMantissa_packComponents,
    unpackSign_packComponents, Sign.ofBitVec_toBitVec, if_neg notGreatest, if_neg notLeast,
    restored, kept, finite.injEq, true_and]
  omega

private theorem unpack_pack_subnormal (few : mantissa < 2 ^ 52) :
    UnpackedFloat.unpack .binary64 (UnpackedFloat.pack .binary64
      (.finite sign mantissa exponent canonical.positive)) =
      .finite sign mantissa exponent canonical.positive := by
  have biased := canonical.biased_small
  obtain ⟨positive, _small, _least, _greatest, normal⟩ := canonical
  have bias : (Format.binary64.exponentBias : ℤ) = 1023 := rfl
  have explicit : (Format.binary64.mantissaBitsWithoutImplicit : ℤ) = 52 := rfl
  have digits : mantissa.log2 + 1 ≠ Format.binary64.mantissaBits := by
    have bits : mantissa.log2 < 52 := (Nat.log2_lt positive.ne').mpr few
    change _ ≠ 53
    omega
  have kept : (BitVec.ofNat Format.binary64.mantissaBitsWithoutImplicit mantissa).toNat =
      mantissa := Nat.mod_eq_of_lt few
  have notGreatest : BitVec.ofNat Format.binary64.exponentBits 0 ≠
      -BitVec.ofNat Format.binary64.exponentBits 1 := by decide
  have some : BitVec.ofNat Format.binary64.mantissaBitsWithoutImplicit mantissa ≠
      BitVec.ofNat Format.binary64.mantissaBitsWithoutImplicit 0 := by
    intro same
    have none := congrArg BitVec.toNat same
    rw [kept] at none
    exact positive.ne' none
  simp only [UnpackedFloat.pack, bias, explicit, if_neg biased, if_neg digits,
    UnpackedFloat.unpack, unpackExponent_packComponents, unpackMantissa_packComponents,
    unpackSign_packComponents, Sign.ofBitVec_toBitVec, if_neg notGreatest, if_pos, dif_neg some,
    kept, finite.injEq, true_and]
  rw [normal.resolve_left few.not_ge]
  rfl

private theorem unpack_pack_finite :
    UnpackedFloat.unpack .binary64 (UnpackedFloat.pack .binary64
      (.finite sign mantissa exponent canonical.positive)) =
      .finite sign mantissa exponent canonical.positive := by
  rcases le_or_gt (2 ^ 52) mantissa with whole | few
  · exact unpack_pack_normal canonical whole
  · exact unpack_pack_subnormal canonical few

end Canonical

private theorem unpack_pack_zero (sign : Sign) :
    UnpackedFloat.unpack .binary64 (UnpackedFloat.pack .binary64 (.zero sign)) = .zero sign := by
  cases sign <;> rfl

private theorem unpack_pack_infinity (sign : Sign) :
    UnpackedFloat.unpack .binary64 (UnpackedFloat.pack .binary64 (.infinity sign)) =
      .infinity sign := by
  cases sign <;> rfl

section Holds

variable {sign : Sign} {magnitude : ℚ} {unpacked : UnpackedFloat}

theorem Holds.isFinite (holds : Holds sign magnitude unpacked) : unpacked.isFinite = true := by
  cases unpacked with
  | notANumber | infinity => exact holds.elim
  | zero | finite => rfl

theorem Holds.nonneg (holds : Holds sign magnitude unpacked) : 0 ≤ magnitude := by
  cases unpacked with
  | notANumber | infinity => exact holds.elim
  | zero => exact holds.2.ge
  | finite sign' mantissa exponent =>
      rw [holds.2.1]
      exact mul_nonneg (Nat.cast_nonneg mantissa) (two_zpow_pos exponent).le

theorem Holds.amount_eq (holds : Holds sign magnitude unpacked) :
    amount unpacked = signed sign magnitude := by
  cases unpacked with
  | notANumber | infinity => exact holds.elim
  | zero sign' =>
      rw [holds.2]
      cases sign <;> simp [amount, signed]
  | finite sign' mantissa exponent =>
      obtain ⟨rfl, rfl, _digits⟩ := holds
      rfl

/-- What does not exceed the greatest number is kept. -/
theorem Holds.unpack_pack (holds : Holds sign magnitude unpacked)
    (small : magnitude < overflowBound) :
    UnpackedFloat.unpack .binary64 (UnpackedFloat.pack .binary64 unpacked) = unpacked := by
  cases unpacked with
  | notANumber | infinity => exact holds.elim
  | zero sign' => exact unpack_pack_zero sign'
  | finite sign' mantissa exponent positive =>
      obtain ⟨_sign, same, short, least, normal⟩ := holds
      refine unpack_pack_finite ⟨positive, short, least, ?_, normal⟩
      rcases normal with whole | subnormal
      · have power : (2 : ℚ) ^ (52 + exponent) < 2 ^ (1024 : ℤ) := by
          refine lt_of_le_of_lt ?_ small
          rw [two_zpow_add, same]
          exact mul_le_mul_of_nonneg_right (by exact_mod_cast whole) (two_zpow_pos exponent).le
        have below := two_zpow_lt.mp power
        omega
      · omega

theorem Holds.unpack_pack_overflow (holds : Holds sign magnitude unpacked)
    (large : overflowBound ≤ magnitude) :
    UnpackedFloat.unpack .binary64 (UnpackedFloat.pack .binary64 unpacked) = .infinity sign := by
  cases unpacked with
  | notANumber | infinity => exact holds.elim
  | zero sign' =>
      rw [holds.2] at large
      exact absurd large (not_le.mpr overflowBound_pos)
  | finite sign' mantissa exponent positive =>
      obtain ⟨rfl, same, short, least, normal⟩ := holds
      have above : 971 < exponent := by
        have power : (2 : ℚ) ^ (1024 : ℤ) < 2 ^ (53 + exponent) := by
          refine lt_of_le_of_lt large ?_
          rw [two_zpow_add, same]
          exact mul_lt_mul_of_pos_right (by exact_mod_cast short) (two_zpow_pos exponent)
        have beyond := two_zpow_lt.mp power
        omega
      have bias : (Format.binary64.exponentBias : ℤ) = 1023 := rfl
      have explicit : (Format.binary64.mantissaBitsWithoutImplicit : ℤ) = 52 := rfl
      have biased : 2 ^ Format.binary64.exponentBits ≤ (exponent + 1023 + 52).toNat + 1 := by
        change 2 ^ 11 ≤ _
        omega
      have packed : UnpackedFloat.pack .binary64 (.finite sign' mantissa exponent positive) =
          UnpackedFloat.pack .binary64 (.infinity sign') := by
        simp only [UnpackedFloat.pack, bias, explicit, if_pos biased]
      rw [packed]
      exact unpack_pack_infinity sign'

end Holds

/-! ### Finite numbers -/

variable {number left right : Float}

theorem exists_holds (finite : number.isFinite = true) :
    ∃ sign magnitude, Holds sign magnitude number.toModel.unpack ∧ magnitude < overflowBound := by
  obtain ⟨sign, unpacked⟩ | ⟨sign, mantissa, exponent, _positive, unpacked, canonical⟩ :=
    unpack_of_isFinite finite
  · rw [unpacked]
    exact ⟨sign, 0, ⟨rfl, rfl⟩, overflowBound_pos⟩
  · obtain ⟨_positive, small, least, greatest, normal⟩ := canonical
    rw [unpacked]
    refine ⟨sign, mantissa * 2 ^ exponent, ⟨rfl, rfl, small, least, normal⟩, ?_⟩
    calc (mantissa : ℚ) * 2 ^ exponent
        < 2 ^ (53 : ℤ) * 2 ^ exponent :=
          mul_lt_mul_of_pos_right (by exact_mod_cast small) (two_zpow_pos exponent)
      _ = 2 ^ (53 + exponent) := (two_zpow_add 53 exponent).symm
      _ ≤ overflowBound := two_zpow_le.mpr (by omega)

theorem Holds.representable {sign : Sign} {magnitude : ℚ} {unpacked : UnpackedFloat}
    (holds : Holds sign magnitude unpacked) : Representable magnitude := by
  cases unpacked with
  | notANumber | infinity => exact holds.elim
  | zero => exact ⟨0, 0, by norm_num, by norm_num, by rw [holds.2]; norm_num⟩
  | finite sign' mantissa exponent =>
      obtain ⟨_sign, same, small, least, _normal⟩ := holds
      refine ⟨mantissa, exponent, ?_, least, by rw [same]; norm_cast⟩
      rw [Nat.abs_cast]
      exact_mod_cast small

theorem representable_toRat (number : Float) : Representable (toRat number) := by
  cases finite : number.isFinite with
  | true =>
      obtain ⟨sign, magnitude, holds, _small⟩ := exists_holds finite
      rw [toRat, holds.amount_eq]
      cases sign with
      | positive => exact holds.representable
      | negative => exact holds.representable.neg
  | false =>
      change number.toModel.unpack.isFinite = false at finite
      have zero : toRat number = 0 := by
        unfold toRat
        cases unpacked : number.toModel.unpack with
        | notANumber | infinity | zero => rfl
        | finite =>
            rw [unpacked] at finite
            cases finite
      exact ⟨0, 0, by norm_num, by norm_num, by rw [zero]; norm_num⟩

theorem abs_toRat_lt (finite : number.isFinite = true) : |toRat number| < overflowBound := by
  obtain ⟨sign, magnitude, holds, small⟩ := exists_holds finite
  rwa [toRat, holds.amount_eq, signed_nonneg_abs sign holds.nonneg]

theorem toRat_zero : toRat 0 = 0 := rfl

def greatestNumber : ℚ := (2 ^ 53 - 1 : ℤ) * 2 ^ (971 : ℤ)

theorem representable_greatestNumber : Representable greatestNumber :=
  ⟨2 ^ 53 - 1, 971, by decide, by decide, rfl⟩

private theorem overflowBound_eq : overflowBound = (2 ^ 53 - 1 + 1 : ℤ) * 2 ^ (971 : ℤ) :=
  (two_zpow_add 53 971).trans (by norm_num)

theorem greatestNumber_lt : greatestNumber < overflowBound := by
  rw [greatestNumber, overflowBound_eq]
  exact mul_lt_mul_of_pos_right (by norm_num) (two_zpow_pos 971)

theorem abs_toRat_le (finite : number.isFinite = true) : |toRat number| ≤ greatestNumber :=
  (representable_toRat number).abs.le_of_lt_next (by decide)
    ((abs_toRat_lt finite).trans_eq overflowBound_eq)

/-! ### Comparing -/

theorem Canonical.magnitude_pos {mantissa : ℕ} {exponent : ℤ}
    (canonical : Canonical mantissa exponent) : (0 : ℚ) < mantissa * 2 ^ exponent :=
  mul_pos (by exact_mod_cast canonical.positive) (two_zpow_pos exponent)

theorem Canonical.lt_of_lex {mantissa mantissa' : ℕ} {exponent exponent' : ℤ}
    (canonical : Canonical mantissa exponent) (canonical' : Canonical mantissa' exponent')
    (less : exponent < exponent' ∨ exponent = exponent' ∧ mantissa < mantissa') :
    (mantissa : ℚ) * 2 ^ exponent < mantissa' * 2 ^ exponent' := by
  have unit := two_zpow_pos exponent
  rcases less with less | ⟨rfl, less⟩
  · have many : 2 ^ 52 ≤ mantissa' := by
      have least := canonical.least
      have normal := canonical'.normal
      omega
    calc (mantissa : ℚ) * 2 ^ exponent < 2 ^ (53 : ℤ) * 2 ^ exponent :=
          mul_lt_mul_of_pos_right (by exact_mod_cast canonical.small) unit
      _ = 2 ^ (52 + (exponent + 1)) := by
          rw [← two_zpow_add]
          congr 1
          ring
      _ ≤ 2 ^ (52 + exponent') := two_zpow_le.mpr (by omega)
      _ = 2 ^ (52 : ℤ) * 2 ^ exponent' := two_zpow_add 52 exponent'
      _ ≤ mantissa' * 2 ^ exponent' :=
          mul_le_mul_of_nonneg_right (by exact_mod_cast many) (two_zpow_pos exponent').le
  · exact mul_lt_mul_of_pos_right (by exact_mod_cast less) unit

section Compare

variable (leftFinite : left.isFinite = true) (rightFinite : right.isFinite = true)

include leftFinite rightFinite

private theorem toRat_lt_of_rank_lt (less : rank left < rank right) : toRat left < toRat right := by
  unfold rank at less
  unfold toRat
  obtain ⟨leftSign, leftUnpacked⟩ |
      ⟨leftSign, mantissa, exponent, positive, leftUnpacked, canonical⟩ :=
    unpack_of_isFinite leftFinite <;>
  obtain ⟨rightSign, rightUnpacked⟩ |
      ⟨rightSign, mantissa', exponent', positive', rightUnpacked, canonical'⟩ :=
    unpack_of_isFinite rightFinite <;>
  rw [leftUnpacked, rightUnpacked] at less ⊢
  · simp [rankOf] at less
  · cases rightSign
    · simp [rankOf, Rank.of_lt_of] at less
    · exact canonical'.magnitude_pos
  · cases leftSign
    · exact neg_neg_of_pos canonical.magnitude_pos
    · simp [rankOf, Rank.of_lt_of] at less
  · have magnitude := canonical.magnitude_pos
    have magnitude' := canonical'.magnitude_pos
    cases leftSign <;> cases rightSign <;>
      simp only [rankOf, Rank.of_lt_of, lt_irrefl, false_or, true_and] at less <;>
      simp only [amount, signed]
    · exact neg_lt_neg (canonical'.lt_of_lex canonical (by omega))
    · linarith
    · omega
    · exact canonical.lt_of_lex canonical' (by omega)

omit leftFinite rightFinite in
theorem toRat_eq_of_beq (same : (left == right) = true) : toRat left = toRat right := by
  obtain ⟨_number, _otherNumber, rfl | ⟨rfl, rfl⟩ | ⟨rfl, rfl⟩⟩ :=
    Float.beq_iff_ne_nan_and_eq.mp same
  all_goals rfl

/-- Comparing finite numbers is comparing the rational numbers that they are. -/
theorem lt_iff_toRat : left < right ↔ toRat left < toRat right := by
  have number := isNaN_of_isFinite leftFinite
  have otherNumber := isNaN_of_isFinite rightFinite
  rw [lt_iff number otherNumber]
  refine ⟨toRat_lt_of_rank_lt leftFinite rightFinite, fun less => ?_⟩
  rcases lt_trichotomy (rank left) (rank right) with below | same | above
  · exact below
  · exact absurd (toRat_eq_of_beq ((beq_iff number otherNumber).mpr same)) less.ne
  · exact absurd (toRat_lt_of_rank_lt rightFinite leftFinite above) less.asymm

theorem le_iff_toRat : left ≤ right ↔ toRat left ≤ toRat right := by
  rw [← not_lt_iff (isNaN_of_isFinite rightFinite) (isNaN_of_isFinite leftFinite),
    lt_iff_toRat rightFinite leftFinite, not_lt]

theorem beq_iff_toRat : (left == right) = true ↔ toRat left = toRat right := by
  refine ⟨toRat_eq_of_beq, fun same => ?_⟩
  exact beq_of_le_of_le ((le_iff_toRat leftFinite rightFinite).mpr same.le)
    ((le_iff_toRat rightFinite leftFinite).mpr same.ge)

end Compare

end CanvasChart.Binary64
