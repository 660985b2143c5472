import CanvasChart.Proofs.Binary64.Rounding

set_option autoImplicit false

/-! The four operations on finite numbers. Each of them gives the number that is nearest to the
exact result, or an infinity when that exceeds the greatest number. -/

namespace CanvasChart.Binary64

open Float.Model UnpackedFloat

/-! ### Unpacked numbers -/

section Unpacked

variable {sign sign' : Sign} {magnitude magnitude' : ℚ} {first second : UnpackedFloat}

private theorem signed_mul (sign sign' : Sign) (magnitude magnitude' : ℚ) :
    signed sign magnitude * signed sign' magnitude' =
      signed (sign * sign') (magnitude * magnitude') := by
  cases sign <;> cases sign' <;> simp only [signed]
  · ring
  · ring
  · ring

private theorem signed_zero (sign : Sign) : signed sign 0 = 0 := by
  cases sign
  · exact neg_zero
  · rfl

private theorem signed_neg (sign : Sign) (magnitude : ℚ) :
    signed (-sign) magnitude = -signed sign magnitude := by
  cases sign
  · exact (neg_neg magnitude).symm
  · rfl

private theorem signed_apply (sign : Sign) (mantissa : ℕ) (exponent : ℤ) :
    ((sign.apply (mantissa : ℤ) : ℤ) : ℚ) * 2 ^ exponent =
      signed sign (mantissa * 2 ^ exponent) := by
  cases sign
  · change ((-(mantissa : ℤ) : ℤ) : ℚ) * 2 ^ exponent = -(mantissa * 2 ^ exponent)
    push_cast
    ring
  · rfl

theorem Holds.neg (holds : Holds sign magnitude first) : Holds (-sign) magnitude first.neg := by
  cases first with
  | notANumber | infinity => exact holds.elim
  | zero =>
      obtain ⟨rfl, zero⟩ := holds
      exact ⟨rfl, zero⟩
  | finite =>
      obtain ⟨rfl, rest⟩ := holds
      exact ⟨rfl, rest⟩

theorem Holds.isNearest (holds : Holds sign magnitude first) :
    IsNearest (signed sign magnitude) first := by
  have exact : nearest magnitude = magnitude := nearest_of_representable holds.representable
  rw [← exact] at holds
  exact .of_holds holds

private theorem isNearest_zero (sign : Sign) : IsNearest 0 (.zero sign) := by
  have holds : Holds sign 0 (.zero sign) := ⟨rfl, rfl⟩
  have near := holds.isNearest
  rwa [signed_zero] at near

private theorem mul_finite {mantissa mantissa' : ℕ} {exponent exponent' : ℤ}
    (positive : 0 < mantissa)
    (positive' : 0 < mantissa') (enough : Enough (mantissa * mantissa') (exponent + exponent')) :
    IsNearest (signed sign (mantissa * 2 ^ exponent) * signed sign' (mantissa' * 2 ^ exponent'))
      (UnpackedFloat.mul .binary64 (.finite sign mantissa exponent positive)
        (.finite sign' mantissa' exponent' positive')) := by
  have holds := roundWithAccuracy_holds (sign * sign') (stands_exact (mantissa * mantissa')) enough
  have product : (mantissa : ℚ) * 2 ^ exponent * (mantissa' * 2 ^ exponent') =
      (mantissa * mantissa' : ℕ) * 2 ^ (exponent + exponent') := by
    rw [two_zpow_add]
    push_cast
    ring
  rw [signed_mul, product]
  exact .of_holds holds

/-- Two mantissas of the format have enough digits together, unless both are of the least place. -/
theorem Holds.mul (holds : Holds sign magnitude first) (holds' : Holds sign' magnitude' second) :
    IsNearest (signed sign magnitude * signed sign' magnitude')
      (UnpackedFloat.mul .binary64 first second) := by
  cases first with
  | notANumber | infinity => exact holds.elim
  | zero =>
      cases second with
      | notANumber | infinity => exact holds'.elim
      | zero | finite =>
          rw [signed_mul, holds.2, zero_mul, signed_zero]
          exact isNearest_zero _
  | finite leftSign mantissa exponent positive =>
      obtain ⟨rfl, rfl, short, least, normal⟩ := holds
      cases second with
      | notANumber | infinity => exact holds'.elim
      | zero =>
          rw [signed_mul, holds'.2, mul_zero, signed_zero]
          exact isNearest_zero _
      | finite rightSign mantissa' exponent' positive' =>
          obtain ⟨rfl, rfl, short', least', normal'⟩ := holds'
          refine mul_finite positive positive' ?_
          rcases normal with many | low
          · exact .inl (many.trans (Nat.le_mul_of_pos_right mantissa positive'))
          · rcases normal' with many' | low'
            · exact .inl (many'.trans (Nat.le_mul_of_pos_left mantissa' positive))
            · right
              omega

private theorem signed_div (sign sign' : Sign) (magnitude magnitude' : ℚ) :
    signed sign magnitude / signed sign' magnitude' =
      signed (sign / sign') (magnitude / magnitude') := by
  cases sign <;> cases sign' <;> simp only [signed]
  · exact neg_div_neg_eq magnitude magnitude'
  · exact neg_div magnitude' magnitude
  · exact div_neg magnitude
  · rfl

/-- The dividend is given as many digits more as the quotient needs. -/
private theorem enough_quotient {mantissa mantissa' : ℕ} {exponent exponent' : ℤ}
    (positive : 0 < mantissa) (positive' : 0 < mantissa') {shift : ℕ} {lower : ℤ}
    (chosen : lower = min (exponent - exponent')
      (max (mantissa.log2 + 1 + exponent - (mantissa'.log2 + 1 + exponent') - 53) (-1074)))
    (shifted : lower + shift = exponent - exponent') :
    Enough ((mantissa <<< shift) / mantissa') lower := by
  by_cases low : lower ≤ -1074
  · exact .inr low
  · left
    have digits : 52 + (mantissa'.log2 + 1) ≤ mantissa.log2 + shift := by omega
    have divisor : mantissa' ≤ 2 ^ (mantissa'.log2 + 1) := Nat.lt_log2_self.le
    rw [Nat.le_div_iff_mul_le positive', Nat.shiftLeft_eq]
    calc 2 ^ 52 * mantissa' ≤ 2 ^ 52 * 2 ^ (mantissa'.log2 + 1) := Nat.mul_le_mul_left _ divisor
      _ = 2 ^ (52 + (mantissa'.log2 + 1)) := (Nat.pow_add _ _ _).symm
      _ ≤ 2 ^ (mantissa.log2 + shift) := Nat.pow_le_pow_right (by decide) digits
      _ = 2 ^ mantissa.log2 * 2 ^ shift := Nat.pow_add _ _ _
      _ ≤ mantissa * 2 ^ shift := Nat.mul_le_mul_right _ (Nat.log2_self_le positive.ne')

private theorem div_finite {mantissa mantissa' : ℕ} {exponent exponent' : ℤ}
    (positive : 0 < mantissa) (positive' : 0 < mantissa') :
    IsNearest (signed sign (mantissa * 2 ^ exponent) / signed sign' (mantissa' * 2 ^ exponent'))
      (UnpackedFloat.div .binary64 (.finite sign mantissa exponent positive)
        (.finite sign' mantissa' exponent' positive')) := by
  let lower := min (exponent - exponent')
    (max (mantissa.log2 + 1 + exponent - (mantissa'.log2 + 1 + exponent') - 53) (-1074))
  obtain ⟨shift, shifted⟩ := Int.le.dest (min_le_left _ _ : lower ≤ exponent - exponent')
  have steps : (exponent - exponent' - lower).toNat = shift := by omega
  have core : divCore .binary64 mantissa exponent mantissa' exponent' =
      ((mantissa <<< shift) / mantissa', lower,
        accuracyOfFraction ((mantissa <<< shift) % mantissa') mantissa') := by
    rw [← steps]
    rfl
  have stands := stands_fraction ((mantissa <<< shift) / mantissa')
    (Nat.mod_lt (mantissa <<< shift) positive')
  have holds := roundWithAccuracy_holds (sign / sign') stands
    (enough_quotient positive positive' rfl shifted)
  have divisor : (mantissa' : ℚ) ≠ 0 := by exact_mod_cast positive'.ne'
  have parts : ((mantissa <<< shift / mantissa' : ℕ) : ℚ) +
      (mantissa <<< shift % mantissa' : ℕ) / mantissa' = mantissa * 2 ^ shift / mantissa' := by
    have whole :
        ((mantissa' * (mantissa <<< shift / mantissa') + mantissa <<< shift % mantissa' : ℕ) : ℚ) =
        (mantissa * 2 ^ shift : ℕ) := by
      rw [Nat.div_add_mod, Nat.shiftLeft_eq]
    push_cast at whole
    rw [← whole]
    field_simp
  have quotient : (mantissa : ℚ) * 2 ^ exponent / (mantissa' * 2 ^ exponent') =
      mantissa * 2 ^ shift / mantissa' * 2 ^ lower := by
    have power : (2 : ℚ) ^ exponent = 2 ^ shift * 2 ^ lower * 2 ^ exponent' := by
      rw [← zpow_natCast, ← two_zpow_add, ← two_zpow_add]
      congr 1
      omega
    have unit := (two_zpow_pos exponent').ne'
    rw [power]
    field_simp
  rw [parts] at holds
  rw [signed_div, quotient, UnpackedFloat.div, core]
  exact .of_holds holds

theorem Holds.div (holds : Holds sign magnitude first) (holds' : Holds sign' magnitude' second)
    (nonzero : magnitude' ≠ 0) :
    IsNearest (signed sign magnitude / signed sign' magnitude')
      (UnpackedFloat.div .binary64 first second) := by
  cases second with
  | notANumber | infinity => exact holds'.elim
  | zero => exact absurd holds'.2 nonzero
  | finite rightSign mantissa' exponent' positive' =>
      obtain ⟨rfl, rfl, _digits'⟩ := holds'
      cases first with
      | notANumber | infinity => exact holds.elim
      | zero =>
          rw [signed_div, holds.2, zero_div, signed_zero]
          exact isNearest_zero _
      | finite leftSign mantissa exponent positive =>
          obtain ⟨rfl, rfl, _digits⟩ := holds
          exact div_finite positive positive'

private theorem add_finite {mantissa mantissa' : ℕ} {exponent exponent' : ℤ}
    (positive : 0 < mantissa) (positive' : 0 < mantissa') :
    IsNearest (signed sign (mantissa * 2 ^ exponent) + signed sign' (mantissa' * 2 ^ exponent'))
      (UnpackedFloat.add .binary64 (.finite sign mantissa exponent positive)
        (.finite sign' mantissa' exponent' positive')) := by
  have left := decreaseExponent_value mantissa (min_le_left exponent exponent')
  have right := decreaseExponent_value mantissa' (min_le_right exponent exponent')
  rw [← left, ← right, ← signed_apply, ← signed_apply, ← add_mul, ← Int.cast_add]
  exact normalize_isNearest _ _ .positive

theorem Holds.add (holds : Holds sign magnitude first) (holds' : Holds sign' magnitude' second) :
    IsNearest (signed sign magnitude + signed sign' magnitude')
      (UnpackedFloat.add .binary64 first second) := by
  cases first with
  | notANumber | infinity => exact holds.elim
  | zero =>
      rw [holds.2, signed_zero, zero_add]
      cases second with
      | notANumber | infinity => exact holds'.elim
      | zero =>
          rw [holds'.2, signed_zero, UnpackedFloat.add]
          split <;> exact isNearest_zero _
      | finite => exact holds'.isNearest
  | finite leftSign mantissa exponent positive =>
      cases second with
      | notANumber | infinity => exact holds'.elim
      | zero =>
          rw [holds'.2, signed_zero, add_zero]
          exact holds.isNearest
      | finite rightSign mantissa' exponent' positive' =>
          obtain ⟨rfl, rfl, _digits⟩ := holds
          obtain ⟨rfl, rfl, _digits'⟩ := holds'
          exact add_finite positive positive'

private theorem unpacked_sub_eq (first second : UnpackedFloat) :
    UnpackedFloat.sub .binary64 first second = UnpackedFloat.add .binary64 first second.neg := by
  rcases first with _ | _ | _ | _ <;>
    rcases second with _ | _ | _ | ⟨_ | _, mantissa, exponent, positive⟩ <;> try rfl
  simp only [UnpackedFloat.sub, UnpackedFloat.add, UnpackedFloat.neg, Sign.apply, sub_neg_eq_add]

end Unpacked

/-! ### Numbers -/

/-- What an operation does with an exact result: the nearest number, unless that is too great. -/
structure Rounds (result : Float) (exact : ℚ) : Prop where
  isFinite_iff : result.isFinite = true ↔ |nearest exact| < overflowBound
  toRat_eq : |nearest exact| < overflowBound → toRat result = nearest exact
  overflow : overflowBound ≤ nearest exact → result = Scalar.infinity

theorem IsNearest.rounds {exact : ℚ} {unpacked : UnpackedFloat} (near : IsNearest exact unpacked) :
    Rounds (Float.ofModel (.pack unpacked)) exact := by
  obtain ⟨sign, magnitude, holds, value⟩ := near
  have size : |nearest exact| = magnitude := by
    rw [← value]
    exact signed_nonneg_abs sign holds.nonneg
  have result : (Float.ofModel (.pack unpacked)).toModel.unpack =
      UnpackedFloat.unpack .binary64 (UnpackedFloat.pack .binary64 unpacked) := rfl
  have packed : magnitude < overflowBound →
      (Float.ofModel (.pack unpacked)).toModel.unpack = unpacked :=
    fun small => result.trans (holds.unpack_pack small)
  have exceeded : overflowBound ≤ magnitude →
      (Float.ofModel (.pack unpacked)).toModel.unpack = .infinity sign :=
    fun large => result.trans (holds.unpack_pack_overflow large)
  refine ⟨⟨fun finite => ?_, fun small => ?_⟩, fun small => ?_, fun large => ?_⟩
  · by_contra large
    rw [size, not_lt] at large
    change (Float.ofModel (.pack unpacked)).toModel.unpack.isFinite = true at finite
    rw [exceeded large] at finite
    cases finite
  · rw [size] at small
    change (Float.ofModel (.pack unpacked)).toModel.unpack.isFinite = true
    rw [packed small]
    exact holds.isFinite
  · rw [size] at small
    rw [toRat, packed small, holds.amount_eq, value]
  · have positive := overflowBound_pos.trans_le large
    rw [abs_of_pos positive] at size
    have plus : sign = .positive := by
      cases sign
      · rw [← value, signed] at large
        linarith [holds.nonneg, overflowBound_pos]
      · rfl
    rw [← ofModel_pack_unpack (Float.ofModel (.pack unpacked)), exceeded (by rwa [← size]), plus]
    rfl

section Rounds

variable {result : Float} {exact bound : ℚ} (rounds : Rounds result exact)

include rounds

theorem Rounds.of_isFinite (finite : result.isFinite = true) : toRat result = nearest exact :=
  rounds.toRat_eq (rounds.isFinite_iff.mp finite)

theorem Rounds.of_abs_le (representable : Representable bound) (small : bound < overflowBound)
    (le : |exact| ≤ bound) : result.isFinite = true ∧ toRat result = nearest exact := by
  have size : |nearest exact| < overflowBound := (abs_nearest_le representable le).trans_lt small
  exact ⟨rounds.isFinite_iff.mpr size, rounds.toRat_eq size⟩

/-- An exact result of the format is not rounded. -/
theorem Rounds.of_representable (representable : Representable exact)
    (small : |exact| < overflowBound) : result.isFinite = true ∧ toRat result = exact := by
  have same := nearest_of_representable representable
  have size : |nearest exact| < overflowBound := by rwa [same]
  exact ⟨rounds.isFinite_iff.mpr size, (rounds.toRat_eq size).trans same⟩

end Rounds

section Float

variable {left right : Float} (leftFinite : left.isFinite = true)
  (rightFinite : right.isFinite = true)

include leftFinite

theorem toRat_neg : toRat (-left) = -toRat left := by
  obtain ⟨sign, magnitude, holds, small⟩ := exists_holds leftFinite
  have packed : (-left).toModel.unpack = left.toModel.unpack.neg := holds.neg.unpack_pack small
  rw [toRat, packed, holds.neg.amount_eq, signed_neg, toRat, holds.amount_eq]

theorem toRat_abs : (Scalar.abs left).isFinite = true ∧ toRat (Scalar.abs left) = |toRat left| := by
  have negative : left < 0 ↔ toRat left < 0 := lt_iff_toRat leftFinite rfl
  unfold Scalar.abs
  split
  case isTrue less =>
    rw [abs_of_neg (negative.mp less)]
    exact ⟨isFinite_neg leftFinite, toRat_neg leftFinite⟩
  case isFalse more =>
    rw [abs_of_nonneg (not_lt.mp (mt negative.mpr more))]
    exact ⟨leftFinite, rfl⟩

include rightFinite

theorem mul_rounds : Rounds (left * right) (toRat left * toRat right) := by
  obtain ⟨sign, magnitude, holds, _small⟩ := exists_holds leftFinite
  obtain ⟨sign', magnitude', holds', _small'⟩ := exists_holds rightFinite
  rw [toRat, toRat, holds.amount_eq, holds'.amount_eq]
  exact (holds.mul holds').rounds

theorem div_rounds (nonzero : toRat right ≠ 0) :
    Rounds (left / right) (toRat left / toRat right) := by
  obtain ⟨sign, magnitude, holds, _small⟩ := exists_holds leftFinite
  obtain ⟨sign', magnitude', holds', _small'⟩ := exists_holds rightFinite
  rw [toRat, holds'.amount_eq] at nonzero
  have some : magnitude' ≠ 0 := by
    rintro rfl
    exact nonzero (signed_zero sign')
  rw [toRat, toRat, holds.amount_eq, holds'.amount_eq]
  exact (holds.div holds' some).rounds

theorem add_rounds : Rounds (left + right) (toRat left + toRat right) := by
  obtain ⟨sign, magnitude, holds, _small⟩ := exists_holds leftFinite
  obtain ⟨sign', magnitude', holds', _small'⟩ := exists_holds rightFinite
  rw [toRat, toRat, holds.amount_eq, holds'.amount_eq]
  exact (holds.add holds').rounds

theorem sub_rounds : Rounds (left - right) (toRat left - toRat right) := by
  obtain ⟨sign, magnitude, holds, _small⟩ := exists_holds leftFinite
  obtain ⟨sign', magnitude', holds', _small'⟩ := exists_holds rightFinite
  have near := holds.add holds'.neg
  rw [← unpacked_sub_eq, signed_neg, ← sub_eq_add_neg] at near
  rw [toRat, toRat, holds.amount_eq, holds'.amount_eq]
  exact near.rounds

end Float

/-! ### Whole numbers -/

theorem natCast_lt_overflowBound {whole : ℕ} (small : whole < 2 ^ 64) :
    |(whole : ℚ)| < overflowBound := by
  rw [abs_of_nonneg (Nat.cast_nonneg whole)]
  calc (whole : ℚ) < 2 ^ (64 : ℤ) := by exact_mod_cast small
    _ ≤ overflowBound := two_zpow_le.mpr (by norm_num)

private theorem toRat_one : toRat (Float.ofBits 0x3ff0000000000000) = 1 := by
  have unpacked : (Float.ofBits 0x3ff0000000000000).toModel.unpack =
      .finite .positive (2 ^ 52) (-52) (by decide) := rfl
  rw [toRat, unpacked, amount, signed]
  norm_num

theorem ofNat_rounds (whole : ℕ) : Rounds (Float.ofNat whole) whole := by
  by_cases small : whole < 2 ^ 53
  · have fits : whole < 2 ^ 53 ∧ 0 ≤ 22 := ⟨small, by decide⟩
    have kept : whole.toUInt64.toNat = whole := Nat.mod_eq_of_lt (by omega)
    have near := normalize_isNearest whole 0 .positive
    rw [zpow_zero, mul_one, Int.cast_natCast] at near
    have converted : whole.toUInt64.toFloat =
        .ofModel (.pack (UnpackedFloat.normalize .binary64 whole 0 .positive)) := by
      conv_rhs => rw [← kept]
      rfl
    have representable : Representable (whole : ℤ) :=
      representable_intCast (by rw [Nat.abs_cast]; omega)
    rw [Int.cast_natCast] at representable
    obtain ⟨finite, value⟩ :=
      near.rounds.of_representable representable (natCast_lt_overflowBound (by omega))
    rw [← converted] at finite value
    have unitFinite : (Float.ofBits 0x3ff0000000000000).isFinite = true := rfl
    have product := mul_rounds finite unitFinite
    rw [value, toRat_one, mul_one] at product
    change Rounds (Float.ofScientific whole false 0) whole
    rw [Float.ofScientific, dif_pos fits]
    exact product
  · have large : ¬ (whole < 2 ^ 53 ∧ 0 ≤ 22) := by omega
    have positive : 0 < whole := by omega
    obtain ⟨scaledPositive, same⟩ := ofScientific_whole positive
    have enough : Enough (whole <<< Format.binary64.mantissaBits * 1)
        (-Format.binary64.mantissaBits + 0) := by
      left
      rw [Nat.mul_one, Nat.shiftLeft_eq]
      exact (by omega : 2 ^ 52 ≤ whole).trans (Nat.le_mul_of_pos_right whole (Nat.two_pow_pos _))
    have near : IsNearest (signed .positive _ * signed .positive _) (UnpackedFloat.mul .binary64
        (.finite .positive _ _ scaledPositive) (.finite .positive 1 0 Nat.one_pos)) :=
      mul_finite scaledPositive Nat.one_pos enough
    rw [← same] at near
    have value : signed .positive ((whole <<< Format.binary64.mantissaBits : ℕ) *
        2 ^ (-(Format.binary64.mantissaBits : ℤ))) * signed .positive ((1 : ℕ) * 2 ^ (0 : ℤ)) =
        whole := by
      rw [signed, signed, Nat.shiftLeft_eq, zpow_neg, zpow_natCast]
      push_cast
      field_simp
    rw [value] at near
    change Rounds (Float.ofScientific whole false 0) whole
    rw [Float.ofScientific, dif_neg large]
    exact near.rounds

end CanvasChart.Binary64
