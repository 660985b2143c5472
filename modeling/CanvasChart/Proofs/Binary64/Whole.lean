import CanvasChart.Proofs.Binary64.Arithmetic

set_option autoImplicit false

/-! Whole numbers among the binary64 ones. Rounding to them is exact, since a number with a fraction
is small enough for its neighbours to be numbers of the format. -/

namespace CanvasChart.Binary64

variable {value : Float} {negative : Bool} {mantissa : ℕ} {exponent : ℤ}

/-! ### Parts -/

theorem toRat_of_parts (taken : parts value = .finite negative mantissa exponent) :
    value.isFinite = true ∧
      toRat value = (if negative then -1 else 1) * ((mantissa : ℚ) * 2 ^ exponent) ∧
      mantissa < 2 ^ 53 := by
  change value.toModel.unpack.isFinite = true ∧ amount value.toModel.unpack = _ ∧ _
  obtain ⟨sign, rfl, ⟨unpacked, rfl, rfl⟩ | ⟨positive, unpacked, canonical⟩⟩ := unpack_of_parts taken
  all_goals rw [unpacked]
  · exact ⟨rfl, by simp [amount], by decide⟩
  · refine ⟨rfl, ?_, canonical.small⟩
    cases sign
    · exact (neg_one_mul _).symm
    · exact (one_mul _).symm

theorem exists_parts (finite : value.isFinite = true) :
    ∃ negative mantissa exponent, parts value = .finite negative mantissa exponent := by
  unfold parts
  obtain ⟨sign, unpacked⟩ | ⟨sign, mantissa, exponent, positive, unpacked, _canonical⟩ :=
    unpack_of_isFinite finite
  all_goals
    rw [unpacked]
    exact ⟨_, _, _, rfl⟩

/-! ### Natural numbers -/

theorem representable_natCast {whole : ℕ} (small : whole ≤ 2 ^ 53) : Representable (whole : ℚ) := by
  have representable : Representable (whole : ℤ) :=
    representable_intCast (by rw [Nat.abs_cast]; exact_mod_cast small)
  rwa [Int.cast_natCast] at representable

theorem toRat_ofNat {whole : ℕ} (small : whole ≤ 2 ^ 53) :
    (Float.ofNat whole).isFinite = true ∧ toRat (Float.ofNat whole) = whole :=
  (ofNat_rounds whole).of_representable (representable_natCast small)
    (natCast_lt_overflowBound (by omega))

theorem Rounds.of_abs_le_natCast {result : Float} {exact : ℚ} (rounds : Rounds result exact)
    {whole : ℕ} (small : whole ≤ 2 ^ 53) (le : |exact| ≤ whole) :
    result.isFinite = true ∧ toRat result = nearest exact ∧ |nearest exact| ≤ whole := by
  have below : (whole : ℚ) < overflowBound :=
    (le_abs_self _).trans_lt (natCast_lt_overflowBound (by omega))
  obtain ⟨finite, value⟩ := rounds.of_abs_le (representable_natCast small) below le
  exact ⟨finite, value, abs_nearest_le (representable_natCast small) le⟩

theorem toRat_ofInt {whole : ℤ} (small : |whole| ≤ 2 ^ 53) :
    (Scalar.ofInt whole : Float).isFinite = true ∧ toRat (Scalar.ofInt whole : Float) = whole := by
  cases whole with
  | ofNat magnitude => exact toRat_ofNat (by simpa using small)
  | negSucc magnitude =>
      have bounded : magnitude + 1 ≤ 2 ^ 53 := by
        rw [abs_of_neg (Int.negSucc_lt_zero magnitude), Int.neg_negSucc] at small
        exact_mod_cast small
      obtain ⟨finite, value⟩ := toRat_ofNat bounded
      refine ⟨isFinite_neg finite, ?_⟩
      change toRat (-Float.ofNat (magnitude + 1)) = _
      rw [toRat_neg finite, value]
      push_cast
      ring

/-! ### Rounding to whole numbers -/

/-- The rounding is that of a rule on all rational numbers. -/
structure Rounding.Follows (rounding : Rounding) (rule : ℚ → ℤ) : Prop where
  whole (number : ℤ) : rule number = number
  positive {quotient remainder divisor : ℕ} (less : remainder < divisor) :
    (rounding false quotient remainder divisor : ℤ) = rule (quotient + remainder / divisor)
  negative {quotient remainder divisor : ℕ} (less : remainder < divisor) :
    -(rounding true quotient remainder divisor : ℤ) = rule (-(quotient + remainder / divisor))
  near (negative : Bool) (quotient remainder divisor : ℕ) :
    rounding negative quotient remainder divisor ≤ quotient + 1

section Roundings

variable {quotient remainder divisor : ℕ}

private theorem fraction_bounds (less : remainder < divisor) :
    (0 : ℚ) ≤ remainder / divisor ∧ (remainder : ℚ) / divisor < 1 ∧
      ((remainder : ℚ) / divisor = 0 ↔ remainder = 0) ∧
      ((1 : ℚ) / 2 ≤ remainder / divisor ↔ divisor ≤ 2 * remainder) := by
  have positive : (0 : ℚ) < divisor := by exact_mod_cast less.pos
  refine ⟨div_nonneg (Nat.cast_nonneg _) positive.le,
    (div_lt_one positive).mpr (by exact_mod_cast less), ?_, ?_⟩
  · rw [div_eq_zero_iff, or_iff_left positive.ne', Nat.cast_eq_zero]
  · rw [div_le_div_iff₀ two_pos positive, one_mul, mul_comm]
    exact_mod_cast Iff.rfl

private theorem down_follows : Rounding.down.Follows Int.floor := by
  refine ⟨Int.floor_intCast, fun {quotient remainder divisor} less => ?_,
    fun {quotient remainder divisor} less => ?_, fun negative quotient remainder divisor => ?_⟩
  · obtain ⟨nonneg, below, _zero, _half⟩ := fraction_bounds less
    simp only [Rounding.down, Bool.false_eq_true, false_and, if_false]
    symm
    rw [Int.floor_eq_iff]
    push_cast
    constructor <;> linarith
  · obtain ⟨nonneg, below, zero, _half⟩ := fraction_bounds less
    simp only [Rounding.down, true_and]
    symm
    rw [Int.floor_eq_iff]
    split
    case isTrue some =>
      have positive := lt_of_le_of_ne nonneg fun none => some.ne' (zero.mp none.symm)
      push_cast
      constructor <;> linarith
    case isFalse none =>
      rw [zero.mpr (by omega)]
      push_cast
      constructor <;> linarith
  · unfold Rounding.down
    split <;> omega

def awayFromZero (number : ℚ) : ℤ := if number < 0 then -⌊-number + 1 / 2⌋ else ⌊number + 1 / 2⌋

theorem awayFromZero_mono {number other : ℚ} (le : number ≤ other) :
    awayFromZero number ≤ awayFromZero other := by
  unfold awayFromZero
  split
  case isTrue negative =>
    have nonneg : 0 ≤ ⌊-number + 1 / 2⌋ := Int.floor_nonneg.mpr (by linarith)
    split
    case isTrue => exact neg_le_neg (Int.floor_mono (by linarith))
    case isFalse nonnegative =>
      have above : 0 ≤ ⌊other + 1 / 2⌋ := Int.floor_nonneg.mpr (by linarith)
      omega
  case isFalse nonnegative =>
    rw [if_neg (by linarith)]
    exact Int.floor_mono (by linarith)

private theorem halfAway_magnitude (less : remainder < divisor) (negative : Bool) :
    (Rounding.halfAway negative quotient remainder divisor : ℤ) =
      ⌊(quotient + remainder / divisor : ℚ) + 1 / 2⌋ := by
  obtain ⟨nonneg, below, _zero, half⟩ := fraction_bounds less
  symm
  rw [Int.floor_eq_iff]
  unfold Rounding.halfAway
  split
  case isTrue up =>
    have above := half.mpr up
    push_cast
    constructor <;> linarith
  case isFalse stays =>
    have under := not_le.mp (mt half.mp stays)
    push_cast
    constructor <;> linarith

theorem halfAway_follows : Rounding.halfAway.Follows awayFromZero := by
  refine ⟨fun number => ?_, fun {quotient remainder divisor} less => ?_,
    fun {quotient remainder divisor} less => ?_, fun negative quotient remainder divisor => ?_⟩
  · have half (whole : ℤ) : ⌊(whole : ℚ) + 1 / 2⌋ = whole := by
      rw [Int.floor_eq_iff]
      constructor <;> linarith
    unfold awayFromZero
    split
    · rw [← Int.cast_neg, half, neg_neg]
    · exact half number
  · obtain ⟨nonneg, _below, _zero, _half⟩ := fraction_bounds less
    have whole : (0 : ℚ) ≤ quotient := Nat.cast_nonneg quotient
    rw [halfAway_magnitude less, awayFromZero, if_neg (by linarith)]
  · obtain ⟨nonneg, _below, _zero, _half⟩ := fraction_bounds less
    have whole : (0 : ℚ) ≤ quotient := Nat.cast_nonneg quotient
    rw [halfAway_magnitude less, awayFromZero]
    split
    case isTrue => rw [neg_neg]
    case isFalse nonnegative =>
      have zero : (quotient : ℚ) + remainder / divisor = 0 := by linarith
      rw [zero]
      norm_num
  · unfold Rounding.halfAway
    split <;> omega

end Roundings

private theorem magnitude_negSucc (mantissa places : ℕ) :
    (mantissa : ℚ) * 2 ^ Int.negSucc places =
      (mantissa / 2 ^ (places + 1) : ℕ) +
        (mantissa % 2 ^ (places + 1) : ℕ) / (2 ^ (places + 1) : ℕ) := by
  have split : (mantissa : ℚ) = (2 ^ (places + 1) : ℕ) * (mantissa / 2 ^ (places + 1) : ℕ) +
      (mantissa % 2 ^ (places + 1) : ℕ) := by
    exact_mod_cast (Nat.div_add_mod mantissa (2 ^ (places + 1))).symm
  have positive : ((2 ^ (places + 1) : ℕ) : ℚ) ≠ 0 := by positivity
  have power : (2 : ℚ) ^ Int.negSucc places = ((2 ^ (places + 1) : ℕ) : ℚ)⁻¹ := by
    rw [zpow_negSucc]
    exact_mod_cast rfl
  rw [power]
  field_simp
  exact split

private theorem toRat_roundWith {rounding : Rounding} {rule : ℚ → ℤ}
    (follows : rounding.Follows rule) (finite : value.isFinite = true) :
    (roundWith rounding value).isFinite = true ∧
      toRat (roundWith rounding value) = rule (toRat value) := by
  obtain ⟨negative, mantissa, exponent, taken⟩ := exists_parts finite
  obtain ⟨_finite, number, small⟩ := toRat_of_parts taken
  cases exponent with
  | ofNat zeros =>
      have stays : roundWith rounding value = value := by rw [roundWith, taken]
      have whole :
          toRat value = (((if negative then -1 else 1) * (mantissa * 2 ^ zeros) : ℤ) : ℚ) := by
        rw [number]
        push_cast
        rfl
      rw [stays]
      exact ⟨finite, by rw [whole, follows.whole]⟩
  | negSucc places =>
      let divisor := 2 ^ (places + 1)
      let rounded := rounding negative (mantissa / divisor) (mantissa % divisor) divisor
      have less : mantissa % divisor < divisor := Nat.mod_lt _ (Nat.two_pow_pos _)
      have bounded : rounded ≤ 2 ^ 53 := by
        have near := follows.near negative (mantissa / divisor) (mantissa % divisor) divisor
        have quotient := Nat.div_le_self mantissa divisor
        omega
      obtain ⟨roundedFinite, roundedValue⟩ := toRat_ofNat bounded
      rw [magnitude_negSucc] at number
      have result : roundWith rounding value =
          if negative then -Float.ofNat rounded else Float.ofNat rounded := by
        rw [roundWith, taken]
        rfl
      rw [result, number]
      cases negative with
      | false =>
          rw [if_neg Bool.false_ne_true, if_neg Bool.false_ne_true, one_mul,
            ← follows.positive less]
          exact ⟨roundedFinite, by exact_mod_cast roundedValue⟩
      | true =>
          rw [if_pos rfl, if_pos rfl, neg_one_mul, ← follows.negative less, toRat_neg roundedFinite,
            roundedValue]
          exact ⟨isFinite_neg roundedFinite, by push_cast; rfl⟩

theorem toRat_floor (finite : value.isFinite = true) :
    (Scalar.floor value).isFinite = true ∧ toRat (Scalar.floor value) = ⌊toRat value⌋ :=
  toRat_roundWith down_follows finite

theorem toRat_round (finite : value.isFinite = true) :
    (Scalar.round value).isFinite = true ∧
      toRat (Scalar.round value) = awayFromZero (toRat value) :=
  toRat_roundWith halfAway_follows finite

/-! ### Counts -/

private theorem wholePart_eq (mantissa : ℕ) (exponent : ℤ) :
    (wholePart mantissa exponent : ℤ) = ⌊(mantissa : ℚ) * 2 ^ exponent⌋ := by
  cases exponent with
  | ofNat zeros =>
      have whole : (mantissa : ℚ) * 2 ^ Int.ofNat zeros = (mantissa * 2 ^ zeros : ℕ) := by
        push_cast
        rfl
      rw [whole, Int.floor_natCast]
      rfl
  | negSucc places =>
      have quotient :
          (mantissa : ℚ) * 2 ^ Int.negSucc places = (mantissa : ℚ) / (2 ^ (places + 1) : ℕ) := by
        rw [zpow_negSucc, div_eq_mul_inv]
        push_cast
        rfl
      rw [quotient, Rat.floor_natCast_div_natCast]
      rfl

theorem toCount_eq (finite : value.isFinite = true) (nonneg : 0 ≤ toRat value) :
    (toCount value : ℤ) = min ⌊toRat value⌋ greatestCount := by
  obtain ⟨negative, mantissa, exponent, taken⟩ := exists_parts finite
  obtain ⟨_finite, number, _small⟩ := toRat_of_parts taken
  rw [toCount, taken]
  cases negative with
  | false =>
      rw [number, if_neg Bool.false_ne_true, one_mul, ← wholePart_eq]
      exact Nat.cast_min _ _
  | true =>
      have magnitude : (0 : ℚ) ≤ mantissa * 2 ^ exponent := by positivity
      rw [if_pos rfl, neg_one_mul] at number
      have zero : toRat value = 0 := by linarith
      rw [zero, Int.floor_zero]
      rfl

theorem toExponent_eq (finite : value.isFinite = true) {whole : ℤ} (same : toRat value = whole)
    (above : leastExponent ≤ whole) (below : whole ≤ greatestExponent) :
    toExponent value = whole := by
  obtain ⟨negative, mantissa, exponent, taken⟩ := exists_parts finite
  obtain ⟨_finite, number, _small⟩ := toRat_of_parts taken
  have part := wholePart_eq mantissa exponent
  rw [toExponent, taken]
  rw [same] at number
  cases negative with
  | false =>
      rw [if_neg Bool.false_ne_true, one_mul] at number
      rw [← number, Int.floor_intCast] at part
      dsimp only
      rw [part, if_neg Bool.false_ne_true, min_eq_left below]
  | true =>
      rw [if_pos rfl, neg_one_mul] at number
      have magnitude : (mantissa : ℚ) * 2 ^ exponent = (-whole : ℤ) := by
        push_cast
        linarith
      rw [magnitude, Int.floor_intCast] at part
      dsimp only
      rw [part, if_pos rfl, neg_neg, max_eq_left above]

end CanvasChart.Binary64
