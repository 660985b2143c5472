import CanvasChart.Proofs.Label.Rounded

set_option autoImplicit false

/-! Labels of whole numbers. The product with ten billion has more digits than the format keeps;
a whole number is shown as itself as long as what the product loses is less than half a place of
the number. -/

namespace CanvasChart.LabelFormat

open Binary64

variable {whole : ℤ}

/-! ### What the product loses -/

/-- Rounding the product loses less than half the last place of the number, ten billion times. -/
def KeepsDigits (whole : ℤ) : Prop :=
  2 * |nearest (whole * 10 ^ 10) - whole * 10 ^ 10| < 10 ^ 10 * 2 ^ (Int.log 2 |(whole : ℚ)| - 52)

private theorem keepsDigits_neg : KeepsDigits (-whole) ↔ KeepsDigits whole := by
  unfold KeepsDigits
  rw [Int.cast_neg, neg_mul, nearest_neg, abs_neg, ← neg_sub', abs_neg]

private theorem keepsDigits_of_representable
    (representable : Representable ((whole : ℚ) * 10 ^ 10)) : KeepsDigits whole := by
  unfold KeepsDigits
  rw [nearest_of_representable representable, sub_self, abs_zero, mul_zero]
  positivity

private theorem representable_product {part : ℤ} {shift : ℕ} (small : |part * 5 ^ 10| < 2 ^ 53) :
    Representable (((part * 2 ^ shift : ℤ) : ℚ) * 10 ^ 10) := by
  refine ⟨part * 5 ^ 10, shift + 10, small, by omega, ?_⟩
  rw [two_zpow_add, zpow_natCast]
  push_cast
  norm_num
  ring

private theorem nearest_product (whole : ℤ) : ∃ result : ℤ, nearest (whole * 10 ^ 10) = result := by
  by_cases small : |whole * 10 ^ 10| ≤ 2 ^ 53
  · refine ⟨whole * 10 ^ 10, ?_⟩
    have exact := nearest_intCast small
    push_cast at exact ⊢
    exact exact
  · have large : (2 : ℚ) ^ (0 + 52 : ℤ) ≤ |(whole : ℚ) * 10 ^ 10| := by
      have cast : (2 : ℚ) ^ 53 ≤ |(whole : ℚ) * 10 ^ 10| := by
        exact_mod_cast (not_le.mp small).le
      norm_num at cast ⊢
      linarith
    obtain ⟨result, same⟩ := exists_multiple_nearest (le_lastPlace large)
    exact ⟨result, by rw [same, zpow_zero, mul_one]⟩

private theorem throughTenPlaces_whole (whole : ℤ) :
    throughTenPlaces whole = nearest (nearest (whole * 10 ^ 10) / 10 ^ 10) := by
  obtain ⟨result, same⟩ := nearest_product whole
  rw [throughTenPlaces, same, halfAway_follows.whole]

/-! ### When the digits are kept -/

structure Between (whole : ℤ) (power : ℕ) : Prop where
  above : 2 ^ power ≤ whole
  below : whole < 2 ^ (power + 1)
  small : whole ≤ 2 ^ 53

private theorem exists_between (positive : 0 < whole) (small : whole ≤ 2 ^ 53) :
    ∃ power, Between whole power := by
  obtain ⟨magnitude, rfl⟩ := Int.eq_ofNat_of_zero_le positive.le
  have some : magnitude ≠ 0 := by omega
  exact ⟨magnitude.log2, by exact_mod_cast Nat.log2_self_le some,
    by exact_mod_cast Nat.lt_log2_self, small⟩

namespace Between

variable {power : ℕ} (between : Between whole power)

include between

private theorem positive : 0 < whole := lt_of_lt_of_le (by positivity) between.above

private theorem power_le : power ≤ 53 := by
  by_contra beyond
  have grown : (2 : ℤ) ^ 54 ≤ 2 ^ power := pow_le_pow_right₀ (by norm_num) (by omega)
  have above := between.above
  have small := between.small
  omega

private theorem log_eq : Int.log 2 |(whole : ℚ)| = power := by
  have nonneg : (0 : ℚ) ≤ whole := by exact_mod_cast between.positive.le
  refine Binary64.log_eq ?_ ?_ <;> rw [abs_of_nonneg nonneg]
  · exact_mod_cast between.above
  · exact_mod_cast between.below

/-- Unless the number is a power of two, there is room on both sides. -/
private theorem room (notPower : whole ≠ 2 ^ power) :
    2 ^ power + 1 ≤ whole ∧ whole + 1 ≤ 2 ^ (power + 1) ∧ power ≤ 52 := by
  have above := between.above
  have below := between.below
  have bounded := between.power_le
  refine ⟨by omega, by omega, ?_⟩
  by_contra beyond
  have greatest : power = 53 := by omega
  rw [greatest] at notPower above
  have small := between.small
  omega

private theorem exists_loss (few : power ≤ 52) : ∃ (places : ℕ) (loss : ℤ),
    nearest (whole * 10 ^ 10) - whole * 10 ^ 10 = loss * 2 ^ places ∧ power < places + 43 := by
  by_cases low : power < 43
  · obtain ⟨result, same⟩ := nearest_product whole
    refine ⟨0, result - whole * 10 ^ 10, ?_, by omega⟩
    rw [same]
    push_cast
    ring
  · have large : (2 : ℚ) ^ (10 + 52 : ℤ) ≤ |(whole : ℚ) * 10 ^ 10| := by
      have grown : (2 : ℤ) ^ 43 ≤ 2 ^ power := pow_le_pow_right₀ (by norm_num) (by omega)
      have least : (2 : ℚ) ^ 43 ≤ whole := by exact_mod_cast grown.trans between.above
      rw [abs_of_nonneg (by linarith)]
      norm_num at least ⊢
      linarith
    obtain ⟨result, same⟩ := exists_multiple_nearest (le_lastPlace large)
    refine ⟨10, result - whole * 5 ^ 10, ?_, by omega⟩
    rw [same]
    push_cast
    norm_num
    ring

omit between in
private theorem nearest_of_power (isPower : whole = 2 ^ power) :
    nearest (whole * 10 ^ 10) = whole * 10 ^ 10 := by
  have representable : Representable (((1 * 2 ^ power : ℤ) : ℚ) * 10 ^ 10) :=
    representable_product (by decide)
  rw [one_mul, ← isPower] at representable
  exact nearest_of_representable representable

private theorem no_tie : 2 * |nearest (whole * 10 ^ 10) - whole * 10 ^ 10| ≠
    10 ^ 10 * 2 ^ ((power : ℤ) - 52) := by
  by_cases isPower : whole = 2 ^ power
  · rw [nearest_of_power isPower, sub_self, abs_zero, mul_zero]
    exact (by positivity : (0 : ℚ) < 10 ^ 10 * 2 ^ ((power : ℤ) - 52)).ne
  · obtain ⟨_above, _below, few⟩ := between.room isPower
    obtain ⟨places, loss, same, high⟩ := between.exists_loss few
    obtain ⟨rest, more⟩ := Nat.exists_eq_add_of_lt high
    have unit := two_zpow_pos (power - 42)
    have left :
        2 * |(loss : ℚ) * 2 ^ places| = |(loss : ℚ)| * 2 ^ rest * 2 * 2 ^ ((power : ℤ) - 42) := by
      have split : (2 : ℚ) ^ places = 2 ^ rest * 2 ^ ((power : ℤ) - 42) := by
        rw [← zpow_natCast, ← zpow_natCast, ← two_zpow_add]
        congr 1
        omega
      rw [abs_mul, abs_of_pos (by positivity : (0 : ℚ) < 2 ^ places), split]
      ring
    have right : (10 : ℚ) ^ 10 * 2 ^ ((power : ℤ) - 52) = 5 ^ 10 * 2 ^ ((power : ℤ) - 42) := by
      have split : (power : ℤ) - 42 = 10 + (power - 52) := by ring
      rw [split, two_zpow_add]
      norm_num
      ring
    intro tie
    rw [same, left, right] at tie
    have odd : |loss| * 2 ^ rest * 2 = 5 ^ 10 := by exact_mod_cast mul_right_cancel₀ unit.ne' tie
    generalize |loss| * 2 ^ rest = half at odd
    omega

private theorem nearest_eq_whole (notPower : whole ≠ 2 ^ power) {quotient : ℚ}
    (near : |quotient - whole| < 2 ^ ((power : ℤ) - 52) / 2) : nearest quotient = whole := by
  obtain ⟨above, below, few⟩ := between.room notPower
  have narrow : (2 : ℚ) ^ ((power : ℤ) - 52) ≤ 1 := zpow_le_one_of_nonpos₀ (by norm_num) (by omega)
  obtain ⟨lower, upper⟩ := abs_lt.mp near
  have aboveCast : (2 : ℚ) ^ power + 1 ≤ whole := by exact_mod_cast above
  have belowCast : (whole : ℚ) + 1 ≤ 2 ^ (power + 1) := by exact_mod_cast below
  have positive : (0 : ℚ) < 2 ^ power := by positivity
  have place : lastPlace quotient = power - 52 := by
    refine lastPlace_eq (by linarith) (by omega) (.inl ?_) ?_ <;> rw [abs_of_pos (by linarith)]
    · rw [sub_add_cancel, zpow_natCast]
      linarith
    · have next : (power : ℤ) - 52 + 53 = (power + 1 : ℕ) := by
        push_cast
        ring
      rw [next, zpow_natCast]
      linarith
  have multiple : ((whole * 2 ^ (52 - power) : ℤ) : ℚ) * 2 ^ ((power : ℤ) - 52) = whole := by
    have cancel : (2 : ℚ) ^ (52 - power) * 2 ^ ((power : ℤ) - 52) = 1 := by
      rw [← zpow_natCast, ← two_zpow_add, ← zpow_zero (2 : ℚ)]
      congr 1
      omega
    push_cast
    rw [mul_assoc, cancel, mul_one]
  rw [← multiple] at near ⊢
  exact nearest_eq place near.le fun half => absurd half near.ne

private theorem throughTenPlaces_eq (keeps : KeepsDigits whole) :
    throughTenPlaces whole = whole := by
  rw [throughTenPlaces_whole]
  by_cases isPower : whole = 2 ^ power
  · have exact : |whole| ≤ 2 ^ 53 := (abs_of_pos between.positive).trans_le between.small
    rw [nearest_of_power isPower, mul_div_cancel_right₀ _ (by norm_num), nearest_intCast exact]
  · unfold KeepsDigits at keeps
    rw [between.log_eq] at keeps
    refine between.nearest_eq_whole isPower ?_
    have quotient : nearest (whole * 10 ^ 10) / 10 ^ 10 - whole =
        (nearest (whole * 10 ^ 10) - whole * 10 ^ 10) / 10 ^ 10 := by ring
    rw [quotient, abs_div, abs_of_pos (by norm_num : (0 : ℚ) < 10 ^ 10), div_lt_iff₀ (by norm_num)]
    generalize |nearest (whole * 10 ^ 10) - whole * 10 ^ 10| = loss at keeps ⊢
    linarith

private theorem keepsDigits (same : throughTenPlaces whole = whole) : KeepsDigits whole := by
  rw [throughTenPlaces_whole] at same
  unfold KeepsDigits
  rw [between.log_eq]
  refine lt_of_le_of_ne ?_ between.no_tie
  have positive : (0 : ℚ) < whole := by exact_mod_cast between.positive
  have small : nearest (whole * 10 ^ 10) / 10 ^ 10 < 2 ^ ((power : ℤ) - 52 + 53) := by
    by_contra large
    have passed := le_nearest_of_representable (representable_zpow (by omega)) (not_lt.mp large)
    have below : (whole : ℚ) < 2 ^ (power + 1) := by exact_mod_cast between.below
    have next : (power : ℤ) - 52 + 53 = (power + 1 : ℕ) := by
      push_cast
      ring
    rw [same, next, zpow_natCast] at passed
    linarith
  have nonneg : 0 ≤ nearest (whole * 10 ^ 10) / 10 ^ 10 :=
    div_nonneg (nearest_nonneg (by positivity)) (by norm_num)
  have nonzero : nearest (whole * 10 ^ 10) / 10 ^ 10 ≠ 0 := by
    intro zero
    rw [zero, nearest_zero] at same
    linarith
  have place := lastPlace_le (by rwa [abs_of_nonneg nonneg]) (by omega) nonzero
  have error := nearest_error (nearest (whole * 10 ^ 10) / 10 ^ 10)
  have power := two_zpow_le.mpr place
  have scaled : nearest (whole * 10 ^ 10) - whole * 10 ^ 10 =
      -((whole - nearest (whole * 10 ^ 10) / 10 ^ 10) * 10 ^ 10) := by ring
  rw [same] at error
  rw [scaled, abs_neg, abs_mul, abs_of_pos (by norm_num : (0 : ℚ) < 10 ^ 10)]
  linarith

end Between

private theorem keepsDigits_zero : KeepsDigits 0 := by
  refine keepsDigits_of_representable ?_
  rw [Int.cast_zero, zero_mul]
  exact_mod_cast representable_intCast (by norm_num : |(0 : ℤ)| ≤ 2 ^ 53)

private theorem throughTenPlaces_neg (whole : ℤ) :
    throughTenPlaces ((-whole : ℤ) : ℚ) = -throughTenPlaces whole := by
  rw [throughTenPlaces_whole, throughTenPlaces_whole, Int.cast_neg, neg_mul, nearest_neg, neg_div,
    nearest_neg]

/-- A whole number is divided back to itself exactly when its product loses too little to matter. -/
theorem throughTenPlaces_eq_iff (small : |whole| ≤ 2 ^ 53) :
    throughTenPlaces whole = whole ↔ KeepsDigits whole := by
  have positiveCase {magnitude : ℤ} (positive : 0 < magnitude) (small : magnitude ≤ 2 ^ 53) :
      throughTenPlaces magnitude = magnitude ↔ KeepsDigits magnitude := by
    obtain ⟨power, between⟩ := exists_between positive small
    exact ⟨between.keepsDigits, between.throughTenPlaces_eq⟩
  obtain ⟨lower, upper⟩ := abs_le.mp small
  rcases lt_trichotomy whole 0 with negative | rfl | positive
  · have mirrored := positiveCase (neg_pos.mpr negative) (by omega)
    rwa [throughTenPlaces_neg, Int.cast_neg, neg_inj, keepsDigits_neg] at mirrored
  · refine ⟨fun _same => keepsDigits_zero, fun _keeps => ?_⟩
    rw [throughTenPlaces_whole, Int.cast_zero, zero_mul, nearest_zero, zero_div, nearest_zero]
  · exact positiveCase positive upper

theorem keepsDigits_of_small (small : |whole| ≤ 922337204) : KeepsDigits whole := by
  refine keepsDigits_of_representable ?_
  rcases Int.even_or_odd' whole with ⟨half, even | odd⟩
  · have doubled : whole = half * 2 ^ 1 := by omega
    rw [doubled] at small ⊢
    refine representable_product ?_
    rw [abs_lt]
    rw [abs_le] at small
    constructor <;> omega
  · have same : whole = whole * 2 ^ 0 := by omega
    rw [same]
    refine representable_product ?_
    rw [abs_lt]
    rw [abs_le] at small
    constructor <;> omega

/-! ### Texts -/

private theorem toRat_tenPlaces_ofInt (small : |whole| ≤ 2 ^ 53) :
    (tenPlaces (Scalar.ofInt whole)).isFinite = true ∧
      toRat (tenPlaces (Scalar.ofInt whole)) = throughTenPlaces whole := by
  obtain ⟨finite, value⟩ := toRat_ofInt small
  have product : |(whole : ℚ) * 10 ^ 10| ≤ 2 ^ (87 : ℤ) := by
    have cast : |(whole : ℚ)| ≤ 2 ^ 53 := by exact_mod_cast small
    rw [abs_mul, abs_of_pos (by norm_num : (0 : ℚ) < 10 ^ 10)]
    norm_num at cast ⊢
    linarith
  have bounded : |nearest (toRat (Scalar.ofInt whole : Float) * 10 ^ 10)| < overflowBound := by
    rw [value]
    exact (abs_nearest_le (representable_zpow (by norm_num)) product).trans_lt
      (two_zpow_lt.mpr (by norm_num))
  have rounded := toRat_tenPlaces finite bounded
  rwa [value] at rounded

private theorem plainText_ofInt_iff (small : |whole| ≤ 2 ^ 53) :
    plainText (Scalar.ofInt whole : Float) = toString whole ↔ throughTenPlaces whole = whole := by
  obtain ⟨finite, value⟩ := toRat_ofInt small
  obtain ⟨roundedFinite, rounded⟩ := toRat_tenPlaces_ofInt small
  rcases eq_or_ne whole 0 with rfl | nonzero
  · have text : plainText (Scalar.ofInt 0 : Float) = toString (0 : ℤ) := by decide +kernel
    exact iff_of_true text ((throughTenPlaces_eq_iff small).mpr keepsDigits_zero)
  · constructor
    · intro text
      rw [← Decimal.shortestText_whole finite value small nonzero] at text
      have same : printed (Scalar.ofInt whole) = Scalar.ofInt whole :=
        Decimal.shortestText_injective text
      have kept := toRat_eq_of_beq (printed_beq finite)
      rw [same, value, rounded] at kept
      exact kept.symm
    · intro same
      rw [same] at rounded
      rw [plainText_of_nonzero (by rw [rounded]; exact_mod_cast nonzero)]
      exact Decimal.shortestText_whole roundedFinite rounded small nonzero

private theorem throughTenPlaces_near (small : |whole| ≤ 2 ^ 51) :
    |throughTenPlaces whole - whole| < 1 / 2 := by
  rw [throughTenPlaces_whole]
  have cast : |(whole : ℚ)| ≤ 2 ^ 51 := by exact_mod_cast small
  have product : |(whole : ℚ) * 10 ^ 10| < 2 ^ (32 + 53 : ℤ) := by
    rw [abs_mul, abs_of_pos (by norm_num : (0 : ℚ) < 10 ^ 10)]
    norm_num at cast ⊢
    linarith
  have error := nearest_error_le product (by norm_num)
  generalize nearest (whole * 10 ^ 10) = rounded at error
  have near : |rounded / 10 ^ 10 - whole| ≤ 22 / 100 := by
    have quotient : rounded / 10 ^ 10 - whole = (rounded - whole * 10 ^ 10) / 10 ^ 10 := by ring
    rw [quotient, abs_div, abs_of_pos (by norm_num : (0 : ℚ) < 10 ^ 10), div_le_iff₀ (by norm_num)]
    norm_num at error ⊢
    linarith
  have quotientSmall : |rounded / 10 ^ 10| < 2 ^ (-1 + 53 : ℤ) := by
    have triangle := abs_sub_abs_le_abs_sub (rounded / 10 ^ 10) (whole : ℚ)
    norm_num at cast triangle near ⊢
    linarith
  have error' := nearest_error_le quotientSmall (by norm_num)
  have triangle := abs_sub_le (nearest (rounded / 10 ^ 10)) (rounded / 10 ^ 10) whole
  norm_num at error' near triangle ⊢
  linarith

private theorem plainText_ofInt_injective {other : ℤ} (small : |whole| ≤ 2 ^ 51)
    (small' : |other| ≤ 2 ^ 51)
    (same : plainText (Scalar.ofInt whole : Float) = plainText (Scalar.ofInt other : Float)) :
    whole = other := by
  have format : |whole| ≤ 2 ^ 53 := small.trans (by norm_num)
  have format' : |other| ≤ 2 ^ 53 := small'.trans (by norm_num)
  rw [plainText_eq_iff (toRat_ofInt format).1 (toRat_ofInt format').1] at same
  have rounded := toRat_eq_of_beq same
  rw [(toRat_tenPlaces_ofInt format).2, (toRat_tenPlaces_ofInt format').2] at rounded
  have near := throughTenPlaces_near small
  have near' := throughTenPlaces_near small'
  rw [rounded, abs_sub_comm] at near
  have apart : |(whole : ℚ) - other| < 1 := by
    have triangle := abs_sub_le (whole : ℚ) (throughTenPlaces other) other
    linarith
  have distance : |whole - other| < 1 := by exact_mod_cast apart
  rw [Int.abs_lt_one_iff] at distance
  omega

example : plainText (Scalar.ofInt (2 ^ 53 - 1) : Float) =
    plainText (Scalar.ofInt (2 ^ 53 - 2) : Float) := by
  decide +kernel

/-- A whole number of the format is labelled with its own decimal digits exactly when its product
with ten billion is rounded by less than half a place of the number. This is so up to 922337204 in
magnitude; and up to 2 ^ 51 no two whole numbers share a label, and no two such keys a name. -/
theorem plainText_whole (whole : ℤ) (small : |whole| ≤ 2 ^ 53) :
    (plain.text (Scalar.ofInt whole : Float) = toString whole ↔ KeepsDigits whole) ∧
      (|whole| ≤ 922337204 → plain.text (Scalar.ofInt whole : Float) = toString whole) ∧
      ∀ other : ℤ, |whole| ≤ 2 ^ 51 → |other| ≤ 2 ^ 51 →
        (Key.number (Scalar.ofInt whole : Float)).text =
          (Key.number (Scalar.ofInt other : Float)).text →
        whole = other := by
  have kept : plain.text (Scalar.ofInt whole : Float) = toString whole ↔ KeepsDigits whole :=
    (plainText_ofInt_iff small).trans (throughTenPlaces_eq_iff small)
  exact ⟨kept, fun few => kept.mpr (keepsDigits_of_small few),
    fun other few few' same => plainText_ofInt_injective few few' same⟩

theorem plainText_whole_nineDigits : |(922337204 : ℤ)| ≤ 2 ^ 53 ∧
    plain.text (Scalar.ofInt 922337204 : Float) = "922337204" := by
  have small : |(922337204 : ℤ)| ≤ 2 ^ 53 := by norm_num
  exact ⟨small, (plainText_whole 922337204 small).2.1 (by norm_num)⟩

/-- One more is shown with noise. -/
theorem not_plainText_whole : ¬ ∀ whole : ℤ, |whole| ≤ 2 ^ 53 →
    plain.text (Scalar.ofInt whole : Float) = toString whole := by
  intro kept
  have text := kept 922337205 (by norm_num)
  have noise : plain.text (Scalar.ofInt 922337205 : Float) = "922337204.9999999" := by
    decide +kernel
  rw [noise] at text
  revert text
  decide

end CanvasChart.LabelFormat
