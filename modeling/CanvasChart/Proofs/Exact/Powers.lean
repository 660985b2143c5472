import CanvasChart.Proofs.Exact.Scalar
import CanvasChart.Axis.Ticks

set_option autoImplicit false

/-! Powers, logarithms and counts of exact numbers. On real numbers they are the real ones, and
repeated squaring gives the powers with whole exponents. -/

namespace CanvasChart

namespace Exact

theorem getElem?_map_range {β : Type} {valueAt : ℕ → β} {count index : ℕ} {value : β} :
    ((List.range count).map valueAt)[index]? = some value ↔
      index < count ∧ value = valueAt index := by
  rw [List.getElem?_map, Option.map_eq_some_iff]
  constructor
  · rintro ⟨_index, inside, rfl⟩
    obtain ⟨small, rfl⟩ := List.getElem?_eq_some_iff.mp inside
    rw [List.length_range] at small
    exact ⟨small, by rw [List.getElem_range]⟩
  · rintro ⟨small, rfl⟩
    exact ⟨index, List.getElem?_range small, rfl⟩

variable [NumberTexts]

/-! ### Operations on real numbers -/

theorem div_coe (left : ℝ) {right : ℝ} (nonzero : right ≠ 0) :
    @HDiv.hDiv EReal EReal EReal (@instHDiv EReal Scalar.toDiv) left right =
      ((left / right : ℝ) : EReal) := by
  rw [div_eq _ (EReal.coe_ne_zero.mpr nonzero), ← EReal.coe_inv, ← EReal.coe_mul, div_eq_mul_inv]

theorem isFinite_coe (value : ℝ) : Scalar.isFinite (value : EReal) = true :=
  isFinite_iff.mpr (finite_coe value)

/-- What absorbs rounding when whole intervals are counted. -/
noncomputable def slack : ℝ := 1e-8

omit [NumberTexts] in
theorem slack_pos : 0 < slack := by norm_num [slack]

theorem countingSlack_eq : (countingSlack : EReal) = slack := rfl

theorem floor_coe (value : ℝ) : Scalar.floor (value : EReal) = ((⌊value⌋ : ℝ) : EReal) := rfl

theorem ceil_coe (value : ℝ) : Scalar.ceil (value : EReal) = ((⌈value⌉ : ℝ) : EReal) := rfl

theorem wholeSteps_coe (range : ℝ) {step : ℝ} (nonzero : step ≠ 0) :
    wholeSteps (range : EReal) (step : EReal) = ((⌊range / step + slack⌋ : ℝ) : EReal) := by
  unfold wholeSteps
  rw [div_coe range nonzero, countingSlack_eq, ← EReal.coe_add, floor_coe]

theorem round_intCast (whole : ℤ) :
    Scalar.round ((whole : ℝ) : EReal) = ((whole : ℝ) : EReal) := by
  have nearest : roundHalfAway whole = whole := by
    unfold roundHalfAway
    split
    · rw [Int.floor_eq_iff]
      constructor <;> linarith
    · rw [Int.ceil_eq_iff]
      constructor <;> linarith
  change ((roundHalfAway whole : ℝ) : EReal) = _
  rw [nearest]

theorem toCount_natCast {whole : ℕ} (small : whole ≤ greatestCount) :
    Scalar.toCount ((whole : ℝ) : EReal) = whole := by
  change min ⌊(whole : ℝ)⌋₊ greatestCount = whole
  rw [Nat.floor_natCast, min_eq_left small]

theorem toExponent_intCast {whole : ℤ} (above : leastExponent ≤ whole)
    (below : whole ≤ greatestExponent) : Scalar.toExponent ((whole : ℝ) : EReal) = whole := by
  have same : wholePart (whole : ℝ) = whole := by simp [wholePart]
  change max leastExponent (min (wholePart (whole : ℝ)) greatestExponent) = whole
  rw [same, min_eq_left below, max_eq_right above]

/-! ### Powers -/

/-- One squaring halves what is left of the exponent: on the fuel, with the product and the base
that were reached so far. -/
private theorem powerStep_coe (fuel : ℕ) (product base : ℝ) (exponent : ℕ)
    (enough : exponent < fuel) :
    Scalar.powerStep fuel (product : EReal) (base : EReal) exponent =
      ((product * base ^ exponent : ℝ) : EReal) := by
  induction fuel generalizing product base exponent with
  | zero => exact absurd enough (Nat.not_lt_zero exponent)
  | succ fuel ih =>
      have next : (if exponent % 2 = 1 then (product : EReal) * base else product) =
          ((product * base ^ (exponent % 2) : ℝ) : EReal) := by
        rcases Nat.mod_two_eq_zero_or_one exponent with even | odd
        · simp [even]
        · simp [odd]
      have halves : base ^ exponent = base ^ (exponent % 2) * (base * base) ^ (exponent / 2) := by
        rw [← pow_two, ← pow_mul, ← pow_add, Nat.mod_add_div]
      simp only [Scalar.powerStep]
      rw [halves, ← mul_assoc]
      split
      case isTrue last => rw [last, pow_zero, mul_one]; exact next
      case isFalse more =>
        have further := ih (product * base ^ (exponent % 2)) (base * base) (exponent / 2) (by omega)
        rw [← next, EReal.coe_mul base base] at further
        exact further

private theorem powerNat_coe (base : ℝ) (exponent : ℕ) :
    Scalar.powerNat (base : EReal) exponent = ((base ^ exponent : ℝ) : EReal) := by
  have started := powerStep_coe (exponent + 1) 1 base exponent (Nat.lt_succ_self exponent)
  rw [one_mul] at started
  unfold Scalar.powerNat
  rw [literal_eq, Nat.cast_one]
  exact started

theorem power_coe {base : ℝ} (nonzero : base ≠ 0) (exponent : ℤ) :
    Scalar.power (base : EReal) exponent = ((base ^ exponent : ℝ) : EReal) := by
  cases exponent with
  | ofNat exponent => exact powerNat_coe base exponent
  | negSucc exponent =>
      simp only [Scalar.power]
      rw [powerNat_coe, literal_eq, zpow_negSucc, Nat.cast_one, ← EReal.coe_one,
        div_coe 1 (pow_ne_zero _ nonzero), one_div]

theorem pow_intCast (base : ℝ) (exponent : ℤ) :
    Scalar.pow (base : EReal) ((exponent : ℝ) : EReal) = ((base ^ exponent : ℝ) : EReal) := by
  change ((base ^ (exponent : ℝ) : ℝ) : EReal) = _
  rw [Real.rpow_intCast]

/-! ### Logarithms -/

omit [NumberTexts] in
private theorem logarithm_coe (base : ℝ) {value : ℝ} (positive : 0 < value) :
    logarithm base (value : EReal) = ((Real.logb base value : ℝ) : EReal) := by
  change (if value = 0 then (⊥ : EReal) else if value < 0 then 0 else Real.logb base value) = _
  rw [if_neg positive.ne', if_neg positive.not_gt]

theorem log10_coe {value : ℝ} (positive : 0 < value) :
    Scalar.log10 (value : EReal) = ((Real.logb 10 value : ℝ) : EReal) :=
  logarithm_coe 10 positive

private theorem beq_natCast_iff {value : ℝ} {whole : ℕ} :
    ((value : EReal) == (whole : EReal)) = true ↔ value = whole := by
  rw [← EReal.coe_natCast, ← EReal.coe_eq_coe_iff]
  exact decide_eq_true_iff

theorem logOf_coe {base value : ℝ} (large : 1 < base) (positive : 0 < value) :
    Axis.logOf (value : EReal) (base : EReal) = ((Real.logb base value : ℝ) : EReal) := by
  unfold Axis.logOf
  rw [literal_eq, literal_eq]
  split
  case isTrue ten =>
    have same : base = (10 : ℕ) := beq_natCast_iff.mp ten
    rw [same, Nat.cast_ofNat]
    exact logarithm_coe 10 positive
  case isFalse =>
    split
    case isTrue two =>
      have same : base = (2 : ℕ) := beq_natCast_iff.mp two
      rw [same, Nat.cast_ofNat]
      exact logarithm_coe 2 positive
    case isFalse =>
      have natural (number : ℝ) : Real.logb (Real.exp 1) number = Real.log number := by
        rw [Real.logb, Real.log_exp, div_one]
      have basePositive : 0 < base := zero_lt_one.trans large
      have nonzero : Real.log base ≠ 0 := (Real.log_pos large).ne'
      change @HDiv.hDiv EReal EReal EReal (@instHDiv EReal Scalar.toDiv)
        (logarithm (Real.exp 1) value) (logarithm (Real.exp 1) base) = _
      rw [logarithm_coe _ positive, logarithm_coe _ basePositive, natural, natural,
        div_coe _ nonzero, Real.logb]

end Exact
end CanvasChart
