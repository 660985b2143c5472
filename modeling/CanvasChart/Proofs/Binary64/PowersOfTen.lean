import CanvasChart.Proofs.Binary64.Whole

set_option autoImplicit false

/-! Powers of ten by repeated squaring. Every multiplication is rounded once, so that a power has
no more roundings than its exponent; the powers from 309 on exceed the greatest number, and their
reciprocals are zero. -/

namespace CanvasChart.Binary64

/-! ### Relative errors -/

def roundoff : ℚ := 1 / 2 ^ 53

/-- A number that so many roundings made of an exact one. -/
structure Near (roundings : ℕ) (exact : ℚ) (value : Float) : Prop where
  isFinite : value.isFinite = true
  above : exact * (1 - roundoff) ^ roundings ≤ toRat value
  below : toRat value ≤ exact * (1 + roundoff) ^ roundings

private theorem few_roundings {roundings : ℕ} (few : roundings ≤ 400) :
    99 / 100 ≤ (1 - roundoff) ^ roundings ∧ (1 + roundoff) ^ roundings ≤ 101 / 100 := by
  constructor
  · have cast : (roundings : ℚ) ≤ 400 := by exact_mod_cast few
    have bernoulli := one_add_mul_le_pow (by norm_num [roundoff] : -2 ≤ -roundoff) roundings
    rw [← sub_eq_add_neg] at bernoulli
    refine bernoulli.trans' ?_
    unfold roundoff
    linarith
  · have half : (1 + roundoff) ^ 200 ≤ 1004 / 1000 := by norm_num [roundoff]
    calc (1 + roundoff) ^ roundings ≤ ((1 + roundoff) ^ 200) ^ 2 := by
          rw [← pow_mul]
          exact pow_le_pow_right₀ (by norm_num [roundoff]) few
      _ ≤ (1004 / 1000) ^ 2 := pow_le_pow_left₀ (by norm_num [roundoff]) half 2
      _ ≤ 101 / 100 := by norm_num

variable {roundings roundings' : ℕ} {exact exact' : ℚ} {left right : Float}

private theorem near_of_eq (finite : left.isFinite = true) (same : toRat left = exact) :
    Near 0 exact left :=
  ⟨finite, by rw [pow_zero, mul_one, same], by rw [pow_zero, mul_one, same]⟩

theorem tenPower_le_greatestNumber : 10 ^ 308 * (101 / 100) ≤ greatestNumber := by
  have part : (10 : ℚ) ^ 77 ≤ 60000 * 2 ^ 240 := by norm_num
  have power : (2 : ℚ) ^ (971 : ℤ) = 2 ^ 11 * (2 ^ 240) ^ 4 := by
    rw [← pow_mul, ← pow_add]
    exact zpow_natCast 2 971
  calc (10 : ℚ) ^ 308 * (101 / 100) = (10 ^ 77) ^ 4 * (101 / 100) := by rw [← pow_mul]
    _ ≤ (60000 * 2 ^ 240) ^ 4 * (101 / 100) := by gcongr
    _ = 60000 ^ 4 * (101 / 100) * (2 ^ 240) ^ 4 := by rw [mul_pow, mul_right_comm]
    _ ≤ (2 ^ 53 - 1) * 2 ^ 11 * (2 ^ 240) ^ 4 := by gcongr ?_ * _; norm_num
    _ = greatestNumber := by rw [greatestNumber, power, mul_assoc]; norm_cast

theorem Near.mul (near : Near roundings exact left) (near' : Near roundings' exact' right)
    (least : 1 ≤ exact) (least' : 1 ≤ exact') (bounded : exact * exact' ≤ 10 ^ 308)
    (few : roundings + roundings' ≤ 400) :
    Near (roundings + roundings' + 1) (exact * exact') (left * right) := by
  obtain ⟨lower, upper⟩ := few_roundings few
  have product := mul_rounds near.isFinite near'.isFinite
  have unit : 0 < 1 - roundoff := by norm_num [roundoff]
  have unit' : 0 < 1 + roundoff := by norm_num [roundoff]
  have leftAbove := near.above
  have rightAbove := near'.above
  have leftPositive : 0 < exact * (1 - roundoff) ^ roundings := by positivity
  have rightPositive : 0 < exact' * (1 - roundoff) ^ roundings' := by positivity
  have above :
      exact * exact' * (1 - roundoff) ^ (roundings + roundings') ≤ toRat left * toRat right := by
    rw [pow_add, mul_mul_mul_comm]
    exact mul_le_mul leftAbove rightAbove rightPositive.le (leftPositive.le.trans leftAbove)
  have below :
      toRat left * toRat right ≤ exact * exact' * (1 + roundoff) ^ (roundings + roundings') := by
    rw [pow_add, mul_mul_mul_comm]
    exact mul_le_mul near.below near'.below (rightPositive.le.trans rightAbove) (by positivity)
  generalize toRat left * toRat right = number at product above below
  have exactLeast : 1 ≤ exact * exact' := one_le_mul_of_one_le_of_one_le least least'
  have size : 99 / 100 ≤ number ∧ number ≤ 10 ^ 308 * (101 / 100) := by
    constructor
    · exact (lower.trans (le_mul_of_one_le_left (by positivity) exactLeast)).trans above
    · exact below.trans (mul_le_mul bounded upper (by positivity) (by norm_num))
  have positive : 0 < number := by linarith
  obtain ⟨finite, value⟩ := product.of_abs_le representable_greatestNumber greatestNumber_lt
    ((abs_of_pos positive).trans_le (size.2.trans tenPower_le_greatestNumber))
  have normal : (2 : ℚ) ^ (-1022 : ℤ) ≤ |number| := by
    have half : (2 : ℚ) ^ (-1022 : ℤ) ≤ 2 ^ (-1 : ℤ) := two_zpow_le.mpr (by norm_num)
    rw [zpow_neg_one] at half
    rw [abs_of_pos positive]
    linarith
  obtain ⟨least, greatest⟩ := abs_le.mp (nearest_relative normal)
  rw [abs_of_pos positive] at least greatest
  refine ⟨finite, ?_, ?_⟩ <;> rw [value, pow_succ, ← mul_assoc]
  · have scaled := mul_le_mul_of_nonneg_right above unit.le
    unfold roundoff at scaled ⊢
    linarith
  · have scaled := mul_le_mul_of_nonneg_right below unit'.le
    unfold roundoff at scaled ⊢
    linarith

/-! ### Repeated squaring -/

/-- On the fuel: what is left of the exponent multiplies the roundings of the base. -/
private theorem powerStep_near (fuel : ℕ) {product base : Float} {exponent : ℕ}
    (enough : exponent < fuel)
    (near : Near roundings exact product) (near' : Near roundings' exact' base) (least : 1 ≤ exact)
    (least' : 1 ≤ exact') (bounded : exact * exact' ^ exponent ≤ 10 ^ 308)
    (few : roundings + exponent * (roundings' + 1) ≤ 400) :
    Near (roundings + exponent * (roundings' + 1)) (exact * exact' ^ exponent)
      (Scalar.powerStep fuel product base exponent) := by
  induction fuel generalizing roundings roundings' exact exact' product base exponent with
  | zero => exact absurd enough (Nat.not_lt_zero exponent)
  | succ fuel ih =>
      have rest : exponent % 2 + 2 * (exponent / 2) = exponent := Nat.mod_add_div exponent 2
      have halves : exact' ^ exponent =
          exact' ^ (exponent % 2) * (exact' * exact') ^ (exponent / 2) := by
        rw [← pow_two, ← pow_mul, ← pow_add, rest]
      have roundingsHalves : roundings + exponent * (roundings' + 1) =
          roundings + exponent % 2 * (roundings' + 1) +
            exponent / 2 * (roundings' + roundings' + 1 + 1) := by
        nth_rewrite 1 [← rest]
        ring
      have part {count : ℕ} (some : count ≤ exponent) :
          exact' ^ count ≤ exact' ^ exponent ∧
            count * (roundings' + 1) ≤ exponent * (roundings' + 1) :=
        ⟨pow_le_pow_right₀ least' some, Nat.mul_le_mul_right _ some⟩
      have next : Near (roundings + exponent % 2 * (roundings' + 1))
          (exact * exact' ^ (exponent % 2))
          (if exponent % 2 = 1 then product * base else product) := by
        rcases Nat.mod_two_eq_zero_or_one exponent with even | odd
        · simpa [even] using near
        · obtain ⟨smaller, fewer⟩ := part (show 1 ≤ exponent by omega)
          rw [pow_one] at smaller
          have one := near.mul near' least least'
            ((mul_le_mul_of_nonneg_left smaller (by positivity)).trans bounded) (by omega)
          simpa [odd, add_assoc] using one
      simp only [Scalar.powerStep]
      rw [halves, ← mul_assoc, roundingsHalves]
      split
      case isTrue last =>
        rw [last, pow_zero, mul_one, zero_mul, add_zero]
        exact next
      case isFalse more =>
        obtain ⟨smaller, fewer⟩ := part (show 2 ≤ exponent by omega)
        rw [pow_two] at smaller
        have alone : exact' ^ exponent ≤ exact * exact' ^ exponent :=
          le_mul_of_one_le_left (by positivity) least
        have squared := near'.mul near' least' least' ((smaller.trans alone).trans bounded)
          (by omega)
        refine ih (by omega) next squared ?_ (one_le_mul_of_one_le_of_one_le least' least') ?_ ?_
        · exact one_le_mul_of_one_le_of_one_le least (one_le_pow₀ least')
        · rwa [mul_assoc, ← halves]
        · rwa [← roundingsHalves]

/-! ### Powers of ten -/

private theorem powerNat_near {exponent : ℕ} (small : exponent ≤ 308) :
    Near exponent (10 ^ exponent) (Scalar.powerNat (10 : Float) exponent) := by
  have one : Near 0 1 (1 : Float) := near_of_eq (toRat_ofNat (by norm_num)).1 (by
    exact_mod_cast (toRat_ofNat (show 1 ≤ 2 ^ 53 by norm_num)).2)
  have ten : Near 0 10 (10 : Float) := near_of_eq (toRat_ofNat (by norm_num)).1 (by
    exact_mod_cast (toRat_ofNat (show 10 ≤ 2 ^ 53 by norm_num)).2)
  have power : (10 : ℚ) ^ exponent ≤ 10 ^ 308 := pow_le_pow_right₀ (by norm_num) small
  have near := powerStep_near (exponent + 1) (Nat.lt_succ_self exponent) one ten le_rfl
    (by norm_num) (by rwa [one_mul]) (by omega)
  rw [one_mul, Nat.zero_add, Nat.zero_add, mul_one] at near
  exact near

private theorem powerNat_bounds {exponent : ℕ} (small : exponent ≤ 308) :
    (Scalar.powerNat (10 : Float) exponent).isFinite = true ∧
      99 / 100 * 10 ^ exponent ≤ toRat (Scalar.powerNat (10 : Float) exponent) ∧
      toRat (Scalar.powerNat (10 : Float) exponent) ≤ 101 / 100 * 10 ^ exponent := by
  obtain ⟨finite, above, below⟩ := powerNat_near small
  obtain ⟨lower, upper⟩ := few_roundings (show exponent ≤ 400 by omega)
  rw [mul_comm] at above
  rw [mul_comm (10 ^ exponent)] at below
  have positive : (0 : ℚ) ≤ 10 ^ exponent := by positivity
  exact ⟨finite, above.trans' (mul_le_mul_of_nonneg_right lower positive),
    below.trans (mul_le_mul_of_nonneg_right upper positive)⟩

theorem powerNat_infinity {exponent : ℕ} (great : 308 < exponent) (bounded : exponent < 330) :
    Scalar.powerNat (10 : Float) exponent = Scalar.infinity := by
  have all : ∀ exponent < 330, 308 < exponent →
      (Scalar.powerNat (10 : Float) exponent == Scalar.infinity) = true := by decide +kernel
  exact eq_infinity_of_le (ge_of_beq (all exponent bounded great))

theorem two_zpow_le_ten_zpow (count : ℕ) :
    (2 : ℚ) ^ (-(10 * count) : ℤ) ≤ 10 ^ (-(3 * count) : ℤ) := by
  have powers : (10 : ℚ) ^ (3 * count) ≤ 2 ^ (10 * count) := by
    rw [pow_mul, pow_mul]
    exact pow_le_pow_left₀ (by norm_num) (by norm_num) count
  rw [zpow_neg, zpow_neg]
  exact inv_anti₀ (by positivity) (by exact_mod_cast powers)

structure Tenfold (exponent : ℤ) (value : Float) : Prop where
  isFinite : value.isFinite = true
  above : 98 / 100 * 10 ^ exponent ≤ toRat value
  below : toRat value ≤ 102 / 100 * 10 ^ exponent

theorem Tenfold.pos {exponent : ℤ} {value : Float} (tenfold : Tenfold exponent value) :
    0 < toRat value :=
  lt_of_lt_of_le (by positivity) tenfold.above

private theorem reciprocal_bounds {power reciprocal divisor : ℚ} (divided : power * reciprocal = 1)
    (positive : 0 < reciprocal) (above : 99 / 100 * power ≤ divisor)
    (below : divisor ≤ 101 / 100 * power) :
    99 / 100 * reciprocal ≤ 1 / divisor ∧ 1 / divisor ≤ 203 / 200 * reciprocal := by
  have powerPositive : 0 < power := pos_of_mul_pos_left (divided ▸ one_pos) positive.le
  have divisorPositive : 0 < divisor := by linarith
  rw [le_div_iff₀ divisorPositive, div_le_iff₀ divisorPositive]
  have lower := mul_le_mul_of_nonneg_right above positive.le
  have upper := mul_le_mul_of_nonneg_right below positive.le
  constructor <;> linarith

theorem power_tenfold {exponent : ℤ} (least : -308 ≤ exponent) (greatest : exponent ≤ 308) :
    Tenfold exponent (Scalar.power (10 : Float) exponent) := by
  cases exponent with
  | ofNat exponent =>
      obtain ⟨finite, above, below⟩ := powerNat_bounds (show exponent ≤ 308 by simpa using greatest)
      have positive : (0 : ℚ) < 10 ^ exponent := by positivity
      rw [← zpow_natCast] at above below positive
      exact ⟨finite, above.trans' (mul_le_mul_of_nonneg_right (by norm_num) positive.le),
        below.trans (mul_le_mul_of_nonneg_right (by norm_num) positive.le)⟩
  | negSucc exponent =>
      obtain ⟨finite, above, below⟩ := powerNat_bounds (show exponent + 1 ≤ 308 by omega)
      have divided : (10 : ℚ) ^ (exponent + 1) * 10 ^ Int.negSucc exponent = 1 := by
        rw [zpow_negSucc]
        exact mul_inv_cancel₀ (by positivity)
      have least : (10 : ℚ) ≤ 10 ^ (exponent + 1) :=
        le_self_pow₀ (by norm_num) (Nat.succ_ne_zero exponent)
      have tiny : (2 : ℚ) ^ (-1075 : ℤ) ≤ 10 ^ Int.negSucc exponent / 1000 :=
        calc (2 : ℚ) ^ (-1075 : ℤ) ≤ 2 ^ (-(10 * (104 : ℕ)) : ℤ) := two_zpow_le.mpr (by norm_num)
          _ ≤ 10 ^ (-(3 * (104 : ℕ)) : ℤ) := two_zpow_le_ten_zpow 104
          _ ≤ 10 ^ (Int.negSucc exponent - 3) := zpow_le_zpow_right₀ (by norm_num) (by omega)
          _ = 10 ^ Int.negSucc exponent / 1000 := by rw [zpow_sub₀ (by norm_num)]; norm_num
      have positive : (0 : ℚ) < 10 ^ Int.negSucc exponent := by positivity
      have divisor : 0 < toRat (Scalar.powerNat (10 : Float) (exponent + 1)) := by linarith
      obtain ⟨oneFinite, one⟩ := toRat_ofNat (show 1 ≤ 2 ^ 53 by norm_num)
      have taken : Scalar.power (10 : Float) (Int.negSucc exponent) =
          Float.ofNat 1 / Scalar.powerNat (10 : Float) (exponent + 1) := rfl
      have rounds := div_rounds oneFinite finite divisor.ne'
      rw [one, Nat.cast_one] at rounds
      obtain ⟨lower, upper⟩ := reciprocal_bounds divided positive above below
      have nonneg : 0 ≤ 1 / toRat (Scalar.powerNat (10 : Float) (exponent + 1)) := by positivity
      have unit : |1 / toRat (Scalar.powerNat (10 : Float) (exponent + 1))| ≤ (1 : ℕ) := by
        rw [abs_of_nonneg nonneg, Nat.cast_one, div_le_one divisor]
        linarith
      obtain ⟨quotientFinite, value, _rounded⟩ := rounds.of_abs_le_natCast (by norm_num) unit
      obtain ⟨less, greater⟩ := abs_le.mp (nearest_error_sum
        (1 / toRat (Scalar.powerNat (10 : Float) (exponent + 1))))
      rw [abs_of_nonneg nonneg, ← value] at less greater
      rw [taken]
      exact ⟨quotientFinite, by linarith, by linarith⟩

end CanvasChart.Binary64
