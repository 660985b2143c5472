import CanvasChart.Proofs.Axis.MachineSpacings

set_option autoImplicit false

/-! Ticks of machine numbers. Their offsets are cleaned by a power of ten that is a machine number
only when the range is not too small; then the ticks begin with the least number of the range and
are finite, if there is room for them. On smaller ranges cleaning makes them no numbers. -/

namespace CanvasChart.NiceTicks

open Binary64

/-! ### Cleaning -/

private theorem awayFromZero_bounds {number : ℚ} (nonneg : 0 ≤ number) :
    0 ≤ awayFromZero number ∧ (awayFromZero number : ℚ) ≤ number + 1 / 2 := by
  rw [awayFromZero, if_neg nonneg.not_gt]
  exact ⟨Int.floor_nonneg.mpr (by linarith), Int.floor_le _⟩

structure Scaled (power : ℤ) (range : ℚ) : Prop where
  least : -305 ≤ power
  above : 10 ^ power ≤ range
  below : range < 10 ^ (power + 3)

section Scaled

variable {power : ℤ} {range : ℚ} (scaled : Scaled power range)

include scaled

theorem Scaled.pos : 0 < range := lt_of_lt_of_le (by positivity) scaled.above

theorem Scaled.halfPlace_le : (2 : ℚ) ^ (-1075 : ℤ) ≤ range / 10 ^ 7 :=
  calc (2 : ℚ) ^ (-1075 : ℤ) ≤ 2 ^ (-(10 * (104 : ℕ)) : ℤ) := two_zpow_le.mpr (by norm_num)
    _ ≤ 10 ^ (-(3 * (104 : ℕ)) : ℤ) := two_zpow_le_ten_zpow 104
    _ ≤ 10 ^ (power - 7) := zpow_le_zpow_right₀ (by norm_num) (by have := scaled.least; omega)
    _ = 10 ^ power / 10 ^ 7 := by rw [zpow_sub₀ (by norm_num)]; norm_num
    _ ≤ range / 10 ^ 7 := by gcongr; exact scaled.above

theorem Scaled.nearest_le {number : ℚ} (nonneg : 0 ≤ number) :
    nearest number ≤ number * (1 + 1 / 10 ^ 7) + range / 10 ^ 7 := by
  have error := (abs_le.mp (nearest_error_sum number)).2
  have tiny := scaled.halfPlace_le
  rw [abs_of_nonneg nonneg] at error
  have part : number / 2 ^ 53 ≤ number / 10 ^ 7 := by gcongr; norm_num
  linarith

end Scaled

section Clean

variable {power : ℤ} {range offset scale : Float} (scaled : Scaled power (toRat range))
  (finite : offset.isFinite = true) (nonneg : 0 ≤ toRat offset)
  (within : toRat offset ≤ toRat range * (1002 / 1000))

include scaled finite nonneg within

/-- Rounding the scaled offset moves it by half a unit, of which the range has about one
thousand. -/
private theorem round_scaled (tenfold : Tenfold (3 - power) scale) (one : 1 ≤ toRat scale) :
    (Scalar.round (offset * scale)).isFinite = true ∧ 0 ≤ toRat (Scalar.round (offset * scale)) ∧
      toRat (Scalar.round (offset * scale)) ≤ (2 ^ 21 : ℕ) ∧
      toRat (Scalar.round (offset * scale)) ≤ toRat range * (1004 / 1000) * toRat scale ∧
      (toRat offset = 0 → toRat (Scalar.round (offset * scale)) = 0) := by
  have positive := scaled.pos
  have least : 980 ≤ toRat range * toRat scale := by
    have thousand : (10 : ℚ) ^ power * 10 ^ (3 - power) = 10 ^ 3 := by
      rw [← zpow_add₀ (by norm_num), add_sub_cancel]
      norm_cast
    calc (980 : ℚ) = 10 ^ power * (98 / 100 * 10 ^ (3 - power)) := by linarith
      _ ≤ toRat range * toRat scale :=
        mul_le_mul scaled.above tenfold.above (by positivity) positive.le
  have greatest : toRat range * toRat scale ≤ 102 / 100 * 10 ^ 6 := by
    have million : (10 : ℚ) ^ (power + 3) * 10 ^ (3 - power) = 10 ^ 6 := by
      rw [← zpow_add₀ (by norm_num), show power + 3 + (3 - power) = 6 by ring]
      norm_cast
    calc toRat range * toRat scale ≤ 10 ^ (power + 3) * (102 / 100 * 10 ^ (3 - power)) :=
        mul_le_mul scaled.below.le tenfold.below tenfold.pos.le (by positivity)
      _ = 102 / 100 * 10 ^ 6 := by linarith
  have product : 0 ≤ toRat offset * toRat scale := mul_nonneg nonneg tenfold.pos.le
  have share : toRat offset * toRat scale ≤ toRat range * (1002 / 1000) * toRat scale :=
    mul_le_mul_of_nonneg_right within tenfold.pos.le
  have small : |toRat offset * toRat scale| ≤ (2 ^ 20 : ℕ) := by
    rw [abs_of_nonneg product]
    norm_num
    linarith
  obtain ⟨productFinite, value, bounded⟩ :=
    (mul_rounds finite tenfold.isFinite).of_abs_le_natCast (by norm_num) small
  obtain ⟨roundFinite, rounded⟩ := toRat_round productFinite
  have error := scaled.nearest_le product
  have slight : toRat range ≤ toRat range * toRat scale := le_mul_of_one_le_right positive.le one
  rw [abs_of_nonneg (nearest_nonneg product), ← value] at bounded
  rw [← value] at error
  have productNonneg : 0 ≤ toRat (offset * scale) := value ▸ nearest_nonneg product
  obtain ⟨roundNonneg, half⟩ := awayFromZero_bounds productNonneg
  rw [rounded]
  refine ⟨roundFinite, by exact_mod_cast roundNonneg, ?_, by linarith, fun origin => ?_⟩
  · norm_num at bounded ⊢
    linarith
  · rw [value, origin, zero_mul, nearest_zero]
    exact_mod_cast halfAway_follows.whole 0

/-- Cleaning keeps an offset finite, and adds at most a part in one hundred to the range. -/
private theorem clean_spec : (clean power offset).isFinite = true ∧ 0 ≤ toRat (clean power offset) ∧
    toRat (clean power offset) ≤ toRat range * (101 / 100) ∧
    (toRat offset = 0 → toRat (clean power offset) = 0) := by
  have positive := scaled.pos
  unfold clean
  split
  case isFalse => exact ⟨finite, nonneg, by linarith, id⟩
  case isTrue negative =>
    have least := scaled.least
    have tenfold : Tenfold (3 - power) _ := power_tenfold (by omega) (by omega)
    have one : (1 : ℚ) ≤ toRat (Scalar.power (10 : Float) (3 - power)) := by
      have ten : (10 : ℚ) ^ (1 : ℤ) ≤ 10 ^ (3 - power) :=
        zpow_le_zpow_right₀ (by norm_num) (by omega)
      have above := tenfold.above
      norm_num at ten
      linarith
    obtain ⟨roundFinite, roundNonneg, small, bound, zero⟩ :=
      round_scaled scaled finite nonneg within tenfold one
    dsimp only
    generalize Scalar.power (10 : Float) (3 - power) = scale at *
    generalize Scalar.round (offset * scale) = rounded at *
    have divisor : 0 < toRat scale := tenfold.pos
    have quotient : 0 ≤ toRat rounded / toRat scale := by positivity
    have quotientSmall : |toRat rounded / toRat scale| ≤ (2 ^ 21 : ℕ) := by
      rw [abs_of_nonneg quotient]
      exact (div_le_self roundNonneg one).trans small
    obtain ⟨cleanFinite, value, _bounded⟩ :=
      (div_rounds roundFinite tenfold.isFinite divisor.ne').of_abs_le_natCast (by norm_num)
        quotientSmall
    rw [value]
    refine ⟨cleanFinite, nearest_nonneg quotient, ?_, fun origin => ?_⟩
    · have share : toRat rounded / toRat scale ≤ toRat range * (1004 / 1000) :=
        (div_le_iff₀ divisor).mpr bound
      have error := scaled.nearest_le quotient
      linarith
    · rw [zero origin, zero_div, nearest_zero]

end Clean

/-! ### Offsets -/

section Offset

variable {power : ℤ} {range spacing : Float} {index : ℕ} (scaled : Scaled power (toRat range))
  (spacingFinite : spacing.isFinite = true) (few : index ≤ 2 ^ 53)

private theorem toRat_offset_zero (spacingFinite : spacing.isFinite = true) :
    (Float.ofNat 0 * spacing).isFinite = true ∧ toRat (Float.ofNat 0 * spacing) = 0 := by
  obtain ⟨zeroFinite, zero⟩ := toRat_ofNat (Nat.zero_le (2 ^ 53))
  have product := mul_rounds zeroFinite spacingFinite
  rw [zero, Nat.cast_zero, zero_mul] at product
  obtain ⟨finite, value, _bounded⟩ :=
    product.of_abs_le_natCast (Nat.zero_le (2 ^ 53)) (by norm_num)
  exact ⟨finite, value.trans nearest_zero⟩

include scaled spacingFinite few

private theorem offset_spec (nonneg : 0 ≤ toRat spacing)
    (within : index * toRat spacing ≤ toRat range * (1001 / 1000))
    (room : toRat range * (101 / 100) ≤ greatestNumber) :
    (Float.ofNat index * spacing).isFinite = true ∧
      0 ≤ toRat (Float.ofNat index * spacing) ∧
      toRat (Float.ofNat index * spacing) ≤ toRat range * (1002 / 1000) := by
  have positive := scaled.pos
  obtain ⟨indexFinite, value⟩ := toRat_ofNat few
  have product := mul_rounds indexFinite spacingFinite
  rw [value] at product
  have exact : 0 ≤ index * toRat spacing := by positivity
  obtain ⟨finite, rounded⟩ := product.of_abs_le representable_greatestNumber greatestNumber_lt
    (by rw [abs_of_nonneg exact]; linarith)
  have error := scaled.nearest_le exact
  rw [← rounded] at error
  exact ⟨finite, rounded ▸ nearest_nonneg exact, by linarith⟩

end Offset

/-! ### Ticks -/

private theorem toRat_sub_pos {least greatest : Float} (leastFinite : least.isFinite = true)
    (greatestFinite : greatest.isFinite = true) (less : least < greatest)
    (finite : (greatest - least).isFinite = true) : 0 < toRat (greatest - least) := by
  have multiple (number : Float) : ∃ whole : ℤ, toRat number = whole * 2 ^ (-1074 : ℤ) := by
    obtain ⟨whole, same⟩ := exists_multiple_nearest (least_le_lastPlace (toRat number))
    exact ⟨whole, by rwa [nearest_of_representable (representable_toRat number)] at same⟩
  obtain ⟨first, same⟩ := multiple least
  obtain ⟨second, same'⟩ := multiple greatest
  have unit := two_zpow_pos (-1074)
  rw [lt_iff_toRat leastFinite greatestFinite, same, same'] at less
  have apart : first + 1 ≤ second := by
    exact_mod_cast lt_of_mul_lt_mul_right less unit.le
  have above : (2 : ℚ) ^ (-1074 : ℤ) ≤ toRat greatest - toRat least := by
    have cast : (first : ℚ) + 1 ≤ second := by exact_mod_cast apart
    rw [same, same']
    linarith [mul_le_mul_of_nonneg_right cast unit.le]
  rw [(sub_rounds greatestFinite leastFinite).of_isFinite finite]
  exact unit.trans_le (le_nearest_of_representable (representable_zpow le_rfl) above)

/-- Either no spacing gives few enough ticks, or the ticks stand at whole multiples of one. -/
private theorem ticksWith_cases {log10 : Float → Float} {least greatest : Float}
    (finite : (greatest - least).isFinite = true) (positive : 0 < toRat (greatest - least)) :
    ticksWith log10 least greatest = [least, greatest] ∨
      ∃ spacing ∈ spacings (exponentWith log10 (greatest - least)),
        3 ≤ countAt (greatest - least) spacing ∧ countAt (greatest - least) spacing ≤ maxTicks ∧
        ticksWith log10 least greatest =
          (List.range (countAt (greatest - least) spacing)).map fun index =>
            least + clean (exponentWith log10 (greatest - least))
              (Float.ofNat index * spacing) := by
  have wide : ¬ greatest - least ≤ Float.ofNat 0 := by
    rw [le_iff_toRat finite (toRat_ofNat (by norm_num)).1, (toRat_ofNat (by norm_num)).2]
    exact not_le.mpr positive
  cases chosen : @choice? Float (withLogarithm log10) (greatest - least) with
  | none => exact .inl (@niceTicks_of_none Float (withLogarithm log10) _ _ finite wide chosen)
  | some pair =>
      obtain ⟨count, spacing⟩ := pair
      obtain ⟨three, listed, counted, _first⟩ :=
        @choice?_eq_some Float (withLogarithm log10) _ _ _ chosen
      have few := @choice?_le_maxTicks Float (withLogarithm log10) _ _ _ chosen
      have ticks := @niceTicks_of_choice Float (withLogarithm log10) _ _ _ _ finite wide chosen
      subst counted
      simp only [clean_withLogarithm] at ticks
      rw [spacings_withLogarithm] at listed
      exact .inr ⟨spacing, listed, three, few, ticks⟩

private theorem countAt_zero {range : Float} (finite : range.isFinite = true)
    (positive : 0 < toRat range) : countAt range 0 = greatestCount + 1 := by
  have endless : Scalar.toCount (Scalar.floor (Scalar.infinity + countingSlack : Float)) =
      greatestCount := rfl
  change Scalar.toCount (Scalar.floor (range / 0 + countingSlack)) + 1 = _
  rw [div_zero finite positive, endless]

/-- The scale of a small range is infinite, and what is divided by it is no number. -/
private theorem isNaN_clean {power : ℤ} (least : -308 ≤ power) (greatest : power < -305)
    (offset : Float) : (clean power offset).isNaN = true := by
  have scale : Scalar.power (10 : Float) (3 - power) = Scalar.infinity := by
    obtain ⟨exponent, same⟩ := Int.eq_ofNat_of_zero_le (show 0 ≤ 3 - power by omega)
    rw [same]
    exact powerNat_infinity (by omega) (by omega)
  rw [clean, if_pos (by omega)]
  dsimp only
  rw [scale]
  have infinite := isFinite_mul_infinity offset
  have kept : Scalar.round (offset * Scalar.infinity) = offset * Scalar.infinity :=
    roundWith_of_not_isFinite .halfAway infinite
  rw [kept]
  exact isNaN_div_infinity infinite

/-- The last tick may be a part in one hundred beyond the range. -/
structure Room (least range : ℚ) : Prop where
  alone : range * (101 / 100) ≤ greatestNumber
  shifted : least + range * (101 / 100) ≤ greatestNumber

section Ticks

variable {power : ℤ} {least range spacing : Float} (leastFinite : least.isFinite = true)
  (finite : range.isFinite = true) (scaled : Scaled power (toRat range)) (bounded : power ≤ 308)
  (listed : spacing ∈ spacings power) (three : 3 ≤ countAt range spacing)

include leastFinite finite scaled bounded listed three

private theorem first_tick : (least + clean power (Float.ofNat 0 * spacing) == least) = true := by
  have large : -308 ≤ power := scaled.least.trans' (by norm_num)
  obtain ⟨spacingFinite, positive, _within⟩ :=
    spacing_of_count large bounded finite scaled.pos scaled.below listed three
  obtain ⟨offsetFinite, zero⟩ := toRat_offset_zero spacingFinite
  obtain ⟨cleanFinite, _nonneg, _bound, origin⟩ :=
    clean_spec scaled offsetFinite zero.ge (by rw [zero]; linarith [scaled.pos])
  have sum := add_rounds leastFinite cleanFinite
  rw [origin zero, add_zero] at sum
  obtain ⟨sumFinite, value⟩ :=
    sum.of_representable (representable_toRat least) (abs_toRat_lt leastFinite)
  exact (beq_iff_toRat sumFinite leastFinite).mpr value

private theorem tick_isFinite {index : ℕ} (room : Room (toRat least) (toRat range))
    (few : countAt range spacing ≤ maxTicks) (member : index < countAt range spacing) :
    (least + clean power (Float.ofNat index * spacing)).isFinite = true := by
  have large : -308 ≤ power := scaled.least.trans' (by norm_num)
  obtain ⟨spacingFinite, positive, within⟩ :=
    spacing_of_count large bounded finite scaled.pos scaled.below listed three
  have before : (index : ℚ) ≤ countAt range spacing - 1 := by
    have cast : ((index + 1 : ℕ) : ℚ) ≤ countAt range spacing := Nat.cast_le.mpr member
    push_cast at cast
    linarith
  rw [maxTicks] at few
  obtain ⟨offsetFinite, nonneg, bound⟩ := offset_spec scaled spacingFinite (by omega) positive.le
    ((mul_le_mul_of_nonneg_right before positive.le).trans within) room.alone
  obtain ⟨cleanFinite, cleanNonneg, cleanBound, _origin⟩ :=
    clean_spec scaled offsetFinite nonneg bound
  have sum := add_rounds leastFinite cleanFinite
  have below := (abs_le.mp (abs_toRat_le leastFinite)).1
  exact (sum.of_abs_le representable_greatestNumber greatestNumber_lt
    (abs_le.mpr ⟨by linarith, by linarith [room.shifted]⟩)).1

end Ticks

end CanvasChart.NiceTicks

namespace CanvasChart

open Binary64 NiceTicks

/-- Down to a power of ten of -308 every spacing that is tried has a count of ticks; below it none
has, and only the bounds get ticks. Down to -305 the first tick is the least number, and all ticks
are finite if there is room for them. In between cleaning leaves no tick a number. -/
theorem niceTicks_finite {log10 : Float → Float} {least greatest : Float}
    (leastFinite : least.isFinite = true) (greatestFinite : greatest.isFinite = true)
    (less : least < greatest) (finite : (greatest - least).isFinite = true)
    (accurate : Accurate log10 (greatest - least)) :
    let range := greatest - least
    let power := exponentWith log10 range
    let ticks := ticksWith log10 least greatest
    (10 ^ power ≤ toRat range ∧ toRat range < 10 ^ (power + 3)) ∧
      (-308 ≤ power ↔ ∀ spacing ∈ spacings power, countAt range spacing ≤ greatestCount) ∧
      (power < -308 → ticks = [least, greatest]) ∧
      (-308 ≤ power → power < -305 → ticks = [least, greatest] ∨
        3 ≤ ticks.length ∧ ∀ tick ∈ ticks, tick.isNaN = true) ∧
      (-305 ≤ power → (∃ first ∈ ticks.head?, (first == least) = true) ∧
        (Room (toRat least) (toRat range) → ∀ tick ∈ ticks, tick.isFinite = true)) := by
  intro range power ticks
  have positive : 0 < toRat range := toRat_sub_pos leastFinite greatestFinite less finite
  obtain ⟨smallest, bounded, above, below⟩ := magnitude_spec finite positive accurate
  have shape : ticksWith log10 least greatest = [least, greatest] ∨ _ :=
    ticksWith_cases finite positive
  have vanishing (small : power < -308) {spacing : Float} (listed : spacing ∈ spacings power) :
      countAt range spacing = greatestCount + 1 := by
    rw [spacing_eq_zero (smallest.trans' (by norm_num)) small listed, countAt_zero finite positive]
  refine ⟨⟨above, below⟩, ⟨fun large spacing listed => ?_, fun few => ?_⟩, fun small => ?_,
    fun large small => ?_, fun large => ?_⟩
  · exact (countAt_le large bounded finite positive below listed).trans (by decide)
  · by_contra small
    have listed : Float.ofNat 1 * Scalar.power 10 power ∈ spacings power := List.mem_cons_self
    have exceeding := few _ listed
    rw [vanishing (not_le.mp small) listed] at exceeding
    exact Nat.not_succ_le_self _ exceeding
  · rcases shape with bounds | ⟨spacing, listed, _three, few, _ticks⟩
    · exact bounds
    · rw [vanishing small listed] at few
      exact absurd few (by decide)
  · rcases shape with bounds | ⟨spacing, listed, three, few, same⟩
    · exact .inl bounds
    · right
      change ticks = _ at same
      rw [same, List.length_map, List.length_range]
      refine ⟨three, fun tick member => ?_⟩
      obtain ⟨index, _member, rfl⟩ := List.mem_map.mp member
      exact isNaN_add_right (isNaN_clean large small _)
  · have scaled : Scaled power (toRat range) := ⟨large, above, below⟩
    rcases shape with bounds | ⟨spacing, listed, three, few, same⟩
    · change ticks = _ at bounds
      rw [bounds]
      refine ⟨⟨least, rfl, beq_self (isNaN_of_isFinite leastFinite)⟩, fun room tick member => ?_⟩
      rcases List.mem_pair.mp member with rfl | rfl
      · exact leastFinite
      · exact greatestFinite
    · change ticks = _ at same
      rw [same]
      refine ⟨⟨_, ?_, first_tick leastFinite finite scaled bounded listed three⟩,
        fun room tick member => ?_⟩
      · rw [countAt, List.range_succ_eq_map]
        rfl
      · obtain ⟨index, within, rfl⟩ := List.mem_map.mp member
        exact tick_isFinite leastFinite finite scaled bounded listed three room few
          (List.mem_range.mp within)

theorem niceTicks_finite_hundred : (0 : Float).isFinite = true ∧ (100 : Float).isFinite = true ∧
    (0 : Float) < 100 ∧ (100 - 0 : Float).isFinite = true ∧
    Accurate (fun _ => 2) (100 - 0) ∧
    ∀ tick ∈ ticksWith (fun _ => 2) 0 100, tick.isFinite = true := by
  have same : (100 - 0 : Float) = Float.ofNat 100 := by decide +kernel
  have hundred : toRat (100 - 0 : Float) = 100 := by
    rw [same]
    exact_mod_cast (toRat_ofNat (show 100 ≤ 2 ^ 53 by norm_num)).2
  obtain ⟨twoFinite, two⟩ := toRat_ofNat (show 2 ≤ 2 ^ 53 by norm_num)
  have logarithm : Real.logb 10 (100 : ℚ) = 2 := by
    have square : ((100 : ℚ) : ℝ) = 10 ^ 2 := by norm_num
    rw [square, Real.logb_pow, Real.logb_self_eq_one (by norm_num), mul_one, Nat.cast_ofNat]
  have accurate : Accurate (fun _ => 2) (100 - 0) := by
    refine ⟨twoFinite, ?_⟩
    change |((toRat (Float.ofNat 2) : ℚ) : ℝ) - _| < 1
    rw [two, hundred, logarithm]
    norm_num
  have power : exponentWith (fun _ => 2) (100 - 0) = 1 := by decide +kernel
  have room : Room (toRat (0 : Float)) (toRat (100 - 0 : Float)) := by
    have large : (101 : ℚ) ≤ greatestNumber :=
      calc (101 : ℚ) = 10 ^ 2 * (101 / 100) := by norm_num
        _ ≤ 10 ^ 308 * (101 / 100) := by gcongr <;> norm_num
        _ ≤ greatestNumber := tenPower_le_greatestNumber
    rw [hundred, toRat_zero]
    exact ⟨by linarith, by linarith⟩
  refine ⟨by decide +kernel, by decide +kernel, by decide +kernel, by decide +kernel, accurate, ?_⟩
  have outcome := @niceTicks_finite (fun _ => 2) 0 100 (by decide +kernel) (by decide +kernel)
    (by decide +kernel) (by decide +kernel) accurate
  exact (outcome.2.2.2.2 (by rw [power]; norm_num)).2 room

/-- On a range of the order of the least normal numbers the ticks are no numbers. -/
theorem not_niceTicks_finite : ¬ ∀ (log10 : Float → Float) (least greatest : Float),
    least.isFinite = true → greatest.isFinite = true → least < greatest →
    (greatest - least).isFinite = true → Accurate log10 (greatest - least) →
    (∀ spacing ∈ spacings (exponentWith log10 (greatest - least)),
      countAt (greatest - least) spacing ≤ greatestCount) ∧
    (∃ first ∈ (ticksWith log10 least greatest).head?, (first == least) = true) ∧
    ∀ tick ∈ ticksWith log10 least greatest, tick.isFinite = true := by
  intro all
  have taken : parts (3e-305 - 0 : Float) = .finite false 5929753514862616 (-1064) := by
    decide +kernel
  have logarithm : parts (-304.5 : Float) = .finite true 5356820650524672 (-44) := by decide +kernel
  obtain ⟨finite, value, _small⟩ := toRat_of_parts taken
  obtain ⟨logFinite, logValue, _logSmall⟩ := toRat_of_parts logarithm
  rw [if_neg Bool.false_ne_true, one_mul] at value
  have positive : 0 < toRat (3e-305 - 0 : Float) := by rw [value]; positivity
  have atLeast := (@ten_zpow_le_iff 5929753514862616 1064 305).mpr (by decide +kernel)
  have atMost := mt (@ten_zpow_le_iff 5929753514862616 1064 304).mp (by decide +kernel)
  have above := (logb_bounds positive (-305)).1.mp (value ▸ atLeast)
  have below := (logb_bounds positive (-304)).2.mp (value ▸ not_le.mp atMost)
  have accurate : Accurate (fun _ => -304.5) (3e-305 - 0) := by
    refine ⟨logFinite, ?_⟩
    have exact : toRat (-304.5 : Float) = -609 / 2 := by rw [logValue]; norm_num
    rw [exact, abs_lt]
    push_cast at above below ⊢
    constructor <;> linarith
  have numbers := (all (fun _ => -304.5) 0 3e-305 (by decide +kernel) (by decide +kernel)
    (by decide +kernel) finite accurate).2.2
  have none : (ticksWith (fun _ => -304.5) 0 3e-305).all Float.isFinite = false := by decide +kernel
  rw [List.all_eq_true.mpr numbers] at none
  cases none

end CanvasChart
