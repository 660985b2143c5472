import CanvasChart.Proofs.Exact.Powers

set_option autoImplicit false

/-! The choice of ticks on exact numbers. Among the spacings that are tried there is always one
that fits two, three or four times into a range, so that the search ends with the first of its
counts. -/

namespace CanvasChart

namespace NiceTicks

/-! ### The search -/

section Search

variable {α : Type} [Scalar α]

def counts : List Nat := (List.range (maxTicks - 2)).map (· + 3)

private theorem mem_counts {count : Nat} : count ∈ counts ↔ 3 ≤ count ∧ count ≤ maxTicks := by
  simp only [counts, maxTicks, List.mem_map, List.mem_range]
  constructor
  · rintro ⟨index, small, rfl⟩
    omega
  · rintro ⟨least, greatest⟩
    exact ⟨count - 3, by omega, by omega⟩

private theorem counts_increasing : counts.Pairwise (· < ·) :=
  List.pairwise_map.mpr (List.pairwise_lt_range.imp fun less => by omega)

def countAt (range spacing : α) : Nat := Scalar.toCount (wholeSteps range spacing) + 1

def spacingFor? (range : α) (count : Nat) : Option α :=
  (spacings (exponent range)).find? fun spacing => countAt range spacing = count

private theorem choice?_eq (range : α) : choice? range =
    counts.findSome? fun count => (spacingFor? range count).map fun spacing => (count, spacing) :=
  rfl

private theorem spacingFor?_isSome_iff {range : α} {count : Nat} :
    (spacingFor? range count).isSome = true ↔
      ∃ spacing ∈ spacings (exponent range), countAt range spacing = count := by
  simp [spacingFor?]

theorem choice?_eq_some {range spacing : α} {count : Nat}
    (chosen : choice? range = some (count, spacing)) :
    3 ≤ count ∧ spacing ∈ spacings (exponent range) ∧ countAt range spacing = count ∧
      ∀ other ∈ spacings (exponent range), 3 ≤ countAt range other →
        count ≤ countAt range other := by
  rw [choice?_eq, List.findSome?_eq_some_iff] at chosen
  obtain ⟨before, found, after, split, held, passed⟩ := chosen
  obtain ⟨_spacing, first, same⟩ := Option.map_eq_some_iff.mp held
  cases same
  have member : count ∈ counts := by
    rw [split]
    exact List.mem_append_right before List.mem_cons_self
  obtain ⟨least, greatest⟩ := mem_counts.mp member
  have counted := List.find?_some first
  refine ⟨least, List.mem_of_find?_eq_some first, of_decide_eq_true counted, ?_⟩
  intro other listed enough
  by_contra fewer
  have tried : countAt range other ∈ counts := mem_counts.mpr ⟨enough, by omega⟩
  have increasing := counts_increasing
  rw [split, List.pairwise_append] at increasing
  rw [split, List.mem_append, List.mem_cons] at tried
  rcases tried with earlier | same | later
  · have none := passed _ earlier
    rw [Option.map_eq_none_iff, ← Option.not_isSome_iff_eq_none] at none
    exact none (spacingFor?_isSome_iff.mpr ⟨other, listed, rfl⟩)
  · omega
  · have less := List.rel_of_pairwise_cons increasing.2.1 later
    omega

theorem choice?_le_maxTicks {range spacing : α} {count : Nat}
    (chosen : choice? range = some (count, spacing)) : count ≤ maxTicks := by
  rw [choice?_eq] at chosen
  obtain ⟨tried, member, found⟩ := List.exists_of_findSome?_eq_some chosen
  obtain ⟨_spacing, _first, same⟩ := Option.map_eq_some_iff.mp found
  cases same
  exact (mem_counts.mp member).2

private theorem choice?_isSome {range spacing : α} (listed : spacing ∈ spacings (exponent range))
    (least : 3 ≤ countAt range spacing) (greatest : countAt range spacing ≤ maxTicks) :
    (choice? range).isSome = true := by
  rw [choice?_eq, List.findSome?_isSome_iff]
  refine ⟨_, mem_counts.mpr ⟨least, greatest⟩, ?_⟩
  rw [Option.isSome_map]
  exact spacingFor?_isSome_iff.mpr ⟨spacing, listed, rfl⟩

theorem niceTicks_of_choice {least greatest spacing : α} {count : Nat}
    (finite : Scalar.isFinite (greatest - least) = true) (wide : ¬ greatest - least ≤ 0)
    (chosen : choice? (greatest - least) = some (count, spacing)) :
    niceTicks least greatest = (List.range count).map fun index =>
      least + clean (exponent (greatest - least)) (Scalar.ofNat index * spacing) := by
  simp [niceTicks, finite, wide, chosen]

theorem niceTicks_of_none {least greatest : α}
    (finite : Scalar.isFinite (greatest - least) = true) (wide : ¬ greatest - least ≤ 0)
    (none : choice? (greatest - least) = none) : niceTicks least greatest = [least, greatest] := by
  simp [niceTicks, finite, wide, none]

end Search

/-! ### Spacings -/

open Exact

variable [NumberTexts]

structure HasMagnitude (range : ℝ) : Prop where
  least : leastExponent ≤ Int.log 10 range
  greatest : Int.log 10 range ≤ greatestExponent

omit [NumberTexts] in
theorem hasMagnitude_of_binary64 {range : ℝ} (least : 2 ^ (-1074 : ℤ) ≤ range)
    (greatest : range ≤ 2 ^ (1025 : ℤ)) : HasMagnitude range := by
  have positive : 0 < range := (zpow_pos (by norm_num) (-1074)).trans_le least
  have short : (10 : ℝ) ^ (-1074 : ℤ) ≤ 2 ^ (-1074 : ℤ) := by
    rw [zpow_neg, zpow_neg]
    exact inv_anti₀ (zpow_pos (by norm_num) _)
      (zpow_le_zpow_left₀ (by norm_num) (by norm_num) (by norm_num))
  have long : (2 : ℝ) ^ (1025 : ℤ) ≤ 10 ^ (1025 : ℤ) :=
    zpow_le_zpow_left₀ (by norm_num) (by norm_num) (by norm_num)
  have power (exponent : ℤ) : Int.log 10 ((10 : ℝ) ^ exponent) = exponent :=
    Int.log_zpow (R := ℝ) (b := 10) (by norm_num) exponent
  have lower := Int.log_mono_right (b := 10) (zpow_pos (by norm_num) _) (short.trans least)
  have upper := Int.log_mono_right (b := 10) positive (greatest.trans long)
  rw [power] at lower upper
  exact ⟨le_trans (by decide) lower, upper.trans (by decide)⟩

theorem exponent_coe {range : ℝ} (positive : 0 < range) (magnitude : HasMagnitude range) :
    exponent (range : EReal) = Int.log 10 range - 1 := by
  have whole : ⌊Real.logb 10 range⌋ = Int.log 10 range := by
    exact_mod_cast Real.floor_logb_natCast (b := 10) positive.le
  unfold exponent
  rw [log10_coe positive, floor_coe, whole, toExponent_intCast magnitude.least magnitude.greatest]

def factors : List ℕ := [1, 2, 5, 10, 20, 50]

private theorem spacings_coe (power : ℤ) : spacings (α := EReal) power =
    factors.map fun factor : ℕ => ((factor * 10 ^ power : ℝ) : EReal) := by
  have unit : Scalar.power (10 : EReal) power = (((10 : ℝ) ^ power : ℝ) : EReal) :=
    power_coe (by norm_num) power
  have scaled (factor : ℕ) : (factor : EReal) * (((10 : ℝ) ^ power : ℝ) : EReal) =
      ((factor * 10 ^ power : ℝ) : EReal) := (EReal.coe_mul factor (10 ^ power)).symm
  simp only [← scaled]
  rw [← unit]
  rfl

omit [NumberTexts] in
theorem factor_pos {factor : ℕ} (listed : factor ∈ factors) : 0 < factor := by
  revert factor
  decide

noncomputable def fits (range step : ℝ) : ℕ := ⌊range / step + slack⌋₊

omit [NumberTexts] in
private theorem fits_eq {range step : ℝ} {count : ℕ} (positive : 0 < step)
    (least : (count - slack) * step ≤ range) (greatest : range < (count + 1 - slack) * step) :
    fits range step = count := by
  have lower := (le_div_iff₀ positive).mpr least
  have upper := (div_lt_iff₀ positive).mpr greatest
  unfold fits
  rw [Nat.floor_eq_iff (by linarith [Nat.cast_nonneg (α := ℝ) count])]
  constructor <;> linarith

section Fits

variable {range step : ℝ} (nonnegative : 0 ≤ range) (positive : 0 < step)

include nonnegative positive

omit [NumberTexts] in
private theorem share_nonneg : 0 ≤ range / step + slack :=
  add_nonneg (div_nonneg nonnegative positive.le) slack_pos.le

omit [NumberTexts] in
theorem fits_bounds : fits range step * step ≤ range + slack * step ∧
    range + slack * step < (fits range step + 1) * step := by
  have whole : range + slack * step = (range / step + slack) * step := by
    field_simp
  rw [whole]
  exact ⟨mul_le_mul_of_nonneg_right (Nat.floor_le (share_nonneg nonnegative positive)) positive.le,
    mul_lt_mul_of_pos_right (Nat.lt_floor_add_one _) positive⟩

theorem wholeSteps_fits :
    wholeSteps (range : EReal) (step : EReal) = ((fits range step : ℝ) : EReal) := by
  rw [wholeSteps_coe range positive.ne', fits,
    natCast_floor_eq_intCast_floor (share_nonneg nonnegative positive)]

end Fits

omit [NumberTexts] in
/-- In every part of a decade one of the spacings fits two, three or four times. -/
private theorem exists_factor {ratio : ℝ} (least : 10 ≤ ratio) (greatest : ratio < 100) :
    ∃ factor ∈ factors, 2 ≤ fits ratio factor ∧ fits ratio factor ≤ 4 := by
  have small : slack = 1 / 100000000 := by norm_num [slack]
  have chosen (factor count : ℕ) (listed : factor ∈ factors) (few : 2 ≤ count ∧ count ≤ 4)
      (lower : (count - slack) * factor ≤ ratio) (upper : ratio < (count + 1 - slack) * factor) :
      ∃ factor ∈ factors, 2 ≤ fits ratio factor ∧ fits ratio factor ≤ 4 := by
    refine ⟨factor, listed, ?_⟩
    rwa [fits_eq (Nat.cast_pos.mpr (factor_pos listed)) lower upper]
  rw [small] at chosen
  -- the parts end where one spacing more begins to fit
  by_cases below15 : ratio < 15 - 5 * slack
  · exact chosen 5 2 (by decide) (by decide) (by norm_num; linarith) (by norm_num; linarith)
  by_cases below20 : ratio < 20 - 5 * slack
  · exact chosen 5 3 (by decide) (by decide) (by norm_num; linarith) (by norm_num; linarith)
  by_cases below30 : ratio < 30 - 10 * slack
  · exact chosen 10 2 (by decide) (by decide) (by norm_num; linarith) (by norm_num; linarith)
  by_cases below40 : ratio < 40 - 10 * slack
  · exact chosen 10 3 (by decide) (by decide) (by norm_num; linarith) (by norm_num; linarith)
  by_cases below60 : ratio < 60 - 20 * slack
  · exact chosen 20 2 (by decide) (by decide) (by norm_num; linarith) (by norm_num; linarith)
  by_cases below80 : ratio < 80 - 20 * slack
  · exact chosen 20 3 (by decide) (by decide) (by norm_num; linarith) (by norm_num; linarith)
  by_cases below100 : ratio < 100 - 20 * slack
  · exact chosen 20 4 (by decide) (by decide) (by norm_num; linarith) (by norm_num; linarith)
  · exact chosen 50 2 (by decide) (by decide) (by norm_num; linarith) (by norm_num; linarith)

private theorem countAt_coe {ratio : ℝ} (nonnegative : 0 ≤ ratio) (small : ratio < 100) (power : ℤ)
    {factor : ℕ} (listed : factor ∈ factors) :
    countAt ((ratio * 10 ^ power : ℝ) : EReal) ((factor * 10 ^ power : ℝ) : EReal) =
      fits ratio factor + 1 := by
  have divisor : (1 : ℝ) ≤ factor := Nat.one_le_cast.mpr (factor_pos listed)
  have unit : 0 < (10 : ℝ) ^ power := zpow_pos (by norm_num) power
  have same : fits (ratio * 10 ^ power) (factor * 10 ^ power) = fits ratio factor := by
    rw [fits, mul_div_mul_right _ _ unit.ne', fits]
  have few : fits ratio factor ≤ greatestCount := by
    have below : ratio / factor + slack ≤ 101 := by
      have quotient := div_le_self nonnegative divisor
      have := show slack < 1 by norm_num [slack]
      linarith
    calc fits ratio factor ≤ 101 := Nat.floor_le_of_le below
      _ ≤ greatestCount := by decide
  rw [countAt, wholeSteps_fits (by positivity) (by positivity), same, toCount_natCast few]

/-! ### The choice -/

/-- A distance of one, two or five times a power of ten. -/
def RoundDistance (spacing : ℝ) : Prop :=
  ∃ (factor : ℕ) (power : ℤ), factor ∈ [1, 2, 5] ∧ spacing = factor * ((10 : ℕ) : ℝ) ^ power

omit [NumberTexts] in
theorem roundDistance_of_factor {factor : ℕ} (listed : factor ∈ factors) (power : ℤ) :
    RoundDistance (factor * 10 ^ power) := by
  have raised (small : ℕ) : ((10 * small : ℕ) : ℝ) * 10 ^ power = small * 10 ^ (power + 1) := by
    rw [zpow_add_one₀ (by norm_num)]
    push_cast
    ring
  have shapes : factor ∈ [1, 2, 5] ∨ ∃ small ∈ [1, 2, 5], factor = 10 * small := by
    revert factor
    decide
  rcases shapes with small | ⟨small, inner, rfl⟩
  · exact ⟨factor, power, small, rfl⟩
  · exact ⟨small, power + 1, inner, raised small⟩

omit [NumberTexts] in
private theorem exists_ratio {range : ℝ} (positive : 0 < range) :
    ∃ ratio, 10 ≤ ratio ∧ ratio < 100 ∧ range = ratio * 10 ^ (Int.log 10 range - 1) := by
  have unit : 0 < (10 : ℝ) ^ (Int.log 10 range - 1) := zpow_pos (by norm_num) _
  have lower := Int.zpow_log_le_self (R := ℝ) (b := 10) (by norm_num) positive
  have upper := Int.lt_zpow_succ_log_self (R := ℝ) (b := 10) (by norm_num) range
  have ten : (10 : ℝ) ^ Int.log 10 range = 10 * 10 ^ (Int.log 10 range - 1) := by
    rw [mul_comm, ← zpow_add_one₀ (by norm_num), sub_add_cancel]
  have hundred : (10 : ℝ) ^ (Int.log 10 range + 1) = 100 * 10 ^ (Int.log 10 range - 1) := by
    rw [zpow_add_one₀ (by norm_num), ten]
    ring
  rw [Nat.cast_ofNat] at lower upper
  exact ⟨range / 10 ^ (Int.log 10 range - 1), (le_div_iff₀ unit).mpr (ten ▸ lower),
    (div_lt_iff₀ unit).mpr (hundred ▸ upper), (div_mul_cancel₀ range unit.ne').symm⟩

/-- The distance of ticks on a range that a spacing stands for. -/
noncomputable def distance (range : ℝ) (factor : ℕ) : ℝ :=
  factor * ((10 : ℕ) : ℝ) ^ (Int.log 10 range - 1)

/-- The chosen spacing fits two to four times into a range, and not once more. -/
theorem exists_choice {range : ℝ} (positive : 0 < range) (magnitude : HasMagnitude range) :
    ∃ (count factor : ℕ), factor ∈ factors ∧ 3 ≤ count ∧ count ≤ 5 ∧
      choice? (range : EReal) = some (count, (distance range factor : EReal)) ∧
      (count - 1) * distance range factor ≤ range + slack * distance range factor ∧
      range + slack * distance range factor < count * distance range factor := by
  obtain ⟨ratio, least, greatest, same⟩ := exists_ratio positive
  have unit : 0 < (10 : ℝ) ^ (Int.log 10 range - 1) := zpow_pos (by norm_num) _
  have nonnegative : 0 ≤ ratio := by linarith
  have counted (factor : ℕ) (listed : factor ∈ factors) :
      countAt (range : EReal) (distance range factor : EReal) = fits ratio factor + 1 := by
    have told := countAt_coe nonnegative greatest (Int.log 10 range - 1) listed
    rwa [← same] at told
  have offered : spacings (exponent (range : EReal)) =
      factors.map fun factor => (distance range factor : EReal) := by
    rw [exponent_coe positive magnitude, spacings_coe]
    rfl
  obtain ⟨fitting, listed, two, four⟩ := exists_factor least greatest
  have tried : (distance range fitting : EReal) ∈ spacings (exponent (range : EReal)) := by
    rw [offered]
    exact List.mem_map_of_mem listed
  have some : (choice? (range : EReal)).isSome = true :=
    choice?_isSome tried (by rw [counted fitting listed]; omega)
      (by rw [counted fitting listed, maxTicks]; omega)
  obtain ⟨⟨count, spacing⟩, chosen⟩ := Option.isSome_iff_exists.mp some
  obtain ⟨three, member, held, first⟩ := choice?_eq_some chosen
  rw [offered] at member
  obtain ⟨factor, listedFactor, rfl⟩ := List.mem_map.mp member
  rw [counted factor listedFactor] at held
  have five := first _ tried (by rw [counted fitting listed]; omega)
  rw [counted fitting listed] at five
  obtain ⟨lower, upper⟩ := fits_bounds nonnegative (Nat.cast_pos.mpr (factor_pos listedFactor))
  have counts : (count : ℝ) = fits ratio factor + 1 := by exact_mod_cast held.symm
  have whole : range + slack * distance range factor =
      (ratio + slack * factor) * 10 ^ (Int.log 10 range - 1) := by
    unfold distance
    linear_combination same
  refine ⟨count, factor, listedFactor, three, by omega, chosen, ?_, ?_⟩
  · rw [whole, counts, add_sub_cancel_right, distance, ← mul_assoc]
    exact mul_le_mul_of_nonneg_right lower unit.le
  · rw [whole, counts, distance, ← mul_assoc]
    exact mul_lt_mul_of_pos_right upper unit

/-- What is taken for noise is none: offsets of whole spacings stay as they are. -/
theorem clean_coe (power : ℤ) (whole : ℕ) :
    clean power ((whole * 10 ^ power : ℝ) : EReal) = ((whole * 10 ^ power : ℝ) : EReal) := by
  unfold clean
  split
  case isFalse => rfl
  case isTrue =>
    have scale : Scalar.power (10 : EReal) (3 - power) = (((10 : ℝ) ^ (3 - power) : ℝ) : EReal) :=
      power_coe (by norm_num) (3 - power)
    have nonzero : (10 : ℝ) ^ (3 - power) ≠ 0 := (zpow_pos (by norm_num) _).ne'
    have integer : (whole * 10 ^ power : ℝ) * 10 ^ (3 - power) = ((whole * 1000 : ℤ) : ℝ) := by
      rw [mul_assoc, ← zpow_add₀ (by norm_num)]
      norm_num
    simp only [scale]
    rw [← EReal.coe_mul, integer, round_intCast, ← integer, div_coe _ nonzero,
      mul_div_cancel_right₀ _ nonzero]

end NiceTicks

end CanvasChart
