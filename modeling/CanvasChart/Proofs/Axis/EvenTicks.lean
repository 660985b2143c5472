import CanvasChart.Proofs.Axis.TickChoice

set_option autoImplicit false

/-! Ticks of linear axes on exact numbers. They begin at the least value and are at one distance,
and none is above the range by more than the part of a distance that absorbs rounding. -/

namespace CanvasChart

/-! ### Ticks at one distance -/

open Exact

/-- Ticks from `low` on at one distance. No tick is above `high` by more than the part of the
distance that absorbs rounding. -/
structure EvenTicks (ticks : List EReal) (low high spacing : ℝ) : Prop where
  first : ticks.head? = some (low : EReal)
  neighbours : ∀ (index : ℕ) (tick next : EReal), ticks[index]? = some tick →
    ticks[index + 1]? = some next → next = tick + spacing
  increasing : ticks.Pairwise (· < ·)
  within : ∀ tick ∈ ticks, tick ≤ ((high + slack * spacing : ℝ) : EReal)

noncomputable def ticksFrom (low spacing : ℝ) (count : ℕ) : List EReal :=
  (List.range count).map fun index : ℕ => ((low + index * spacing : ℝ) : EReal)

section TicksFrom

variable {low high spacing : ℝ} {count : ℕ}

private theorem ticksFrom_length : (ticksFrom low spacing count).length = count := by
  rw [ticksFrom, List.length_map, List.length_range]

private theorem ticksFrom_getElem? {index : ℕ} {tick : EReal} :
    (ticksFrom low spacing count)[index]? = some tick ↔
      index < count ∧ tick = ((low + index * spacing : ℝ) : EReal) :=
  getElem?_map_range

private theorem evenTicks_ticksFrom (some : 0 < count) (positive : 0 < spacing)
    (last : (count - 1) * spacing ≤ high - low + slack * spacing) :
    EvenTicks (ticksFrom low spacing count) low high spacing where
  first := by
    rw [List.head?_eq_getElem?, ticksFrom_getElem?]
    exact ⟨some, by simp⟩
  neighbours index tick next held after := by
    obtain ⟨_inside, rfl⟩ := ticksFrom_getElem?.mp held
    obtain ⟨_inside, rfl⟩ := ticksFrom_getElem?.mp after
    rw [← EReal.coe_add, EReal.coe_eq_coe_iff]
    push_cast
    ring
  increasing := by
    refine List.pairwise_map.mpr (List.pairwise_lt_range.imp fun {first second} less => ?_)
    rw [EReal.coe_lt_coe_iff]
    have := mul_lt_mul_of_pos_right (Nat.cast_lt (α := ℝ).mpr less) positive
    linarith
  within := by
    intro tick member
    obtain ⟨index, inside, rfl⟩ := List.mem_map.mp member
    rw [EReal.coe_le_coe_iff]
    have below : (index : ℝ) ≤ count - 1 := by
      have := Nat.cast_le (α := ℝ).mpr (Nat.succ_le_of_lt (List.mem_range.mp inside))
      push_cast at this
      linarith
    have := mul_le_mul_of_nonneg_right below positive.le
    linarith

private theorem lt_last_add (beyond : high - low + slack * spacing < count * spacing)
    (positive : 0 < spacing) {tick : EReal}
    (last : (ticksFrom low spacing count).getLast? = some tick) :
    (high : EReal) < tick + spacing := by
  rw [List.getLast?_eq_getElem?, ticksFrom_length, ticksFrom_getElem?] at last
  obtain ⟨inside, rfl⟩ := last
  have counted : ((count - 1 : ℕ) : ℝ) = count - 1 := Nat.cast_pred (by omega)
  have room := mul_pos slack_pos positive
  rw [← EReal.coe_add, EReal.coe_lt_coe_iff, counted]
  linarith

end TicksFrom

variable [NumberTexts]

/-! ### Ticks of a range -/

open NiceTicks

private theorem niceTicks_coe {low high : ℝ} (wide : low < high)
    (magnitude : HasMagnitude (high - low)) :
    ∃ (count factor : ℕ), factor ∈ factors ∧ 3 ≤ count ∧ count ≤ 5 ∧
      choice? ((high - low : ℝ) : EReal) =
        some (count, (distance (high - low) factor : EReal)) ∧
      niceTicks (low : EReal) high = ticksFrom low (distance (high - low) factor) count ∧
      (count - 1) * distance (high - low) factor ≤
        high - low + slack * distance (high - low) factor ∧
      high - low + slack * distance (high - low) factor <
        count * distance (high - low) factor := by
  obtain ⟨count, factor, listed, three, five, chosen, fitting, beyond⟩ :=
    exists_choice (sub_pos.mpr wide) magnitude
  refine ⟨count, factor, listed, three, five, chosen, ?_, fitting, beyond⟩
  have range : (high : EReal) - low = ((high - low : ℝ) : EReal) := (EReal.coe_sub high low).symm
  have offset (index : ℕ) : (low : EReal) + clean (exponent ((high - low : ℝ) : EReal))
      (Scalar.ofNat index * (distance (high - low) factor : EReal)) =
        ((low + index * distance (high - low) factor : ℝ) : EReal) := by
    have whole : (index * distance (high - low) factor : ℝ) =
        ((index * factor : ℕ) : ℝ) * 10 ^ (Int.log 10 (high - low) - 1) := by
      rw [distance]
      push_cast
      ring
    rw [ofNat_eq, ← EReal.coe_natCast, ← EReal.coe_mul, whole,
      exponent_coe (sub_pos.mpr wide) magnitude, clean_coe, ← EReal.coe_add]
  rw [← range] at chosen
  rw [niceTicks_of_choice (range ▸ isFinite_coe _) ?wide chosen, range]
  case wide =>
    rw [range, literal_eq, Nat.cast_zero]
    exact not_le.mpr (EReal.coe_pos.mpr (sub_pos.mpr wide))
  exact List.map_congr_left fun index _inside => offset index

/-! ### Ticks of an axis -/

namespace Axis

private theorem stepTicks_coe {low high step : ℝ} (wide : low < high) (positive : 0 < step) :
    stepTicks (step : EReal) low high =
      if fits (high - low) step ≤ maxTicks then ticksFrom low step (fits (high - low) step + 1)
      else niceTicks (low : EReal) high := by
  have range : (high : EReal) - low = ((high - low : ℝ) : EReal) := (EReal.coe_sub high low).symm
  have offset (index : ℕ) : (low : EReal) + Scalar.ofNat index * (step : EReal) =
      ((low + index * step : ℝ) : EReal) := by
    rw [ofNat_eq, ← EReal.coe_natCast, ← EReal.coe_mul, ← EReal.coe_add]
  have few : ((fits (high - low) step : ℝ) : EReal) ≤ Scalar.ofNat maxTicks ↔
      fits (high - low) step ≤ maxTicks := by
    rw [ofNat_eq, ← EReal.coe_natCast, EReal.coe_le_coe_iff, Nat.cast_le]
  unfold stepTicks
  simp only [range, wholeSteps_fits (sub_nonneg.mpr wide.le) positive, few, offset]
  split
  case isTrue small =>
    rw [toCount_natCast (small.trans (by decide))]
    rfl
  case isFalse => rfl

private theorem stepTicks_top (low high : ℝ) :
    stepTicks ⊤ (low : EReal) high = [(low : EReal)] := by
  have range : (high : EReal) - low = ((high - low : ℝ) : EReal) := (EReal.coe_sub high low).symm
  have share : @HDiv.hDiv EReal EReal EReal (@instHDiv EReal Scalar.toDiv)
      ((high - low : ℝ) : EReal) ⊤ = 0 := by
    rw [div_eq _ EReal.top_ne_zero, EReal.inv_top, mul_zero]
  have none : wholeSteps ((high - low : ℝ) : EReal) ⊤ = ((0 : ℕ) : ℝ) := by
    have below : slack < 1 := by norm_num [slack]
    have whole : ⌊slack⌋ = 0 := Int.floor_eq_zero_iff.mpr ⟨slack_pos.le, below⟩
    rw [wholeSteps, share, countingSlack_eq, zero_add, floor_coe, whole]
    norm_num
  have few : (((0 : ℕ) : ℝ) : EReal) ≤ Scalar.ofNat maxTicks := by
    rw [ofNat_eq, ← EReal.coe_natCast, EReal.coe_le_coe_iff, Nat.cast_le]
    exact Nat.zero_le maxTicks
  unfold stepTicks
  simp only [range]
  rw [none, if_pos few, toCount_natCast (Nat.zero_le _)]
  simp

omit [NumberTexts] in
private theorem tickValues_of_linear {α : Type} [Scalar α] {axis : Axis α} {least greatest : α}
    (linear : axis.isLog = false)
    (automatic : ∀ values, axis.options.ticks ≠ some (.explicit values))
    (spans : axis.dataRange = (least, greatest)) (leastFinite : Scalar.isFinite least = true)
    (greatestFinite : Scalar.isFinite greatest = true) :
    axis.tickValues = niceTicks least greatest ∨
      ∃ step, 0 < step ∧ axis.tickValues = stepTicks step least greatest := by
  unfold tickValues
  split
  case h_1 values explicit => exact absurd explicit (automatic values)
  case h_2 =>
    simp only [spans, leastFinite, greatestFinite, linear, Bool.not_true, Bool.or_self,
      Bool.false_eq_true, if_false]
    split
    case h_1 step _every =>
      split
      case isTrue positive => exact .inr ⟨step, positive, rfl⟩
      case isFalse => exact .inl rfl
    case h_2 => exact .inl rfl

/-- The ticks that are chosen for a range: three to five of them at a round distance, such that
another one would be above the range. -/
structure NiceChoice (low high : ℝ) (spacing : ℝ) : Prop where
  round : RoundDistance spacing
  even : EvenTicks (niceTicks (low : EReal) high) low high spacing
  three : 3 ≤ (niceTicks (low : EReal) high).length
  five : (niceTicks (low : EReal) high).length ≤ 5
  complete : ∀ tick, (niceTicks (low : EReal) high).getLast? = some tick →
    (high : EReal) < tick + spacing
  found : choice? ((high : EReal) - low) ≠ none

private theorem exists_niceChoice {low high : ℝ} (wide : low < high)
    (magnitude : HasMagnitude (high - low)) :
    ∃ spacing, 0 < spacing ∧ NiceChoice low high spacing := by
  obtain ⟨count, factor, listed, three, five, chosen, told, fitting, beyond⟩ :=
    niceTicks_coe wide magnitude
  have positive : 0 < distance (high - low) factor :=
    mul_pos (Nat.cast_pos.mpr (factor_pos listed)) (zpow_pos (by norm_num) _)
  refine ⟨distance (high - low) factor, positive, roundDistance_of_factor listed _, ?_, ?_, ?_,
    ?_, ?_⟩
  · rw [told]
    exact evenTicks_ticksFrom (by omega) positive fitting
  · rwa [told, ticksFrom_length]
  · rwa [told, ticksFrom_length]
  · rw [told]
    exact fun tick last => lt_last_add beyond positive last
  · rw [← EReal.coe_sub, chosen]
    exact Option.some_ne_none _

private theorem evenTicks_stepTicks {low high : ℝ} (wide : low < high)
    (magnitude : HasMagnitude (high - low)) {step : EReal} (positive : 0 < step) :
    ∃ spacing, 0 < spacing ∧ EvenTicks (stepTicks step (low : EReal) high) low high spacing ∧
      (stepTicks step (low : EReal) high).length ≤ maxTicks + 1 := by
  induction step with
  | bot => exact absurd positive not_lt_bot
  | top =>
      have alone : stepTicks ⊤ (low : EReal) high = ticksFrom low 1 1 := by
        simp [stepTicks_top, ticksFrom]
      rw [alone, ticksFrom_length]
      refine ⟨1, one_pos, evenTicks_ticksFrom one_pos one_pos ?_, by decide⟩
      have room := slack_pos
      push_cast
      linarith
  | coe step =>
      have positive : 0 < step := EReal.coe_pos.mp positive
      rw [stepTicks_coe wide positive]
      split
      case isTrue few =>
        obtain ⟨fitting, _beyond⟩ := fits_bounds (sub_nonneg.mpr wide.le) positive
        rw [ticksFrom_length]
        refine ⟨step, positive, evenTicks_ticksFrom (Nat.succ_pos _) positive ?_,
          Nat.succ_le_succ few⟩
        rwa [Nat.cast_add_one, add_sub_cancel_right]
      case isFalse =>
        obtain ⟨spacing, positive, told⟩ := exists_niceChoice wide magnitude
        exact ⟨spacing, positive, told.even, told.five.trans (by decide)⟩

/-- On every range there are three to five chosen ticks at a round distance, and another one would
be above the range. Whatever the policy of a linear axis, short of an explicit list, its ticks begin
at the least value, are at one distance, and are at most 101. -/
theorem tickValues_evenly_spaced :
    (∀ low high : ℝ, low < high → HasMagnitude (high - low) →
      ∃ spacing, NiceChoice low high spacing) ∧
    ∀ (axis : Axis EReal) (low high : ℝ), axis.isLog = false →
      (∀ values, axis.options.ticks ≠ some (.explicit values)) →
      axis.dataRange = ((low : EReal), (high : EReal)) → low < high → HasMagnitude (high - low) →
      ∃ spacing, 0 < spacing ∧ EvenTicks axis.tickValues low high spacing ∧
        axis.tickValues.length ≤ maxTicks + 1 := by
  constructor
  · intro low high wide magnitude
    obtain ⟨spacing, _positive, told⟩ := exists_niceChoice wide magnitude
    exact ⟨spacing, told⟩
  · intro axis low high linear automatic spans wide magnitude
    rcases tickValues_of_linear linear automatic spans (isFinite_coe low) (isFinite_coe high) with
      nice | ⟨step, positive, stepped⟩
    · obtain ⟨spacing, positive, told⟩ := exists_niceChoice wide magnitude
      rw [nice]
      exact ⟨spacing, positive, told.even, told.five.trans (by decide)⟩
    · rw [stepped]
      rw [literal_eq, Nat.cast_zero] at positive
      exact evenTicks_stepTicks wide magnitude positive

noncomputable def fiveStepped : Axis EReal :=
  { new .left .y .bottom { AxisOptions.standard with ticks := some (.every ((5 : ℝ) : EReal)) } with
    min := ((0 : ℝ) : EReal)
    max := ((100 : ℝ) : EReal) }

omit [NumberTexts] in
theorem tickValues_evenly_spaced_fiveStepped :
    letI := Exact.wholeTexts
    HasMagnitude (120 - 50) ∧ (∃ spacing, NiceChoice 50 120 spacing) ∧ HasMagnitude (100 - 0) ∧
      ∃ spacing, 0 < spacing ∧ EvenTicks fiveStepped.tickValues 0 100 spacing ∧
        fiveStepped.tickValues.length ≤ 101 := by
  let _texts := Exact.wholeTexts
  have magnitude (range : ℝ) (least : 1 ≤ range) (greatest : range ≤ 2 ^ (10 : ℤ)) :
      HasMagnitude range :=
    hasMagnitude_of_binary64 ((zpow_le_one_of_nonpos₀ (by norm_num) (by norm_num)).trans least)
      (greatest.trans (zpow_le_zpow_right₀ (by norm_num) (by norm_num)))
  have seventy := magnitude (120 - 50) (by norm_num) (by norm_num)
  have hundred := magnitude (100 - 0) (by norm_num) (by norm_num)
  obtain ⟨chosen, stepped⟩ := tickValues_evenly_spaced
  exact ⟨seventy, chosen 50 120 (by norm_num) seventy, hundred,
    stepped fiveStepped 0 100 rfl (fun _values explicit => nomatch explicit) rfl (by norm_num)
      hundred⟩

end Axis
end CanvasChart
