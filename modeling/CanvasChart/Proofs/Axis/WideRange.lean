import CanvasChart.Proofs.Axis.PowerRange
import CanvasChart.Proofs.Axis.LinearRange
import CanvasChart.Proofs.Axis.Interleaving

set_option autoImplicit false

/-! Settled ranges are not empty. On a linear axis the range is widened wherever the plots leave it
empty, whatever they hold. On a logarithmic axis it is widened by a factor of the base, and so only
if the base is above one. -/

namespace CanvasChart.Axis

/-! ### Linear axes -/

section Linear

open Binary64

private theorem min_zero_le (value : Float) : Scalar.min value 0 ≤ 0 := by
  have zero : (0 : Float) ≤ 0 := le_refl isNaN_zero
  unfold Scalar.min
  rw [isNaN_eq]
  split_ifs with number above
  · exact zero
  · exact zero
  · exact (not_lt_iff isNaN_zero (Bool.eq_false_iff.mpr number)).mp above

private theorem le_max_zero (value : Float) : 0 ≤ Scalar.max value 0 := by
  have zero : (0 : Float) ≤ 0 := le_refl isNaN_zero
  unfold Scalar.max
  rw [isNaN_eq]
  split_ifs with number below
  · exact zero
  · exact zero
  · exact (not_lt_iff (Bool.eq_false_iff.mpr number) isNaN_zero).mp below

/-- The bounds of an axis that is not settled are on both sides of zero, or still the infinite
ones in reverse. -/
structure Straddles (axis : Axis Float) : Prop where
  unfixed : axis.fixed = false
  bounds : (axis.min = Scalar.infinity ∧ axis.max = -Scalar.infinity) ∨
    (axis.min ≤ 0 ∧ 0 ≤ axis.max)

variable {axis : Axis Float}

theorem Straddles.absorb (straddles : axis.Straddles) (linear : axis.options.scale = .linear)
    (plot : Plot Float) : (axis.absorb plot).Straddles := by
  unfold Axis.absorb
  split
  · split <;> exact ⟨straddles.unfixed, straddles.bounds⟩
  · cases plot.boundingBox with
    | none => exact ⟨straddles.unfixed, straddles.bounds⟩
    | some box =>
        simp only [widen, linear]
        exact ⟨straddles.unfixed, .inr ⟨min_zero_le _, le_max_zero _⟩⟩

private theorem straddles_addPlots {side : Side} {kind : AxisKind} {companion : Side}
    {options : AxisOptions Float} (linear : options.scale = .linear)
    {entries : List (Nat × Plot Float)}
    (taken : (new side kind companion options).addPlots entries = .ok axis) :
    axis.options = options ∧ axis.Straddles := by
  refine addPlots_induction (fun held _earlier => held.options = options ∧ held.Straddles)
    ⟨rfl, rfl, .inl ⟨rfl, rfl⟩⟩ ?_ taken
  rintro before earlier index plot next _member ⟨kept, straddles⟩ added
  obtain ⟨rfl, takes⟩ := taken_of_addPlot added
  refine ⟨takes.options.trans kept, ?_⟩
  have recorded : { before.informed plot with plots := before.plots ++ [index] }.Straddles :=
    ⟨straddles.unfixed, straddles.bounds⟩
  rw [taking_of_unfixed straddles.unfixed]
  exact recorded.absorb (kept.symm ▸ linear) plot

/-- Numbers are widened to a range if they are in order or the lower one is zero. -/
private theorem extendEmpty_lt (linear : axis.options.scale = .linear) {least greatest : Float}
    (leastNumber : least.isNaN = false) (greatestNumber : greatest.isNaN = false)
    (zero : greatest ≤ least → (least == 0) = true) :
    (axis.extendEmpty (least, greatest)).1 < (axis.extendEmpty (least, greatest)).2 := by
  by_cases empty : greatest ≤ least
  · rw [extendEmpty, if_pos empty, linear]
    simp only [add_one_of_zero (zero empty)]
    by_contra above
    have one : (1 : Float).isNaN = false := rfl
    have contrary : ¬ (1 : Float) ≤ 0 := by decide
    exact contrary (le_trans ((not_lt_iff leastNumber one).mp above) (le_of_beq (zero empty)))
  · rw [extendEmpty, if_neg empty]
    by_contra above
    exact empty ((not_lt_iff leastNumber greatestNumber).mp above)

theorem Straddles.rmin_lt_rmax (straddles : axis.Straddles)
    (linear : axis.options.scale = .linear) : axis.fix.rmin < axis.fix.rmax := by
  have notLog := isLog_of_linear linear
  obtain ⟨least, greatest, _fixed⟩ := fix_dataBounds straddles.unfixed
  rw [least, greatest]
  unfold completeRange
  rw [notLog]
  split_ifs with discrete overflow endless
  · exact extendEmpty_lt linear isNaN_zero (isNaN_ofNat _) fun _empty => rfl
  · cases overflow
  · rw [linear]
    exact extendEmpty_lt linear isNaN_zero rfl fun _empty => rfl
  · rw [← Bool.not_and, Bool.not_eq_true', Bool.not_eq_false, Bool.and_eq_true] at endless
    obtain ⟨infinite, _negative⟩ | ⟨belowZero, aboveZero⟩ := straddles.bounds
    · rw [infinite] at endless
      have unbounded : ¬ Scalar.isFinite (Scalar.infinity : Float) = true := by decide
      exact absurd endless.1 unbounded
    · exact extendEmpty_lt linear (isNaN_of_le belowZero).1 (isNaN_of_le aboveZero).2 fun empty =>
        beq_of_le_of_le belowZero (le_trans aboveZero empty)

end Linear

/-! ### Exact numbers -/

section Exactly

open Exact

variable [NumberTexts]

private theorem fix_lt_of_discrete {axis : Axis EReal} (unfixed : axis.fixed = false)
    (discrete : axis.isDiscrete = true) :
    axis.fix.rmin < axis.fix.rmax ∧ axis.fix.min < axis.fix.max := by
  let count := Nat.max axis.labels.length 1
  have positive : (0 : EReal) < (count : EReal) := by
    rw [← EReal.coe_natCast, EReal.coe_pos, Nat.cast_pos]
    exact Nat.lt_of_lt_of_le Nat.one_pos (Nat.le_max_right _ _)
  have zero : @OfNat.ofNat EReal 0 (Scalar.instOfNat 0) = 0 := by rw [literal_eq, Nat.cast_zero]
  have range : axis.extendEmpty axis.completeRange = (0, (count : EReal)) := by
    rw [completeRange, discrete, if_pos rfl, extendEmpty, zero, ofNat_eq,
      if_neg (not_le.mpr positive)]
  have mapped : (axis.isLog && !axis.isDiscrete) = false := by simp [discrete]
  rw [fix_of_discrete unfixed discrete, range]
  simp only [withRange, mapped, Bool.false_eq_true, if_false]
  exact ⟨positive, positive⟩

variable {side : Side} {kind : AxisKind} {companion : Side} {options : AxisOptions EReal} {base : ℝ}

/-- Without plots a logarithmic range is from one to the base, whatever the base is. -/
private theorem fix_new_log (logarithmic : options.scale = .log) (isBase : options.logBase = base) :
    (new side kind companion options).fix.rmin = ((1 : ℝ) : EReal) ∧
      (new side kind companion options).fix.rmax = base := by
  have spans := spansPowers_new side kind companion options base
  have continuous : (new side kind companion options).isDiscrete = false := by
    simp [isDiscrete, new]
  have unit := (spans.completeRange logarithmic isBase continuous).1 rfl
  obtain ⟨least, greatest, _fixed⟩ := fix_dataBounds spans.unfixed
  have scale : (new side kind companion options).options.scale = .log := logarithmic
  have factor : (new side kind companion options).options.logBase = base := isBase
  rw [least, greatest, unit]
  by_cases empty : (base : EReal) ≤ ((1 : ℝ) : EReal)
  · rw [extendEmpty, if_pos empty, scale, factor]
    exact ⟨rfl, one_mul _⟩
  · rw [extendEmpty, if_neg empty]
    exact ⟨rfl, rfl⟩

section Added

variable {entries : List (Nat × Plot EReal)} (finite : ∀ entry ∈ entries, entry.2.FiniteEntries)
  {axis : Axis EReal} (taken : (new side kind companion options).addPlots entries = .ok axis)
  (continuous : axis.isDiscrete = false)

include finite taken continuous

private theorem fix_lt_of_linear (linear : options.scale = .linear) :
    axis.fix.rmin < axis.fix.rmax ∧ axis.fix.min < axis.fix.max := by
  have stillLinear : axis.options.scale = .linear := (addPlots_told taken).1 ▸ linear
  have covers := (covers_new side kind companion options).addPlots linear entries
    (isDiscrete_of_addPlots taken continuous) taken
  rw [Set.empty_union] at covers
  obtain ⟨low, high, isLow, isHigh, wide, _within⟩ := covers.shows_fix stillLinear continuous (by
    rintro value ⟨entry, listed, inside⟩
    exact (finite entry listed).reach kind value inside)
  have mapped : axis.fix.min < axis.fix.max := by
    rw [isLow, isHigh]
    exact EReal.coe_lt_coe_iff.mpr wide
  obtain ⟨least, greatest⟩ := fix_bounds covers.unfixed (isLog_of_linear stillLinear)
  obtain ⟨dataLeast, dataGreatest, _fixed⟩ := fix_dataBounds covers.unfixed
  exact ⟨by rwa [dataLeast, dataGreatest, ← least, ← greatest], mapped⟩

private theorem fix_lt_of_large (logarithmic : options.scale = .log)
    (isBase : options.logBase = base)
    (large : 1 < base) : axis.fix.rmin < axis.fix.rmax ∧ axis.fix.min < axis.fix.max := by
  have unfixed := fixed_of_addPlots rfl taken
  have kept := (addPlots_told taken).1
  obtain ⟨low, high, range, isLeast, isGreatest⟩ :=
    powerRange_addPlots logarithmic isBase large finite taken continuous
  have wide := range.low_lt_high
  have log : axis.isLog = true := decide_eq_true (kept ▸ logarithmic)
  have keptBase : axis.options.logBase = base := kept ▸ isBase
  obtain ⟨isLow, isHigh⟩ := fix_logBounds unfixed log continuous
  rw [isLeast, keptBase, logOf_zpow large] at isLow
  rw [isGreatest, keptBase, logOf_zpow large] at isHigh
  rw [isLeast, isGreatest, isLow, isHigh, EReal.coe_lt_coe_iff, EReal.coe_lt_coe_iff]
  exact ⟨zpow_lt_zpow_right₀ large wide, Int.cast_lt.mpr wide⟩

end Added

end Exactly

/-! ### Every axis -/

/-- On exact numbers the settled range of an axis is never empty, whatever the kind of the axis and
its plots are, just when the axis is linear or its base is above one. On binary64 numbers the range
of a linear axis is never empty either. -/
theorem fix_wide [NumberTexts] (side : Side) (kind : AxisKind) (companion : Side)
    (options : AxisOptions EReal) (base : ℝ) (isBase : options.logBase = base) :
    ((∀ (entries : List (Nat × Plot EReal)) (axis : Axis EReal),
      (∀ entry ∈ entries, entry.2.FiniteEntries) →
      (new side kind companion options).addPlots entries = .ok axis →
      axis.fix.rmin < axis.fix.rmax ∧ axis.fix.min < axis.fix.max) ↔
        options.scale = .linear ∨ 1 < base) ∧
    ∀ (options : AxisOptions Float) (entries : List (Nat × Plot Float)) (axis : Axis Float),
      options.scale = .linear → (new side kind companion options).addPlots entries = .ok axis →
      axis.fix.rmin < axis.fix.rmax ∧ axis.fix.min < axis.fix.max := by
  refine ⟨⟨fun wide => ?base, fun allowed entries axis finite taken => ?wide⟩, ?binary64⟩
  case base =>
    cases scale : options.scale with
    | linear => exact .inl rfl
    | log =>
        obtain ⟨isLeast, isGreatest⟩ := fix_new_log scale isBase
        have apart := (wide [] _ (List.forall_mem_nil _) rfl).1
        rw [isLeast, isGreatest] at apart
        exact .inr (EReal.coe_lt_coe_iff.mp apart)
  case wide =>
    cases isDiscrete : axis.isDiscrete with
    | true => exact fix_lt_of_discrete (fixed_of_addPlots rfl taken) isDiscrete
    | false =>
        cases scale : options.scale with
        | linear => exact fix_lt_of_linear finite taken isDiscrete scale
        | log =>
            have large : 1 < base := allowed.resolve_left (by rw [scale]; decide)
            exact fix_lt_of_large finite taken isDiscrete scale isBase large
  case binary64 =>
    intro options entries axis linear taken
    obtain ⟨kept, straddles⟩ := straddles_addPlots linear taken
    have stillLinear : axis.options.scale = .linear := kept ▸ linear
    have wide := straddles.rmin_lt_rmax stillLinear
    obtain ⟨least, greatest⟩ := fix_bounds straddles.unfixed (isLog_of_linear stillLinear)
    obtain ⟨dataLeast, dataGreatest, _fixed⟩ := fix_dataBounds straddles.unfixed
    rw [least, greatest, ← dataLeast, ← dataGreatest]
    exact ⟨wide, wide⟩

theorem fix_wide_twoScales :
    letI := Exact.wholeTexts
    (∃ axis, (new .left .y .bottom decades).addPlots [(0, upToThousand)] = .ok axis ∧
      axis.fix.rmin < axis.fix.rmax ∧ axis.fix.min < axis.fix.max) ∧
    ∃ axis, (new .left .y .bottom .standard).addPlots twoMarks = .ok axis ∧
      axis.fix.rmin < axis.fix.rmax ∧ axis.fix.min < axis.fix.max := by
  let _texts := Exact.wholeTexts
  have ten : (1 : ℝ) < 10 := by norm_num
  obtain ⟨exactly, onMachine⟩ := fix_wide .left .y .bottom decades 10 decades_logBase
  constructor
  · have onY : (new .left .y .bottom decades).kind = .y := rfl
    obtain ⟨axis, taken, _continuous⟩ := addPlots_of_y onY [(0, upToThousand)]
    have finite : ∀ entry ∈ [(0, upToThousand)], entry.2.FiniteEntries :=
      List.forall_mem_singleton.mpr finiteEntries_upToThousand
    exact ⟨axis, taken, exactly.mpr (.inr ten) _ axis finite taken⟩
  · have onY : (new .left .y .bottom .standard : Axis Float).kind = .y := rfl
    obtain ⟨axis, taken, _continuous⟩ := addPlots_of_y onY twoMarks
    exact ⟨axis, taken, onMachine .standard twoMarks axis rfl taken⟩

def unitBase : AxisOptions Float := { AxisOptions.standard with scale := .log, logBase := 1 }

/-- Widened by a factor of one, an empty range stays empty. -/
theorem not_fix_wide : ¬ ∀ (side : Side) (kind : AxisKind) (companion : Side)
    (options : AxisOptions Float) (entries : List (Nat × Plot Float)) (axis : Axis Float),
      (∀ entry ∈ entries, entry.2.FiniteData) →
      (new side kind companion options).addPlots entries = .ok axis →
      axis.fix.rmin < axis.fix.rmax := by
  intro wide
  let blank : Axis Float := new .left .y .bottom unitBase
  have empty : ¬ blank.fix.rmin < blank.fix.rmax := by decide +kernel
  exact empty (wide .left .y .bottom unitBase [] blank (List.forall_mem_nil _) rfl)

end CanvasChart.Axis
