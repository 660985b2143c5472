import CanvasChart.Proofs.Axis.PowerRange
import CanvasChart.Proofs.Axis.LinearRange
import CanvasChart.Proofs.Axis.Interleaving

set_option autoImplicit false

/-! When the range of an axis is its own: on a linear axis, when some value is not zero; on a
logarithmic one, when the positive values are not all about one power of the base. In just these
cases the range may be settled between the plots without making a difference. -/

namespace CanvasChart

/-! ### Values about one power -/

/-- The powers of the base around some values are not all the same one. -/
def SeveralPowers (base : ℝ) (values : Set ℝ) : Prop :=
  ∃ first ∈ values, ∃ second ∈ values, lowerExponent base first < upperExponent base second

variable {base : ℝ}

private theorem severalPowers_iff {values : Set ℝ} {low high : ℤ}
    (least : IsLeast (lowerExponent base '' values) low)
    (greatest : IsGreatest (upperExponent base '' values) high) :
    SeveralPowers base values ↔ low < high := by
  constructor
  · rintro ⟨first, inFirst, second, inSecond, less⟩
    calc low ≤ lowerExponent base first := least.2 (Set.mem_image_of_mem _ inFirst)
      _ < upperExponent base second := less
      _ ≤ high := greatest.2 (Set.mem_image_of_mem _ inSecond)
  · intro less
    obtain ⟨first, inFirst, rfl⟩ := least.1
    obtain ⟨second, inSecond, rfl⟩ := greatest.1
    exact ⟨first, inFirst, second, inSecond, less⟩

theorem PowerRange.of_not_severalPowers {values : Set ℝ} {low high : ℤ}
    (range : PowerRange base values low high) (together : ¬ SeveralPowers base values) :
    high = low + 1 ∧ ∀ value ∈ values, upperExponent base value ≤ low := by
  rcases values.eq_empty_or_nonempty with none | some
  · obtain ⟨rfl, rfl⟩ := range.placeholder none
    exact ⟨rfl, fun value member => absurd ⟨value, member⟩ (none ▸ Set.not_nonempty_empty)⟩
  · obtain ⟨least, top, greatest, rfl⟩ := range.around some
    have below : top ≤ low := not_lt.mp fun less => together ((severalPowers_iff least greatest).mpr less)
    exact ⟨max_eq_right (below.trans (lt_add_one low).le),
      fun value member => (greatest.2 (Set.mem_image_of_mem _ member)).trans below⟩

namespace Axis

/-! ### Linear axes -/

section Linear

open Binary64

variable {side : Side} {kind : AxisKind} {companion : Side} {options : AxisOptions Float}
  {entries : List (Nat × Plot Float)} {axis : Axis Float} (linear : options.scale = .linear)
  (finite : ∀ entry ∈ entries, entry.2.FiniteData)
  (taken : (new side kind companion options).addPlots entries = .ok axis)
  (continuous : axis.isDiscrete = false)

include linear finite taken continuous

private theorem ownRange_iff_nonzero :
    axis.OwnRange ↔ ∃ value ∈ Plot.allDataValues entries kind, (value == 0) = false := by
  have spans := spans_new_addPlots linear finite taken continuous
  constructor
  · intro own
    obtain ⟨leastFinite, _greatestFinite, wide⟩ := own.bounded continuous
    rcases LinearRange.zeros_or (Plot.allDataValues entries kind) with nonzero | zeros
    · exact nonzero
    · rcases (Plot.allDataValues entries kind).eq_empty_or_nonempty with none | some
      · have endless : ¬ Scalar.isFinite (Scalar.infinity : Float) = true := by decide
        rw [(spans.vacant none).1] at leastFinite
        exact absurd leastFinite endless
      · exact absurd ((spans.empty_iff some).mpr zeros) wide
  · rintro ⟨value, member, nonzero⟩
    have ⟨entry, listed, _inside⟩ := member
    obtain ⟨isLeast, isGreatest⟩ := spans.filled ⟨value, member⟩
    have finiteValues : ∀ value ∈ Plot.allDataValues entries kind, value.isFinite = true :=
      isFinite_of_allDataValues finite
    refine ⟨discrete_ne_none_of_addPlots taken (List.ne_nil_of_mem listed), fun _continuous =>
      ⟨isFinite_of_insert finiteValues _ isLeast.1, isFinite_of_insert finiteValues _ isGreatest.1,
        fun empty => ?_⟩⟩
    rw [(spans.empty_iff ⟨value, member⟩).mp empty value member] at nonzero
    cases nonzero

omit linear finite taken continuous

def lowMark : Plot Float := (Plot.new .scatter).addSeries (.ofData [⟨.number (-5), -5⟩])

private theorem finiteData_lowMark : lowMark.FiniteData where
  keys := by
    have low : (-5 : Float).isFinite = true := rfl
    simp [lowMark, Plot.addSeries, Plot.new, Series.ofData, Key.number?, low]
  tops := by
    have low : (-5 : Float).isFinite = true := rfl
    have tops : lowMark.stackedTops = [[-5]] := rfl
    simp [tops, low]
  counts := by simp [lowMark, Plot.addSeries, Plot.new, Series.ofData]

private theorem dataValues_lowMark (kind : AxisKind) : lowMark.dataValues kind = {-5} := by
  have coordinates : lowMark.coordinates = [⟨-5, -5⟩] := rfl
  ext value
  rw [Plot.dataValues_eq, coordinates]
  cases kind <;> simp [Point.along, eq_comm]

include linear finite taken continuous

private theorem addPlot_fix_ne_of_zeros
    (zeros : ∀ value ∈ Plot.allDataValues entries kind, (value == 0) = true) (index : Nat) :
    (axis.fix.addPlot index lowMark).map fix ≠ (axis.addPlot index lowMark).map fix := by
  have spans := spans_new_addPlots linear finite taken continuous
  have numeric (onX : axis.kind = .x) : lowMark.isDiscrete = false := rfl
  have added := addPlot_of_continuous continuous numeric index
  have settledAdded := addPlot_of_continuous
    (axis.fix_samePlan.isDiscrete.trans continuous) (axis.fix_samePlan.kind ▸ numeric) index
  have nextContinuous := (taken_of_addPlot added).2.isDiscrete_eq_false fun _onX => rfl
  have settledContinuous := (taken_of_addPlot settledAdded).2.isDiscrete_eq_false fun _onX => rfl
  have placeholder := (linearRange_addPlots linear finite taken continuous).placeholder zeros
  have kept := settled_range_kept linear finite taken continuous finiteData_lowMark
    settledContinuous settledAdded
  have grown := linearRange_addPlot ((unfix_of_unfixed spans.unfixed).symm ▸ spans)
    ((addPlots_told taken).1 ▸ linear) (isFinite_of_allDataValues finite) finiteData_lowMark added
    nextContinuous
  rw [dataValues_lowMark] at grown
  obtain ⟨_isLeast, isGreatest⟩ := grown.around ⟨-5, .inr rfl, rfl⟩
  have below : (axis.taking index lowMark).fix.rmax ≤ 0 := by
    rcases isGreatest.1 with zero | member | low
    · rw [zero]
      rfl
    · exact le_of_beq (zeros _ member)
    · rw [low]
      rfl
  intro same
  rw [added, settledAdded] at same
  rw [Except.ok.inj same, placeholder.2] at kept
  have contrary : ¬ (1 : Float) ≤ 0 := by decide
  exact contrary (le_trans kept.2 below)

/-- On a linear axis settling before a further plot makes no difference just when some value is
not zero. -/
private theorem addPlot_fix_iff_nonzero :
    (∀ (index : Nat) (plot : Plot Float), plot.FiniteData →
      (axis.fix.addPlot index plot).map fix = (axis.addPlot index plot).map fix) ↔
    ∃ value ∈ Plot.allDataValues entries kind, (value == 0) = false := by
  have spans := spans_new_addPlots linear finite taken continuous
  constructor
  · intro transparent
    rcases LinearRange.zeros_or (Plot.allDataValues entries kind) with nonzero | zeros
    · exact nonzero
    · have same := transparent 0 lowMark finiteData_lowMark
      exact absurd same (addPlot_fix_ne_of_zeros linear finite taken continuous zeros 0)
  · intro nonzero index plot _finite
    have own := (ownRange_iff_nonzero linear finite taken continuous).mpr nonzero
    exact own.addPlot_fix spans.unfixed index plot

end Linear

/-! ### Logarithmic axes -/

section Logarithmic

open Exact

variable [NumberTexts]

noncomputable def markAt (value : ℝ) : Plot EReal :=
  (Plot.new .scatter).addSeries (.ofData [⟨.number (value : EReal), (value : EReal)⟩])

omit [NumberTexts] in
private theorem finiteEntries_markAt (value : ℝ) : (markAt value).FiniteEntries := by
  constructor <;>
    simp only [markAt, Plot.addSeries, Plot.new, Series.ofData, List.nil_append,
      List.forall_mem_singleton, Key.number?, Option.some.injEq, forall_eq', finite_coe]

private theorem positives_markAt (kind : AxisKind) {value : ℝ} (positive : 0 < value) :
    positivesOf (Point.reach kind (markAt value).coordinates) = {value} := by
  have reached : Point.reach kind (markAt value).coordinates = {(value : EReal)} := by
    change Point.reach kind [⟨(value : EReal), (value : EReal)⟩] = _
    rw [Point.reach_cons, Point.reach_nil, Set.union_empty]
    cases kind <;> rfl
  ext number
  rw [positivesOf, reached, Set.mem_ofPred_eq, Set.mem_singleton_iff, Set.mem_singleton_iff,
    EReal.coe_eq_coe_iff]
  exact ⟨And.right, fun same => ⟨same ▸ positive, same⟩⟩

private theorem spansPowers_reopened {axis : Axis EReal} {low high : ℤ}
    (large : 1 < base) (wide : low < high) (isLeast : axis.fix.rmin = ((base ^ low : ℝ) : EReal))
    (isGreatest : axis.fix.rmax = ((base ^ high : ℝ) : EReal)) :
    axis.fix.unfix.SpansPowers base {base ^ low, base ^ high} := by
  have lower : lowerExponent base '' {base ^ low, base ^ high} = {low, high} := by
    rw [Set.image_pair, lowerExponent_zpow large, lowerExponent_zpow large]
  have upper : upperExponent base '' {base ^ low, base ^ high} = {low, high} := by
    rw [Set.image_pair, upperExponent_zpow large, upperExponent_zpow large]
  rw [unfix_fix, isLeast, isGreatest]
  refine ⟨rfl, fun none => absurd none (Set.insert_nonempty _ _).ne_empty, fun _some =>
    ⟨low, high, rfl, rfl, ?_, ?_⟩⟩
  · rw [lower]
    exact ⟨.inl rfl, by rintro power (rfl | rfl) <;> omega⟩
  · rw [upper]
    exact ⟨.inr rfl, by rintro power (rfl | rfl) <;> omega⟩

theorem SpansPowers.powerRange_markAt {axis : Axis EReal} {values : Set ℝ}
    (spans : axis.unfix.SpansPowers base values) (logarithmic : axis.options.scale = .log)
    (isBase : axis.options.logBase = base) (large : 1 < base) (index : Nat) (exponent : ℤ)
    {next : Axis EReal} (added : axis.addPlot index (markAt (base ^ exponent)) = .ok next) :
    ∃ low high : ℤ, PowerRange base (values ∪ {base ^ exponent}) low high ∧
      next.fix.rmin = ((base ^ low : ℝ) : EReal) ∧ next.fix.rmax = ((base ^ high : ℝ) : EReal) := by
  have positive : 0 < base ^ exponent := zpow_pos (zero_lt_one.trans large) exponent
  obtain ⟨rfl, takes⟩ := taken_of_addPlot added
  have continuous := takes.isDiscrete_eq_false fun _onX => rfl
  have grown := spans.taking logarithmic isBase large index
    ((finiteEntries_markAt (base ^ exponent)).reach axis.kind) continuous
  rw [positives_markAt _ positive] at grown
  exact grown.powerRange_fix (takes.options ▸ logarithmic) (takes.options ▸ isBase) large continuous

section Added

variable {side : Side} {kind : AxisKind} {companion : Side} {options : AxisOptions EReal}
  (logarithmic : options.scale = .log) (isBase : options.logBase = base) (large : 1 < base)
  {entries : List (Nat × Plot EReal)} (finite : ∀ entry ∈ entries, entry.2.FiniteEntries)
  {axis : Axis EReal} (taken : (new side kind companion options).addPlots entries = .ok axis)
  (continuous : axis.isDiscrete = false)

include logarithmic isBase large finite taken continuous

private theorem ownRange_iff_severalPowers :
    axis.OwnRange ↔ SeveralPowers base (positivesOf (Plot.reach kind entries)) := by
  have spans := spansPowers_new_addPlots logarithmic isBase large finite taken continuous
  constructor
  · intro own
    obtain ⟨leastFinite, _greatestFinite, wide⟩ := own.bounded continuous
    rcases (positivesOf (Plot.reach kind entries)).eq_empty_or_nonempty with none | some
    · rw [(spans.vacant none).1] at leastFinite
      exact absurd rfl (isFinite_iff.mp leastFinite).1
    · obtain ⟨low, high, isLow, isHigh, least, greatest⟩ := spans.filled some
      rw [isLow, isHigh, EReal.coe_le_coe_iff, zpow_le_zpow_iff_right₀ large, not_le] at wide
      exact (severalPowers_iff least greatest).mpr wide
  · intro several
    have ⟨first, inFirst, _second⟩ := several
    have ⟨_positive, entry, listed, _inside⟩ := inFirst
    obtain ⟨low, high, isLow, isHigh, least, greatest⟩ := spans.filled ⟨first, inFirst⟩
    refine ⟨discrete_ne_none_of_addPlots taken (List.ne_nil_of_mem listed), fun _continuous => ?_⟩
    rw [isLow, isHigh, EReal.coe_le_coe_iff, zpow_le_zpow_iff_right₀ large, not_le]
    exact ⟨isFinite_coe _, isFinite_coe _, (severalPowers_iff least greatest).mp several⟩

private theorem addPlot_fix_ne_of_together
    (together : ¬ SeveralPowers base (positivesOf (Plot.reach kind entries))) (index : Nat) :
    ∃ exponent : ℤ, (axis.fix.addPlot index (markAt (base ^ exponent))).map fix ≠
      (axis.addPlot index (markAt (base ^ exponent))).map fix := by
  have spans := spansPowers_new_addPlots logarithmic isBase large finite taken continuous
  have kept := (addPlots_told taken).1
  have settled := axis.fix_samePlan
  obtain ⟨low, high, range, isLeast, isGreatest⟩ :=
    powerRange_addPlots logarithmic isBase large finite taken continuous
  obtain ⟨rfl, below⟩ := range.of_not_severalPowers together
  -- the widened upper end stays when a marker below the range comes after it
  refine ⟨low - 1, fun same => ?_⟩
  have numeric (onX : axis.kind = .x) : (markAt (base ^ (low - 1))).isDiscrete = false := rfl
  have added := addPlot_of_continuous continuous numeric index
  have settledAdded := addPlot_of_continuous (settled.isDiscrete.trans continuous)
    (settled.kind ▸ numeric) index
  obtain ⟨nextLow, nextHigh, nextRange, _nextLeast, nextGreatest⟩ :=
    SpansPowers.powerRange_markAt ((unfix_of_unfixed spans.unfixed).symm ▸ spans)
      (kept ▸ logarithmic) (kept ▸ isBase) large index (low - 1) added
  obtain ⟨keptLow, keptHigh, keptRange, _keptLeast, keptGreatest⟩ :=
    (spansPowers_reopened large (lt_add_one low) isLeast isGreatest).powerRange_markAt
      (settled.options ▸ kept ▸ logarithmic) (settled.options ▸ kept ▸ isBase) large index (low - 1)
      settledAdded
  rw [added, settledAdded] at same
  rw [Except.ok.inj same, nextGreatest, EReal.coe_eq_coe_iff,
    zpow_right_inj₀ (zero_lt_one.trans large) large.ne'] at keptGreatest
  obtain ⟨nextLeast, nextTop, nextUpper, isNextHigh⟩ := nextRange.around ⟨_, .inr rfl⟩
  obtain ⟨_keptLeast, keptTop, keptUpper, isKeptHigh⟩ := keptRange.around ⟨_, .inr rfl⟩
  have lowest : nextLow ≤ low - 1 := by
    have least := nextLeast.2 (Set.mem_image_of_mem _ (.inr rfl))
    rwa [lowerExponent_zpow large] at least
  have highest : nextTop ≤ low := by
    obtain ⟨value, member | rfl, rfl⟩ := nextUpper.1
    · exact below value member
    · rw [upperExponent_zpow large]
      exact (sub_one_lt low).le
  have higher : low + 1 ≤ keptTop := by
    have greatest := keptUpper.2 (Set.mem_image_of_mem _ (.inl (.inr rfl)))
    rwa [upperExponent_zpow large] at greatest
  omega

/-- On a logarithmic axis settling before a further plot makes no difference just when the powers
around the positive values are not all the same one. -/
private theorem addPlot_fix_iff_severalPowers :
    (∀ (index : Nat) (plot : Plot EReal), plot.FiniteEntries →
      (axis.fix.addPlot index plot).map fix = (axis.addPlot index plot).map fix) ↔
    SeveralPowers base (positivesOf (Plot.reach kind entries)) := by
  have spans := spansPowers_new_addPlots logarithmic isBase large finite taken continuous
  constructor
  · intro transparent
    by_contra together
    obtain ⟨exponent, differs⟩ :=
      addPlot_fix_ne_of_together logarithmic isBase large finite taken continuous together 0
    exact differs (transparent 0 _ (finiteEntries_markAt _))
  · intro several index plot _finite
    have own :=
      (ownRange_iff_severalPowers logarithmic isBase large finite taken continuous).mpr several
    exact own.addPlot_fix spans.unfixed index plot

end Added

end Logarithmic

/-! ### Settling between the plots -/

/-- Settling the range between the plots makes no difference to an axis if, whenever it is followed
by a further plot, the range of the plots so far was its own. Axes of categories have such a range.
A linear axis has it just when some value is not zero, and a logarithmic one just when the powers
around the positive values are not all the same one; without it, some plot shows a difference. -/
theorem run_transparent {α : Type} [Scalar α] (start : Axis α) (steps : List (Step α)) :
    (start.fixed = false → start.Timely steps →
      (start.run steps).map fix = (start.addPlots (entries steps)).map fix) ∧
    (∀ axis : Axis α, axis.isDiscrete = true → axis.OwnRange) ∧
    (∀ (side : Side) (kind : AxisKind) (companion : Side) (options : AxisOptions Float)
      (entries : List (Nat × Plot Float)) (axis : Axis Float), options.scale = .linear →
      (∀ entry ∈ entries, entry.2.FiniteData) →
      (new side kind companion options).addPlots entries = .ok axis → axis.isDiscrete = false →
      (axis.OwnRange ↔ ∃ value ∈ Plot.allDataValues entries kind, (value == 0) = false) ∧
      ((∀ (index : Nat) (plot : Plot Float), plot.FiniteData →
        (axis.fix.addPlot index plot).map fix = (axis.addPlot index plot).map fix) ↔
          axis.OwnRange)) ∧
    ∀ [NumberTexts] (side : Side) (kind : AxisKind) (companion : Side)
      (options : AxisOptions EReal) (base : ℝ) (entries : List (Nat × Plot EReal))
      (axis : Axis EReal), options.scale = .log → options.logBase = base → 1 < base →
      (∀ entry ∈ entries, entry.2.FiniteEntries) →
      (new side kind companion options).addPlots entries = .ok axis → axis.isDiscrete = false →
      (axis.OwnRange ↔ SeveralPowers base (positivesOf (Plot.reach kind entries))) ∧
      ((∀ (index : Nat) (plot : Plot EReal), plot.FiniteEntries →
        (axis.fix.addPlot index plot).map fix = (axis.addPlot index plot).map fix) ↔
          axis.OwnRange) := by
  refine ⟨?whole, ?discrete, ?linear, ?logarithmic⟩
  case whole =>
    intro unfixed timely
    exact fix_run start unfixed steps timely
  case discrete =>
    intro axis discrete
    exact ownRange_of_discrete discrete
  case linear =>
    intro side kind companion options entries axis linear finite taken continuous
    have own := ownRange_iff_nonzero linear finite taken continuous
    exact ⟨own, (addPlot_fix_iff_nonzero linear finite taken continuous).trans own.symm⟩
  case logarithmic =>
    intro _texts side kind companion options base entries axis logarithmic isBase large finite taken
      continuous
    have own := ownRange_iff_severalPowers logarithmic isBase large finite taken continuous
    exact ⟨own, (addPlot_fix_iff_severalPowers logarithmic isBase large finite taken continuous).trans
      own.symm⟩

def named : Axis Float := { new .bottom .x .left .standard with discrete := some true }

/-- A marker at minus two is followed by one at three, and markers up to one thousand on a
logarithmic axis by any others. -/
theorem run_transparent_twoScales :
    letI := Exact.wholeTexts
    (∃ axis, (new .left .y .bottom .standard).addPlots [(0, singleMark (-2))] = .ok axis ∧
      axis.Timely [.settle, .add 1 (singleMark 3)] ∧
      (axis.run [.settle, .add 1 (singleMark 3)]).map fix =
        (axis.addPlots [(1, singleMark 3)]).map fix) ∧
    named.OwnRange ∧
    ∃ axis, (new .left .y .bottom decades).addPlots [(0, upToThousand)] = .ok axis ∧
      ∀ (index : Nat) (plot : Plot EReal), plot.FiniteEntries →
        (axis.fix.addPlot index plot).map fix = (axis.addPlot index plot).map fix := by
  let _texts := Exact.wholeTexts
  obtain ⟨_whole, discrete, onLinear, onLogarithmic⟩ := run_transparent named []
  refine ⟨?linear, discrete named rfl, ?logarithmic⟩
  case linear =>
    have onY : (new .left .y .bottom .standard : Axis Float).kind = .y := rfl
    obtain ⟨axis, taken, continuous⟩ := addPlots_of_y onY [(0, singleMark (-2))]
    have finite : ∀ entry ∈ [(0, singleMark (-2))], entry.2.FiniteData :=
      List.forall_mem_singleton.mpr (finiteData_singleMark (by decide +kernel))
    have unfixed := (spans_new_addPlots rfl finite taken continuous).unfixed
    have own := (onLinear .left .y .bottom .standard _ axis rfl finite taken continuous).1.mpr
      ⟨-2, ⟨_, List.mem_cons_self, [-2], List.mem_cons_self, List.mem_cons_self⟩, by decide +kernel⟩
    have timely := own.timely 1 (singleMark 3)
    exact ⟨axis, taken, timely, (run_transparent axis _).1 unfixed timely⟩
  case logarithmic =>
    have onY : (new .left .y .bottom decades).kind = .y := rfl
    obtain ⟨axis, taken, continuous⟩ := addPlots_of_y onY [(0, upToThousand)]
    have finite : ∀ entry ∈ [(0, upToThousand)], entry.2.FiniteEntries :=
      List.forall_mem_singleton.mpr finiteEntries_upToThousand
    have ten : (1 : ℝ) < 10 := by norm_num
    obtain ⟨own, transparent⟩ := onLogarithmic .left .y .bottom decades 10 _ axis rfl
      decades_logBase ten finite taken continuous
    have several : SeveralPowers 10 (positivesOf (Plot.reach .y [(0, upToThousand)])) := by
      have lower : lowerExponent 10 (10 ^ (0 : ℤ)) = 0 := lowerExponent_zpow ten 0
      have upper : upperExponent 10 (10 ^ (3 : ℤ)) = 3 := upperExponent_zpow ten 3
      rw [positives_upToThousand]
      refine ⟨1, .inl rfl, 1000, .inr rfl, ?_⟩
      norm_num at lower upper
      rw [lower, upper]
      exact Int.natCast_pos.mpr (Nat.succ_pos 2)
    exact ⟨axis, taken, transparent.mpr (own.mpr several)⟩

/-- The placeholder of a plot of zeros, settled before a plot of minus five, is not given up. -/
theorem not_run_transparent : ¬ ∀ (side : Side) (kind : AxisKind) (companion : Side)
    (options : AxisOptions Float) (steps : List (Step Float)) (axis : Axis Float),
      (∀ entry ∈ entries steps, entry.2.FiniteData) →
      (new side kind companion options).addPlots (entries steps) = .ok axis →
      ((new side kind companion options).run steps).map fix = .ok axis.fix := by
  intro transparent
  let blank : Axis Float := new .left .y .bottom .standard
  let steps : List (Step Float) :=
    [.add 0 (singleMark 0), .settle, .add 1 (singleMark (-5))]
  have finite : ∀ entry ∈ entries steps, entry.2.FiniteData := by
    simp only [steps, entries, List.forall_mem_cons]
    exact ⟨finiteData_singleMark (by decide +kernel), finiteData_singleMark (by decide +kernel),
      List.forall_mem_nil _⟩
  have onY : blank.kind = .y := rfl
  obtain ⟨axis, taken, _continuous⟩ := addPlots_of_y onY (entries steps)
  have same := transparent .left .y .bottom .standard steps axis finite taken
  have settledBetween : ((blank.run steps).map fix).toOption.map Axis.rmax = some 1 := by
    decide +kernel
  have settledOnce :
      ((blank.addPlots (entries steps)).map fix).toOption.map Axis.rmax = some 0 := by
    decide +kernel
  rw [same] at settledBetween
  rw [taken] at settledOnce
  have kept : axis.fix.rmax = 1 := Option.some.inj settledBetween
  have givenUp : axis.fix.rmax = 0 := Option.some.inj settledOnce
  have different : (1 : Float) ≠ 0 := by decide +kernel
  exact different (kept.symm.trans givenUp)

end Axis
end CanvasChart
