import CanvasChart.Proofs.Plot.Bounds

set_option autoImplicit false

/-! The range of a linear axis on binary64 numbers, in closed form. It reaches from the least to
the greatest of zero and the data values of all plots on the axis. Where these are nothing but
zeros it is the placeholder from zero to one instead. -/

namespace CanvasChart

open Binary64

/-! ### Data values that an axis can show -/

namespace Plot

variable {kind : AxisKind}

/-- All numeric keys and stacked values are finite, and the positions fit in 64 bits. -/
structure FiniteData (plot : Plot Float) : Prop where
  keys : ∀ series ∈ plot.series, ∀ point ∈ series.data, ∀ number ∈ point.key.number?,
    number.isFinite = true
  tops : ∀ tops ∈ plot.stackedTops, ∀ top ∈ tops, top.isFinite = true
  counts : ∀ series ∈ plot.series, series.data.length ≤ 2 ^ 64

theorem FiniteData.numbers {plot : Plot Float} (finite : plot.FiniteData) : plot.Numbers where
  keys series listed point stored number numeric :=
    isNaN_of_isFinite (finite.keys series listed point stored number numeric)
  tops tops listed top inside := isNaN_of_isFinite (finite.tops tops listed top inside)

theorem FiniteData.isFinite_of_mem {plot : Plot Float} (finite : plot.FiniteData) {value : Float}
    (member : value ∈ plot.dataValues kind) : value.isFinite = true := by
  refine forall_mem_dataValues finite.keys ?_ finite.tops value member
  intro series listed index bound
  exact isFinite_ofNat (bound.trans_le (finite.counts series listed))

private theorem dataValues_eq_empty {plot : Plot Float} (none : plot.boundingBox = none) :
    plot.dataValues kind = ∅ := by
  rw [dataValues_eq, boundingBox_eq_none_iff_coordinates.mp none]
  simp

def allDataValues (entries : List (Nat × Plot Float)) (kind : AxisKind) : Set Float :=
  {value | ∃ entry ∈ entries, value ∈ entry.2.dataValues kind}

private theorem allDataValues_append (first : List (Nat × Plot Float)) (index : Nat)
    (plot : Plot Float) :
    allDataValues (first ++ [(index, plot)]) kind =
      allDataValues first kind ∪ plot.dataValues kind := by
  ext value
  simp [allDataValues, or_and_right, exists_or]

private theorem allDataValues_perm {first second : List (Nat × Plot Float)}
    (same : first.Perm second) : allDataValues first kind = allDataValues second kind := by
  ext value
  simp only [allDataValues, Set.mem_ofPred_eq, same.mem_iff]

end Plot

/-! ### The closed form -/

private theorem beq_zero_of_insert {values : Set Float}
    (zeros : ∀ value ∈ values, (value == 0) = true) :
    ∀ value ∈ insert 0 values, (value == 0) = true := by
  rintro value (rfl | member)
  · rfl
  · exact zeros value member

theorem isFinite_of_insert {values : Set Float} (finite : ∀ value ∈ values, value.isFinite = true) :
    ∀ value ∈ insert 0 values, value.isFinite = true := by
  rintro value (rfl | member)
  · rfl
  · exact finite value member

/-- The range from the least to the greatest of zero and some values; from zero to one where
there are no values but zeros. -/
structure LinearRange (values : Set Float) (least greatest : Float) : Prop where
  around : (∃ value ∈ values, (value == 0) = false) →
    IsLeast (insert 0 values) least ∧ IsGreatest (insert 0 values) greatest
  placeholder : (∀ value ∈ values, (value == 0) = true) → (least == 0) = true ∧ greatest = 1

namespace LinearRange

variable {values further : Set Float} {least greatest : Float}

theorem zeros_or (values : Set Float) : (∃ value ∈ values, (value == 0) = false) ∨
    ∀ value ∈ values, (value == 0) = true := by
  by_cases zeros : ∀ value ∈ values, (value == 0) = true
  · exact .inr zeros
  · push Not at zeros
    obtain ⟨value, member, nonzero⟩ := zeros
    exact .inl ⟨value, member, Bool.eq_false_iff.mpr nonzero⟩

private theorem contains (range : LinearRange values least greatest) :
    ∀ value ∈ insert 0 values, least ≤ value ∧ value ≤ greatest := by
  intro value member
  rcases zeros_or values with nonzero | zeros
  · obtain ⟨isLeast, isGreatest⟩ := range.around nonzero
    exact ⟨isLeast.2 member, isGreatest.2 member⟩
  · obtain ⟨leastZero, rfl⟩ := range.placeholder zeros
    have zero := beq_zero_of_insert zeros value member
    exact ⟨le_trans (le_of_beq leastZero) (ge_of_beq zero),
      le_trans (le_of_beq zero) rfl⟩

private theorem least_lt_greatest (range : LinearRange values least greatest) :
    least < greatest := by
  have around := range.contains 0 (.inl rfl)
  have leastNumber := (isNaN_of_le around.1).1
  have greatestNumber := (isNaN_of_le around.2).2
  by_contra empty
  have below := (not_lt_iff leastNumber greatestNumber).mp empty
  rcases zeros_or values with ⟨value, member, nonzero⟩ | zeros
  · obtain ⟨lower, upper⟩ := range.contains value (.inr member)
    have zero := beq_of_le_of_le (le_trans (le_trans upper below) around.1)
      (le_trans (le_trans around.2 below) lower)
    rw [nonzero] at zero
    cases zero
  · obtain ⟨_leastZero, rfl⟩ := range.placeholder zeros
    have contrary : ¬ (1 : Float) ≤ 0 := by decide
    exact contrary (le_trans below around.1)

private theorem unique {otherLeast otherGreatest : Float}
    (range : LinearRange values least greatest)
    (other : LinearRange values otherLeast otherGreatest) :
    (least == otherLeast) = true ∧ (greatest == otherGreatest) = true := by
  rcases zeros_or values with nonzero | zeros
  · obtain ⟨isLeast, isGreatest⟩ := range.around nonzero
    obtain ⟨otherIsLeast, otherIsGreatest⟩ := other.around nonzero
    exact ⟨beq_of_isLeast isLeast otherIsLeast, beq_of_isGreatest isGreatest otherIsGreatest⟩
  · obtain ⟨leastZero, rfl⟩ := range.placeholder zeros
    obtain ⟨otherLeastZero, rfl⟩ := other.placeholder zeros
    exact ⟨BEq.trans leastZero (BEq.symm otherLeastZero), rfl⟩

/-- A range of further values is no smaller, unless the values were nothing but zeros. -/
private theorem mono {otherLeast otherGreatest : Float} (range : LinearRange values least greatest)
    (other : LinearRange further otherLeast otherGreatest) (subset : values ⊆ further)
    (nonzero : ∃ value ∈ values, (value == 0) = false) :
    otherLeast ≤ least ∧ greatest ≤ otherGreatest := by
  obtain ⟨isLeast, isGreatest⟩ := range.around nonzero
  have wider := Set.insert_subset_insert subset (a := 0)
  exact ⟨(other.contains least (wider isLeast.1)).1,
    (other.contains greatest (wider isGreatest.1)).2⟩

private theorem isFinite (range : LinearRange values least greatest)
    (finite : ∀ value ∈ values, value.isFinite = true) :
    ∀ value ∈ ({least, greatest} : Set Float), value.isFinite = true := by
  have zeroFinite := isFinite_of_insert finite
  rcases zeros_or values with nonzero | zeros
  · obtain ⟨isLeast, isGreatest⟩ := range.around nonzero
    rintro value (rfl | rfl)
    · exact zeroFinite _ isLeast.1
    · exact zeroFinite _ isGreatest.1
  · obtain ⟨leastZero, rfl⟩ := range.placeholder zeros
    rintro value (rfl | rfl)
    · exact isFinite_of_beq_zero leastZero
    · rfl

end LinearRange

/-! ### Taking in plots -/

theorem isNaN_zero : (0 : Float).isNaN = false := rfl

private theorem insert_zero_union (values further : Set Float) :
    insert 0 (values ∪ further) = insert 0 values ∪ further ∪ {0} := by
  rw [Set.insert_union, Set.union_singleton, Set.insert_idem]

private theorem isLeast_widened {values further : Set Float} {sofar least : Float}
    (vacant : values = ∅ → sofar = Scalar.infinity)
    (filled : values.Nonempty → IsLeast (insert 0 values) sofar) (isLeast : IsLeast further least)
    (finite : least.isFinite = true) :
    IsLeast (insert 0 (values ∪ further)) (Scalar.min (Scalar.min sofar least) 0) := by
  rcases values.eq_empty_or_nonempty with none | some
  · rw [vacant none, min_infinity finite, none, Set.empty_union, Set.insert_eq, Set.union_comm]
    exact isLeast_union isLeast (isLeast_singleton isNaN_zero)
  · rw [insert_zero_union]
    exact isLeast_union (isLeast_union (filled some) isLeast) (isLeast_singleton isNaN_zero)

private theorem isGreatest_widened {values further : Set Float} {sofar greatest : Float}
    (vacant : values = ∅ → sofar = -Scalar.infinity)
    (filled : values.Nonempty → IsGreatest (insert 0 values) sofar)
    (isGreatest : IsGreatest further greatest) (finite : greatest.isFinite = true) :
    IsGreatest (insert 0 (values ∪ further)) (Scalar.max (Scalar.max sofar greatest) 0) := by
  rcases values.eq_empty_or_nonempty with none | some
  · rw [vacant none, max_neg_infinity finite, none, Set.empty_union, Set.insert_eq,
      Set.union_comm]
    exact isGreatest_union isGreatest (isGreatest_singleton isNaN_zero)
  · rw [insert_zero_union]
    exact isGreatest_union (isGreatest_union (filled some) isGreatest)
      (isGreatest_singleton isNaN_zero)

namespace Axis

/-- The bounds of an axis that is not settled are those of zero and some values. Before there
are any, the least bound is above all numbers and the greatest is below. -/
structure Spans (axis : Axis Float) (values : Set Float) : Prop where
  unfixed : axis.fixed = false
  vacant : values = ∅ → axis.min = Scalar.infinity ∧ axis.max = -Scalar.infinity
  filled : values.Nonempty → IsLeast (insert 0 values) axis.min ∧
    IsGreatest (insert 0 values) axis.max

private theorem spans_new (side : Side) (kind : AxisKind) (companion : Side)
    (options : AxisOptions Float) : (new side kind companion options).Spans ∅ where
  unfixed := rfl
  vacant _none := ⟨rfl, rfl⟩
  filled some := absurd some Set.not_nonempty_empty

theorem Spans.of_same {before after : Axis Float} {values : Set Float} (spans : before.Spans values)
    (unfixed : after.fixed = false) (min : after.min = before.min)
    (max : after.max = before.max) : after.Spans values where
  unfixed := unfixed
  vacant none := min ▸ max ▸ spans.vacant none
  filled some := min ▸ max ▸ spans.filled some

theorem Spans.widen {axis : Axis Float} {values further : Set Float} (spans : axis.Spans values)
    (linear : axis.options.scale = .linear) {box : BoundingBox Float}
    (describes : (box.along axis.kind).Describes further)
    (finite : ∀ value ∈ further, value.isFinite = true) :
    (axis.widen box).Spans (values ∪ further) := by
  have least : (axis.widen box).min =
      Scalar.min (Scalar.min axis.min (box.along axis.kind).least) 0 := by
    cases onKind : axis.kind <;> simp only [Axis.widen, linear, onKind, BoundingBox.along]
  have greatest : (axis.widen box).max =
      Scalar.max (Scalar.max axis.max (box.along axis.kind).greatest) 0 := by
    cases onKind : axis.kind <;> simp only [Axis.widen, linear, onKind, BoundingBox.along]
  have unfixed : (axis.widen box).fixed = axis.fixed := by simp only [Axis.widen, linear]
  have some : (values ∪ further).Nonempty := ⟨_, .inr describes.least.1⟩
  refine ⟨unfixed.trans spans.unfixed, fun none => absurd none some.ne_empty, fun _some => ?_⟩
  rw [least, greatest]
  exact
    ⟨isLeast_widened (fun none => (spans.vacant none).1) (fun some => (spans.filled some).1)
        describes.least (finite _ describes.least.1),
      isGreatest_widened (fun none => (spans.vacant none).2) (fun some => (spans.filled some).2)
        describes.greatest (finite _ describes.greatest.1)⟩

theorem Spans.addPlot {axis next : Axis Float} {values : Set Float}
    (spans : axis.unfix.Spans values) (linear : axis.options.scale = .linear) {index : Nat}
    {plot : Plot Float} (finite : plot.FiniteData)
    (continuous : axis.kind = .x → plot.isDiscrete = false)
    (added : axis.addPlot index plot = .ok next) :
    next.Spans (values ∪ plot.dataValues axis.kind) := by
  obtain ⟨rfl, takes⟩ := taken_of_addPlot added
  have reopened := unfix_samePlan axis
  obtain ⟨unfixed, bounds⟩ := taking_bounds axis index plot (takes.isDiscrete_eq_false continuous)
  cases bounded : plot.boundingBox with
  | none =>
      rw [bounded] at bounds
      rw [Plot.dataValues_eq_empty bounded, Set.union_empty]
      exact spans.of_same unfixed bounds.1 bounds.2
  | some box =>
      rw [bounded] at bounds
      have describes :=
        ((plot.boundingBox_describes finite.numbers).2 box bounded).1 axis.unfix.kind
      have widened := spans.widen (reopened.options ▸ linear) describes
        fun _value => finite.isFinite_of_mem
      rw [reopened.kind] at widened
      exact widened.of_same unfixed bounds.1 bounds.2

private theorem spans_addPlots {axis final : Axis Float} {entries : List (Nat × Plot Float)}
    (start : axis.Spans ∅) (linear : axis.options.scale = .linear)
    (finite : ∀ entry ∈ entries, entry.2.FiniteData)
    (continuous : axis.kind = .x → ∀ entry ∈ entries, entry.2.isDiscrete = false)
    (taken : axis.addPlots entries = .ok final) :
    final.Spans (Plot.allDataValues entries axis.kind) := by
  refine (addPlots_induction (fun held earlier => held.options = axis.options ∧
    held.kind = axis.kind ∧ held.Spans (Plot.allDataValues earlier axis.kind))
    ⟨rfl, rfl, ?_⟩ ?_ taken).2.2
  · have none : Plot.allDataValues [] axis.kind = ∅ := by simp [Plot.allDataValues]
    rwa [none]
  · rintro before earlier index plot next member ⟨options, kind, spans⟩ added
    have takes := (taken_of_addPlot added).2
    refine ⟨takes.options.trans options, takes.kind.trans kind, ?_⟩
    have grown := Spans.addPlot ((unfix_of_unfixed spans.unfixed).symm ▸ spans)
      (options ▸ linear) (finite _ member) (fun onX => continuous (kind ▸ onX) _ member) added
    rw [Plot.allDataValues_append, ← kind]
    rw [← kind] at grown
    exact grown

/-! ### Settling the range -/

theorem Spans.completeRange {axis : Axis Float} {values : Set Float} (spans : axis.Spans values)
    (linear : axis.options.scale = .linear) (continuous : axis.isDiscrete = false)
    (finite : ∀ value ∈ values, value.isFinite = true) :
    (values = ∅ → axis.completeRange = (0, 1)) ∧
      (values.Nonempty → axis.completeRange = (axis.min, axis.max)) := by
  have notLog := isLog_of_linear linear
  constructor
  · intro none
    have infinite : Scalar.isFinite (Scalar.infinity : Float) = false := rfl
    simp [Axis.completeRange, continuous, notLog, linear, (spans.vacant none).1, infinite]
  · intro some
    have zeroFinite : ∀ value ∈ insert 0 values, Scalar.isFinite value = true :=
      isFinite_of_insert finite
    obtain ⟨least, greatest⟩ := spans.filled some
    simp [Axis.completeRange, continuous, notLog, zeroFinite _ least.1, zeroFinite _ greatest.1]

theorem Spans.empty_iff {axis : Axis Float} {values : Set Float} (spans : axis.Spans values)
    (some : values.Nonempty) :
    axis.max ≤ axis.min ↔ ∀ value ∈ values, (value == 0) = true := by
  obtain ⟨isLeast, isGreatest⟩ := spans.filled some
  constructor
  · intro empty value member
    have below := le_trans (isGreatest.2 (.inr member)) (le_trans empty (isLeast.2 (.inl rfl)))
    have above := le_trans (isGreatest.2 (.inl rfl)) (le_trans empty (isLeast.2 (.inr member)))
    exact beq_of_le_of_le below above
  · intro zeros
    have zero := beq_zero_of_insert zeros
    exact le_trans (le_of_beq (zero _ isGreatest.1)) (ge_of_beq (zero _ isLeast.1))

/-- The settled range is the closed form of the values that the axis spans. -/
theorem Spans.linearRange_fix {axis : Axis Float} {values : Set Float} (spans : axis.Spans values)
    (linear : axis.options.scale = .linear) (continuous : axis.isDiscrete = false)
    (finite : ∀ value ∈ values, value.isFinite = true) :
    LinearRange values axis.fix.rmin axis.fix.rmax := by
  obtain ⟨least, greatest, _fixed⟩ := fix_dataBounds spans.unfixed
  obtain ⟨vacant, filled⟩ := spans.completeRange linear continuous finite
  rw [least, greatest]
  constructor
  case around =>
    rintro ⟨value, member, nonzero⟩
    have bounds := spans.filled ⟨value, member⟩
    have wide : ¬ axis.max ≤ axis.min := by
      intro empty
      rw [(spans.empty_iff ⟨value, member⟩).mp empty value member] at nonzero
      cases nonzero
    rw [filled ⟨value, member⟩, extendEmpty, if_neg wide]
    exact bounds
  case placeholder =>
    intro zeros
    rcases values.eq_empty_or_nonempty with none | some
    · have wide : ¬ (1 : Float) ≤ 0 := by decide
      rw [vacant none, extendEmpty, if_neg wide]
      exact ⟨rfl, rfl⟩
    · have leastZero := beq_zero_of_insert zeros _ (spans.filled some).1.1
      have empty := (spans.empty_iff some).mpr zeros
      rw [filled some, extendEmpty, if_pos empty, linear]
      exact ⟨leastZero, add_one_of_zero leastZero⟩

/-- The settled range, once reopened, is kept like two data values. -/
private theorem spans_reopened {axis : Axis Float} {values : Set Float}
    (range : LinearRange values axis.fix.rmin axis.fix.rmax) :
    axis.fix.unfix.Spans {axis.fix.rmin, axis.fix.rmax} := by
  obtain ⟨belowZero, aboveZero⟩ := range.contains 0 (.inl rfl)
  obtain ⟨leastNumber, _zero⟩ := isNaN_of_le belowZero
  obtain ⟨_zero, greatestNumber⟩ := isNaN_of_le aboveZero
  have ordered := le_trans belowZero aboveZero
  rw [unfix_fix]
  refine ⟨rfl, fun none => absurd none (Set.insert_nonempty _ _).ne_empty,
    fun _some => ⟨⟨?_, ?_⟩, ?_, ?_⟩⟩
  · exact .inr (.inl rfl)
  · rintro value (rfl | rfl | rfl)
    · exact belowZero
    · exact le_refl leastNumber
    · exact ordered
  · exact .inr (.inr rfl)
  · rintro value (rfl | rfl | rfl)
    · exact aboveZero
    · exact ordered
    · exact le_refl greatestNumber

/-! ### The range of an axis and its plots -/

theorem linearRange_addPlot {before next : Axis Float} {values : Set Float}
    (spans : before.unfix.Spans values) (linear : before.options.scale = .linear)
    (finite : ∀ value ∈ values, value.isFinite = true) {index : Nat} {plot : Plot Float}
    (finitePlot : plot.FiniteData) (added : before.addPlot index plot = .ok next)
    (continuous : next.isDiscrete = false) :
    LinearRange (values ∪ plot.dataValues before.kind) next.fix.rmin next.fix.rmax := by
  have takes := (taken_of_addPlot added).2
  have numeric : before.kind = .x → plot.isDiscrete = false := by
    intro onX
    rw [isDiscrete, takes.kind, takes.discrete, onX] at continuous
    exact continuous
  have grown := spans.addPlot linear finitePlot numeric added
  refine grown.linearRange_fix (takes.options ▸ linear) continuous ?_
  rintro value (inValues | inPlot)
  · exact finite value inValues
  · exact finitePlot.isFinite_of_mem inPlot

theorem isFinite_of_allDataValues {entries : List (Nat × Plot Float)} {kind : AxisKind}
    (finite : ∀ entry ∈ entries, entry.2.FiniteData) :
    ∀ value ∈ Plot.allDataValues entries kind, value.isFinite = true := by
  rintro value ⟨entry, member, inside⟩
  exact (finite entry member).isFinite_of_mem inside

section

variable {side : Side} {kind : AxisKind} {companion : Side} {options : AxisOptions Float}
  {entries : List (Nat × Plot Float)} {axis : Axis Float} (linear : options.scale = .linear)
  (finite : ∀ entry ∈ entries, entry.2.FiniteData)
  (taken : (new side kind companion options).addPlots entries = .ok axis)
  (continuous : axis.isDiscrete = false)

include linear finite taken continuous

theorem spans_new_addPlots : axis.Spans (Plot.allDataValues entries kind) :=
  spans_addPlots (spans_new side kind companion options) linear finite
    (isDiscrete_of_addPlots taken continuous) taken

theorem linearRange_addPlots :
    LinearRange (Plot.allDataValues entries kind) axis.fix.rmin axis.fix.rmax :=
  (spans_new_addPlots linear finite taken continuous).linearRange_fix
    ((addPlots_told taken).1 ▸ linear) continuous (isFinite_of_allDataValues finite)

private theorem exists_addPlots_of_perm {others : List (Nat × Plot Float)}
    (same : others.Perm entries) :
    ∃ other, (new side kind companion options).addPlots others = .ok other ∧
      (axis.fix.rmin == other.fix.rmin) = true ∧ (axis.fix.rmax == other.fix.rmax) = true := by
  have start : (new side kind companion options).isDiscrete = false := by
    simp [isDiscrete, new]
  have numeric : kind = .x → ∀ entry ∈ others, entry.2.isDiscrete = false :=
    fun onX entry member =>
      isDiscrete_of_addPlots taken continuous onX entry (same.mem_iff.mp member)
  obtain ⟨other, otherTaken, otherContinuous⟩ := addPlots_of_continuous others start numeric
  have otherFinite : ∀ entry ∈ others, entry.2.FiniteData :=
    fun entry member => finite entry (same.mem_iff.mp member)
  have range := linearRange_addPlots linear finite taken continuous
  have otherRange := linearRange_addPlots linear otherFinite otherTaken otherContinuous
  rw [Plot.allDataValues_perm same] at otherRange
  exact ⟨other, otherTaken, range.unique otherRange⟩

variable {index : Nat} {plot : Plot Float} {next : Axis Float} (finitePlot : plot.FiniteData)
  (nextContinuous : next.isDiscrete = false)

include finitePlot nextContinuous

private theorem range_kept_of_nonzero
    (nonzero : ∃ value ∈ Plot.allDataValues entries kind, (value == 0) = false)
    (added : axis.addPlot index plot = .ok next) :
    next.fix.rmin ≤ axis.fix.rmin ∧ axis.fix.rmax ≤ next.fix.rmax := by
  have spans := spans_new_addPlots linear finite taken continuous
  have range := linearRange_addPlots linear finite taken continuous
  have grown := linearRange_addPlot ((unfix_of_unfixed spans.unfixed).symm ▸ spans)
    ((addPlots_told taken).1 ▸ linear) (isFinite_of_allDataValues finite) finitePlot added
    nextContinuous
  exact range.mono grown Set.subset_union_left nonzero

/-- Every settled range is kept when a plot is added to it. -/
theorem settled_range_kept (added : axis.fix.addPlot index plot = .ok next) :
    next.fix.rmin ≤ axis.fix.rmin ∧ axis.fix.rmax ≤ next.fix.rmax := by
  have spans := spans_new_addPlots linear finite taken continuous
  have range := linearRange_addPlots linear finite taken continuous
  have settled := fix_samePlan axis
  have stillLinear : axis.options.scale = .linear := (addPlots_told taken).1 ▸ linear
  have grown := linearRange_addPlot (spans_reopened range)
    (settled.options ▸ stillLinear) (range.isFinite (isFinite_of_allDataValues finite)) finitePlot
    added nextContinuous
  exact ⟨(grown.contains _ (.inr (.inl (.inl rfl)))).1,
    (grown.contains _ (.inr (.inl (.inr rfl)))).2⟩

end

/-- The settled range of a linear axis that is not discrete has a closed form, whatever plots
the axis took in. It contains zero and all data values, it is not empty, and no order of the plots
changes it. A further plot loses nothing of a range around a nonzero value, and nothing at all of
a range that was settled before. -/
theorem fix_linearRange (side : Side) (kind : AxisKind) (companion : Side)
    (options : AxisOptions Float) (linear : options.scale = .linear)
    (entries : List (Nat × Plot Float)) (finite : ∀ entry ∈ entries, entry.2.FiniteData)
    {axis : Axis Float}
    (taken : (new side kind companion options).addPlots entries = .ok axis)
    (continuous : axis.isDiscrete = false) :
    let values := Plot.allDataValues entries kind
    LinearRange values axis.fix.rmin axis.fix.rmax ∧
      axis.fix.min = axis.fix.rmin ∧ axis.fix.max = axis.fix.rmax ∧
      (∀ value ∈ insert 0 values, axis.fix.rmin ≤ value ∧ value ≤ axis.fix.rmax) ∧
      axis.fix.rmin < axis.fix.rmax ∧
      (∀ others : List (Nat × Plot Float), others.Perm entries →
        ∃ other, (new side kind companion options).addPlots others = .ok other ∧
          (axis.fix.rmin == other.fix.rmin) = true ∧ (axis.fix.rmax == other.fix.rmax) = true) ∧
      ∀ (index : Nat) (plot : Plot Float) (next : Axis Float), plot.FiniteData →
        next.isDiscrete = false →
        ((∃ value ∈ values, (value == 0) = false) → axis.addPlot index plot = .ok next →
          next.fix.rmin ≤ axis.fix.rmin ∧ axis.fix.rmax ≤ next.fix.rmax) ∧
        (axis.fix.addPlot index plot = .ok next →
          next.fix.rmin ≤ axis.fix.rmin ∧ axis.fix.rmax ≤ next.fix.rmax) := by
  intro values
  have spans := spans_new_addPlots linear finite taken continuous
  have range := linearRange_addPlots linear finite taken continuous
  have stillLinear : axis.options.scale = .linear := (addPlots_told taken).1 ▸ linear
  obtain ⟨least, greatest⟩ := fix_bounds spans.unfixed (isLog_of_linear stillLinear)
  obtain ⟨dataLeast, dataGreatest, _fixed⟩ := fix_dataBounds spans.unfixed
  refine ⟨range, least.trans dataLeast.symm, greatest.trans dataGreatest.symm, range.contains,
    range.least_lt_greatest, fun others same => ?order,
    fun index plot next finitePlot nextContinuous =>
      ⟨fun nonzero added => ?around, fun added => ?settled⟩⟩
  case order => exact exists_addPlots_of_perm linear finite taken continuous same
  case around =>
    exact range_kept_of_nonzero linear finite taken continuous finitePlot nextContinuous nonzero
      added
  case settled =>
    exact settled_range_kept linear finite taken continuous finitePlot nextContinuous added

def singleMark (value : Float) : Plot Float :=
  (Plot.new .scatter).addSeries (.ofData [⟨.number 1, value⟩])

theorem finiteData_singleMark {value : Float} (finite : value.isFinite = true) :
    (singleMark value).FiniteData where
  keys := by
    have one : (1 : Float).isFinite = true := rfl
    simp [singleMark, Plot.addSeries, Plot.new, Series.ofData, Key.number?, one]
  tops := by
    have tops : (singleMark value).stackedTops = [[value]] := rfl
    simp [tops, finite]
  counts := by simp [singleMark, Plot.addSeries, Plot.new, Series.ofData]

def twoMarks : List (Nat × Plot Float) := [(0, singleMark (-2)), (1, singleMark 3)]

theorem fix_linearRange_twoMarks :
    (∀ entry ∈ twoMarks, entry.2.FiniteData) ∧
      ∃ axis, (new .left .y .bottom .standard).addPlots twoMarks = .ok axis ∧
        axis.isDiscrete = false ∧ (axis.fix.min, axis.fix.max) = (-2, 3) ∧
        axis.fix.rmin < axis.fix.rmax ∧
        ∃ other, (new .left .y .bottom .standard).addPlots twoMarks.reverse = .ok other ∧
          (axis.fix.rmin == other.fix.rmin) = true ∧
          (axis.fix.rmax == other.fix.rmax) = true := by
  have finite : ∀ entry ∈ twoMarks, entry.2.FiniteData := by
    simp only [twoMarks, List.forall_mem_cons]
    exact ⟨finiteData_singleMark (by decide +kernel), finiteData_singleMark (by decide +kernel),
      List.forall_mem_nil _⟩
  have onY : (new .left .y .bottom .standard : Axis Float).kind = .y := rfl
  obtain ⟨axis, taken, continuous⟩ := addPlots_of_y onY twoMarks
  have settled := fix_linearRange .left .y .bottom .standard rfl twoMarks finite taken continuous
  obtain ⟨_range, _least, _greatest, _contains, wide, order, _further⟩ := settled
  have bounds : ((new .left .y .bottom .standard).addPlots twoMarks).toOption.map
      (fun axis => (axis.fix.min, axis.fix.max)) = some (-2, 3) := by decide +kernel
  rw [taken] at bounds
  exact ⟨finite, axis, taken, continuous, Option.some.inj bounds, wide,
    order _ (List.reverse_perm _)⟩

/-- The placeholder of a plot of zeros is not kept when a further plot comes before the range is
settled. -/
theorem not_range_kept : ¬ ∀ (side : Side) (kind : AxisKind) (companion : Side)
    (options : AxisOptions Float) (entries : List (Nat × Plot Float)) (axis next : Axis Float)
    (index : Nat) (plot : Plot Float), options.scale = .linear →
      (∀ entry ∈ entries, entry.2.FiniteData) → plot.FiniteData →
      (new side kind companion options).addPlots entries = .ok axis → axis.isDiscrete = false →
      axis.addPlot index plot = .ok next → next.isDiscrete = false →
      next.fix.rmin ≤ axis.fix.rmin ∧ axis.fix.rmax ≤ next.fix.rmax := by
  intro kept
  let blank : Axis Float := new .left .y .bottom .standard
  let zeroed := blank.taking 0 (singleMark 0)
  let lowered := zeroed.taking 1 (singleMark (-5))
  have finite : ∀ entry ∈ [(0, singleMark 0)], entry.2.FiniteData :=
    List.forall_mem_singleton.mpr (finiteData_singleMark (by decide +kernel))
  have blankOnY : blank.kind ≠ .x := nofun
  have zeroedOnY : zeroed.kind ≠ .x := by decide +kernel
  have first : blank.addPlots [(0, singleMark 0)] = .ok zeroed := by
    rw [addPlots, addPlot_eq_taking _ _ _ fun onX => absurd onX blankOnY]
    rfl
  have second : zeroed.addPlot 1 (singleMark (-5)) = .ok lowered :=
    addPlot_eq_taking _ _ _ fun onX => absurd onX zeroedOnY
  have firstContinuous : zeroed.isDiscrete = false := by decide +kernel
  have secondContinuous : lowered.isDiscrete = false := by decide +kernel
  have bounds := kept .left .y .bottom .standard [(0, singleMark 0)] zeroed lowered 1
    (singleMark (-5)) rfl finite (finiteData_singleMark (by decide +kernel)) first firstContinuous
    second secondContinuous
  have lost : ¬ zeroed.fix.rmax ≤ lowered.fix.rmax := by decide +kernel
  exact lost bounds.2

end Axis
end CanvasChart
