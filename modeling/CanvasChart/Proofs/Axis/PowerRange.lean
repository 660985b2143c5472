import CanvasChart.Proofs.Axis.Coverage
import CanvasChart.Proofs.Exact.Powers

set_option autoImplicit false

/-! The range of a logarithmic axis on exact numbers, in closed form. It reaches from the power of
the base below the least positive value to the one above the greatest, each found with some slack.
Its ticks are the powers between, at equal distances along the axis. -/

namespace CanvasChart

open Exact

/-! ### Exponents -/

/-- The exponent of the power below a value, which may be above it by the slack. -/
noncomputable def lowerExponent (base value : ℝ) : ℤ := ⌊Real.logb base value + slack⌋

/-- The exponent of the power above a value, which may be below it by the slack. -/
noncomputable def upperExponent (base value : ℝ) : ℤ := ⌈Real.logb base value - slack⌉

section Exponents

variable {base : ℝ} (large : 1 < base)

include large

private theorem lowerExponent_mono : MonotoneOn (lowerExponent base) (Set.Ioi 0) :=
  fun _least positive _greatest _other le =>
    Int.floor_mono (add_le_add_left (Real.logb_le_logb_of_le large positive le) slack)

private theorem upperExponent_mono : MonotoneOn (upperExponent base) (Set.Ioi 0) :=
  fun _least positive _greatest _other le =>
    Int.ceil_mono (sub_le_sub_right (Real.logb_le_logb_of_le large positive le) slack)

private theorem rpow_logb_add_slack {value : ℝ} (positive : 0 < value) :
    base ^ (Real.logb base value + slack) = value * base ^ slack := by
  have basePositive := zero_lt_one.trans large
  rw [Real.rpow_add basePositive, Real.rpow_logb basePositive large.ne' positive]

private theorem zpow_le_of_le_lowerExponent {value : ℝ} (positive : 0 < value) {power : ℤ}
    (below : power ≤ lowerExponent base value) : base ^ power ≤ value * base ^ slack := by
  rw [← rpow_logb_add_slack large positive, ← Real.rpow_intCast]
  exact Real.rpow_le_rpow_of_exponent_le large.le (Int.le_floor.mp below)

private theorem le_zpow_of_upperExponent_le {value : ℝ} (positive : 0 < value) {power : ℤ}
    (above : upperExponent base value ≤ power) : value ≤ base ^ power * base ^ slack := by
  have basePositive := zero_lt_one.trans large
  calc value = base ^ Real.logb base value := (Real.rpow_logb basePositive large.ne' positive).symm
    _ ≤ base ^ ((power : ℝ) + slack) :=
        Real.rpow_le_rpow_of_exponent_le large.le (sub_le_iff_le_add.mp (Int.ceil_le.mp above))
    _ = base ^ power * base ^ slack := by
        rw [Real.rpow_add basePositive, Real.rpow_intCast]

theorem lowerExponent_zpow (power : ℤ) : lowerExponent base (base ^ power) = power := by
  have below : slack < 1 := by norm_num [slack]
  rw [lowerExponent, ← Real.rpow_intCast, Real.logb_rpow (zero_lt_one.trans large) large.ne',
    Int.floor_intCast_add, Int.floor_eq_zero_iff.mpr ⟨slack_pos.le, below⟩, add_zero]

theorem upperExponent_zpow (power : ℤ) : upperExponent base (base ^ power) = power := by
  have below : slack < 1 := by norm_num [slack]
  rw [upperExponent, ← Real.rpow_intCast, Real.logb_rpow (zero_lt_one.trans large) large.ne',
    Int.ceil_eq_iff]
  constructor <;> linarith [slack_pos]

end Exponents

/-! ### The closed form -/

/-- The exponents of the range of some positive values: from the least lower one to the greatest
upper one, but one more than the least where that is not more; from zero to one without values. -/
structure PowerRange (base : ℝ) (positives : Set ℝ) (low high : ℤ) : Prop where
  around : positives.Nonempty → IsLeast (lowerExponent base '' positives) low ∧
    ∃ top, IsGreatest (upperExponent base '' positives) top ∧ high = max top (low + 1)
  placeholder : positives = ∅ → low = 0 ∧ high = 1

namespace PowerRange

variable {base : ℝ} {positives : Set ℝ} {low high : ℤ}

theorem low_lt_high (range : PowerRange base positives low high) : low < high := by
  rcases positives.eq_empty_or_nonempty with none | some
  · obtain ⟨rfl, rfl⟩ := range.placeholder none
    exact Int.zero_lt_one
  · obtain ⟨_least, top, _greatest, rfl⟩ := range.around some
    exact lt_max_of_lt_right (lt_add_one low)

private theorem reaches (range : PowerRange base positives low high) (large : 1 < base) {value : ℝ}
    (member : value ∈ positives) (positive : 0 < value) :
    base ^ low ≤ value * base ^ slack ∧ value ≤ base ^ high * base ^ slack := by
  obtain ⟨least, top, greatest, rfl⟩ := range.around ⟨value, member⟩
  exact ⟨zpow_le_of_le_lowerExponent large positive (least.2 (Set.mem_image_of_mem _ member)),
    le_zpow_of_upperExponent_le large positive
      ((greatest.2 (Set.mem_image_of_mem _ member)).trans (le_max_left top (low + 1)))⟩

private theorem unique {otherLow otherHigh : ℤ} (range : PowerRange base positives low high)
    (other : PowerRange base positives otherLow otherHigh) : low = otherLow ∧ high = otherHigh := by
  rcases positives.eq_empty_or_nonempty with none | some
  · obtain ⟨rfl, rfl⟩ := range.placeholder none
    obtain ⟨rfl, rfl⟩ := other.placeholder none
    exact ⟨rfl, rfl⟩
  · obtain ⟨least, top, greatest, rfl⟩ := range.around some
    obtain ⟨otherLeast, otherTop, otherGreatest, rfl⟩ := other.around some
    obtain rfl := least.unique otherLeast
    obtain rfl := greatest.unique otherGreatest
    exact ⟨rfl, rfl⟩

end PowerRange

/-! ### Positive values -/

def positivesOf (values : Set EReal) : Set ℝ := {value | 0 < value ∧ (value : EReal) ∈ values}

private theorem positivesOf_union (values further : Set EReal) :
    positivesOf (values ∪ further) = positivesOf values ∪ positivesOf further := by
  ext value
  simp only [positivesOf, Set.mem_union, Set.mem_ofPred_eq, and_or_left]

variable [NumberTexts] {kind : AxisKind}

namespace BoundingBox

def leastPositive (box : BoundingBox EReal) : AxisKind → EReal
  | .x => box.minPositiveX
  | .y => box.minPositiveY

/-- Along an axis the box tells the least positive value, infinity standing for none. -/
def MarksPositive (box : BoundingBox EReal) (kind : AxisKind) (values : Set EReal) : Prop :=
  IsLeast (insert ⊤ {value ∈ values | 0 < value}) (box.leastPositive kind)

private theorem marksPositive_point (place : Point EReal) :
    (point place.x place.y).MarksPositive kind {place.along kind} := by
  have told : (point place.x place.y).leastPositive kind =
      positiveOrInfinite (place.along kind) := by
    cases kind <;> rfl
  have zero : (0 : EReal) = ((0 : ℕ) : EReal) := Nat.cast_zero.symm
  rw [MarksPositive, told, positiveOrInfinite, literal_eq, ← zero]
  split
  case isTrue positive =>
    refine ⟨.inr ⟨rfl, positive⟩, ?_⟩
    rintro value (rfl | ⟨rfl, _positive⟩)
    · exact le_top
    · exact le_rfl
  case isFalse negative =>
    refine ⟨.inl rfl, ?_⟩
    rintro value (rfl | ⟨rfl, positive⟩)
    · exact le_rfl
    · exact absurd positive negative

theorem MarksPositive.union {first second : BoundingBox EReal} {values further : Set EReal}
    (one : first.MarksPositive kind values) (other : second.MarksPositive kind further) :
    (first.union second).MarksPositive kind (values ∪ further) := by
  have least : (first.union second).leastPositive kind =
      min (first.leastPositive kind) (second.leastPositive kind) := by
    cases kind <;> exact Exact.min_eq _ _
  have parted : {value ∈ values ∪ further | 0 < value} =
      {value ∈ values | 0 < value} ∪ {value ∈ further | 0 < value} := Set.sep_union
  rw [MarksPositive, least, parted, Set.insert_union_distrib]
  exact IsLeast.union one other

end BoundingBox

theorem Plot.boundingBox_marksPositive (plot : Plot EReal) (kind : AxisKind) :
    match plot.boundingBox with
    | none => Point.reach kind plot.coordinates = ∅
    | some box => box.MarksPositive kind (Point.reach kind plot.coordinates) :=
  plot.boundingBox_induction (fun box values => box.MarksPositive kind values)
    BoundingBox.marksPositive_point fun _first _second _values _further => .union

theorem BoundingBox.positives_along {box : BoundingBox EReal} {values : Set EReal}
    (encloses : box.Encloses kind values) (marks : box.MarksPositive kind values)
    (finite : ∀ value ∈ values, Finite value) :
    (positivesOf values = ∅ → box.leastPositive kind = ⊤ ∧ ¬ 0 < box.greatest kind) ∧
      ((positivesOf values).Nonempty → ∃ least greatest : ℝ, box.leastPositive kind = least ∧
        box.greatest kind = greatest ∧ IsLeast (positivesOf values) least ∧
        IsGreatest (positivesOf values) greatest) := by
  constructor
  · intro none
    have noPositive (value : EReal) (member : value ∈ values) : ¬ 0 < value := by
      intro positive
      obtain ⟨number, rfl⟩ := (finite value member).exists_real
      exact Set.eq_empty_iff_forall_notMem.mp none number ⟨EReal.coe_pos.mp positive, member⟩
    refine ⟨?_, noPositive _ encloses.greatest.1⟩
    rcases marks.1 with top | ⟨member, positive⟩
    · exact top
    · exact absurd positive (noPositive _ member)
  · rintro ⟨some, positive, member⟩
    obtain ⟨greatest, isGreatest⟩ := (finite _ encloses.greatest.1).exists_real
    have above : (some : EReal) ≤ greatest := isGreatest ▸ encloses.greatest.2 member
    have held : box.leastPositive kind ∈ {value ∈ values | 0 < value} := by
      refine marks.1.resolve_left fun top => ?_
      have below := marks.2 (.inr ⟨member, EReal.coe_pos.mpr positive⟩)
      rw [top, top_le_iff] at below
      exact EReal.coe_ne_top some below
    obtain ⟨least, isLeast⟩ := (finite _ held.1).exists_real
    rw [isLeast] at held
    refine ⟨least, greatest, isLeast, isGreatest, ⟨⟨EReal.coe_pos.mp held.2, held.1⟩, ?_⟩,
      ⟨positive.trans_le (EReal.coe_le_coe_iff.mp above), isGreatest ▸ encloses.greatest.1⟩, ?_⟩
    · intro value inside
      exact EReal.coe_le_coe_iff.mp
        (isLeast ▸ marks.2 (.inr ⟨inside.2, EReal.coe_pos.mpr inside.1⟩))
    · intro value inside
      exact EReal.coe_le_coe_iff.mp (isGreatest ▸ encloses.greatest.2 inside.2)

/-! ### Taking in plots -/

namespace Axis

/-- The bounds of a logarithmic axis that is not settled are the powers around some positive values.
Before there are any, its range is empty. -/
structure SpansPowers (axis : Axis EReal) (base : ℝ) (positives : Set ℝ) : Prop where
  unfixed : axis.fixed = false
  vacant : positives = ∅ → axis.min = ⊤ ∧ axis.max = ⊥
  filled : positives.Nonempty → ∃ low high : ℤ,
    axis.min = ((base ^ low : ℝ) : EReal) ∧ axis.max = ((base ^ high : ℝ) : EReal) ∧
    IsLeast (lowerExponent base '' positives) low ∧
    IsGreatest (upperExponent base '' positives) high

theorem spansPowers_new (side : Side) (kind : AxisKind) (companion : Side)
    (options : AxisOptions EReal) (base : ℝ) :
    (new side kind companion options).SpansPowers base ∅ where
  unfixed := rfl
  vacant _none := ⟨rfl, rfl⟩
  filled some := absurd some Set.not_nonempty_empty

section Widening

variable {axis : Axis EReal} (logarithmic : axis.options.scale = .log) {box : BoundingBox EReal}

include logarithmic

private theorem widen_of_nonpositive (isLeast : box.leastPositive axis.kind = ⊤)
    (nonpositive : ¬ 0 < box.greatest axis.kind) :
    (axis.widen box).min = axis.min ∧ (axis.widen box).max = axis.max := by
  have endless : ¬ Scalar.isFinite (⊤ : EReal) = true := fun finite =>
    (isFinite_iff.mp finite).1 rfl
  have literal : ¬ (Scalar.ofNat 0 : EReal) < box.greatest axis.kind := by
    rwa [ofNat_eq, Nat.cast_zero]
  cases onKind : axis.kind <;>
    simp only [onKind, BoundingBox.leastPositive, BoundingBox.greatest] at isLeast literal <;>
    simp only [Axis.widen, logarithmic, onKind, isLeast] <;>
    exact ⟨if_neg endless, if_neg literal⟩

private theorem widen_of_positive {base : ℝ} (isBase : axis.options.logBase = base)
    (large : 1 < base) {least greatest : ℝ} (isLeast : box.leastPositive axis.kind = least)
    (leastPositive : 0 < least) (isGreatest : box.greatest axis.kind = greatest)
    (greatestPositive : 0 < greatest) :
    (axis.widen box).min = axis.min ⊓ ((base ^ lowerExponent base least : ℝ) : EReal) ∧
      (axis.widen box).max = axis.max ⊔ ((base ^ upperExponent base greatest : ℝ) : EReal) := by
  have lower : Scalar.pow (base : EReal)
      (Scalar.floor (logOf (least : EReal) base + countingSlack)) =
        ((base ^ lowerExponent base least : ℝ) : EReal) := by
    rw [logOf_coe large leastPositive, countingSlack_eq, ← EReal.coe_add, floor_coe, pow_intCast]
    rfl
  have upper : Scalar.pow (base : EReal)
      (Scalar.ceil (logOf (greatest : EReal) base - countingSlack)) =
        ((base ^ upperExponent base greatest : ℝ) : EReal) := by
    rw [logOf_coe large greatestPositive, countingSlack_eq, ← EReal.coe_sub, ceil_coe, pow_intCast]
    rfl
  have literal : (Scalar.ofNat 0 : EReal) < greatest := by
    rw [ofNat_eq, Nat.cast_zero]
    exact EReal.coe_pos.mpr greatestPositive
  rw [← lower, ← upper, ← Exact.min_eq, ← Exact.max_eq]
  cases onKind : axis.kind <;>
    simp only [onKind, BoundingBox.leastPositive, BoundingBox.greatest] at isLeast isGreatest <;>
    simp only [Axis.widen, logarithmic, onKind, isBase, isLeast, isGreatest] <;>
    exact ⟨if_pos (isFinite_coe least), if_pos literal⟩

end Widening

omit [NumberTexts] in
theorem SpansPowers.of_same {before after : Axis EReal} {base : ℝ} {positives : Set ℝ}
    (spans : before.SpansPowers base positives) (unfixed : after.fixed = false)
    (min : after.min = before.min) (max : after.max = before.max) :
    after.SpansPowers base positives where
  unfixed := unfixed
  vacant none := min ▸ max ▸ spans.vacant none
  filled some := min ▸ max ▸ spans.filled some

theorem SpansPowers.widen {axis : Axis EReal} {base : ℝ} {positives : Set ℝ}
    (spans : axis.SpansPowers base positives) (logarithmic : axis.options.scale = .log)
    (isBase : axis.options.logBase = base) (large : 1 < base) {box : BoundingBox EReal}
    {further : Set EReal} (encloses : box.Encloses axis.kind further)
    (marks : box.MarksPositive axis.kind further) (finite : ∀ value ∈ further, Finite value) :
    (axis.widen box).SpansPowers base (positives ∪ positivesOf further) := by
  have unfixed : (axis.widen box).fixed = false :=
    (widen_bounds rfl rfl rfl rfl box).1.trans spans.unfixed
  obtain ⟨without, within⟩ := BoundingBox.positives_along encloses marks finite
  rcases (positivesOf further).eq_empty_or_nonempty with none | some
  case inl =>
    obtain ⟨isLeast, nonpositive⟩ := without none
    obtain ⟨min, max⟩ := widen_of_nonpositive logarithmic isLeast nonpositive
    rw [none, Set.union_empty]
    exact spans.of_same unfixed min max
  case inr =>
    obtain ⟨least, greatest, isLeast, isGreatest, lower, upper⟩ := within some
    obtain ⟨min, max⟩ := widen_of_positive logarithmic isBase large isLeast lower.1.1 isGreatest
      upper.1.1
    have lowerImage := (lowerExponent_mono large).mono (fun _value inside => inside.1)
      |>.map_isLeast lower
    have upperImage := (upperExponent_mono large).mono (fun _value inside => inside.1)
      |>.map_isGreatest upper
    have order : Monotone fun power : ℤ => ((base ^ power : ℝ) : EReal) :=
      fun _first _second le => EReal.coe_le_coe (zpow_le_zpow_right₀ large.le le)
    refine ⟨unfixed, fun none => absurd none some.inr.ne_empty, fun _some => ?_⟩
    rw [min, max, Set.image_union, Set.image_union]
    rcases positives.eq_empty_or_nonempty with nothing | something
    · obtain ⟨top, bottom⟩ := spans.vacant nothing
      rw [nothing, Set.image_empty, Set.image_empty, Set.empty_union, Set.empty_union, top, bottom,
        top_inf_eq, bot_sup_eq]
      exact ⟨_, _, rfl, rfl, lowerImage, upperImage⟩
    · obtain ⟨low, high, isLow, isHigh, spansLow, spansHigh⟩ := spans.filled something
      rw [isLow, isHigh]
      exact ⟨_, _, (order.map_inf _ _).symm, (order.map_sup _ _).symm, spansLow.union lowerImage,
        spansHigh.union upperImage⟩

theorem SpansPowers.taking {axis : Axis EReal} {base : ℝ} {positives : Set ℝ}
    (spans : axis.unfix.SpansPowers base positives) (logarithmic : axis.options.scale = .log)
    (isBase : axis.options.logBase = base) (large : 1 < base) (index : Nat) {plot : Plot EReal}
    (finite : ∀ value ∈ Point.reach axis.kind plot.coordinates, Finite value)
    (continuous : (axis.taking index plot).isDiscrete = false) :
    (axis.taking index plot).SpansPowers base
      (positives ∪ positivesOf (Point.reach axis.kind plot.coordinates)) := by
  have plan := unfix_samePlan axis
  have encloses := plot.boundingBox_encloses axis.kind
  have marks := plot.boundingBox_marksPositive axis.kind
  obtain ⟨unfixed, bounds⟩ := taking_bounds axis index plot continuous
  cases bounded : plot.boundingBox with
  | none =>
      rw [bounded] at encloses bounds
      have nothing : positivesOf (∅ : Set EReal) = ∅ := by simp [positivesOf]
      rw [encloses, nothing, Set.union_empty]
      exact spans.of_same unfixed bounds.1 bounds.2
  | some box =>
      rw [bounded] at encloses marks bounds
      rw [← plan.kind] at encloses marks finite ⊢
      have widened := spans.widen (plan.options ▸ logarithmic) (plan.options ▸ isBase) large
        encloses marks finite
      exact widened.of_same unfixed bounds.1 bounds.2

private theorem spansPowers_addPlots {axis final : Axis EReal} {base : ℝ}
    {entries : List (Nat × Plot EReal)} (start : axis.SpansPowers base ∅)
    (logarithmic : axis.options.scale = .log) (isBase : axis.options.logBase = base)
    (large : 1 < base)
    (finite : ∀ entry ∈ entries, ∀ value ∈ Point.reach axis.kind entry.2.coordinates, Finite value)
    (continuous : axis.kind = .x → ∀ entry ∈ entries, entry.2.isDiscrete = false)
    (taken : axis.addPlots entries = .ok final) :
    final.SpansPowers base (positivesOf (Plot.reach axis.kind entries)) := by
  refine (addPlots_induction (fun held earlier => held.options = axis.options ∧
    held.kind = axis.kind ∧ held.SpansPowers base (positivesOf (Plot.reach axis.kind earlier)))
    ⟨rfl, rfl, ?_⟩ ?_ taken).2.2
  · have nothing : positivesOf (∅ : Set EReal) = ∅ := by simp [positivesOf]
    rwa [Plot.reach_nil, nothing]
  · rintro before earlier index plot next member ⟨options, kind, spans⟩ added
    obtain ⟨rfl, takes⟩ := taken_of_addPlot added
    refine ⟨takes.options.trans options, takes.kind.trans kind, ?_⟩
    have still := takes.isDiscrete_eq_false fun onX => continuous (kind ▸ onX) _ member
    have grown := SpansPowers.taking (unfix_of_unfixed spans.unfixed ▸ spans)
      (options ▸ logarithmic) (options ▸ isBase) large index (kind ▸ finite _ member) still
    rw [Plot.reach_append, positivesOf_union, ← kind]
    rw [← kind] at grown
    exact grown

/-! ### The settled range -/

section Settled

variable {axis : Axis EReal} {base : ℝ} {positives : Set ℝ}

theorem SpansPowers.completeRange (spans : axis.SpansPowers base positives)
    (logarithmic : axis.options.scale = .log) (isBase : axis.options.logBase = base)
    (continuous : axis.isDiscrete = false) :
    (positives = ∅ → axis.completeRange = (((1 : ℝ) : EReal), (base : EReal))) ∧
      (positives.Nonempty → axis.completeRange = (axis.min, axis.max)) := by
  have log : axis.isLog = true := by simp [isLog, logarithmic]
  constructor
  · intro none
    obtain ⟨top, bottom⟩ := spans.vacant none
    simp [Axis.completeRange, continuous, log, logarithmic, top, bottom, Scalar.isFinite, isBase]
  · intro some
    obtain ⟨low, high, isLow, isHigh, _least, _greatest⟩ := spans.filled some
    simp [Axis.completeRange, continuous, isLow, isHigh, isFinite_coe]

private theorem extendEmpty_powers (logarithmic : axis.options.scale = .log)
    (isBase : axis.options.logBase = base) (large : 1 < base) (low high : ℤ) :
    axis.extendEmpty (((base ^ low : ℝ) : EReal), ((base ^ high : ℝ) : EReal)) =
      (((base ^ low : ℝ) : EReal), ((base ^ (high ⊔ (low + 1)) : ℝ) : EReal)) := by
  have basePositive := zero_lt_one.trans large
  have order : ((base ^ high : ℝ) : EReal) ≤ ((base ^ low : ℝ) : EReal) ↔ high ≤ low := by
    rw [EReal.coe_le_coe_iff, zpow_le_zpow_iff_right₀ large]
  simp only [extendEmpty, order, logarithmic, isBase]
  split
  case isTrue empty =>
    rw [sup_eq_right.mpr (by omega), zpow_add_one₀ basePositive.ne', EReal.coe_mul]
  case isFalse wide => rw [sup_eq_left.mpr (by omega)]

/-- The settled range is the closed form of the positive values. -/
theorem SpansPowers.powerRange_fix (spans : axis.SpansPowers base positives)
    (logarithmic : axis.options.scale = .log) (isBase : axis.options.logBase = base)
    (large : 1 < base) (continuous : axis.isDiscrete = false) :
    ∃ low high : ℤ, PowerRange base positives low high ∧
      axis.fix.rmin = ((base ^ low : ℝ) : EReal) ∧ axis.fix.rmax = ((base ^ high : ℝ) : EReal) := by
  obtain ⟨rmin, rmax, _fixed⟩ := fix_dataBounds spans.unfixed
  obtain ⟨vacant, filled⟩ := spans.completeRange logarithmic isBase continuous
  rw [rmin, rmax]
  rcases positives.eq_empty_or_nonempty with none | some
  · have unit : axis.completeRange = (((base ^ (0 : ℤ) : ℝ) : EReal),
        ((base ^ (1 : ℤ) : ℝ) : EReal)) := by
      rw [vacant none, zpow_zero, zpow_one]
    rw [unit, extendEmpty_powers logarithmic isBase large]
    exact ⟨0, 1, ⟨fun some => absurd none some.ne_empty, fun _none => ⟨rfl, rfl⟩⟩, rfl, rfl⟩
  · obtain ⟨low, high, isLow, isHigh, least, greatest⟩ := spans.filled some
    rw [filled some, isLow, isHigh, extendEmpty_powers logarithmic isBase large]
    exact ⟨low, high ⊔ (low + 1), ⟨fun _some => ⟨least, high, greatest, rfl⟩,
      fun none => absurd none some.ne_empty⟩, rfl, rfl⟩

end Settled

/-! ### Ticks -/

noncomputable def powersBetween (base : ℝ) (low high : ℤ) : List EReal :=
  (List.range (high + 1 - low).toNat).map fun index : ℕ => ((base ^ (low + index) : ℝ) : EReal)

section PowersBetween

variable {base : ℝ} {low high : ℤ}

omit [NumberTexts] in
private theorem powersBetween_length (wide : low < high) :
    ((powersBetween base low high).length : ℤ) = high - low + 1 := by
  rw [powersBetween, List.length_map, List.length_range]
  omega

omit [NumberTexts] in
private theorem powersBetween_getElem? {index : ℕ} {tick : EReal} :
    (powersBetween base low high)[index]? = some tick ↔
      low + index ≤ high ∧ tick = ((base ^ (low + index) : ℝ) : EReal) := by
  have inside : index < (high + 1 - low).toNat ↔ low + index ≤ high := by omega
  rw [powersBetween, getElem?_map_range, inside]

omit [NumberTexts] in
private theorem powersBetween_head? (wide : low < high) :
    (powersBetween base low high).head? = some ((base ^ low : ℝ) : EReal) := by
  rw [List.head?_eq_getElem?, powersBetween_getElem?]
  exact ⟨by omega, by simp⟩

omit [NumberTexts] in
private theorem powersBetween_getLast? (wide : low < high) :
    (powersBetween base low high).getLast? = some ((base ^ high : ℝ) : EReal) := by
  have length : ((powersBetween base low high).length : ℤ) = high - low + 1 :=
    powersBetween_length wide
  have top : low + ((powersBetween base low high).length - 1 : ℕ) = high := by omega
  rw [List.getLast?_eq_getElem?, powersBetween_getElem?, top]
  exact ⟨le_rfl, rfl⟩

variable (large : 1 < base)

include large

theorem logOf_zpow (exponent : ℤ) :
    logOf ((base ^ exponent : ℝ) : EReal) (base : EReal) = ((exponent : ℝ) : EReal) := by
  have basePositive := zero_lt_one.trans large
  rw [logOf_coe large (zpow_pos basePositive exponent), ← Real.rpow_intCast,
    Real.logb_rpow basePositive large.ne']

private theorem logTicks_zpow (wide : low < high) (least : leastExponent ≤ low)
    (greatest : high ≤ greatestExponent) :
    logTicks (base : EReal) ((base ^ low : ℝ) : EReal) ((base ^ high : ℝ) : EReal) =
      powersBetween base low high := by
  have nonzero : base ≠ 0 := (zero_lt_one.trans large).ne'
  unfold logTicks
  simp only [logOf_zpow large, round_intCast, power_coe nonzero]
  rw [toExponent_intCast least (wide.le.trans greatest),
    toExponent_intCast (least.trans wide.le) greatest]
  rfl

variable {axis : Axis EReal} (logarithmic : axis.options.scale = .log)
  (isBase : axis.options.logBase = base)

include logarithmic isBase

private theorem tickValues_of_log
    (automatic : ∀ values, axis.options.ticks ≠ some (.explicit values))
    (spans : axis.dataRange = (((base ^ low : ℝ) : EReal), ((base ^ high : ℝ) : EReal))) :
    axis.tickValues =
      logTicks (base : EReal) ((base ^ low : ℝ) : EReal) ((base ^ high : ℝ) : EReal) := by
  have positive : ¬ ((base ^ low : ℝ) : EReal) ≤ 0 :=
    not_le.mpr (EReal.coe_pos.mpr (zpow_pos (zero_lt_one.trans large) low))
  have log : axis.isLog = true := by simp [isLog, logarithmic]
  unfold tickValues
  split
  case h_1 values explicit => exact absurd explicit (automatic values)
  case h_2 =>
    simp only [spans, isFinite_coe, log, isBase, literal_eq, Nat.cast_zero, if_neg positive,
      Bool.not_true, Bool.or_self, Bool.false_eq_true, if_false, if_true]

/-- The powers of the base are at equal distances along the axis. -/
private theorem positionOf_zpow (isLow : axis.min = ((low : ℝ) : EReal))
    (isHigh : axis.max = ((high : ℝ) : EReal)) (wide : low < high) (exponent : ℤ) :
    axis.positionOf ((base ^ exponent : ℝ) : EReal) =
      (((exponent - low : ℝ) / (high - low) : ℝ) : EReal) * axis.size := by
  have positive : ¬ ((base ^ exponent : ℝ) : EReal) ≤ 0 :=
    not_le.mpr (EReal.coe_pos.mpr (zpow_pos (zero_lt_one.trans large) exponent))
  have log : axis.isLog = true := by simp [isLog, logarithmic]
  simp only [positionOf, log, isBase, logOf_zpow large, literal_eq, Nat.cast_zero, if_neg positive,
    if_true]
  exact offset_eq isLow isHigh (Int.cast_lt.mpr wide) exponent

end PowersBetween

/-! ### The range of an axis and its plots -/

/-- The labels of the axis are the powers from one end of its range to the other, at equal
distances along the axis. -/
structure PowerTicks (axis : Axis EReal) (base : ℝ) (low high : ℤ) : Prop where
  labels : axis.labels = .values (powersBetween base low high)
  first : (powersBetween base low high).head? = some axis.rmin
  last : (powersBetween base low high).getLast? = some axis.rmax
  positions : ∀ (size crossSize : EReal) (index : ℕ) (tick : EReal),
    (powersBetween base low high)[index]? = some tick →
    (axis.withSizes size crossSize).positionOf tick =
      ((index / ((powersBetween base low high).length - 1) : ℝ) : EReal) * size

private theorem powerTicks_fix {axis : Axis EReal} {base : ℝ} {low high : ℤ}
    (unfixed : axis.fixed = false)
    (logarithmic : axis.options.scale = .log) (isBase : axis.options.logBase = base)
    (large : 1 < base) (automatic : ∀ values, axis.options.ticks ≠ some (.explicit values))
    (continuous : axis.isDiscrete = false) (wide : low < high)
    (isLeast : axis.fix.rmin = ((base ^ low : ℝ) : EReal))
    (isGreatest : axis.fix.rmax = ((base ^ high : ℝ) : EReal))
    (least : leastExponent ≤ low) (greatest : high ≤ greatestExponent) :
    axis.fix.PowerTicks base low high := by
  have options := (fix_samePlan axis).options
  obtain ⟨_rmin, _rmax, fixed⟩ := fix_dataBounds unfixed
  have spans : axis.fix.dataRange = (((base ^ low : ℝ) : EReal), ((base ^ high : ℝ) : EReal)) := by
    rw [dataRange, fixed, if_pos rfl, isLeast, isGreatest]
  have log : axis.isLog = true := by simp [isLog, logarithmic]
  obtain ⟨isLow, isHigh⟩ := fix_logBounds unfixed log continuous
  rw [isLeast, isBase, logOf_zpow large] at isLow
  rw [isGreatest, isBase, logOf_zpow large] at isHigh
  refine ⟨?labels, isLeast ▸ powersBetween_head? wide, isGreatest ▸ powersBetween_getLast? wide,
    fun size crossSize index tick held => ?positions⟩
  case labels =>
    rw [fix_labels unfixed continuous, tickValues_of_log large (options ▸ logarithmic)
      (options ▸ isBase) (options ▸ automatic) spans, logTicks_zpow large wide least greatest]
  case positions =>
    obtain ⟨_inside, rfl⟩ := powersBetween_getElem?.mp held
    have count : ((powersBetween base low high).length : ℝ) - 1 = high - low := by
      rw [← Int.cast_natCast, powersBetween_length wide]
      push_cast
      ring
    let sized := axis.fix.withSizes size crossSize
    have sizedLow : sized.min = ((low : ℝ) : EReal) := isLow
    rw [positionOf_zpow large (options ▸ logarithmic) (options ▸ isBase) sizedLow isHigh wide,
      count, Int.cast_add, Int.cast_natCast, add_sub_cancel_left]
    rfl

section Added

variable {side : Side} {kind : AxisKind} {companion : Side} {options : AxisOptions EReal} {base : ℝ}
  (logarithmic : options.scale = .log) (isBase : options.logBase = base) (large : 1 < base)
  {entries : List (Nat × Plot EReal)} (finite : ∀ entry ∈ entries, entry.2.FiniteEntries)
  {axis : Axis EReal} (taken : (new side kind companion options).addPlots entries = .ok axis)
  (continuous : axis.isDiscrete = false)

include logarithmic isBase large finite taken continuous

theorem spansPowers_new_addPlots :
    axis.SpansPowers base (positivesOf (Plot.reach kind entries)) :=
  spansPowers_addPlots (spansPowers_new side kind companion options base) logarithmic isBase large
    (fun entry member => (finite entry member).reach kind)
    (isDiscrete_of_addPlots taken continuous) taken

theorem powerRange_addPlots : ∃ low high : ℤ,
    PowerRange base (positivesOf (Plot.reach kind entries)) low high ∧
      axis.fix.rmin = ((base ^ low : ℝ) : EReal) ∧ axis.fix.rmax = ((base ^ high : ℝ) : EReal) := by
  have kept := (addPlots_told taken).1
  have spans := spansPowers_new_addPlots logarithmic isBase large finite taken continuous
  exact spans.powerRange_fix (kept ▸ logarithmic) (kept ▸ isBase) large continuous

end Added

/-- The settled range of a logarithmic axis with continuous keys or values is told by the positive
values of its plots: by the powers of the base around them, whatever the other values are. The
labels are the powers between, at equal distances along the axis. -/
theorem fix_powerRange (side : Side) (kind : AxisKind) (companion : Side)
    (options : AxisOptions EReal) (base : ℝ) (logarithmic : options.scale = .log)
    (isBase : options.logBase = base) (large : 1 < base)
    (automatic : ∀ values, options.ticks ≠ some (.explicit values))
    (entries : List (Nat × Plot EReal)) (finite : ∀ entry ∈ entries, entry.2.FiniteEntries)
    {axis : Axis EReal} (taken : (new side kind companion options).addPlots entries = .ok axis)
    (continuous : axis.isDiscrete = false) :
    let positives := positivesOf (Plot.reach kind entries)
    (∃ low high : ℤ, PowerRange base positives low high ∧
      axis.fix.rmin = ((base ^ low : ℝ) : EReal) ∧ axis.fix.rmax = ((base ^ high : ℝ) : EReal) ∧
      (∀ value ∈ positives,
        base ^ low ≤ value * base ^ slack ∧ value ≤ base ^ high * base ^ slack) ∧
      (leastExponent ≤ low → high ≤ greatestExponent → axis.fix.PowerTicks base low high)) ∧
    axis.fix.rmin < axis.fix.rmax ∧
    (positives = ∅ → axis.fix.rmin = ((1 : ℝ) : EReal) ∧ axis.fix.rmax = base) ∧
    ∀ (others : List (Nat × Plot EReal)) (other : Axis EReal),
      (∀ entry ∈ others, entry.2.FiniteEntries) →
      (new side kind companion options).addPlots others = .ok other → other.isDiscrete = false →
      positivesOf (Plot.reach kind others) = positives →
      other.fix.rmin = axis.fix.rmin ∧ other.fix.rmax = axis.fix.rmax := by
  intro positives
  have kept := (addPlots_told taken).1
  have unfixed :=
    (spansPowers_new_addPlots logarithmic isBase large finite taken continuous).unfixed
  obtain ⟨low, high, range, isLeast, isGreatest⟩ :=
    powerRange_addPlots logarithmic isBase large finite taken continuous
  have wide := range.low_lt_high
  refine ⟨⟨low, high, range, isLeast, isGreatest,
    fun value member => range.reaches large member member.1, fun least greatest => ?ticks⟩, ?wide,
    fun none => ?placeholder, fun others other otherFinite otherTaken otherContinuous same =>
      ?uninfluenced⟩
  case ticks =>
    exact powerTicks_fix unfixed (kept ▸ logarithmic) (kept ▸ isBase) large (kept ▸ automatic)
      continuous wide isLeast isGreatest least greatest
  case wide =>
    rw [isLeast, isGreatest, EReal.coe_lt_coe_iff]
    exact zpow_lt_zpow_right₀ large wide
  case placeholder =>
    obtain ⟨rfl, rfl⟩ := range.placeholder none
    rw [isLeast, isGreatest, zpow_zero, zpow_one]
    exact ⟨rfl, rfl⟩
  case uninfluenced =>
    obtain ⟨otherLow, otherHigh, otherRange, otherLeast, otherGreatest⟩ :=
      powerRange_addPlots logarithmic isBase large otherFinite otherTaken otherContinuous
    obtain ⟨rfl, rfl⟩ := range.unique (same ▸ otherRange)
    exact ⟨otherLeast.trans isLeast.symm, otherGreatest.trans isGreatest.symm⟩

noncomputable def upToThousand : Plot EReal :=
  (Plot.new .scatter).addSeries (.ofData ([-1, 0, 1, ((1000 : ℕ) : ℝ)].map
    fun value : ℝ => ⟨.number (value : EReal), (value : EReal)⟩))

noncomputable def decades : AxisOptions EReal := { AxisOptions.standard with scale := .log }

theorem decades_logBase : decades.logBase = ((10 : ℝ) : EReal) := EReal.coe_natCast.symm

omit [NumberTexts] in
theorem finiteEntries_upToThousand : upToThousand.FiniteEntries := by
  constructor <;>
    simp only [upToThousand, Plot.addSeries, Plot.new, Series.ofData, List.nil_append,
      List.forall_mem_singleton, List.forall_mem_map, Key.number?, Option.some.injEq, forall_eq',
      finite_coe, implies_true]

theorem positives_upToThousand :
    positivesOf (Plot.reach .y [(0, upToThousand)]) = {1, 1000} := by
  have reached : Plot.reach .y [(0, upToThousand)] =
      {((-1 : ℝ) : EReal), ((0 : ℝ) : EReal), ((1 : ℝ) : EReal), ((1000 : ℝ) : EReal)} := by
    rw [Plot.reach_cons, Plot.reach_nil, Set.union_empty]
    change Point.reach .y [_, _, _, _] = _
    simp only [Point.reach_cons, Point.reach_nil, Set.union_empty]
    rfl
  ext value
  simp only [positivesOf, reached, Set.mem_ofPred_eq, Set.mem_insert_iff, Set.mem_singleton_iff,
    EReal.coe_eq_coe_iff]
  constructor
  · rintro ⟨positive, rfl | rfl | rfl | rfl⟩
    · norm_num at positive
    · exact absurd positive (lt_irrefl 0)
    · exact .inl rfl
    · exact .inr rfl
  · rintro (rfl | rfl)
    · exact ⟨zero_lt_one, .inr (.inr (.inl rfl))⟩
    · exact ⟨by norm_num, .inr (.inr (.inr rfl))⟩

omit [NumberTexts] in
theorem fix_powerRange_upToThousand :
    letI := Exact.wholeTexts
    upToThousand.FiniteEntries ∧ ∃ axis,
      (new .left .y .bottom decades).addPlots [(0, upToThousand)] = .ok axis ∧
      axis.isDiscrete = false ∧ axis.fix.rmin = ((1 : ℝ) : EReal) ∧
      axis.fix.rmax = ((1000 : ℝ) : EReal) ∧ axis.fix.PowerTicks 10 0 3 := by
  let _texts := Exact.wholeTexts
  have onY : (new .left .y .bottom decades).kind = .y := rfl
  obtain ⟨axis, taken, continuous⟩ := addPlots_of_y onY [(0, upToThousand)]
  have finite : ∀ entry ∈ [(0, upToThousand)], entry.2.FiniteEntries :=
    List.forall_mem_singleton.mpr finiteEntries_upToThousand
  have ten : (1 : ℝ) < 10 := by norm_num
  obtain ⟨⟨low, high, range, isLeast, isGreatest, _reaches, ticks⟩, _wide⟩ :=
    fix_powerRange .left .y .bottom decades 10 rfl decades_logBase ten
      (fun _values explicit => nomatch explicit) [(0, upToThousand)] finite taken continuous
  rw [positives_upToThousand] at range
  have expected : PowerRange 10 {1, 1000} 0 3 := by
    have unit : (1 : ℝ) = 10 ^ (0 : ℤ) := by norm_num
    have thousand : (1000 : ℝ) = 10 ^ (3 : ℤ) := by norm_num
    have lower : lowerExponent 10 '' {1, 1000} = {0, 3} := by
      rw [Set.image_pair, unit, thousand, lowerExponent_zpow ten, lowerExponent_zpow ten]
    have upper : upperExponent 10 '' {1, 1000} = {0, 3} := by
      rw [Set.image_pair, unit, thousand, upperExponent_zpow ten, upperExponent_zpow ten]
    refine ⟨fun _some => ?_, fun none => absurd none (Set.insert_nonempty _ _).ne_empty⟩
    rw [lower, upper]
    exact ⟨⟨.inl rfl, by simp⟩, 3, ⟨.inr rfl, by simp⟩, rfl⟩
  obtain ⟨rfl, rfl⟩ := range.unique expected
  refine ⟨finiteEntries_upToThousand, axis, taken, continuous, ?_, ?_,
    ticks (by decide) (by decide)⟩
  · rw [isLeast, zpow_zero]
  · rw [isGreatest]
    norm_num

end Axis
end CanvasChart
