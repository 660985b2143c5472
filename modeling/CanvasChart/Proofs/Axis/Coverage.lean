import Mathlib.Order.Bounds.Basic
import CanvasChart.Proofs.Exact.Scalar
import CanvasChart.Proofs.Axis.Gathering
import CanvasChart.Proofs.Plot.Extents
import CanvasChart.Axis.Position

set_option autoImplicit false

/-! The range of a linear axis on exact numbers. It reaches from the least to the greatest of
zero and all that the plots of the axis reach, and whatever lies in it has an offset between
the ends of the axis. -/

namespace CanvasChart

def Point.along {α : Type} (point : Point α) : AxisKind → α
  | .x => point.x
  | .y => point.y

variable [NumberTexts] {kind : AxisKind}

/-! ### What plots reach -/

def Point.reach (kind : AxisKind) (places : List (Point EReal)) : Set EReal :=
  {value | ∃ place ∈ places, place.along kind = value}

omit [NumberTexts] in
@[simp] theorem Point.reach_nil : Point.reach kind [] = ∅ := by simp [reach]

omit [NumberTexts] in
theorem Point.reach_cons (place : Point EReal) (rest : List (Point EReal)) :
    Point.reach kind (place :: rest) = {place.along kind} ∪ Point.reach kind rest := by
  ext value
  simp [reach, eq_comm]

/-- The coordinates that the plots of an axis of a kind reach. -/
def Plot.reach (kind : AxisKind) (entries : List (Nat × Plot EReal)) : Set EReal :=
  {value | ∃ entry ∈ entries, value ∈ Point.reach kind entry.2.coordinates}

@[simp] theorem Plot.reach_nil : Plot.reach kind [] = ∅ := by simp [reach]

theorem Plot.reach_cons (entry : Nat × Plot EReal) (rest : List (Nat × Plot EReal)) :
    Plot.reach kind (entry :: rest) =
      Point.reach kind entry.2.coordinates ∪ Plot.reach kind rest := by
  ext value
  simp [reach]

theorem Plot.reach_append (first : List (Nat × Plot EReal)) (index : Nat) (plot : Plot EReal) :
    Plot.reach kind (first ++ [(index, plot)]) =
      Plot.reach kind first ∪ Point.reach kind plot.coordinates := by
  ext value
  simp [reach, or_and_right, exists_or]

theorem Plot.finite_reach_y {plot : Plot EReal}
    (values : ∀ series ∈ plot.series, ∀ point ∈ series.data, Exact.Finite point.value) :
    ∀ value ∈ Point.reach .y plot.coordinates, Exact.Finite value := by
  rintro value ⟨place, reached, rfl⟩
  obtain ⟨entry, member, index, point, extent, paired, rfl⟩ := Plot.mem_coordinates.mp reached
  have stacked : entry.2 ∈ plot.stack := by
    rw [← plot.stackedSeries_snd]
    exact List.mem_map_of_mem member
  exact plot.stack_tops (fun _first _second => Exact.Finite.add) (Exact.finite_natCast 0)
    values _ stacked extent (List.of_mem_zip (List.mem_of_getElem? paired)).2

theorem Plot.finite_reach_x {plot : Plot EReal}
    (keys : ∀ series ∈ plot.series, ∀ point ∈ series.data,
      ∀ number, point.key.number? = some number → Exact.Finite number) :
    ∀ value ∈ Point.reach .x plot.coordinates, Exact.Finite value := by
  rintro value ⟨place, reached, rfl⟩
  obtain ⟨entry, member, index, point, extent, paired, rfl⟩ := Plot.mem_coordinates.mp reached
  have series : entry.1 ∈ plot.series := by
    rw [← plot.stackedSeries_fst]
    exact List.mem_map_of_mem member
  have stored : point ∈ entry.1.data := (List.of_mem_zip (List.mem_of_getElem? paired)).1
  change Exact.Finite (point.key.number?.getD (Scalar.ofNat index))
  cases number : point.key.number? with
  | none => exact Exact.finite_natCast index
  | some value => exact keys entry.1 series point stored value number

/-- All numeric keys and all values of the plot are finite. -/
structure Plot.FiniteEntries (plot : Plot EReal) : Prop where
  keys : ∀ series ∈ plot.series, ∀ point ∈ series.data,
    ∀ number, point.key.number? = some number → Exact.Finite number
  values : ∀ series ∈ plot.series, ∀ point ∈ series.data, Exact.Finite point.value

theorem Plot.FiniteEntries.reach {plot : Plot EReal} (finite : plot.FiniteEntries)
    (kind : AxisKind) : ∀ value ∈ Point.reach kind plot.coordinates, Exact.Finite value := by
  cases kind with
  | x => exact finite_reach_x finite.keys
  | y => exact finite_reach_y finite.values

namespace BoundingBox

def least (box : BoundingBox EReal) : AxisKind → EReal
  | .x => box.minX
  | .y => box.minY

def greatest (box : BoundingBox EReal) : AxisKind → EReal
  | .x => box.maxX
  | .y => box.maxY

/-- Along an axis the box is the least one around some values. -/
structure Encloses (box : BoundingBox EReal) (kind : AxisKind) (values : Set EReal) : Prop where
  least : IsLeast values (box.least kind)
  greatest : IsGreatest values (box.greatest kind)

private theorem encloses_point (place : Point EReal) :
    (point place.x place.y).Encloses kind {place.along kind} := by
  cases kind <;> exact ⟨isLeast_singleton, isGreatest_singleton⟩

theorem Encloses.union {first second : BoundingBox EReal} {values further : Set EReal}
    (one : first.Encloses kind values) (other : second.Encloses kind further) :
    (first.union second).Encloses kind (values ∪ further) := by
  have least : (first.union second).least kind =
      min (first.least kind) (second.least kind) := by
    cases kind <;> exact Exact.min_eq _ _
  have greatest : (first.union second).greatest kind =
      max (first.greatest kind) (second.greatest kind) := by
    cases kind <;> exact Exact.max_eq _ _
  exact ⟨least ▸ one.least.union other.least, greatest ▸ one.greatest.union other.greatest⟩

end BoundingBox

theorem Plot.boundingBox_induction (holds : BoundingBox EReal → Set EReal → Prop)
    (point : ∀ place : Point EReal, holds (.point place.x place.y) {place.along kind})
    (union : ∀ first second values further, holds first values → holds second further →
      holds (first.union second) (values ∪ further)) (plot : Plot EReal) :
    match plot.boundingBox with
    | none => Point.reach kind plot.coordinates = ∅
    | some box => holds box (Point.reach kind plot.coordinates) := by
  have further (places : List (Point EReal)) (first : BoundingBox EReal) (values : Set EReal)
      (sofar : holds first values) :
      holds ((places.map fun place => .point place.x place.y).foldl BoundingBox.union first)
        (values ∪ Point.reach kind places) := by
    -- on the points that are still to come; `first` is the box of those before them
    induction places generalizing first values with
    | nil => simpa using sofar
    | cons place rest ih =>
        rw [Point.reach_cons, ← Set.union_assoc]
        exact ih _ _ (union _ _ _ _ sofar (point place))
  unfold boundingBox
  cases plot.coordinates with
  | nil => exact Point.reach_nil
  | cons first rest =>
      rw [Point.reach_cons]
      exact further rest _ _ (point first)

theorem Plot.boundingBox_encloses (plot : Plot EReal) (kind : AxisKind) :
    match plot.boundingBox with
    | none => Point.reach kind plot.coordinates = ∅
    | some box => box.Encloses kind (Point.reach kind plot.coordinates) :=
  plot.boundingBox_induction (fun box values => box.Encloses kind values)
    BoundingBox.encloses_point fun _first _second _values _further => .union

/-! ### What an axis covers -/

namespace Axis

/-- The range of an axis that is not settled reaches from the least to the greatest of zero
and some values. Before there are any it is empty, and then it contains zero. -/
structure Covers (axis : Axis EReal) (values : Set EReal) : Prop where
  unfixed : axis.fixed = false
  least : IsLeast (insert 0 values) (axis.min ⊓ 0)
  greatest : IsGreatest (insert 0 values) (axis.max ⊔ 0)
  vacant : values = ∅ → axis.min = ⊤ ∧ axis.max = ⊥
  around : values.Nonempty → axis.min ≤ 0 ∧ 0 ≤ axis.max

theorem covers_new (side : Side) (kind : AxisKind) (companion : Side)
    (options : AxisOptions EReal) :
    (new side kind companion options).Covers ∅ where
  unfixed := rfl
  least := by simp [new, Scalar.infinity]
  greatest := by simp [new, Scalar.infinity]
  vacant _none := ⟨rfl, rfl⟩
  around some := absurd some Set.not_nonempty_empty

theorem Covers.widen {axis : Axis EReal} {values further : Set EReal}
    (covers : axis.Covers values) (linear : axis.options.scale = .linear)
    {box : BoundingBox EReal} (encloses : box.Encloses axis.kind further) :
    (axis.widen box).Covers (values ∪ further) := by
  have least : (axis.widen box).min = axis.min ⊓ box.least axis.kind ⊓ 0 := by
    cases onKind : axis.kind <;> simp [Axis.widen, linear, onKind, Exact.min_eq,
      BoundingBox.least]
  have greatest : (axis.widen box).max = axis.max ⊔ box.greatest axis.kind ⊔ 0 := by
    cases onKind : axis.kind <;> simp [Axis.widen, linear, onKind, Exact.max_eq,
      BoundingBox.greatest]
  have unfixed : (axis.widen box).fixed = axis.fixed := by
    simp only [Axis.widen, linear]
  have filled : (values ∪ further).Nonempty := encloses.least.nonempty.inr
  exact
    { unfixed := unfixed.trans covers.unfixed
      least := by
        rw [least, inf_assoc, inf_idem, inf_right_comm, ← Set.insert_union]
        exact covers.least.union encloses.least
      greatest := by
        rw [greatest, sup_assoc, sup_idem, sup_right_comm, ← Set.insert_union]
        exact covers.greatest.union encloses.greatest
      vacant := fun none => absurd none filled.ne_empty
      around := fun _some => ⟨least ▸ inf_le_right, greatest ▸ le_sup_right⟩ }

theorem Covers.of_same {before after : Axis EReal} {values : Set EReal}
    (covers : before.Covers values) (unfixed : after.fixed = false)
    (min : after.min = before.min) (max : after.max = before.max) : after.Covers values where
  unfixed := unfixed
  least := min ▸ covers.least
  greatest := max ▸ covers.greatest
  vacant none := min ▸ max ▸ covers.vacant none
  around some := min ▸ max ▸ covers.around some

theorem Covers.taking {axis : Axis EReal} {values : Set EReal} (covers : axis.Covers values)
    (linear : axis.options.scale = .linear) (index : Nat) {plot : Plot EReal}
    (continuous : (axis.taking index plot).isDiscrete = false) :
    (axis.taking index plot).Covers (values ∪ Point.reach axis.kind plot.coordinates) := by
  have encloses := plot.boundingBox_encloses axis.kind
  obtain ⟨unfixed, bounds⟩ := taking_bounds axis index plot continuous
  rw [unfix_of_unfixed covers.unfixed] at bounds
  cases bounded : plot.boundingBox with
  | none =>
      rw [bounded] at encloses bounds
      rw [encloses, Set.union_empty]
      exact covers.of_same unfixed bounds.1 bounds.2
  | some box =>
      rw [bounded] at encloses bounds
      exact (covers.widen linear encloses).of_same unfixed bounds.1 bounds.2

theorem Covers.addPlots {axis final : Axis EReal} {values : Set EReal}
    (covers : axis.Covers values) (linear : axis.options.scale = .linear)
    (entries : List (Nat × Plot EReal))
    (continuous : axis.kind = .x → ∀ entry ∈ entries, entry.2.isDiscrete = false)
    (taken : axis.addPlots entries = .ok final) :
    final.Covers (values ∪ Plot.reach axis.kind entries) := by
  -- on the plots that are still to come; `values` is what those before them reach
  induction entries generalizing axis values with
  | nil =>
      cases taken
      rw [Plot.reach_nil, Set.union_empty]
      exact covers
  | cons entry rest ih =>
      obtain ⟨index, plot⟩ := entry
      cases added : axis.addPlot index plot with
      | error error =>
          simp only [Axis.addPlots, added] at taken
          cases taken
      | ok next =>
          simp only [Axis.addPlots, added] at taken
          obtain ⟨rfl, takes⟩ := taken_of_addPlot added
          have grown := covers.taking linear index (takes.isDiscrete_eq_false fun onX =>
            continuous onX _ List.mem_cons_self)
          have whole := ih grown (takes.options ▸ linear) (by
            intro onX entry member
            exact continuous (takes.kind ▸ onX) entry (List.mem_cons_of_mem _ member)) taken
          rw [takes.kind, Set.union_assoc] at whole
          rw [Plot.reach_cons]
          exact whole

theorem Gathers.covers {options : ChartOptions EReal} {entries : List (Nat × Plot EReal)}
    {side : Side} {axis : Axis EReal} (gathers : axis.Gathers options entries side)
    (linear : axis.options.scale = .linear) (continuous : axis.isDiscrete = false) :
    axis.Covers (Plot.reach axis.kind (Plot.users axis.kind side entries)) := by
  have founded := (covers_new side axis.kind axis.companion
    (options.axis side)).addPlots (gathers.options_eq ▸ linear) _ ?continuous gathers.taken
  case continuous =>
    intro onX entry user
    have told := gathers.discrete_eq onX entry (onX ▸ user)
    simpa [isDiscrete, show axis.kind = .x from onX, told] using continuous
  rw [Set.empty_union] at founded
  exact founded

/-! ### The settled range -/

omit [NumberTexts] in
theorem isLog_of_linear {α : Type} {axis : Axis α} (linear : axis.options.scale = .linear) :
    axis.isLog = false := by
  simp [isLog, linear]

omit [NumberTexts] in
theorem fix_bounds {α : Type} [Scalar α] {axis : Axis α} (unfixed : axis.fixed = false)
    (linear : axis.isLog = false) :
    axis.fix.min = (axis.extendEmpty axis.completeRange).1 ∧
      axis.fix.max = (axis.extendEmpty axis.completeRange).2 := by
  unfold fix
  rw [unfixed, linear]
  simp only [Bool.false_and, Bool.false_eq_true, if_false]
  constructor <;> split <;> rfl

/-- The range of the axis is a real interval around zero and some values. -/
def Shows (axis : Axis EReal) (values : Set EReal) : Prop :=
  ∃ low high : ℝ, axis.min = low ∧ axis.max = high ∧ low < high ∧
    ∀ value ∈ insert 0 values, (low : EReal) ≤ value ∧ value ≤ high

/-- The bounds of finite values and zero. A range of no width is extended upward by one. -/
theorem Covers.fix_of_finite {axis : Axis EReal} {values : Set EReal} (covers : axis.Covers values)
    (linear : axis.options.scale = .linear) (continuous : axis.isDiscrete = false)
    (some : values.Nonempty) {low high : ℝ} (least : IsLeast (insert 0 values) (low : EReal))
    (greatest : IsGreatest (insert 0 values) (high : EReal)) :
    axis.fix.min = low ∧ axis.fix.max = ((if high ≤ low then low + 1 else high : ℝ) : EReal) := by
  have notLog := isLog_of_linear linear
  obtain ⟨belowZero, aboveZero⟩ := covers.around some
  have isLow : axis.min = low :=
    (inf_of_le_left belowZero).symm.trans (covers.least.unique least)
  have isHigh : axis.max = high :=
    (sup_of_le_left aboveZero).symm.trans (covers.greatest.unique greatest)
  have complete : axis.completeRange = ((low : EReal), (high : EReal)) := by
    have finite (number : ℝ) : Scalar.isFinite (number : EReal) = true :=
      Exact.isFinite_iff.mpr (Exact.finite_coe number)
    simp [completeRange, continuous, notLog, isLow, isHigh, finite]
  obtain ⟨minimum, maximum⟩ := fix_bounds covers.unfixed notLog
  rw [complete] at minimum maximum
  rw [minimum, maximum]
  by_cases empty : high ≤ low <;> simp [extendEmpty, linear, empty]

/-- Settling widens the range by as little as makes it a real interval. -/
theorem Covers.shows_fix {axis : Axis EReal} {values : Set EReal} (covers : axis.Covers values)
    (linear : axis.options.scale = .linear) (continuous : axis.isDiscrete = false)
    (finite : ∀ value ∈ values, Exact.Finite value) : axis.fix.Shows values := by
  rcases values.eq_empty_or_nonempty with none | some
  case inl =>
    have notLog := isLog_of_linear linear
    obtain ⟨minimum, maximum⟩ := fix_bounds covers.unfixed notLog
    obtain ⟨top, bottom⟩ := covers.vacant none
    have unit : axis.extendEmpty axis.completeRange = (0, 1) := by
      simp [completeRange, extendEmpty, continuous, notLog, linear, top, Scalar.isFinite]
    rw [unit] at minimum maximum
    refine ⟨0, 1, by simpa using minimum, by simpa using maximum, zero_lt_one, ?_⟩
    simp [none]
  case inr =>
    have finiteAll : ∀ value ∈ insert 0 values, Exact.Finite value :=
      Set.forall_mem_insert.mpr ⟨⟨EReal.zero_ne_top, EReal.zero_ne_bot⟩, finite⟩
    obtain ⟨low, isLow⟩ := (finiteAll _ covers.least.1).exists_real
    obtain ⟨high, isHigh⟩ := (finiteAll _ covers.greatest.1).exists_real
    have least := isLow ▸ covers.least
    have greatest := isHigh ▸ covers.greatest
    obtain ⟨minimum, maximum⟩ := covers.fix_of_finite linear continuous some least greatest
    refine ⟨low, _, minimum, maximum, ?_, fun value member => ⟨least.2 member, ?_⟩⟩
    · split <;> linarith
    · refine (greatest.2 member).trans (EReal.coe_le_coe_iff.mpr ?_)
      split <;> linarith

theorem offset_eq {axis : Axis EReal} {low high : ℝ} (isLow : axis.min = low)
    (isHigh : axis.max = high) (wide : low < high) (number : ℝ) :
    axis.offset number = (((number - low) / (high - low) : ℝ) : EReal) * axis.size := by
  have span : axis.max - axis.min = ((high - low : ℝ) : EReal) := by
    rw [isLow, isHigh, EReal.coe_sub]
  have nonzero : ((high - low : ℝ) : EReal) ≠ 0 :=
    EReal.coe_ne_zero.mpr (sub_ne_zero.mpr wide.ne')
  have finite : Scalar.isFinite ((high - low : ℝ) : EReal) = true :=
    Exact.isFinite_iff.mpr (Exact.finite_coe _)
  have share : (((number - low) / (high - low) : ℝ) : EReal) =
      (((number : EReal) - axis.min) / ((high - low : ℝ) : EReal) : EReal) := by
    rw [Exact.div_eq _ nonzero, isLow, ← EReal.coe_sub, ← EReal.coe_inv, ← EReal.coe_mul,
      div_eq_mul_inv]
  simp only [offset, span, share]
  -- the guard against a range of no width or without end
  exact if_neg (by simp [BEq.beq, finite, nonzero, -EReal.coe_sub])

/-- An axis that reaches an infinity shows zero to one, whatever else it reaches. -/
theorem Covers.fix_of_infinite {axis : Axis EReal} {values : Set EReal}
    (covers : axis.Covers values) (linear : axis.options.scale = .linear)
    (continuous : axis.isDiscrete = false) {value : EReal} (reached : value ∈ values)
    (infinite : ¬ Exact.Finite value) : axis.fix.min = (0 : ℝ) ∧ axis.fix.max = (1 : ℝ) := by
  have notLog := isLog_of_linear linear
  obtain ⟨belowZero, aboveZero⟩ := covers.around ⟨value, reached⟩
  have lower := covers.least.2 (.inr reached)
  have upper := covers.greatest.2 (.inr reached)
  rw [inf_of_le_left belowZero] at lower
  rw [sup_of_le_left aboveZero] at upper
  have unbounded : ¬ (Exact.Finite axis.min ∧ Exact.Finite axis.max) := by
    rintro ⟨least, greatest⟩
    exact infinite ⟨ne_top_of_le_ne_top greatest.1 upper, ne_bot_of_le_ne_bot least.2 lower⟩
  have complete : axis.completeRange = (0, 1) := by
    rw [← Exact.isFinite_iff, ← Exact.isFinite_iff, ← Bool.and_eq_true] at unbounded
    have guard : (!Scalar.isFinite axis.min || !Scalar.isFinite axis.max) = true := by
      rw [← Bool.not_and, Bool.not_eq_true', Bool.eq_false_iff]
      exact unbounded
    simp only [completeRange, continuous, notLog, linear, guard, Bool.false_and,
      Bool.false_eq_true, if_false, if_true, Exact.literal_eq, Nat.cast_zero, Nat.cast_one]
  have unit : axis.extendEmpty axis.completeRange = (0, 1) := by
    simp [complete, extendEmpty]
  obtain ⟨minimum, maximum⟩ := fix_bounds covers.unfixed notLog
  rw [unit] at minimum maximum
  exact ⟨by simpa using minimum, by simpa using maximum⟩

theorem Shows.positionOf_within {axis : Axis EReal} {values : Set EReal}
    (shows : axis.Shows values) (linear : axis.isLog = false) (sized : 0 ≤ axis.size)
    {value : EReal} (member : value ∈ insert 0 values) :
    0 ≤ axis.positionOf value ∧ axis.positionOf value ≤ axis.size := by
  obtain ⟨low, high, isLow, isHigh, wide, within⟩ := shows
  obtain ⟨above, below⟩ := within value member
  obtain ⟨number, rfl⟩ := (Exact.finite_of_between above below).exists_real
  have share : 0 ≤ (number - low) / (high - low) ∧ (number - low) / (high - low) ≤ 1 := by
    have above : low ≤ number := EReal.coe_le_coe_iff.mp above
    have below : number ≤ high := EReal.coe_le_coe_iff.mp below
    exact ⟨div_nonneg (sub_nonneg.mpr above) (sub_nonneg.mpr wide.le),
      (div_le_one (sub_pos.mpr wide)).mpr (sub_le_sub_right below low)⟩
  rw [positionOf, linear, if_neg Bool.false_ne_true, offset_eq isLow isHigh wide]
  constructor
  · exact EReal.mul_nonneg (EReal.coe_nonneg.mpr share.1) sized
  · calc _ ≤ (1 : EReal) * axis.size :=
          mul_le_mul_of_nonneg_right (EReal.coe_le_coe share.2) sized
      _ = axis.size := one_mul _

theorem Shows.positionOf_infinite {axis : Axis EReal} {values : Set EReal}
    (shows : axis.Shows values) (linear : axis.isLog = false) (endless : axis.size = ⊤)
    {value : EReal} (member : value ∈ values) (positive : 0 < value) :
    axis.positionOf value = ⊤ := by
  obtain ⟨low, high, isLow, isHigh, wide, within⟩ := shows
  obtain ⟨above, below⟩ := within value (.inr member)
  obtain ⟨number, rfl⟩ := (Exact.finite_of_between above below).exists_real
  have aboveLow : low < number :=
    (EReal.coe_le_coe_iff.mp (within 0 (.inl rfl)).1).trans_lt (EReal.coe_pos.mp positive)
  rw [positionOf, linear, if_neg Bool.false_ne_true, offset_eq isLow isHigh wide, endless]
  exact EReal.coe_mul_top_of_pos (div_pos (sub_pos.mpr aboveLow) (sub_pos.mpr wide))

end Axis
end CanvasChart
