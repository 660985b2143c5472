import Mathlib.Data.List.TakeWhile
import CanvasChart.Proofs.Axis.Coverage
import CanvasChart.Proofs.Exact.Powers
import CanvasChart.Proofs.Section.TickParts

set_option autoImplicit false

/-! Where the parts of an axis stand along it. None stands beyond the end, and only minor marks
stand before the start: those of a tick that is followed by a lower one, or that is the last and
comes after a higher one. They run back from their tick, and nothing stops them. -/

namespace CanvasChart

/-! ### On the axis -/

/-- The offset is at most half a pixel beyond the ends of the axis. -/
@[mk_iff]
structure Axis.Carries (axis : Axis EReal) (offset : EReal) : Prop where
  above : ((-(1 / 2) : ℝ) : EReal) ≤ offset
  below : offset ≤ axis.size + ((1 / 2 : ℝ) : EReal)

theorem Axis.Carries.finite {axis : Axis EReal} {offset : EReal} (carries : axis.Carries offset)
    (bounded : axis.size ≠ ⊤) : Exact.Finite offset :=
  ⟨ne_top_of_le_ne_top (EReal.add_ne_top bounded (EReal.coe_ne_top _)) carries.below,
    ne_bot_of_le_ne_bot (EReal.coe_ne_bot _) carries.above⟩

namespace Ticks

def Piece.IsMinor : Piece → Prop
  | .minorGridLine | .minorMark => True
  | .gridLine | .mark | .label _ => False

variable [NumberTexts] {axis : Axis EReal}

/-- A minor part of a tick whose spacing is negative. It stands before its tick. -/
def Recedes (axis : Axis EReal) (part : Part EReal) : Prop :=
  part.piece.IsMinor ∧ ∃ index position spacing, (offsets axis)[index]? = some position ∧
    axis.Carries position ∧ spacingAt? (offsets axis) index = some spacing ∧ spacing < 0 ∧
      part.offset ≤ position

theorem half_eq : (0.5 : EReal) = ((1 / 2 : ℝ) : EReal) := by
  change ((0.5 : ℝ) : EReal) = _
  norm_num

theorem isOnAxis_iff {position : EReal} : isOnAxis axis position = true ↔ axis.Carries position := by
  simp [isOnAxis, Axis.carries_iff, half_eq]

theorem carries_of_within {offset : EReal} (above : 0 ≤ offset) (below : offset ≤ axis.size) :
    axis.Carries offset := by
  refine ⟨le_trans ?_ above, below.trans (le_add_of_nonneg_right ?_)⟩
  · exact_mod_cast (by norm_num : (-(1 / 2) : ℝ) ≤ 0)
  · exact_mod_cast (by norm_num : (0 : ℝ) ≤ 1 / 2)

/-! ### Minor marks -/

/-- Minor marks stop at the end of the axis. The sign of the spacing tells on which side of their
tick they are. -/
private theorem minorPositions_bounds {position spacing minor : EReal}
    (member : minor ∈ minorPositions axis position spacing) :
    minor ≤ axis.size ∧ (0 ≤ spacing → position ≤ minor) ∧ (spacing < 0 → minor ≤ position) := by
  have bounded := List.mem_takeWhile_imp member
  obtain ⟨index, listed, rfl⟩ := List.mem_map.mp ((List.takeWhile_sublist _).mem member)
  have parts : ((Nat.min axis.options.minorTicks.toNat maxMinorTicks : ℕ) : EReal) ≠ 0 := by
    have some := List.mem_range.mp listed
    exact_mod_cast (by omega : Nat.min axis.options.minorTicks.toNat maxMinorTicks ≠ 0)
  have share : 0 ≤ ((Nat.min axis.options.minorTicks.toNat maxMinorTicks : ℕ) : EReal)⁻¹ :=
    EReal.inv_nonneg_of_nonneg (Nat.cast_nonneg' _)
  have count : 0 ≤ ((index + 1 : ℕ) : EReal) := Nat.cast_nonneg' _
  simp only [Exact.ofNat_eq, Exact.div_eq _ parts] at bounded ⊢
  refine ⟨by simpa using bounded, fun forward => ?_, fun backward => ?_⟩
  · exact le_add_of_nonneg_right (EReal.mul_nonneg count (EReal.mul_nonneg forward share))
  · refine add_le_of_nonpos_right (mul_nonpos_of_nonneg_of_nonpos count ?_)
    exact mul_nonpos_of_nonpos_of_nonneg backward.le share

private theorem minorPositions_coe (divided : axis.options.minorTicks.toNat ≠ 0)
    (position spacing : ℝ) :
    let count := Nat.min axis.options.minorTicks.toNat maxMinorTicks
    minorPositions axis (position : EReal) (spacing : EReal) =
      ((List.range (count - 1)).map fun index =>
        ((position + (index + 1 : ℕ) * (spacing / count) : ℝ) : EReal)).takeWhile
          fun minor => !decide (axis.size < minor) := by
  intro count
  have nonzero : (count : ℝ) ≠ 0 := by
    have some : count ≠ 0 := Nat.pos_iff_ne_zero.mp (Nat.lt_min.mpr ⟨by omega, by decide⟩)
    exact_mod_cast some
  have step : @HDiv.hDiv EReal EReal EReal (@instHDiv EReal Scalar.toDiv) (spacing : EReal)
      (Scalar.ofNat count) = ((spacing / count : ℝ) : EReal) := Exact.div_coe spacing nonzero
  simp only [minorPositions, count, step, EReal.coe_add, EReal.coe_mul]
  rfl

omit [NumberTexts] in
private theorem getElem?_le {β : Type} [LE β] {list : List β} (ascending : list.Pairwise (· ≤ ·))
    {index later : Nat} (before : index < later) {first second : β}
    (left : list[index]? = some first) (right : list[later]? = some second) :
    first ≤ second := by
  obtain ⟨bound, rfl⟩ := List.getElem?_eq_some_iff.mp left
  obtain ⟨laterBound, rfl⟩ := List.getElem?_eq_some_iff.mp right
  exact List.pairwise_iff_getElem.mp ascending index later bound laterBound before

private theorem spacingAt?_nonneg {positions : List EReal} (ascending : positions.Pairwise (· ≤ ·))
    {index : Nat} {position spacing : EReal} (found : positions[index]? = some position)
    (finite : Exact.Finite position) (spaced : spacingAt? positions index = some spacing) :
    0 ≤ spacing := by
  unfold spacingAt? at spaced
  rw [found] at spaced
  cases next : positions[index + 1]? with
  | some after =>
      rw [next] at spaced
      cases spaced
      have grows := getElem?_le ascending (Nat.lt_succ_self index) found next
      exact (EReal.sub_nonneg (.inr finite.1) (.inr finite.2)).mpr grows
  | none =>
      -- the last tick looks back to the one before it
      rw [next] at spaced
      cases index with
      | zero => cases spaced
      | succ before =>
          obtain ⟨previous, found', rfl⟩ := Option.map_eq_some_iff.mp spaced
          have grows := getElem?_le ascending (Nat.lt_succ_self before) found' found
          exact (EReal.sub_nonneg (.inl finite.1) (.inl finite.2)).mpr grows

private theorem not_recedes (ascending : (offsets axis).Pairwise (· ≤ ·)) (bounded : axis.size ≠ ⊤)
    (part : Part EReal) : ¬ Recedes axis part := by
  rintro ⟨_minor, index, position, spacing, found, carried, spaced, negative, _before⟩
  exact negative.not_ge (spacingAt?_nonneg ascending found (carried.finite bounded) spaced)

/-! ### All parts -/

private theorem tickParts_offset {index : Nat} {position : EReal}
    (found : (offsets axis)[index]? = some position) {part : Part EReal}
    (listed : part ∈ tickParts axis (offsets axis) index position) :
    part.offset ≤ axis.size + ((1 / 2 : ℝ) : EReal) ∧
      (((-(1 / 2) : ℝ) : EReal) ≤ part.offset ∨ Recedes axis part) := by
  obtain ⟨onAxis, ⟨rfl, _shown⟩ | ⟨_divided, minor⟩ | rfl⟩ := (mem_tickParts axis).mp listed
  case inl | inr.inr =>
    exact ⟨(isOnAxis_iff.mp onAxis).below, .inl (isOnAxis_iff.mp onAxis).above⟩
  case inr.inl =>
    obtain ⟨spacing, spaced, offset, placed, of⟩ := (mem_minorParts axis).mp minor
    obtain ⟨stops, forward, backward⟩ := minorPositions_bounds placed
    have whole : part.piece.IsMinor ∧ part.offset = offset := by
      obtain rfl | ⟨_grid, rfl⟩ := (mem_minorTickParts axis).mp of <;> exact ⟨trivial, rfl⟩
    obtain ⟨isMinor, rfl⟩ := whole
    refine ⟨stops.trans (le_add_of_nonneg_right ?_), ?_⟩
    · exact_mod_cast (by norm_num : (0 : ℝ) ≤ 1 / 2)
    · rcases le_or_gt 0 spacing with positive | negative
      · exact .inl ((isOnAxis_iff.mp onAxis).above.trans (forward positive))
      · exact .inr ⟨isMinor, index, position, spacing, found, isOnAxis_iff.mp onAxis, spaced,
          negative, backward negative⟩

private theorem labelParts_carries {positions : List EReal} {part : Part EReal}
    (listed : part ∈ labelParts axis positions) : axis.Carries part.offset := by
  obtain ⟨_shown, entry, _paired, onAxis, rfl⟩ := (mem_labelParts axis).mp listed
  exact isOnAxis_iff.mp onAxis

private theorem cellSize_eq (filled : axis.labels.length ≠ 0) :
    cellSize axis = axis.size * (axis.labels.length : EReal)⁻¹ := by
  have nonzero : (axis.labels.length : EReal) ≠ 0 := by exact_mod_cast filled
  rw [cellSize, Exact.ofNat_eq, Exact.div_eq _ nonzero]

theorem cellSize_nonneg (sized : 0 ≤ axis.size) (filled : axis.labels.length ≠ 0) :
    0 ≤ cellSize axis := by
  rw [cellSize_eq filled]
  exact EReal.mul_nonneg sized (EReal.inv_nonneg_of_nonneg (Nat.cast_nonneg' _))

theorem boundary_within (sized : 0 ≤ axis.size) {index : Nat} (filled : axis.labels.length ≠ 0)
    (bound : index ≤ axis.labels.length) :
    0 ≤ boundary axis index ∧ boundary axis index ≤ axis.size := by
  have cell := cellSize_nonneg sized filled
  refine ⟨EReal.mul_nonneg (Nat.cast_nonneg' _) cell, ?_⟩
  calc (index : EReal) * cellSize axis
      ≤ axis.labels.length * cellSize axis :=
        mul_le_mul_of_nonneg_right (Nat.cast_le.mpr bound) cell
    _ = axis.size := by
        rw [cellSize_eq filled, ← div_eq_mul_inv]
        exact EReal.mul_div_cancel (EReal.natCast_ne_bot _) (EReal.natCast_ne_top _)
          (by exact_mod_cast filled)

private theorem discreteParts_carries (sized : 0 ≤ axis.size) {part : Part EReal}
    (listed : part ∈ discreteParts axis) : axis.Carries part.offset := by
  obtain ⟨filled, ⟨index, bound, drawn⟩ | label⟩ := (mem_discreteParts axis).mp listed
  case inr => exact labelParts_carries label
  case inl =>
    obtain ⟨above, below⟩ := boundary_within sized filled bound
    have onBoundary : part.offset = boundary axis index := by
      simp only [boundaryParts, List.mem_append, List.mem_ite_nil_right, List.mem_singleton] at drawn
      rcases drawn with ⟨_grid, rfl⟩ | rfl <;> rfl
    rw [onBoundary]
    exact carries_of_within above below

theorem parts_offset (sized : 0 ≤ axis.size) {part : Part EReal} (listed : part ∈ parts axis) :
    part.offset ≤ axis.size + ((1 / 2 : ℝ) : EReal) ∧
      (((-(1 / 2) : ℝ) : EReal) ≤ part.offset ∨ Recedes axis part) := by
  unfold parts at listed
  split at listed
  case isTrue =>
    obtain ⟨above, below⟩ := discreteParts_carries sized listed
    exact ⟨below, .inl above⟩
  case isFalse =>
    obtain ⟨index, position, found, tick⟩ | label := (mem_continuousParts axis).mp listed
    · exact tickParts_offset found tick
    · obtain ⟨above, below⟩ := labelParts_carries label
      exact ⟨below, .inl above⟩

/-! ### A ruled axis -/

noncomputable def ruled (options : AxisOptions EReal) (ticks : List ℝ) : Axis EReal :=
  { Axis.new .bottom .x .left options with
    min := (0 : ℝ), max := ((10 : ℕ) : ℝ), rmin := (0 : ℝ), rmax := ((10 : ℕ) : ℝ)
    labels := .values (ticks.map Real.toEReal), fixed := true
    size := ((200 : ℕ) : ℝ), crossSize := ((100 : ℕ) : ℝ) }

noncomputable def ruledScene (options : AxisOptions EReal) (ticks : List ℝ) : Scene EReal :=
  ⟨ChartOptions.standard, { AxisSet.empty with bottom := some (ruled options ticks) }, []⟩

noncomputable def halved : AxisOptions EReal := { AxisOptions.standard with minorTicks := 2 }

section Ruled

variable {options : AxisOptions EReal} {ticks : List ℝ}

theorem offsets_ruled (linear : options.scale = .linear) :
    offsets (ruled options ticks) = ticks.map fun number => ((20 * number : ℝ) : EReal) := by
  change (ticks.map Real.toEReal).map (ruled options ticks).positionOf = _
  rw [List.map_map]
  refine List.map_congr_left fun number _member => ?_
  have notLog : (ruled options ticks).isLog = false := Axis.isLog_of_linear linear
  have least : (ruled options ticks).min = (0 : ℝ) := rfl
  have greatest : (ruled options ticks).max = (10 : ℝ) := rfl
  change (ruled options ticks).positionOf (number : EReal) = _
  rw [Axis.positionOf, notLog, if_neg Bool.false_ne_true,
    Axis.offset_eq least greatest (by norm_num) number]
  change ((_ : ℝ) : EReal) * ((200 : ℝ) : EReal) = _
  rw [← EReal.coe_mul]
  congr 1
  ring

/-- The minor mark of a tick is halfway to where its spacing leads, if the axis does not end
before. -/
theorem minorMark_mem_ruled (divided : options.minorTicks = 2) {index : Nat}
    {position spacing : ℝ} (found : (offsets (ruled options ticks))[index]? = some ↑position)
    (within : 0 ≤ position ∧ position ≤ 200)
    (spaced : spacingAt? (offsets (ruled options ticks)) index = some ↑spacing)
    (stops : position + spacing / 2 ≤ 200) :
    ⟨.minorMark, ((position + spacing / 2 : ℝ) : EReal)⟩ ∈ parts (ruled options ticks) := by
  have parts : (ruled options ticks).options.minorTicks.toNat = 2 := by
    change options.minorTicks.toNat = 2
    rw [divided]
    rfl
  have count : Nat.min (ruled options ticks).options.minorTicks.toNat maxMinorTicks = 2 := by
    rw [parts]
    rfl
  have only : minorPositions (ruled options ticks) (position : EReal) (spacing : EReal) =
      [((position + spacing / 2 : ℝ) : EReal)] := by
    have kept : (!decide ((ruled options ticks).size < ((position + spacing / 2 : ℝ) : EReal))) =
        true := (Bool.not_eq_true' _).mpr (decide_eq_false (not_lt.mpr (EReal.coe_le_coe stops)))
    have first : (position + (0 + 1 : ℕ) * (spacing / (2 : ℕ)) : ℝ) = position + spacing / 2 := by
      norm_num
    rw [minorPositions_coe (by rw [parts]; decide), count]
    change ([((position + (0 + 1 : ℕ) * (spacing / (2 : ℕ)) : ℝ) : EReal)]).takeWhile _ = _
    rw [first, List.takeWhile_eq_self_iff]
    exact List.forall_mem_singleton.mpr kept
  refine (mem_continuousParts _).mpr (.inl ⟨index, position, found, ?_⟩)
  refine (mem_tickParts _).mpr ⟨isOnAxis_iff.mpr ?_, .inr (.inl ⟨parts ▸ Nat.one_lt_two, ?_⟩)⟩
  · exact carries_of_within (EReal.coe_nonneg.mpr within.1) (EReal.coe_le_coe within.2)
  · refine (mem_minorParts _).mpr ⟨_, spaced, _, ?_, (mem_minorTickParts _).mpr (.inl rfl)⟩
    rw [only]
    exact List.mem_singleton_self _

end Ruled

/-! ### Drawing -/

/-- A tick section records parts on the axis, and besides them nothing but minor marks before its
start that run back from their ticks. Where no tick is lower than the one before it, there are none
of these. -/
theorem draw_onAxis {scene : Scene EReal} {side : Side} {axis : Axis EReal}
    (held : scene.axes.get? side = some axis) (sized : 0 ≤ axis.size) (plotArea : Rect EReal)
    (state : GraphicsState EReal) :
    (draw scene side plotArea).Draws state state
        ((parts axis).map
          (Part.op axis side (Frame.forAxis side axis.companion plotArea) state)) ∧
      (∀ part ∈ parts axis, axis.Carries part.offset ∨
        Recedes axis part ∧ part.offset ≤ axis.size + ((1 / 2 : ℝ) : EReal)) ∧
      ((offsets axis).Pairwise (· ≤ ·) → axis.size ≠ ⊤ →
        ∀ part ∈ parts axis, axis.Carries part.offset) := by
  refine ⟨draw_draws held plotArea state, fun part listed => ?_, ?_⟩
  · obtain ⟨below, above | recedes⟩ := parts_offset sized listed
    · exact .inl ⟨above, below⟩
    · exact .inr ⟨recedes, below⟩
  · intro ascending bounded part listed
    obtain ⟨below, above | recedes⟩ := parts_offset sized listed
    · exact ⟨above, below⟩
    · exact absurd recedes (not_recedes ascending bounded part)

omit [NumberTexts] in
theorem draw_onAxis_ruled :
    letI := Exact.wholeTexts
    let axis := ruled halved [0, 10]
    (ruledScene halved [0, 10]).axes.get? .bottom = some axis ∧ 0 ≤ axis.size ∧
      (offsets axis).Pairwise (· ≤ ·) ∧ axis.size ≠ ⊤ ∧
      ∀ plotArea state,
        (draw (ruledScene halved [0, 10]) .bottom plotArea).Draws state state ((parts axis).map
          (Part.op axis .bottom (Frame.forAxis .bottom .left plotArea) state)) ∧
        ∀ part ∈ parts axis, axis.Carries part.offset := by
  let _texts := Exact.wholeTexts
  intro axis
  have sized : 0 ≤ axis.size := EReal.coe_nonneg.mpr (by norm_num)
  have ascending : (offsets axis).Pairwise (· ≤ ·) := by
    rw [offsets_ruled rfl]
    refine List.pairwise_pair.mpr (EReal.coe_le_coe ?_)
    norm_num
  have bounded : axis.size ≠ ⊤ := EReal.coe_ne_top 200
  have held : (ruledScene halved [0, 10]).axes.get? .bottom = some axis := rfl
  refine ⟨held, sized, ascending, bounded, fun plotArea state => ?_⟩
  obtain ⟨drawn, _all, carried⟩ := draw_onAxis held sized plotArea state
  exact ⟨drawn, carried ascending bounded⟩

omit [NumberTexts] in
/-- Below a higher tick a minor mark stands before the start of the axis. -/
theorem not_draw_onAxis :
    letI := Exact.wholeTexts
    ¬ ∀ (scene : Scene EReal) (side : Side) (axis : Axis EReal),
      scene.axes.get? side = some axis → axis.rmin < axis.rmax → 0 ≤ axis.size →
        ∀ part ∈ parts axis, axis.Carries part.offset := by
  let _texts := Exact.wholeTexts
  intro onAxis
  let axis := ruled halved [10, 0]
  have listed : ⟨.minorMark, ((20 * 0 + (20 * 0 - 20 * 10) / 2 : ℝ) : EReal)⟩ ∈ parts axis := by
    have last : (offsets axis)[1]? = some ((20 * 0 : ℝ) : EReal) := by
      rw [offsets_ruled rfl]
      rfl
    refine minorMark_mem_ruled rfl last (by norm_num) ?_ (by norm_num)
    rw [offsets_ruled rfl]
    rfl
  have wide : axis.rmin < axis.rmax := EReal.coe_lt_coe_iff.mpr (by norm_num)
  have sized : 0 ≤ axis.size := EReal.coe_nonneg.mpr (by norm_num)
  have above := (onAxis (ruledScene halved [10, 0]) .bottom axis rfl wide sized _ listed).above
  exact absurd (EReal.coe_le_coe_iff.mp above) (by norm_num)

end Ticks
end CanvasChart
