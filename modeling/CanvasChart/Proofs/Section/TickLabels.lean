import CanvasChart.Proofs.Axis.Cells
import CanvasChart.Proofs.Section.TickRoom

set_option autoImplicit false

/-! Labels and what they stand at. Along a continuous axis the labels are those of the marks, one
each; along a discrete axis there is one in the middle of every cell, where the points of its
category are. A label stands on the line of its mark, further out than this. -/

namespace CanvasChart

namespace Ticks

section Listed

variable {α : Type} [Scalar α] {axis : Axis α}

/-! ### Marks and labels among the parts -/

def Part.mark? (part : Part α) : Option α :=
  match part.piece with
  | .mark => some part.offset
  | .gridLine | .minorGridLine | .minorMark | .label _ => none

def Part.label? (part : Part α) : Option (String × α) :=
  match part.piece with
  | .label text => some (text, part.offset)
  | .gridLine | .minorGridLine | .mark | .minorMark => none

def shownValues (axis : Axis α) : List α :=
  (values axis).filter fun value => isOnAxis axis (axis.positionOf value)

omit [Scalar α] in
private theorem minorTickParts_marks (axis : Axis α) (offset : α) :
    (minorTickParts axis offset).filterMap Part.mark? = [] := by
  unfold minorTickParts
  split <;> rfl

private theorem minorParts_marks (positions : List α) (index : Nat) (position : α) :
    (minorParts axis positions index position).filterMap Part.mark? = [] := by
  unfold minorParts
  split
  · simp [List.filterMap_flatMap, minorTickParts_marks]
  · rfl

private theorem tickParts_marks (positions : List α) (index : Nat) (position : α) :
    (tickParts axis positions index position).filterMap Part.mark? =
      if isOnAxis axis position then [position] else [] := by
  have grid (shown : Bool) : (if shown then [(⟨.gridLine, position⟩ : Part α)] else []).filterMap
      Part.mark? = [] := by cases shown <;> rfl
  have minor : (if 1 < axis.options.minorTicks.toNat then
      minorParts axis positions index position else []).filterMap Part.mark? = [] := by
    split
    · exact minorParts_marks positions index position
    · rfl
  unfold tickParts
  split
  · rw [List.filterMap_append, List.filterMap_append, grid, minor]
    rfl
  · rfl

private theorem boundaryParts_marks (index : Nat) :
    (boundaryParts axis index).filterMap Part.mark? = [boundary axis index] := by
  unfold boundaryParts
  split <;> rfl

private theorem labelParts_marks (positions : List α) :
    (labelParts axis positions).filterMap Part.mark? = [] := by
  rw [List.filterMap_eq_nil_iff]
  intro part listed
  obtain ⟨_shown, _entry, _paired, _onAxis, rfl⟩ := (mem_labelParts axis).mp listed
  rfl

private theorem labelParts_labels (shown : axis.options.showLabels = true) (positions : List α) :
    (labelParts axis positions).filterMap Part.label? =
      (axis.labelTexts.zip positions).filter fun entry => isOnAxis axis entry.2 := by
  rw [labelParts, if_pos shown, List.filterMap_map]
  exact List.filterMap_some

omit [Scalar α] in
private theorem label?_eq_none {part : Part α} (line : ¬ part.piece.IsLabel) :
    part.label? = none := by
  obtain ⟨piece, offset⟩ := part
  cases piece with
  | label text => exact absurd trivial line
  | gridLine | minorGridLine | mark | minorMark => rfl

private theorem tickParts_labels (positions : List α) (index : Nat) (position : α) :
    (tickParts axis positions index position).filterMap Part.label? = [] := by
  rw [List.filterMap_eq_nil_iff]
  exact fun part tick => label?_eq_none (not_isLabel_of_mem_tickParts tick)

/-! ### Continuous axes -/

private theorem offsets_filter : (offsets axis).filter (isOnAxis axis) =
    (shownValues axis).map axis.positionOf := by
  rw [offsets, List.filter_map]
  rfl

private theorem continuousParts_marks : (continuousParts axis).filterMap Part.mark? =
    (shownValues axis).map axis.positionOf := by
  rw [continuousParts, List.filterMap_append, labelParts_marks, List.append_nil,
    List.filterMap_flatMap]
  simp only [tickParts_marks]
  calc _ = ((offsets axis).zipIdx.map Prod.fst).flatMap
        fun position => if isOnAxis axis position then [position] else [] := by
        rw [List.flatMap_map]
    _ = (offsets axis).filter (isOnAxis axis) := by
        rw [List.zipIdx_map_fst, ← filter_map_eq_flatMap _ _ fun position => position,
          List.map_id']
    _ = (shownValues axis).map axis.positionOf := offsets_filter

/-- The labels are those of the shown values, each at the offset of its mark. -/
private theorem continuousParts_labels (shown : axis.options.showLabels = true) :
    (continuousParts axis).filterMap Part.label? =
      (shownValues axis).map fun value =>
        (axis.options.labelFormat.text value, axis.positionOf value) := by
  rw [continuousParts, List.filterMap_append, List.filterMap_flatMap]
  simp only [tickParts_labels]
  rw [labelParts_labels shown, List.flatMap_eq_nil_iff.mpr fun _entry _paired => rfl,
    List.nil_append]
  unfold offsets shownValues values Axis.labelTexts
  cases axis.labels with
  | categories names => rw [List.map_nil, List.zip_nil_right]; rfl
  | values list => rw [List.zip_map', List.filter_map]; rfl

/-! ### Discrete axes -/

private theorem discreteParts_marks (filled : axis.labels.length ≠ 0) :
    (discreteParts axis).filterMap Part.mark? =
      (List.range (axis.labels.length + 1)).map (boundary axis) := by
  rw [discreteParts, if_neg filled, List.filterMap_append, labelParts_marks, List.append_nil]
  simp only [List.filterMap_flatMap, boundaryParts_marks]
  exact List.flatMap_pure_eq_map _ _

private theorem discreteParts_labels (shown : axis.options.showLabels = true)
    (filled : axis.labels.length ≠ 0) :
    (discreteParts axis).filterMap Part.label? =
      (axis.labelTexts.zip ((List.range axis.labels.length).map (cellCenter axis))).filter
        fun entry => isOnAxis axis entry.2 := by
  have lines : ((List.range (axis.labels.length + 1)).flatMap (boundaryParts axis)).filterMap
      Part.label? = [] := by
    rw [List.filterMap_eq_nil_iff]
    intro part listed
    obtain ⟨index, _bound, drawn⟩ := List.mem_flatMap.mp listed
    exact label?_eq_none (not_isLabel_of_mem_boundaryParts drawn)
  rw [discreteParts, if_neg filled, List.filterMap_append, lines, List.nil_append,
    labelParts_labels shown]

omit [Scalar α] in
private theorem zip_range_map {β : Type} (list : List β) (offset : Nat → α) :
    list.zip ((List.range list.length).map offset) =
      list.mapIdx fun index item => (item, offset index) := by
  apply List.ext_getElem
  · simp
  · simp

private theorem labelTexts_eq_names (discrete : axis.names.length = axis.labels.length) :
    axis.labelTexts = axis.names := by
  unfold Axis.names at discrete ⊢
  unfold Axis.labelTexts
  cases labels : axis.labels with
  | categories names => rfl
  | values list =>
      rw [labels] at discrete
      rw [List.length_eq_zero_iff.mp discrete.symm]
      rfl

end Listed

variable [NumberTexts] {axis : Axis EReal} {names : List String}

private theorem cellCenter_eq (axis : Axis EReal) (index : Nat) :
    cellCenter axis index = ((index : EReal) + ((1 / 2 : ℝ) : EReal)) * cellSize axis := by
  rw [cellCenter, half_eq]
  rfl

private theorem cellCenter_halfway (sized : 0 ≤ axis.size) (filled : axis.labels.length ≠ 0)
    (index : Nat) :
    (boundary axis index ≤ cellCenter axis index ∧
      cellCenter axis index ≤ boundary axis (index + 1)) ∧
      cellCenter axis index + cellCenter axis index =
        boundary axis index + boundary axis (index + 1) := by
  have cell := cellSize_nonneg sized filled
  have next : ((index + 1 : ℕ) : EReal) =
      (index : EReal) + ((1 / 2 : ℝ) : EReal) + ((1 / 2 : ℝ) : EReal) := by
    rw [add_assoc, ← EReal.coe_add, Nat.cast_add, Nat.cast_one]
    norm_num
  have half : 0 ≤ ((1 / 2 : ℝ) : EReal) := EReal.coe_nonneg.mpr (by norm_num)
  have count : 0 ≤ (index : EReal) := Nat.cast_nonneg' _
  rw [cellCenter_eq]
  refine ⟨⟨?_, ?_⟩, ?_⟩
  · exact mul_le_mul_of_nonneg_right (le_add_of_nonneg_right half) cell
  · rw [boundary, Exact.ofNat_eq, next]
    exact mul_le_mul_of_nonneg_right (le_add_of_nonneg_right half) cell
  · have whole : 0 ≤ (index : EReal) + ((1 / 2 : ℝ) : EReal) := add_nonneg count half
    rw [boundary, boundary, Exact.ofNat_eq, Exact.ofNat_eq, next,
      ← EReal.right_distrib_of_nonneg whole whole,
      ← EReal.right_distrib_of_nonneg count (add_nonneg whole half)]
    congr 1
    rw [add_assoc, add_comm ((1 / 2 : ℝ) : EReal)]

private theorem cellCenter_carries (sized : 0 ≤ axis.size) {index : Nat}
    (bound : index < axis.labels.length) : axis.Carries (cellCenter axis index) := by
  have filled : axis.labels.length ≠ 0 := Nat.ne_zero_of_lt bound
  obtain ⟨⟨above, below⟩, _halfway⟩ := cellCenter_halfway sized filled index
  exact carries_of_within ((boundary_within sized filled bound.le).1.trans above)
    (below.trans (boundary_within sized filled bound).2)

private theorem discreteParts_names (shown : axis.options.showLabels = true)
    (named : axis.Named names)
    (sized : 0 ≤ axis.size) : (discreteParts axis).filterMap Part.label? =
      names.mapIdx fun index name => (name, cellCenter axis index) := by
  by_cases none : axis.labels.length = 0
  · have empty : names = [] := List.length_eq_zero_iff.mp (named.length_eq.symm.trans none)
    rw [discreteParts, if_pos none, empty]
    rfl
  · have texts : axis.labelTexts = names :=
      (labelTexts_eq_names (named.names_eq ▸ named.length_eq.symm)).trans named.names_eq
    rw [discreteParts_labels shown none, texts, named.length_eq, zip_range_map,
      List.filter_eq_self]
    intro entry listed
    obtain ⟨index, bound, rfl⟩ := List.mem_mapIdx.mp listed
    exact isOnAxis_iff.mpr (cellCenter_carries sized (named.length_eq ▸ bound))

/-- The points of a category are where its label is. -/
private theorem keyPosition_eq_cellCenter (discrete : axis.isDiscrete = true)
    (named : axis.Named names) (distinct : names.Nodup) {index : Nat} {key : Key EReal}
    (found : names[index]? = some key.text) (place count : Nat) :
    axis.keyPosition place key count = cellCenter axis index := by
  obtain ⟨bound, isText⟩ := List.getElem?_eq_some_iff.mp found
  have filled : axis.labels.length ≠ 0 := named.length_eq ▸ Nat.ne_zero_of_lt bound
  have first : axis.categoryIndex? key = some index := by
    rw [named.categoryIndex?_eq, List.findIdx?_eq_some_iff_getElem]
    refine ⟨bound, decide_eq_true isText, fun earlier before => ?_⟩
    rw [decide_eq_true_eq, ← isText, distinct.getElem_inj_iff]
    exact before.ne
  have cell : @HDiv.hDiv EReal EReal EReal (@instHDiv EReal Scalar.toDiv) axis.size
      (Scalar.ofNat (Nat.max axis.labels.length 1)) = cellSize axis := by
    have some : Nat.max axis.labels.length 1 = axis.labels.length :=
      Nat.max_eq_left (Nat.pos_of_ne_zero filled)
    rw [some]
    rfl
  have half (value : EReal) : @HDiv.hDiv EReal EReal EReal (@instHDiv EReal Scalar.toDiv) value
      (Scalar.ofNat 2) = ((1 / 2 : ℝ) : EReal) * value := by
    rw [Exact.ofNat_eq, Exact.div_eq _ (by norm_num), mul_comm, ← EReal.coe_natCast,
      ← EReal.coe_inv]
    norm_num
  rw [Axis.keyPosition, if_pos discrete, Axis.slot, if_pos discrete]
  simp only [first, Option.getD_some, cell]
  rw [cellCenter_eq, EReal.right_distrib_of_nonneg (Nat.cast_nonneg' _)
    (EReal.coe_nonneg.mpr (by norm_num))]
  exact congrArg _ (half (cellSize axis))

end Ticks

/-! ### Finite maps -/

structure Matrix.Finite (matrix : Matrix EReal) : Prop where
  a : Exact.Finite matrix.a
  b : Exact.Finite matrix.b
  c : Exact.Finite matrix.c
  d : Exact.Finite matrix.d
  e : Exact.Finite matrix.e
  f : Exact.Finite matrix.f

theorem Matrix.Finite.exists_real {matrix : Matrix EReal} (finite : matrix.Finite) :
    ∃ a b c d e f : ℝ, matrix = ⟨a, b, c, d, e, f⟩ := by
  obtain ⟨a, isA⟩ := finite.a.exists_real
  obtain ⟨b, isB⟩ := finite.b.exists_real
  obtain ⟨c, isC⟩ := finite.c.exists_real
  obtain ⟨d, isD⟩ := finite.d.exists_real
  obtain ⟨e, isE⟩ := finite.e.exists_real
  obtain ⟨f, isF⟩ := finite.f.exists_real
  exact ⟨a, b, c, d, e, f, by rw [← isA, ← isB, ← isC, ← isD, ← isE, ← isF]⟩

variable [NumberTexts]

/-- Finite maps compose. With infinities products do not distribute over sums. -/
theorem Matrix.Finite.multiply_apply {first second : Matrix EReal} (outer : first.Finite)
    (inner : second.Finite) (x y : ℝ) :
    (first.multiply second).apply ⟨x, y⟩ = first.apply (second.apply ⟨x, y⟩) := by
  obtain ⟨a, b, c, d, e, f, rfl⟩ := outer.exists_real
  obtain ⟨a', b', c', d', e', f', rfl⟩ := inner.exists_real
  simp only [Matrix.multiply, Matrix.apply, ← EReal.coe_mul, ← EReal.coe_add]
  congr 2 <;> ring

theorem Frame.forAxis_finite {area : Rect EReal} (edges : ∀ side, Exact.Finite (area.edge side))
    (side companion : Side) : (forAxis side companion area).matrix.Finite := by
  have column (rightmost : Prop) [Decidable rightmost] :
      Exact.Finite (if rightmost then area.right else area.x) := by
    split
    · exact edges .right
    · exact edges .left
  have row (topmost : Prop) [Decidable topmost] :
      Exact.Finite (if topmost then area.y else area.bottom) := by
    split
    · exact edges .top
    · exact edges .bottom
  have zero : Exact.Finite (Scalar.ofNat 0) := Exact.finite_natCast 0
  have one : Exact.Finite (Scalar.ofNat 1) := Exact.finite_natCast 1
  have minusOne : Exact.Finite (-Scalar.ofNat 1) := by
    have same : (-Scalar.ofNat 1 : EReal) = ((-1 : ℝ) : EReal) := by simp
    exact same ▸ Exact.finite_coe (-1)
  have along : Exact.Finite (along side companion : Point EReal).x ∧
      Exact.Finite (Frame.along side companion : Point EReal).y := by
    unfold Frame.along
    split <;> split <;> first
      | exact ⟨one, zero⟩ | exact ⟨minusOne, zero⟩ | exact ⟨zero, one⟩ | exact ⟨zero, minusOne⟩
  have outward : Exact.Finite side.outwardNormal.1 ∧ Exact.Finite side.outwardNormal.2 := by
    cases side
    case bottom => exact ⟨zero, one⟩
    case left => exact ⟨minusOne, zero⟩
    case top => exact ⟨zero, minusOne⟩
    case right => exact ⟨one, zero⟩
  exact ⟨along.1, along.2, outward.1, outward.2, column _, row _⟩

namespace Ticks

variable (axis : Axis EReal) (side : Side) (area : Rect EReal) (state : GraphicsState EReal)

/-- The point of the canvas at an offset along the axis and at a distance out from its line. -/
noncomputable def place (offset distance : EReal) : Point EReal :=
  state.matrix.apply ((Frame.forAxis side axis.companion area).toCanvas offset distance)

private theorem markSpan_finite (tickSide : TickSide) {length : EReal}
    (finite : Exact.Finite length) :
    Exact.Finite (markSpan tickSide length).1 ∧ Exact.Finite (markSpan tickSide length).2 := by
  obtain ⟨number, rfl⟩ := finite.exists_real
  have zero : Exact.Finite (Scalar.ofNat 0) := Exact.finite_natCast 0
  cases tickSide
  case outside => exact ⟨zero, Exact.finite_coe number⟩
  case inside => exact ⟨Exact.finite_coe (-number), zero⟩
  case middle =>
    rw [middle_span, ← EReal.coe_natCast, ← EReal.coe_inv, ← EReal.coe_neg, ← EReal.coe_mul,
      ← EReal.coe_mul]
    exact ⟨Exact.finite_coe _, Exact.finite_coe _⟩

variable {axis} in
private theorem mark_carries (sized : 0 ≤ axis.size) {offset : EReal}
    (listed : ⟨.mark, offset⟩ ∈ parts axis) : axis.Carries offset := by
  obtain ⟨below, above | ⟨isMinor, _recedes⟩⟩ := parts_offset sized listed
  · exact ⟨above, below⟩
  · exact absurd isMinor not_false

/-- How marks and labels stand to each other. Both are at points of the canvas that are placed
along the axis and out from its line, the labels at one distance beyond all marks. -/
structure InLine : Prop where
  along : ∀ offset distance,
    ((Frame.forAxis side axis.companion area).toCanvas offset distance).coordinate side =
      area.measured side axis.companion offset
  across : ∀ offset distance,
    ((Frame.forAxis side axis.companion area).toCanvas offset distance).across side =
      side.advance (area.edge side) distance
  mark : state.matrix.Finite → (∀ other, Exact.Finite (area.edge other)) → axis.size ≠ ⊤ →
    Exact.Finite axis.options.tickLength → ∀ offset, ⟨.mark, offset⟩ ∈ parts axis →
      let span := markSpan axis.options.tickSide axis.options.tickLength
      Part.op axis side (Frame.forAxis side axis.companion area) state ⟨.mark, offset⟩ =
        .strokePath [[place axis side area state offset span.1,
          place axis side area state offset span.2]] axis.options.tickColor 1
          (!state.dash.isEmpty)
  label : ∀ text offset,
    Part.op axis side (Frame.forAxis side axis.companion area) state ⟨.label text, offset⟩ =
      .text ⟨text, place axis side area state offset (labelOffset axis.options),
        axis.options.labelFont, axis.options.labelColor, (labelAnchor side).1,
        (labelAnchor side).2, state.matrix.angle⟩
  outer : labelOffset axis.options =
    max (markSpan axis.options.tickSide axis.options.tickLength).2 0 + labelGap

variable {axis} in
theorem inLine (sized : 0 ≤ axis.size) : InLine axis side area state where
  along := Frame.forAxis_toCanvas side axis.companion area
  across := Frame.forAxis_toCanvas_across side axis.companion area
  mark finite edges bounded length offset listed := by
    obtain ⟨number, rfl⟩ := ((mark_carries sized listed).finite bounded).exists_real
    obtain ⟨start, stop⟩ := markSpan_finite axis.options.tickSide length
    have placed {distance : EReal} (real : Exact.Finite distance) :
        (state.matrix.multiply (Frame.forAxis side axis.companion area).matrix).apply
          ⟨number, distance⟩ = place axis side area state number distance := by
      obtain ⟨distance, rfl⟩ := real.exists_real
      exact finite.multiply_apply (Frame.forAxis_finite edges side axis.companion) number distance
    intro span
    rw [← placed start, ← placed stop]
    exact congrArg (DrawOp.strokePath _ axis.options.tickColor · _) Nat.cast_one
  label _text _offset := rfl
  outer := by rw [labelOffset, markReach_eq]

/-- On a continuous axis every value that is shown has a mark and a label, both at its offset. -/
structure LabelledTicks : Prop where
  marks : (parts axis).filterMap Part.mark? = (shownValues axis).map axis.positionOf
  labels : (parts axis).filterMap Part.label? = (shownValues axis).map fun value =>
    (axis.options.labelFormat.text value, axis.positionOf value)

theorem labelledTicks (continuous : axis.isDiscrete = false)
    (shown : axis.options.showLabels = true) : LabelledTicks axis := by
  have listed : parts axis = continuousParts axis := by
    rw [parts, continuous, if_neg Bool.false_ne_true]
  exact ⟨listed ▸ continuousParts_marks, listed ▸ continuousParts_labels shown⟩

/-- On a discrete axis every category has a label halfway between two marks, where its points
are. -/
structure LabelledCells (names : List String) : Prop where
  marks : names ≠ [] → (parts axis).filterMap Part.mark? =
    (List.range (names.length + 1)).map (boundary axis)
  labels : (parts axis).filterMap Part.label? =
    names.mapIdx fun index name => (name, cellCenter axis index)
  halfway : ∀ index < names.length,
    (boundary axis index ≤ cellCenter axis index ∧
      cellCenter axis index ≤ boundary axis (index + 1)) ∧
      cellCenter axis index + cellCenter axis index =
        boundary axis index + boundary axis (index + 1)
  points : names.Nodup → ∀ index (key : Key EReal), names[index]? = some key.text →
    ∀ place count, axis.keyPosition place key count = cellCenter axis index

variable {axis} in
theorem labelledCells {names : List String} (discrete : axis.isDiscrete = true)
    (named : axis.Named names) (sized : 0 ≤ axis.size) (shown : axis.options.showLabels = true) :
    LabelledCells axis names := by
  have listed : parts axis = discreteParts axis := by rw [parts, if_pos discrete]
  have filled {index : Nat} (bound : index < names.length) : axis.labels.length ≠ 0 :=
    named.length_eq ▸ Nat.ne_zero_of_lt bound
  refine ⟨fun nonempty => ?_, listed ▸ discreteParts_names shown named sized, ?_, ?_⟩
  · have some := filled (List.length_pos_iff.mpr nonempty)
    rw [listed, discreteParts_marks some, named.length_eq]
  · exact fun index bound => cellCenter_halfway sized (filled bound) index
  · exact fun distinct index key found place count =>
      keyPosition_eq_cellCenter discrete named distinct found place count

end Ticks
end CanvasChart
