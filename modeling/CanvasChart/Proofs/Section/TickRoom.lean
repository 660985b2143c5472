import CanvasChart.Proofs.Exact.Lengths
import CanvasChart.Proofs.Geometry.Stacks
import CanvasChart.Proofs.Section.TickOffsets

set_option autoImplicit false

/-! How far out from the axis line the parts of an axis reach. A tick section asks for room for
its marks and labels. Minor marks are not asked for, and stand out where they are longer. -/

namespace CanvasChart

/-! ### The extent of what is drawn -/

section Extents

variable {α : Type} [Scalar α]

def Point.across (point : Point α) (side : Side) : α :=
  if side.isHorizontal then point.y else point.x

namespace TextMark

def columns (mark : TextMark α) : α × α :=
  let width := Font.textWidth mark.font mark.text
  match mark.align with
  | .left => (mark.anchor.x, mark.anchor.x + width)
  | .center => (mark.anchor.x - width / 2, mark.anchor.x + width / 2)
  | .right => (mark.anchor.x - width, mark.anchor.x)

def rows (mark : TextMark α) : α × α :=
  let height := Font.height mark.font
  match mark.baseline with
  | .top => (mark.anchor.y, mark.anchor.y + height)
  | .middle => (mark.anchor.y - height / 2, mark.anchor.y + height / 2)
  | .bottom => (mark.anchor.y - height, mark.anchor.y)

/-- The extent of an upright text at a right angle to a side. -/
def depth (mark : TextMark α) (side : Side) : α :=
  if side.isHorizontal then Font.height mark.font else Font.textWidth mark.font mark.text

end TextMark

/-- The points of a path, or opposite corners of a rectangle or of a text. -/
def DrawOp.outline : DrawOp α → List (Point α)
  | .fillRect rect _ _ | .strokeRect rect _ _ | .clearRect rect =>
      [⟨rect.x, rect.y⟩, ⟨rect.right, rect.bottom⟩]
  | .fillPath points _ _ => points
  | .strokePath subpaths _ _ _ => subpaths.flatten
  | .text mark => [⟨mark.columns.1, mark.rows.1⟩, ⟨mark.columns.2, mark.rows.2⟩]

/-- No point of it is further out from a side of an area than a distance. -/
def DrawOp.StaysWithin (op : DrawOp α) (area : Rect α) (side : Side) (distance : α) : Prop :=
  ∀ point ∈ op.outline, side.Outward (point.across side) (side.advance (area.edge side) distance)

theorem TextMark.outline_across {mark : TextMark α} {side : Side}
    (aligned : Ticks.labelAnchor side = (mark.align, mark.baseline)) {point : Point α}
    (corner : point ∈ (DrawOp.text mark).outline) :
    point.across side = mark.anchor.across side ∨
      point.across side = side.advance (mark.anchor.across side) (mark.depth side) := by
  obtain ⟨text, anchor, font, color, align, baseline, angle⟩ := mark
  simp only [DrawOp.outline, List.mem_pair] at corner
  cases side <;> cases aligned <;> rcases corner with rfl | rfl <;>
    first | exact .inl rfl | exact .inr rfl

namespace Ticks

variable (axis : Axis α) (side : Side)

def labelDepth (text : String) : α :=
  if side.isHorizontal then (labelStyle axis.options).height
  else (labelStyle axis.options).width text

/-- How far a piece reaches out from the axis line. -/
def Piece.reach : Piece → α
  | .gridLine | .minorGridLine => 0
  | .mark => (markSpan axis.options.tickSide axis.options.tickLength).2
  | .minorMark => (markSpan axis.options.tickSide axis.options.minorTickLength).2
  | .label text => labelOffset axis.options + labelDepth axis side text

def Piece.IsGridLine : Piece → Prop
  | .gridLine | .minorGridLine => True
  | .mark | .minorMark | .label _ => False

end Ticks
end Extents

variable [NumberTexts]

/-! ### Distances from the axis line -/

namespace Side

variable {side : Side}

private theorem outward_advance_mono (coordinate : EReal) {first second : EReal}
    (less : first ≤ second) :
    side.Outward (side.advance coordinate first) (side.advance coordinate second) := by
  cases side
  case bottom | right => exact add_le_add_right less coordinate
  case top | left => exact EReal.sub_le_sub le_rfl less

private theorem outward_advance_iff {coordinate first second : EReal}
    (finite : Exact.Finite coordinate) :
    side.Outward (side.advance coordinate first) (side.advance coordinate second) ↔
      first ≤ second := by
  obtain ⟨number, rfl⟩ := finite.exists_real
  have cancels := EReal.addLECancellable_coe number
  cases side
  case bottom | right => exact cancels.add_le_add_iff_left
  case top | left =>
    change (number : EReal) - second ≤ number - first ↔ _
    rw [sub_eq_add_neg, sub_eq_add_neg]
    exact cancels.add_le_add_iff_left.trans EReal.neg_le_neg_iff

private theorem advance_add (coordinate : EReal) {first second : EReal} (positive : 0 ≤ first)
    (further : 0 ≤ second) :
    side.advance (side.advance coordinate first) second =
      side.advance coordinate (first + second) := by
  have start : first ≠ ⊥ := ne_bot_of_le_ne_bot EReal.zero_ne_bot positive
  have stop : second ≠ ⊥ := ne_bot_of_le_ne_bot EReal.zero_ne_bot further
  cases side
  case bottom | right => exact add_assoc coordinate first second
  case top | left =>
    change coordinate - first - second = coordinate - (first + second)
    rw [sub_eq_add_neg, sub_eq_add_neg, sub_eq_add_neg, EReal.neg_add (.inl start) (.inr stop),
      sub_eq_add_neg, add_assoc]

end Side

namespace Matrix

theorem shift_apply (dx dy : EReal) (point : Point EReal) :
    (shift dx dy).apply point = ⟨point.x + dx, point.y + dy⟩ := by
  simp [shift, apply]

private theorem shift_multiply_apply (dx dy : EReal) (matrix : Matrix EReal) (point : Point EReal) :
    ((shift dx dy).multiply matrix).apply point = (shift dx dy).apply (matrix.apply point) := by
  rw [shift_apply]
  simp [shift, multiply, apply, add_assoc]

end Matrix

theorem Frame.forAxis_toCanvas_across (side companion : Side) (area : Rect EReal)
    (offset distance : EReal) :
    ((forAxis side companion area).toCanvas offset distance).across side =
      side.advance (area.edge side) distance := by
  have level : (forAxis side companion area).ux.across side = 0 := by
    cases side <;> cases companion <;> simp [forAxis, along, Point.across, Side.isHorizontal]
  have mapped : ((forAxis side companion area).toCanvas offset distance).across side =
      (forAxis side companion area).ux.across side * offset +
        (forAxis side companion area).uy.across side * distance +
          (area.corner side companion).across side := by
    cases side <;> rfl
  rw [mapped, level, zero_mul, zero_add]
  cases side <;> cases companion <;>
    simp [forAxis, Point.across, Side.isHorizontal, Side.outwardNormal, Rect.corner, Rect.edge,
      Side.advance, sub_eq_add_neg, add_comm]

theorem Frame.shift_toCanvas_across (side companion : Side) (area : Rect EReal)
    (dx dy offset distance : EReal) :
    ((Matrix.shift dx dy).apply ((forAxis side companion area).toCanvas offset distance)).across
      side = side.advance ((area.moved dx dy).edge side) distance := by
  have moved : ∀ point : Point EReal, ((Matrix.shift dx dy).apply point).across side =
      point.across side + if side.isHorizontal then dy else dx := by
    intro point
    rw [Matrix.shift_apply]
    cases side <;> rfl
  rw [moved, forAxis_toCanvas_across]
  cases side
  case bottom =>
    change area.y + area.height + distance + dy = area.y + dy + area.height + distance
    rw [add_right_comm, add_right_comm area.y]
  case right =>
    change area.x + area.width + distance + dx = area.x + dx + area.width + distance
    rw [add_right_comm, add_right_comm area.x]
  case top =>
    change area.y - distance + dy = area.y + dy - distance
    rw [sub_eq_add_neg, sub_eq_add_neg, add_right_comm]
  case left =>
    change area.x - distance + dx = area.x + dx - distance
    rw [sub_eq_add_neg, sub_eq_add_neg, add_right_comm]

/-! ### Texts -/

theorem Font.textWidth_nonneg {font : String} (sized : 0 ≤ (height font : EReal)) (text : String) :
    0 ≤ (textWidth font text : EReal) := by
  have ratio : 0 ≤ (glyphWidthRatio : EReal) := EReal.coe_nonneg.mpr (by norm_num)
  exact EReal.mul_nonneg (EReal.mul_nonneg (Nat.cast_nonneg' _) sized) ratio

theorem Font.widestText_bounds (font : String) (texts : List String) :
    0 ≤ (widestText font texts : EReal) ∧
      ∀ text ∈ texts, (textWidth font text : EReal) ≤ widestText font texts := by
  obtain ⟨above, each⟩ := Exact.foldl_max_bounds (texts.map (textWidth font)) ((0 : ℕ) : EReal)
  exact ⟨(Nat.cast_zero (R := EReal)).symm.le.trans above, List.forall_mem_map.mp each⟩

namespace Ticks

variable {axis : Axis EReal} {side : Side}

private theorem labelDepth_nonneg (sized : 0 ≤ (labelStyle axis.options).height (α := EReal))
    (text : String) : 0 ≤ labelDepth axis side text := by
  unfold labelDepth
  split
  · exact sized
  · exact Font.textWidth_nonneg sized text

private theorem labelDepth_le_labelExtent {text : String} (listed : text ∈ axis.labelTexts) :
    labelDepth axis side text ≤ labelExtent axis side := by
  unfold labelDepth labelExtent
  split
  · exact le_rfl
  · exact (Font.widestText_bounds _ _).2 text listed

/-! ### Marks -/

private theorem half_nonneg : 0 ≤ ((2 : ℕ) : EReal)⁻¹ :=
  EReal.inv_nonneg_of_nonneg (Nat.cast_nonneg' 2)

theorem middle_span (length : EReal) : markSpan .middle length =
    (-length * ((2 : ℕ) : EReal)⁻¹, length * ((2 : ℕ) : EReal)⁻¹) :=
  have nonzero : ((2 : ℕ) : EReal) ≠ 0 := by norm_num
  Prod.ext (Exact.div_eq (-length) nonzero) (Exact.div_eq length nonzero)

private theorem markSpan_around (tickSide : TickSide) {length : EReal} (positive : 0 ≤ length) :
    (markSpan tickSide length).1 ≤ 0 ∧ 0 ≤ (markSpan tickSide length).2 := by
  have negative : -length ≤ 0 := EReal.neg_le_zero.mpr positive
  cases tickSide
  case outside => exact ⟨by simp [markSpan], positive⟩
  case inside => exact ⟨negative, by simp [markSpan]⟩
  case middle =>
    rw [middle_span]
    exact ⟨mul_nonpos_of_nonpos_of_nonneg negative half_nonneg, EReal.mul_nonneg positive half_nonneg⟩

private theorem markSpan_mono (tickSide : TickSide) {shorter longer : EReal}
    (less : shorter ≤ longer) : (markSpan tickSide shorter).2 ≤ (markSpan tickSide longer).2 := by
  cases tickSide
  case outside => exact less
  case inside => exact le_rfl
  case middle =>
    rw [middle_span, middle_span]
    exact mul_le_mul_of_nonneg_right less half_nonneg

theorem markReach_eq (options : AxisOptions EReal) :
    markReach options = max (markSpan options.tickSide options.tickLength).2 0 := by
  rw [markReach, Exact.max_eq]
  simp

private theorem labelOffset_eq (options : AxisOptions EReal) :
    labelOffset options = markReach options + ((3 : ℕ) : EReal) := rfl

private theorem labelOffset_nonneg (options : AxisOptions EReal) : 0 ≤ labelOffset options := by
  rw [labelOffset_eq, markReach_eq]
  exact add_nonneg (le_max_right _ _) (Nat.cast_nonneg' 3)

private theorem le_sizeRequired {scene : Scene EReal} (held : scene.axes.get? side = some axis)
    (sized : 0 ≤ (labelStyle axis.options).height (α := EReal)) :
    markReach axis.options ≤ sizeRequired scene side ∧
      (axis.options.showLabels = true → axis.labels.length ≠ 0 →
        labelOffset axis.options + labelExtent axis side ≤ sizeRequired scene side) := by
  have extent : 0 ≤ labelExtent axis side := by
    unfold labelExtent
    split
    · exact sized
    · exact (Font.widestText_bounds _ _).1
  have labelled : labelOffset axis.options + labelExtent axis side ≤
      labelOffset axis.options + labelExtent axis side + labelPadding :=
    le_add_of_nonneg_right (Nat.cast_nonneg' 2)
  have marked : markReach axis.options ≤ labelOffset axis.options + labelExtent axis side :=
    (le_add_of_nonneg_right (Nat.cast_nonneg' 3)).trans (le_add_of_nonneg_right extent)
  unfold sizeRequired
  rw [held]
  dsimp only
  split
  case isTrue none =>
    refine ⟨le_rfl, fun shown filled => absurd none ?_⟩
    simp [shown, filled]
  case isFalse => exact ⟨marked.trans labelled, fun _shown _filled => labelled⟩

private theorem labelTexts_length (axis : Axis EReal) :
    axis.labelTexts.length = axis.labels.length := by
  unfold Axis.labelTexts
  cases axis.labels with
  | categories names => rfl
  | values list => exact List.length_map _

private theorem text_mem_of_label_mem {text : String} {offset : EReal}
    (listed : ⟨.label text, offset⟩ ∈ parts axis) :
    axis.options.showLabels = true ∧ text ∈ axis.labelTexts := by
  obtain ⟨positions, label⟩ := mem_labelParts_of_isLabel (by exact trivial) listed
  obtain ⟨shown, entry, paired, _onAxis, same⟩ := (mem_labelParts axis).mp label
  cases same
  exact ⟨shown, (List.of_mem_zip paired).1⟩

/-- All pieces but minor marks reach no further out than the size that is asked for. -/
private theorem reach_le_sizeRequired {scene : Scene EReal}
    (held : scene.axes.get? side = some axis)
    (sized : 0 ≤ (labelStyle axis.options).height (α := EReal)) {part : Part EReal}
    (listed : part ∈ parts axis) (major : part.piece ≠ .minorMark) :
    part.piece.reach axis side ≤ sizeRequired scene side := by
  obtain ⟨marks, labels⟩ := le_sizeRequired held sized
  rw [markReach_eq] at marks
  obtain ⟨piece, offset⟩ := part
  cases piece with
  | gridLine | minorGridLine =>
      have none : Scalar.ofNat 0 = (0 : EReal) := Nat.cast_zero
      exact none.trans_le ((le_max_right _ _).trans marks)
  | mark => exact (le_max_left _ _).trans marks
  | minorMark => exact absurd rfl major
  | label text =>
      obtain ⟨shown, among⟩ := text_mem_of_label_mem listed
      have filled : axis.labels.length ≠ 0 :=
        labelTexts_length axis ▸ List.ne_nil_iff_length_pos.mp (List.ne_nil_of_mem among) |>.ne'
      exact (add_le_add_right (labelDepth_le_labelExtent among) _).trans (labels shown filled)

/-! ### Drawing -/

section Drawn

variable {companion : Side} {area : Rect EReal} {dx dy distance : EReal}

private theorem lineOp_staysWithin_iff {style : GraphicsState EReal}
    (mapped : style.matrix =
      (Matrix.shift dx dy).multiply (Frame.forAxis side companion area).matrix)
    (color : String) (offset : EReal) (span : EReal × EReal) :
    let edge := (area.moved dx dy).edge side
    (lineOp style color offset span).StaysWithin (area.moved dx dy) side distance ↔
      side.Outward (side.advance edge span.1) (side.advance edge distance) ∧
        side.Outward (side.advance edge span.2) (side.advance edge distance) := by
  have across (end' : EReal) : (style.matrix.apply ⟨offset, end'⟩).across side =
      side.advance ((area.moved dx dy).edge side) end' := by
    rw [mapped, Matrix.shift_multiply_apply]
    exact Frame.shift_toCanvas_across side companion area dx dy offset end'
  simp only [DrawOp.StaysWithin, lineOp, DrawOp.outline, List.flatten_singleton,
    List.forall_mem_cons, List.not_mem_nil, IsEmpty.forall_iff, implies_true, and_true, across]

variable {state : GraphicsState EReal} {part : Part EReal}

private theorem label_outline_across (moved : state.matrix = .shift dx dy)
    (sized : 0 ≤ (labelStyle axis.options).height (α := EReal)) {text : String} {offset : EReal}
    {point : Point EReal} (corner : point ∈ (Part.op axis side
      (Frame.forAxis side companion area) state ⟨.label text, offset⟩).outline) :
    let edge := (area.moved dx dy).edge side
    point.across side = side.advance edge (labelOffset axis.options) ∨
      point.across side = side.advance edge (Piece.reach axis side (.label text)) := by
  intro edge
  have anchored : (state.matrix.apply ((Frame.forAxis side companion area).toCanvas offset
      (labelOffset axis.options))).across side =
        side.advance edge (labelOffset axis.options) := by
    rw [moved]
    exact Frame.shift_toCanvas_across side companion area dx dy offset _
  have depth : 0 ≤ labelDepth axis side text := labelDepth_nonneg sized text
  refine (TextMark.outline_across rfl corner).imp (fun near => near.trans anchored) fun far => ?_
  exact far.trans ((congrArg (side.advance · (labelDepth axis side text)) anchored).trans
    (Side.advance_add edge (labelOffset_nonneg _) depth))

private theorem op_staysWithin (moved : state.matrix = .shift dx dy)
    (length : 0 ≤ axis.options.tickLength) (minorLength : 0 ≤ axis.options.minorTickLength)
    (sized : 0 ≤ (labelStyle axis.options).height (α := EReal))
    (crossed : part.piece.IsGridLine → 0 ≤ axis.crossSize)
    (reaches : part.piece.reach axis side ≤ distance) :
    (Part.op axis side (Frame.forAxis side companion area) state part).StaysWithin
      (area.moved dx dy) side distance := by
  let edge := (area.moved dx dy).edge side
  have mapped : state.matrix.multiply (Frame.forAxis side companion area).matrix =
      (Matrix.shift dx dy).multiply (Frame.forAxis side companion area).matrix := by rw [moved]
  have line {style : GraphicsState EReal} (same : style.matrix =
      state.matrix.multiply (Frame.forAxis side companion area).matrix) (color : String)
      {span : EReal × EReal} (start : span.1 ≤ distance) (stop : span.2 ≤ distance) :
      (lineOp style color part.offset span).StaysWithin (area.moved dx dy) side distance :=
    (lineOp_staysWithin_iff (same.trans mapped) color part.offset span).mpr
      ⟨Side.outward_advance_mono edge start, Side.outward_advance_mono edge stop⟩
  have none : Scalar.ofNat 0 = (0 : EReal) := Nat.cast_zero
  obtain ⟨piece, offset⟩ := part
  cases piece with
  | gridLine | minorGridLine =>
      have inward : -axis.crossSize ≤ 0 := EReal.neg_le_zero.mpr (crossed trivial)
      exact line rfl _ reaches (inward.trans (none.symm.trans_le reaches))
  | mark =>
      obtain ⟨start, stop⟩ := markSpan_around axis.options.tickSide length
      exact line rfl _ (start.trans (stop.trans reaches)) reaches
  | minorMark =>
      obtain ⟨start, stop⟩ := markSpan_around axis.options.tickSide minorLength
      exact line rfl _ (start.trans (stop.trans reaches)) reaches
  | label text =>
      intro point corner
      have near : labelOffset axis.options ≤ distance :=
        (le_add_of_nonneg_right (labelDepth_nonneg sized text)).trans reaches
      rcases label_outline_across moved sized corner with same | same <;> rw [same]
      · exact Side.outward_advance_mono edge near
      · exact Side.outward_advance_mono edge reaches

private theorem reach_le_of_staysWithin (moved : state.matrix = .shift dx dy)
    (finite : Exact.Finite ((area.moved dx dy).edge side)) {offset : EReal}
    (stays : (Part.op axis side (Frame.forAxis side companion area) state
      ⟨.minorMark, offset⟩).StaysWithin (area.moved dx dy) side distance) :
    Piece.minorMark.reach axis side ≤ distance := by
  let frame := Frame.forAxis side companion area
  have mapped : (framed frame state).matrix = (Matrix.shift dx dy).multiply frame.matrix :=
    congrArg (Matrix.multiply · frame.matrix) moved
  exact (Side.outward_advance_iff finite).mp ((lineOp_staysWithin_iff mapped _ offset _).mp stays).2

end Drawn

/-! ### A ruled axis -/

noncomputable def plainlyLabelled : AxisOptions EReal := { halved with labelFont := "sans-serif" }

noncomputable def bristling : AxisOptions EReal :=
  { plainlyLabelled with showLabels := false, minorTickLength := 20 }

private theorem height_plainlyLabelled :
    0 ≤ (labelStyle plainlyLabelled).height (α := EReal) := by
  have unnamed : (Font.size? "sans-serif" : Option EReal) = none := by rfl
  change 0 ≤ (Font.size? "sans-serif" : Option EReal).getD Font.standardSize
  rw [unnamed]
  exact Nat.cast_nonneg' 10

/-- All that a tick section draws out from the axis line stays within the size that it asks for,
apart from minor marks. These do if they are no longer than the marks, and else just if they reach
no further out than that size. -/
theorem draw_staysWithin {scene : Scene EReal} {side : Side} {axis : Axis EReal}
    (held : scene.axes.get? side = some axis) (length : 0 ≤ axis.options.tickLength)
    (minorLength : 0 ≤ axis.options.minorTickLength)
    (sized : 0 ≤ (labelStyle axis.options).height (α := EReal)) (plotArea : Rect EReal)
    {state : GraphicsState EReal} {dx dy : EReal} (moved : state.matrix = .shift dx dy) :
    let op := Part.op axis side (Frame.forAxis side axis.companion plotArea) state
    let area := plotArea.moved dx dy
    let room := sizeRequired scene side
    (draw scene side plotArea).Draws state state ((parts axis).map op) ∧
      (∀ part ∈ parts axis, (part.piece.IsGridLine → 0 ≤ axis.crossSize) →
        part.piece ≠ .minorMark → (op part).StaysWithin area side room) ∧
      (∀ part ∈ parts axis, part.piece = .minorMark →
        (part.piece.reach axis side ≤ room → (op part).StaysWithin area side room) ∧
        (Exact.Finite (area.edge side) → (op part).StaysWithin area side room →
          part.piece.reach axis side ≤ room)) ∧
      (axis.options.minorTickLength ≤ axis.options.tickLength →
        Piece.minorMark.reach axis side ≤ room) := by
  intro op area room
  refine ⟨draw_draws held plotArea state, ?major, ?minor, ?short⟩
  case major =>
    intro part listed crossed major
    exact op_staysWithin moved length minorLength sized crossed
      (reach_le_sizeRequired held sized listed major)
  case minor =>
    rintro ⟨_, offset⟩ _listed rfl
    exact ⟨fun reaches => op_staysWithin moved length minorLength sized False.elim reaches,
      fun finite stays => reach_le_of_staysWithin moved finite stays⟩
  case short =>
    intro shorter
    refine le_trans ?_ (le_sizeRequired held sized).1
    rw [markReach_eq]
    exact (markSpan_mono axis.options.tickSide shorter).trans (le_max_left _ _)

omit [NumberTexts] in
theorem draw_staysWithin_ruled :
    letI := Exact.wholeTexts
    let axis := ruled plainlyLabelled [0, 10]
    let state : GraphicsState EReal := .initial
    let area : Rect EReal := ⟨(50 : ℝ), (20 : ℝ), (200 : ℝ), (100 : ℝ)⟩
    (ruledScene plainlyLabelled [0, 10]).axes.get? .bottom = some axis ∧
      0 ≤ axis.options.tickLength ∧ 0 ≤ axis.options.minorTickLength ∧
      0 ≤ (labelStyle axis.options).height (α := EReal) ∧
      state.matrix = .shift (Scalar.ofNat 0) (Scalar.ofNat 0) ∧
      ∀ part ∈ parts axis,
        (Part.op axis .bottom (Frame.forAxis .bottom .left area) state part).StaysWithin
          (area.moved (Scalar.ofNat 0) (Scalar.ofNat 0)) .bottom
          (sizeRequired (ruledScene plainlyLabelled [0, 10]) .bottom) := by
  let _texts := Exact.wholeTexts
  intro axis state area
  have length : 0 ≤ axis.options.tickLength := Nat.cast_nonneg' 6
  have minorLength : 0 ≤ axis.options.minorTickLength := Nat.cast_nonneg' 3
  have crossed : 0 ≤ axis.crossSize := EReal.coe_nonneg.mpr (by norm_num)
  have held : (ruledScene plainlyLabelled [0, 10]).axes.get? .bottom = some axis := rfl
  have moved : state.matrix = .shift (Scalar.ofNat 0) (Scalar.ofNat 0) := rfl
  obtain ⟨_drawn, major, minor, shorter⟩ :=
    draw_staysWithin held length minorLength height_plainlyLabelled area moved
  refine ⟨held, length, minorLength, height_plainlyLabelled, moved, fun part listed => ?_⟩
  by_cases isMinor : part.piece = .minorMark
  · refine (minor part listed isMinor).1 (isMinor ▸ shorter ?_)
    exact Nat.cast_le.mpr (by decide : 3 ≤ 6)
  · exact major part listed (fun _gridLine => crossed) isMinor

omit [NumberTexts] in
/-- Long minor marks stand out of the band. -/
theorem not_draw_staysWithin :
    letI := Exact.wholeTexts
    ¬ ∀ (scene : Scene EReal) (side : Side) (axis : Axis EReal),
      scene.axes.get? side = some axis → 0 ≤ axis.options.tickLength →
      0 ≤ axis.options.minorTickLength → 0 ≤ (labelStyle axis.options).height (α := EReal) →
      ∀ plotArea (state : GraphicsState EReal) dx dy, state.matrix = .shift dx dy →
        ∀ part ∈ parts axis, ¬ part.piece.IsGridLine →
          (Part.op axis side (Frame.forAxis side axis.companion plotArea) state part).StaysWithin
            (plotArea.moved dx dy) side (sizeRequired scene side) := by
  let _texts := Exact.wholeTexts
  intro stays
  let axis := ruled bristling [0, 10]
  let area : Rect EReal := ⟨(50 : ℝ), (20 : ℝ), (200 : ℝ), (100 : ℝ)⟩
  have listed : ⟨.minorMark, ((20 * 0 + (20 * 10 - 20 * 0) / 2 : ℝ) : EReal)⟩ ∈ parts axis := by
    have first : (offsets axis)[0]? = some ((20 * 0 : ℝ) : EReal) := by
      rw [offsets_ruled rfl]
      rfl
    refine minorMark_mem_ruled rfl first (by norm_num) ?_ (by norm_num)
    rw [offsets_ruled rfl]
    rfl
  have inside := stays (ruledScene bristling [0, 10]) .bottom axis rfl (Nat.cast_nonneg' 6)
    (Nat.cast_nonneg' 20) height_plainlyLabelled area .initial _ _ rfl _ listed not_false
  have finite : Exact.Finite ((area.moved (Scalar.ofNat 0) (Scalar.ofNat 0)).edge .bottom) :=
    ((Exact.finite_coe 20).add (Exact.finite_natCast 0)).add (Exact.finite_coe 100)
  have reaches : ((20 : ℕ) : EReal) ≤ sizeRequired (ruledScene bristling [0, 10]) .bottom :=
    reach_le_of_staysWithin rfl finite inside
  have room : sizeRequired (ruledScene bristling [0, 10]) .bottom = ((6 : ℕ) : EReal) := by
    change Scalar.max (Scalar.ofNat 6) (Scalar.ofNat 0) = _
    rw [Exact.max_eq]
    exact max_eq_left (Nat.cast_le.mpr (Nat.zero_le 6))
  rw [room, Nat.cast_le] at reaches
  exact absurd reaches (by decide)

end Ticks
end CanvasChart
