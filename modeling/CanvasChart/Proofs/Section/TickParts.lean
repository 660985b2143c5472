import CanvasChart.Proofs.Canvas.PathMarks
import CanvasChart.Section.Ticks

set_option autoImplicit false

/-! The parts of an axis. A tick section records one operation for every part: grid lines and
marks are strokes across the axis line in the frame of the axis, and labels are texts at points
that the frame maps. -/

namespace CanvasChart

open Drawing

variable {α : Type}

namespace Ticks

/-! ### Parts -/

/-- What stands at an offset along an axis. -/
inductive Piece where
  | gridLine
  | minorGridLine
  | mark
  | minorMark
  | label (text : String)
  deriving DecidableEq, Repr

structure Part (α : Type) where
  piece : Piece
  offset : α

variable [Scalar α]

section Recorded

variable (axis : Axis α) (side : Side) (frame : Frame α) (state : GraphicsState α)

/-- Where a piece starts and stops, outward from the axis line. Of a label this is its anchor. -/
def Piece.span : Piece → α × α
  | .gridLine | .minorGridLine => (0, -axis.crossSize)
  | .mark => markSpan axis.options.tickSide axis.options.tickLength
  | .minorMark => markSpan axis.options.tickSide axis.options.minorTickLength
  | .label _ => (labelOffset axis.options, labelOffset axis.options)

def framed : GraphicsState α :=
  { state with matrix := state.matrix.multiply frame.matrix, lineWidth := 1 }

/-- What a segment across the axis line records. -/
def lineOp (color : String) (offset : α) (span : α × α) : DrawOp α :=
  .strokePath [[state.matrix.apply ⟨offset, span.1⟩, state.matrix.apply ⟨offset, span.2⟩]] color
    state.lineWidth (!state.dash.isEmpty)

def Part.op (part : Part α) : DrawOp α :=
  let options := axis.options
  match part.piece with
  | .gridLine =>
      lineOp (framed frame state) options.gridColor part.offset (part.piece.span axis)
  | .minorGridLine =>
      lineOp { framed frame state with dash := minorGridDash } options.gridColor part.offset
        (part.piece.span axis)
  | .mark | .minorMark =>
      lineOp (framed frame state) options.tickColor part.offset (part.piece.span axis)
  | .label text =>
      .text
        { text := text
          anchor := state.matrix.apply (frame.toCanvas part.offset (labelOffset options))
          font := options.labelFont
          color := options.labelColor
          align := (labelAnchor side).1
          baseline := (labelAnchor side).2
          angle := state.matrix.angle }

end Recorded

section Listed

variable (axis : Axis α)

def minorTickParts (offset : α) : List (Part α) :=
  (if axis.options.minorGrid then [⟨.minorGridLine, offset⟩] else []) ++ [⟨.minorMark, offset⟩]

def minorParts (positions : List α) (index : Nat) (position : α) : List (Part α) :=
  match spacingAt? positions index with
  | some spacing => (minorPositions axis position spacing).flatMap (minorTickParts axis)
  | none => []

/-- The parts of a tick, the minor ones after it included. A tick off the axis has none. -/
def tickParts (positions : List α) (index : Nat) (position : α) : List (Part α) :=
  if isOnAxis axis position then
    (if axis.options.majorGrid && decide (1 < position) && decide (position < axis.size - 1) then
      [⟨.gridLine, position⟩] else []) ++
      (if 1 < axis.options.minorTicks.toNat then minorParts axis positions index position
        else []) ++
      [⟨.mark, position⟩]
  else []

def cellSize : α := axis.size / Scalar.ofNat axis.labels.length

def boundary (index : Nat) : α := Scalar.ofNat index * cellSize axis

def cellCenter (index : Nat) : α := (Scalar.ofNat index + 0.5) * cellSize axis

def boundaryParts (index : Nat) : List (Part α) :=
  (if axis.options.majorGrid && decide (0 < index) && decide (index < axis.labels.length) then
    [⟨.gridLine, boundary axis index⟩] else []) ++ [⟨.mark, boundary axis index⟩]

/-- Labels at some offsets, as far as these lie on the axis. -/
def labelParts (positions : List α) : List (Part α) :=
  if axis.options.showLabels then
    ((axis.labelTexts.zip positions).filter fun entry => isOnAxis axis entry.2).map
      fun (text, position) => ⟨.label text, position⟩
  else []

def values : List α :=
  match axis.labels with
  | .values list => list
  | .categories _ => []

def offsets : List α := (values axis).map axis.positionOf

def continuousParts : List (Part α) :=
  ((offsets axis).zipIdx.flatMap fun (position, index) =>
    tickParts axis (offsets axis) index position) ++ labelParts axis (offsets axis)

def discreteParts : List (Part α) :=
  if axis.labels.length = 0 then []
  else
    (List.range (axis.labels.length + 1)).flatMap (boundaryParts axis) ++
      labelParts axis ((List.range axis.labels.length).map (cellCenter axis))

/-- Everything that stands at an axis, in the order in which it is drawn. -/
def parts : List (Part α) :=
  if axis.isDiscrete then discreteParts axis else continuousParts axis

omit [Scalar α] in
theorem mem_minorTickParts {part : Part α} {offset : α} :
    part ∈ minorTickParts axis offset ↔ part = ⟨.minorMark, offset⟩ ∨
      axis.options.minorGrid = true ∧ part = ⟨.minorGridLine, offset⟩ := by
  simp [minorTickParts, or_comm]

theorem mem_minorParts {part : Part α} {positions : List α} {index : Nat} {position : α} :
    part ∈ minorParts axis positions index position ↔
      ∃ spacing, spacingAt? positions index = some spacing ∧
        ∃ minor ∈ minorPositions axis position spacing, part ∈ minorTickParts axis minor := by
  unfold minorParts
  cases spacingAt? positions index <;> simp

theorem mem_tickParts {part : Part α} {positions : List α} {index : Nat} {position : α} :
    part ∈ tickParts axis positions index position ↔ isOnAxis axis position = true ∧
      (part = ⟨.gridLine, position⟩ ∧
          (axis.options.majorGrid && decide (1 < position) &&
            decide (position < axis.size - 1)) = true ∨
        (1 < axis.options.minorTicks.toNat ∧ part ∈ minorParts axis positions index position) ∨
        part = ⟨.mark, position⟩) := by
  unfold tickParts
  split <;> simp_all [and_comm]

theorem mem_labelParts {part : Part α} {positions : List α} :
    part ∈ labelParts axis positions ↔ axis.options.showLabels = true ∧
      ∃ entry ∈ axis.labelTexts.zip positions, isOnAxis axis entry.2 = true ∧
        ⟨.label entry.1, entry.2⟩ = part := by
  unfold labelParts
  split <;> simp_all [and_assoc]

theorem mem_continuousParts {part : Part α} :
    part ∈ continuousParts axis ↔
      (∃ index position, (offsets axis)[index]? = some position ∧
        part ∈ tickParts axis (offsets axis) index position) ∨
      part ∈ labelParts axis (offsets axis) := by
  simp only [continuousParts, List.mem_append, List.mem_flatMap, List.mem_zipIdx_iff_getElem?]
  refine or_congr_left ⟨?_, ?_⟩
  · rintro ⟨entry, found, listed⟩
    exact ⟨entry.2, entry.1, found, listed⟩
  · rintro ⟨index, position, found, listed⟩
    exact ⟨(position, index), found, listed⟩

theorem mem_discreteParts {part : Part α} :
    part ∈ discreteParts axis ↔ axis.labels.length ≠ 0 ∧
      ((∃ index, index ≤ axis.labels.length ∧ part ∈ boundaryParts axis index) ∨
        part ∈ labelParts axis ((List.range axis.labels.length).map (cellCenter axis))) := by
  unfold discreteParts
  split
  case isTrue empty => simp [empty]
  case isFalse filled =>
    rw [List.mem_append, List.mem_flatMap, and_iff_right filled]
    simp only [List.mem_range, Nat.lt_succ_iff]

def Piece.IsLabel : Piece → Prop
  | .label _ => True
  | .gridLine | .minorGridLine | .mark | .minorMark => False

variable {axis}

theorem not_isLabel_of_mem_tickParts {part : Part α} {positions : List α} {index : Nat}
    {position : α} (listed : part ∈ tickParts axis positions index position) :
    ¬ part.piece.IsLabel := by
  obtain ⟨_onAxis, ⟨rfl, _shown⟩ | ⟨_divided, minor⟩ | rfl⟩ := (mem_tickParts axis).mp listed
  case inl | inr.inr => exact not_false
  case inr.inl =>
    obtain ⟨_spacing, _spaced, offset, _placed, of⟩ := (mem_minorParts axis).mp minor
    obtain rfl | ⟨_grid, rfl⟩ := (mem_minorTickParts axis).mp of <;> exact not_false

theorem not_isLabel_of_mem_boundaryParts {part : Part α} {index : Nat}
    (listed : part ∈ boundaryParts axis index) : ¬ part.piece.IsLabel := by
  simp only [boundaryParts, List.mem_append, List.mem_ite_nil_right, List.mem_singleton] at listed
  rcases listed with ⟨_grid, rfl⟩ | rfl <;> exact not_false

theorem mem_labelParts_of_isLabel {part : Part α} (isLabel : part.piece.IsLabel)
    (listed : part ∈ parts axis) : ∃ positions, part ∈ labelParts axis positions := by
  unfold parts at listed
  split at listed
  case isTrue =>
    obtain ⟨_filled, ⟨index, _bound, drawn⟩ | label⟩ := (mem_discreteParts axis).mp listed
    · exact absurd isLabel (not_isLabel_of_mem_boundaryParts drawn)
    · exact ⟨_, label⟩
  case isFalse =>
    obtain ⟨index, position, _found, tick⟩ | label := (mem_continuousParts axis).mp listed
    · exact absurd isLabel (not_isLabel_of_mem_tickParts tick)
    · exact ⟨_, label⟩

end Listed

end Ticks

/-! ### Lines in changing styles -/

section Inking

variable [Scalar α]

/-- In any stroke style of a state the drawing records the marks, and leaves at most another
stroke style. -/
def Drawing.Inks (drawing : Drawing α) (state : GraphicsState α) (marks : List (DrawOp α)) :
    Prop :=
  ∀ style, ∃ left, drawing.Draws { state with strokeStyle := style }
    { state with strokeStyle := left } marks

variable {state : GraphicsState α} {marks later : List (DrawOp α)}

theorem Drawing.inks_empty : (empty : Drawing α).Inks state [] :=
  fun style => ⟨style, draws_empty⟩

theorem Drawing.Inks.append {first second : Drawing α} (earlier : first.Inks state marks)
    (next : second.Inks state later) : (first ++ second).Inks state (marks ++ later) := by
  intro style
  obtain ⟨middle, drawn⟩ := earlier style
  obtain ⟨left, follows⟩ := next middle
  exact ⟨left, drawn.append follows⟩

theorem Drawing.inks_sequence {β : Type} {list : List β} {draw : β → Drawing α}
    {marksOf : β → List (DrawOp α)} (each : ∀ item ∈ list, (draw item).Inks state (marksOf item)) :
    (sequence (list.map draw)).Inks state (list.flatMap marksOf) := by
  induction list with
  | nil => exact inks_empty
  | cons first rest ih =>
      rw [List.forall_mem_cons] at each
      rw [List.flatMap_cons]
      exact each.1.append (ih each.2)

theorem Drawing.Inks.line {before : Drawing α} (inked : before.Inks state marks) (color : String)
    (offset start stop : α) :
    (before ++ call (.setStrokeStyle color) ++ Ticks.across offset start stop).Inks state
      (marks ++ [Ticks.lineOp state color offset (start, stop)]) := by
  intro style
  obtain ⟨middle, drawn⟩ := inked style
  have styled : (call (.setStrokeStyle color)).Draws { state with strokeStyle := middle }
      { state with strokeStyle := color } [] := draws_of_silent fun _saved _path _ops => rfl
  have stroked := (drawn.append styled).append
    (Drawing.line_draws ⟨offset, start⟩ ⟨offset, stop⟩ { state with strokeStyle := color })
  rw [List.append_nil] at stroked
  exact ⟨color, stroked⟩

theorem Drawing.inks_line (color : String) (offset start stop : α) :
    (call (.setStrokeStyle color) ++ Ticks.across offset start stop).Inks state
      [Ticks.lineOp state color offset (start, stop)] :=
  inks_empty.line color offset start stop

end Inking

theorem TextStyle.draw_draws [Scalar α] (style : TextStyle) (text : String) (anchor : Point α)
    (align : TextAlign) (baseline : TextBaseline) (state : GraphicsState α) :
    (style.draw text anchor align baseline).Draws state state
      [.text ⟨text, state.matrix.apply anchor, style.font, style.color, align, baseline,
        state.matrix.angle⟩] :=
  ⟨none, fun _saved _path _ops => rfl⟩

/-! ### Drawing records the parts -/

namespace Ticks

variable [Scalar α] (axis : Axis α) (side : Side) (frame : Frame α) (state : GraphicsState α)

private theorem drawMinorTick_inks (position : α) :
    (drawMinorTick axis position).Inks (framed frame state)
      ((minorTickParts axis position).map (Part.op axis side frame state)) := by
  unfold minorTickParts
  rw [List.map_append]
  refine Drawing.Inks.line ?_ axis.options.tickColor position _ _
  split
  case isFalse => exact inks_empty
  case isTrue =>
    intro style
    let dashed : GraphicsState α :=
      { framed frame state with strokeStyle := axis.options.gridColor, dash := minorGridDash }
    have styled : (calls [.setStrokeStyle axis.options.gridColor, .setLineDash minorGridDash]).Draws
        { framed frame state with strokeStyle := style } dashed [] :=
      draws_of_silent fun _saved _path _ops => rfl
    exact ⟨style, (styled.append (Drawing.line_draws ⟨position, 0⟩
      ⟨position, -axis.crossSize⟩ dashed)).scope⟩

private theorem drawMinorTicks_inks (positions : List α) (index : Nat) (position : α) :
    (drawMinorTicks axis positions index position).Inks (framed frame state)
      ((minorParts axis positions index position).map (Part.op axis side frame state)) := by
  unfold drawMinorTicks minorParts
  cases spacingAt? positions index with
  | none => exact inks_empty
  | some spacing =>
      simp only [List.map_flatMap]
      exact inks_sequence fun minor _member => drawMinorTick_inks axis side frame state minor

private theorem drawGridLine_inks (position : α) :
    (drawGridLine axis position).Inks (framed frame state)
      [Part.op axis side frame state ⟨.gridLine, position⟩] :=
  inks_line axis.options.gridColor position 0 (-axis.crossSize)

private theorem drawMark_inks (position : α) :
    (drawMark axis position).Inks (framed frame state)
      [Part.op axis side frame state ⟨.mark, position⟩] :=
  inks_line axis.options.tickColor position _ _

private theorem drawTick_inks (positions : List α) (index : Nat) (position : α) :
    (drawTick axis positions index position).Inks (framed frame state)
      ((tickParts axis positions index position).map (Part.op axis side frame state)) := by
  unfold drawTick tickParts
  split
  case isFalse => exact inks_empty
  case isTrue =>
    rw [List.map_append, List.map_append]
    refine (Inks.append ?grid ?minor).append (drawMark_inks axis side frame state position)
    case grid =>
      split
      · exact drawGridLine_inks axis side frame state position
      · exact inks_empty
    case minor =>
      split
      · exact drawMinorTicks_inks axis side frame state positions index position
      · exact inks_empty

private theorem inFrame_draws {body : Drawing α} {marks : List (DrawOp α)}
    (inked : body.Inks (framed frame state) marks) :
    (inFrame frame body).Draws state state marks := by
  obtain ⟨left, drawn⟩ := inked state.strokeStyle
  have moved : (calls [.transform frame.matrix, .setLineWidth 1]).Draws state
      (framed frame state) [] := draws_of_silent fun _saved _path _ops => rfl
  exact (moved.append drawn).scope

omit [Scalar α] in
theorem filter_map_eq_flatMap {β γ : Type} (list : List β) (keeps : β → Bool)
    (change : β → γ) :
    (list.filter keeps).map change =
      list.flatMap fun item => if keeps item then [change item] else [] := by
  induction list with
  | nil => rfl
  | cons first rest ih => cases keep : keeps first <;> simp [keep, ih]

private theorem drawLabels_draws (positions : List α) :
    (drawLabels axis side frame positions).Draws state state
      ((labelParts axis positions).map (Part.op axis side frame state)) := by
  unfold drawLabels labelParts
  dsimp only
  split
  case isFalse => exact draws_empty
  case isTrue =>
    rw [filter_map_eq_flatMap, List.map_flatMap]
    refine draws_sequence _ _ _ fun entry _member => ?_
    split
    · exact TextStyle.draw_draws _ _ _ _ _ state
    · exact draws_empty

private theorem drawContinuous_eq :
    drawContinuous axis side frame =
      inFrame frame (sequence ((offsets axis).mapIdx (drawTick axis (offsets axis)))) ++
        drawLabels axis side frame (offsets axis) := by
  unfold drawContinuous offsets values
  cases axis.labels <;> rfl

theorem drawContinuous_draws :
    (drawContinuous axis side frame).Draws state state
      ((continuousParts axis).map (Part.op axis side frame state)) := by
  rw [drawContinuous_eq, continuousParts, List.map_append, List.map_flatMap]
  refine Draws.append (inFrame_draws frame state ?_) (drawLabels_draws axis side frame state _)
  rw [List.mapIdx_eq_zipIdx_map]
  exact inks_sequence fun entry _member => drawTick_inks axis side frame state _ entry.2 entry.1

theorem drawDiscrete_draws :
    (drawDiscrete axis side frame).Draws state state
      ((discreteParts axis).map (Part.op axis side frame state)) := by
  unfold drawDiscrete discreteParts
  dsimp only
  split
  case isTrue => exact draws_empty
  case isFalse =>
    rw [List.map_append, List.map_flatMap]
    refine Draws.append (inFrame_draws frame state ?_) (drawLabels_draws axis side frame state _)
    refine inks_sequence fun index _member => ?_
    unfold boundaryParts
    rw [List.map_append]
    refine Inks.append ?_ (drawMark_inks axis side frame state _)
    split
    · exact drawGridLine_inks axis side frame state _
    · exact inks_empty

/-- A tick section records the parts of its axis. -/
theorem draw_draws {scene : Scene α} {side : Side} {axis : Axis α}
    (held : scene.axes.get? side = some axis) (plotArea : Rect α) (state : GraphicsState α) :
    (draw scene side plotArea).Draws state state
      ((parts axis).map
        (Part.op axis side (Frame.forAxis side axis.companion plotArea) state)) := by
  unfold draw parts
  rw [AxisSet.require, held]
  dsimp only [withValue]
  split
  · exact drawDiscrete_draws axis side _ state
  · exact drawContinuous_draws axis side _ state

end Ticks
end CanvasChart
