import CanvasChart.Section.Scene

set_option autoImplicit false

/-! Tick marks, grid lines and tick labels of an axis. Marks and lines are drawn
in the axis frame, so that every side is drawn like the bottom. Labels are drawn
upright, at points mapped by that frame. -/

namespace CanvasChart.Ticks

variable {α : Type} [Scalar α]

/-- Between the outer ends of the marks and the labels. -/
def labelGap : α := 3

def labelPadding : α := 2

def minorGridDash : List α := [2, 2]

def maxMinorTicks : Nat := 20

/-- Where a mark of the given length starts and ends, outward from the axis line. -/
def markSpan (side : TickSide) (length : α) : α × α :=
  match side with
  | .outside => (0, length)
  | .inside => (-length, 0)
  | .middle => (-length / 2, length / 2)

def labelAnchor : Side → TextAlign × TextBaseline
  | .bottom => (.center, .top)
  | .top => (.center, .bottom)
  | .left => (.right, .middle)
  | .right => (.left, .middle)

def labelStyle (options : AxisOptions α) : TextStyle := ⟨options.labelFont, options.labelColor⟩

def markReach (options : AxisOptions α) : α :=
  Scalar.max (markSpan options.tickSide options.tickLength).2 0

def labelOffset (options : AxisOptions α) : α := markReach options + labelGap

/-- Explicit tick lists may reach past the axis. -/
def isOnAxis (axis : Axis α) (position : α) : Bool :=
  !(decide (position < -0.5) || decide (axis.size + 0.5 < position))

/-- A segment across the axis line, from one distance to another. -/
def across (position start stop : α) : Drawing α :=
  .line ⟨position, start⟩ ⟨position, stop⟩

/-- The distance to the next tick, or else from the one before. -/
def spacingAt? (positions : List α) (index : Nat) : Option α :=
  match positions[index]?, positions[index + 1]? with
  | some position, some next => some (next - position)
  | some position, none =>
      match index with
      | 0 => none
      | before + 1 => (positions[before]?).map fun previous => position - previous
  | none, _ => none

/-- The positions of minor marks after a tick, up to the end of the axis. -/
def minorPositions (axis : Axis α) (position spacing : α) : List α :=
  let parts := Nat.min axis.options.minorTicks.toNat maxMinorTicks
  let step := spacing / Scalar.ofNat parts
  let all := (List.range (parts - 1)).map fun index => position + Scalar.ofNat (index + 1) * step
  all.takeWhile fun minor => !decide (axis.size < minor)

def drawMinorTick (axis : Axis α) (position : α) : Drawing α :=
  let options := axis.options
  let (start, stop) := markSpan options.tickSide options.minorTickLength
  let grid :=
    if options.minorGrid then
      .scope <|
        .calls [.setStrokeStyle options.gridColor, .setLineDash minorGridDash] ++
          across position 0 (-axis.crossSize)
    else .empty
  grid ++ .call (.setStrokeStyle options.tickColor) ++ across position start stop

/-- Divides the interval after a tick; the last tick takes the spacing before it. -/
def drawMinorTicks (axis : Axis α) (positions : List α) (index : Nat) (position : α) :
    Drawing α :=
  match spacingAt? positions index with
  | some spacing => .sequence ((minorPositions axis position spacing).map (drawMinorTick axis))
  | none => .empty

def drawGridLine (axis : Axis α) (position : α) : Drawing α :=
  .call (.setStrokeStyle axis.options.gridColor) ++ across position 0 (-axis.crossSize)

def drawMark (axis : Axis α) (position : α) : Drawing α :=
  let (start, stop) := markSpan axis.options.tickSide axis.options.tickLength
  .call (.setStrokeStyle axis.options.tickColor) ++ across position start stop

/-- Draws a tick with its grid line and minor ticks, unless it lies off the axis. -/
def drawTick (axis : Axis α) (positions : List α) (index : Nat) (position : α) : Drawing α :=
  if isOnAxis axis position then
    let grid :=
      if axis.options.majorGrid && decide (1 < position) && decide (position < axis.size - 1) then
        drawGridLine axis position
      else .empty
    let minor :=
      if 1 < axis.options.minorTicks.toNat then drawMinorTicks axis positions index position
      else .empty
    grid ++ minor ++ drawMark axis position
  else .empty

def inFrame (frame : Frame α) (body : Drawing α) : Drawing α :=
  .scope (.calls [.transform frame.matrix, .setLineWidth 1] ++ body)

def drawLabels (axis : Axis α) (side : Side) (frame : Frame α) (positions : List α) : Drawing α :=
  let options := axis.options
  let (align, baseline) := labelAnchor side
  if options.showLabels then
    .sequence ((axis.labelTexts.zip positions).map fun (text, position) =>
      if isOnAxis axis position then
        (labelStyle options).draw text (frame.toCanvas position (labelOffset options)) align
          baseline
      else .empty)
  else .empty

def drawContinuous (axis : Axis α) (side : Side) (frame : Frame α) : Drawing α :=
  let positions :=
    match axis.labels with
    | .values list => list.map axis.positionOf
    | .categories _ => []
  inFrame frame (.sequence (positions.mapIdx (drawTick axis positions))) ++
    drawLabels axis side frame positions

/-- Marks at the boundaries of the cells of a discrete axis, grid lines at the
inner ones, and a label in the middle of every cell. -/
def drawDiscrete (axis : Axis α) (side : Side) (frame : Frame α) : Drawing α :=
  let count := axis.labels.length
  if count = 0 then .empty
  else
    let cell := axis.size / Scalar.ofNat count
    let boundary (index : Nat) : Drawing α :=
      let position := Scalar.ofNat index * cell
      let grid :=
        if axis.options.majorGrid && decide (0 < index) && decide (index < count) then
          drawGridLine axis position
        else .empty
      grid ++ drawMark axis position
    let centers := (List.range count).map fun index => (Scalar.ofNat index + 0.5) * cell
    inFrame frame (.sequence ((List.range (count + 1)).map boundary)) ++
      drawLabels axis side frame centers

def draw (scene : Scene α) (side : Side) (plotArea : Rect α) : Drawing α :=
  .withValue (scene.axes.require side) fun axis =>
    let frame := Frame.forAxis side axis.companion plotArea
    if axis.isDiscrete then drawDiscrete axis side frame else drawContinuous axis side frame

def labelExtent (axis : Axis α) (side : Side) : α :=
  let style := labelStyle axis.options
  if side.isHorizontal then style.height else style.widest axis.labelTexts

/-- The labels on a vertical side are measured. -/
def measure (scene : Scene α) (side : Side) : Drawing α :=
  match scene.axes.get? side with
  | none => .empty
  | some axis =>
      if !axis.options.showLabels || axis.labels.length = 0 || side.isHorizontal then .empty
      else (labelStyle axis.options).measure

def sizeRequired (scene : Scene α) (side : Side) : α :=
  match scene.axes.get? side with
  | none => 0
  | some axis =>
      let reach := markReach axis.options
      if !axis.options.showLabels || axis.labels.length = 0 then reach
      else reach + labelGap + labelExtent axis side + labelPadding

end CanvasChart.Ticks
