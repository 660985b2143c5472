import CanvasChart.Canvas.Call
import CanvasChart.Canvas.Font

set_option autoImplicit false

/-! A canvas that records what is drawn, in device coordinates. It keeps a graphics
state, a stack of saved states and the current path. -/

namespace CanvasChart

structure TextMark (α : Type) where
  text : String
  anchor : Point α
  font : String
  color : String
  align : TextAlign
  baseline : TextBaseline
  /-- The direction of the text line. -/
  angle : α

inductive DrawOp (α : Type) where
  | fillRect (rect : Rect α) (color : String) (alpha : α)
  | strokeRect (rect : Rect α) (color : String) (width : α)
  | clearRect (rect : Rect α)
  /-- The points of all parts of the path, one after the other. -/
  | fillPath (points : List (Point α)) (color : String) (alpha : α)
  | strokePath (subpaths : List (List (Point α))) (color : String) (width : α) (dashed : Bool)
  | text (mark : TextMark α)

structure GraphicsState (α : Type) where
  matrix : Matrix α
  fillStyle : String
  strokeStyle : String
  lineWidth : α
  alpha : α
  dash : List α
  font : String
  align : TextAlign
  baseline : TextBaseline

structure Recorder (α : Type) where
  state : GraphicsState α
  /-- The saved states, the latest first. -/
  saved : List (GraphicsState α)
  path : List (List (Point α))
  ops : List (DrawOp α)

variable {α : Type}

def appendPoint (point : Point α) : List (List (Point α)) → List (List (Point α))
  | [] => [[point]]
  | [last] => [last ++ [point]]
  | part :: rest => part :: appendPoint point rest

/-- The path with its last part led back to that part's first point. -/
def closeLast : List (List (Point α)) → List (List (Point α))
  | [] => []
  | [last] => [last ++ last.head?.toList]
  | part :: rest => part :: closeLast rest

namespace GraphicsState

variable [Scalar α]

def initial : GraphicsState α where
  matrix := .identity
  fillStyle := "#000000"
  strokeStyle := "#000000"
  lineWidth := 1
  alpha := 1
  dash := []
  font := "10px sans-serif"
  align := .left
  baseline := .middle

end GraphicsState

namespace Recorder

variable [Scalar α]

def new : Recorder α := ⟨.initial, [], [], []⟩

def depth (canvas : Recorder α) : Nat := canvas.saved.length

def clearOps (canvas : Recorder α) : Recorder α := { canvas with ops := [] }

def measureText (canvas : Recorder α) (text : String) : α := Font.textWidth canvas.state.font text

def record (canvas : Recorder α) (op : DrawOp α) : Recorder α :=
  { canvas with ops := canvas.ops ++ [op] }

def transformBy (canvas : Recorder α) (matrix : Matrix α) : Recorder α :=
  { canvas with state.matrix := canvas.state.matrix.multiply matrix }

def addPoint (canvas : Recorder α) (point : Point α) : Recorder α :=
  { canvas with path := appendPoint (canvas.state.matrix.apply point) canvas.path }

def startAt (canvas : Recorder α) (point : Point α) : Recorder α :=
  { canvas with path := canvas.path ++ [[canvas.state.matrix.apply point]] }

/-- The number of straight parts that stand for an arc. -/
def arcSegments : Nat := 12

def arcPoints (center : Point α) (radius start stop : α) : List (Point α) :=
  (List.range (arcSegments + 1)).map fun index =>
    let angle := start + (stop - start) * Scalar.ofNat index / Scalar.ofNat arcSegments
    ⟨center.x + radius * Scalar.cos angle, center.y + radius * Scalar.sin angle⟩

def corners (rect : Rect α) : List (Point α) :=
  [ ⟨rect.x, rect.y⟩, ⟨rect.x + rect.width, rect.y⟩,
    ⟨rect.x + rect.width, rect.y + rect.height⟩, ⟨rect.x, rect.y + rect.height⟩ ]

def apply (canvas : Recorder α) : CanvasCall α → Recorder α
  | .save => { canvas with saved := canvas.state :: canvas.saved }
  | .restore =>
      match canvas.saved with
      | [] => canvas
      | state :: saved => { canvas with state := state, saved := saved }
  | .translate x y => canvas.transformBy (.shift x y)
  | .rotate angle => canvas.transformBy (.rotation angle)
  | .transform matrix => canvas.transformBy matrix
  | .beginPath => { canvas with path := [] }
  | .moveTo point => canvas.startAt point
  | .lineTo point => canvas.addPoint point
  | .arc center radius start stop =>
      (arcPoints center radius start stop).foldl addPoint canvas
  | .rect rect =>
      match corners rect with
      | [] => canvas
      | first :: rest =>
          let outlined := rest.foldl addPoint (canvas.startAt first)
          { outlined with path := closeLast outlined.path }
  | .closePath => { canvas with path := closeLast canvas.path }
  | .fill =>
      canvas.record (.fillPath canvas.path.flatten canvas.state.fillStyle canvas.state.alpha)
  | .stroke =>
      canvas.record
        (.strokePath canvas.path canvas.state.strokeStyle canvas.state.lineWidth
          (!canvas.state.dash.isEmpty))
  | .fillRect rect =>
      canvas.record
        (.fillRect (canvas.state.matrix.boundsOf rect) canvas.state.fillStyle canvas.state.alpha)
  | .strokeRect rect =>
      canvas.record
        (.strokeRect (canvas.state.matrix.boundsOf rect) canvas.state.strokeStyle
          canvas.state.lineWidth)
  | .clearRect rect => canvas.record (.clearRect (canvas.state.matrix.boundsOf rect))
  | .setFillStyle color => { canvas with state.fillStyle := color }
  | .setStrokeStyle color => { canvas with state.strokeStyle := color }
  | .setLineWidth width => { canvas with state.lineWidth := width }
  | .setAlpha alpha => { canvas with state.alpha := alpha }
  | .setLineDash segments => { canvas with state.dash := segments }
  | .setFont font => { canvas with state.font := font }
  | .setTextAlign align => { canvas with state.align := align }
  | .setTextBaseline baseline => { canvas with state.baseline := baseline }
  | .fillText text anchor =>
      canvas.record <| .text
        { text := text
          anchor := canvas.state.matrix.apply anchor
          font := canvas.state.font
          color := canvas.state.fillStyle
          align := canvas.state.align
          baseline := canvas.state.baseline
          angle := canvas.state.matrix.angle }

def filledRects (canvas : Recorder α) : List (Rect α) :=
  canvas.ops.filterMap fun
    | .fillRect rect _ _ => some rect
    | _ => none

def texts (canvas : Recorder α) : List (TextMark α) :=
  canvas.ops.filterMap fun
    | .text mark => some mark
    | _ => none

def strokes (canvas : Recorder α) : List (List (List (Point α))) :=
  canvas.ops.filterMap fun
    | .strokePath subpaths _ _ _ => some subpaths
    | _ => none

end Recorder
end CanvasChart
