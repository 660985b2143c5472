import CanvasChart.Geometry.Matrix

set_option autoImplicit false

/-! The calls of a drawing surface. -/

namespace CanvasChart

inductive TextAlign where
  | left
  | center
  | right
  deriving DecidableEq, Repr

def TextAlign.name : TextAlign → String
  | left => "left"
  | center => "center"
  | right => "right"

inductive TextBaseline where
  | top
  | middle
  | bottom
  deriving DecidableEq, Repr

def TextBaseline.name : TextBaseline → String
  | top => "top"
  | middle => "middle"
  | bottom => "bottom"

inductive CanvasCall (α : Type) where
  | save
  | restore
  | translate (x y : α)
  | rotate (angle : α)
  | transform (matrix : Matrix α)
  | beginPath
  | moveTo (point : Point α)
  | lineTo (point : Point α)
  | arc (center : Point α) (radius start stop : α)
  | rect (rect : Rect α)
  | closePath
  | fill
  | stroke
  | fillRect (rect : Rect α)
  | strokeRect (rect : Rect α)
  | clearRect (rect : Rect α)
  | setFillStyle (color : String)
  | setStrokeStyle (color : String)
  | setLineWidth (width : α)
  | setAlpha (alpha : α)
  | setLineDash (segments : List α)
  | setFont (font : String)
  | setTextAlign (align : TextAlign)
  | setTextBaseline (baseline : TextBaseline)
  | fillText (text : String) (anchor : Point α)

end CanvasChart
