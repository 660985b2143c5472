import CanvasChart.Geometry.Matrix

set_option autoImplicit false

/-! Local coordinates at an edge of the plot area. The companion of a side is the
perpendicular side whose corner is the origin. -/

namespace CanvasChart

structure Frame (α : Type) where
  origin : Point α
  ux : Point α
  uy : Point α

namespace Frame

variable {α : Type} [Scalar α]

/-- The direction in which values grow along an edge: away from the companion. -/
def along (side companion : Side) : Point α :=
  if side.isHorizontal then
    if companion = .right then ⟨-1, 0⟩ else ⟨1, 0⟩
  else if companion = .top then ⟨0, 1⟩
  else ⟨0, -1⟩

/-- The frame in which every axis is drawn like a bottom axis: `x` runs along the
axis and `y` away from the plot area. -/
def forAxis (side companion : Side) (plotArea : Rect α) : Frame α where
  origin := plotArea.corner side companion
  ux := along side companion
  uy := ⟨side.outwardNormal.1, side.outwardNormal.2⟩

/-- The frame in which data are drawn: `x` runs along the X axis and `y` from it
into the plot area. -/
def forPlot (side companion : Side) (plotArea : Rect α) : Frame α where
  origin := plotArea.corner side companion
  ux := along side companion
  uy := ⟨-side.outwardNormal.1, -side.outwardNormal.2⟩

def matrix (frame : Frame α) : Matrix α :=
  ⟨frame.ux.x, frame.ux.y, frame.uy.x, frame.uy.y, frame.origin.x, frame.origin.y⟩

def toCanvas (frame : Frame α) (x y : α) : Point α := frame.matrix.apply ⟨x, y⟩

end Frame
end CanvasChart
