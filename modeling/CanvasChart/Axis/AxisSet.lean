import CanvasChart.Axis.Basic
import CanvasChart.Error

set_option autoImplicit false

/-! The axes of a chart, at most one per side. -/

namespace CanvasChart

structure AxisSet (α : Type) where
  bottom : Option (Axis α)
  left : Option (Axis α)
  top : Option (Axis α)
  right : Option (Axis α)

namespace AxisSet

variable {α : Type}

def empty : AxisSet α := ⟨none, none, none, none⟩

def get? (axes : AxisSet α) : Side → Option (Axis α)
  | .bottom => axes.bottom
  | .left => axes.left
  | .top => axes.top
  | .right => axes.right

def require (axes : AxisSet α) (side : Side) : Except ChartError (Axis α) :=
  match axes.get? side with
  | some axis => .ok axis
  | none => .error (.missingAxis side)

def insert (axes : AxisSet α) (axis : Axis α) : AxisSet α :=
  match axis.side with
  | .bottom => { axes with bottom := some axis }
  | .left => { axes with left := some axis }
  | .top => { axes with top := some axis }
  | .right => { axes with right := some axis }

def toList (axes : AxisSet α) : List (Axis α) := Side.all.filterMap axes.get?

def map (axes : AxisSet α) (change : Axis α → Axis α) : AxisSet α where
  bottom := axes.bottom.map change
  left := axes.left.map change
  top := axes.top.map change
  right := axes.right.map change

def xAxes (axes : AxisSet α) : List (Axis α) := axes.toList.filter fun axis => axis.kind = .x

end AxisSet
end CanvasChart
