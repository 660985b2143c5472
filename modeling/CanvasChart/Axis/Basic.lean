import CanvasChart.Axis.NiceTicks
import CanvasChart.Options.Axis
import CanvasChart.Plot.Extent

set_option autoImplicit false

/-! An axis: the mapping of data values to offsets along one edge of the plot area. -/

namespace CanvasChart

inductive AxisLabels (α : Type) where
  | categories (names : List String)
  | values (list : List α)

def AxisLabels.length {α : Type} : AxisLabels α → Nat
  | categories names => names.length
  | values list => list.length

structure Axis (α : Type) where
  options : AxisOptions α
  side : Side
  kind : AxisKind
  /-- The perpendicular side in whose corner the axis begins. -/
  companion : Side
  /-- Whether the keys of the plots are categories, once a plot has told. -/
  discrete : Option Bool
  /-- The bounds of the mapping, logarithms once a logarithmic axis is fixed. -/
  min : α
  max : α
  /-- The bounds in data values, meaningful once the axis is fixed. -/
  rmin : α
  rmax : α
  fixed : Bool
  labels : AxisLabels α
  /-- The indices of the plots on the axis. -/
  plots : List Nat
  /-- The length along the axis. -/
  size : α
  /-- The extent of the plot area across the axis. -/
  crossSize : α

namespace Axis

variable {α : Type}

def new [Scalar α] (side : Side) (kind : AxisKind) (companion : Side) (options : AxisOptions α) :
    Axis α where
  options := options
  side := side
  kind := kind
  companion := companion
  discrete := none
  min := Scalar.infinity
  max := -Scalar.infinity
  rmin := Scalar.infinity
  rmax := -Scalar.infinity
  fixed := false
  labels := .values []
  plots := []
  size := 0
  crossSize := 0

def isDiscrete (axis : Axis α) : Bool := axis.kind = .x && axis.discrete.getD false

def isLog (axis : Axis α) : Bool := axis.options.scale = .log

def withSizes (axis : Axis α) (size crossSize : α) : Axis α :=
  { axis with size := size, crossSize := crossSize }

def logOf [Scalar α] (value base : α) : α :=
  if base == 10 then Scalar.log10 value
  else if base == 2 then Scalar.log2 value
  else Scalar.ln value / Scalar.ln base

end Axis
end CanvasChart
