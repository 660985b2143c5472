import CanvasChart.Axis.AxisSet
import CanvasChart.Axis.Position
import CanvasChart.Canvas.Drawing

set_option autoImplicit false

/-! What the marks of a plot are drawn against. The canvas is in the plot frame:
`x` runs along the X axis and `y` from it into the plot area. -/

namespace CanvasChart

structure MarkContext (α : Type) where
  axes : AxisSet α
  xAxis : Axis α
  /-- Pixels between neighbouring bars and at the edges of a slot. -/
  barSpacer : α

namespace MarkContext

variable {α : Type}

def yAxis (context : MarkContext α) (plot : Plot α) : Except ChartError (Axis α) :=
  context.axes.require plot.options.ySide

/-- The vertices of a series: every key position with its stacked upper end. -/
def vertices [Scalar α] (context : MarkContext α) (yAxis : Axis α) (plot : Plot α)
    (series : Series α) (extents : List (StackedPoint α)) : List (Point α) :=
  (series.data.zip extents).mapIdx fun index (point, extent) =>
    ⟨context.xAxis.keyPosition index point.key plot.keyCount, yAxis.positionOf extent.top⟩

end MarkContext
end CanvasChart
