import CanvasChart.Axis.AxisSet
import CanvasChart.Axis.Position
import CanvasChart.Axis.Ticks
import CanvasChart.Canvas.TextStyle
import CanvasChart.Geometry.Frame
import CanvasChart.Options.Chart

set_option autoImplicit false

/-! What the sections around the plot area see of a chart. -/

namespace CanvasChart

structure Scene (α : Type) where
  options : ChartOptions α
  axes : AxisSet α
  plots : List (Plot α)

end CanvasChart
