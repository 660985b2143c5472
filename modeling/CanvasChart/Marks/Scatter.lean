import CanvasChart.Canvas.Marker
import CanvasChart.Marks.Context

set_option autoImplicit false

/-! One marker for every data point. -/

namespace CanvasChart.Scatter

variable {α : Type} [Scalar α]

def drawSeries (context : MarkContext α) (yAxis : Axis α) (plot : Plot α) (series : Series α)
    (extents : List (StackedPoint α)) : Drawing α :=
  let style := plot.styleOf series
  let color := style.color.getD Color.firstSeries
  .scope <|
    .calls [.setFillStyle color, .setStrokeStyle color, .setLineWidth (style.lineWidth.getD 1),
      .setAlpha (style.opacity.getD 1)] ++
      .sequence ((context.vertices yAxis plot series extents).map fun vertex =>
        Marker.draw (style.shape.getD .circle) vertex (style.shapeSize.getD Marker.standardSize))

def draw (context : MarkContext α) (plot : Plot α) : Drawing α :=
  .withValue (context.yAxis plot) fun yAxis =>
    .sequence (plot.stackedSeries.map fun (series, extents) =>
      drawSeries context yAxis plot series extents)

end CanvasChart.Scatter
