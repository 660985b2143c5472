import CanvasChart.Canvas.Marker
import CanvasChart.Canvas.Path
import CanvasChart.Marks.Context

set_option autoImplicit false

/-! Lines through the data points, with an optional area below and optional markers. -/

namespace CanvasChart.Line

variable {α : Type} [Scalar α]

/-- The opacity of an area whose style leaves it open. -/
def areaAlpha : α := 0.3

def standardWidth : α := 2

def drawVertices (plot : Plot α) (style : SeriesStyle α) (baseline : α)
    (vertices : List (Point α)) : Drawing α :=
  let color := style.color.getD Color.firstSeries
  let area :=
    if plot.options.fill then
      .calls [.setFillStyle color, .setAlpha (style.opacity.getD areaAlpha)] ++
        (Path.area vertices baseline).fill ++ .call (.setAlpha 1)
    else .empty
  let line :=
    .calls [.setStrokeStyle color, .setLineWidth (style.lineWidth.getD standardWidth)] ++
      (Path.line vertices).stroke
  let markers :=
    match style.shape with
    | some shape =>
        .call (.setFillStyle color) ++ .sequence (vertices.map fun vertex =>
          Marker.draw shape vertex (style.shapeSize.getD Marker.standardSize))
    | none => .empty
  .scope (area ++ line ++ markers)

/-- Draws one series; a series without data leaves no mark. -/
def drawSeries (context : MarkContext α) (yAxis : Axis α) (plot : Plot α) (series : Series α)
    (extents : List (StackedPoint α)) : Drawing α :=
  if series.data.isEmpty then .empty
  else
    drawVertices plot (plot.styleOf series) yAxis.zero
      (context.vertices yAxis plot series extents)

/-- Draws the last series first, so that lower layers of a stack lie above the
areas of higher ones. -/
def draw (context : MarkContext α) (plot : Plot α) : Drawing α :=
  .withValue (context.yAxis plot) fun yAxis =>
    .sequence (plot.stackedSeries.reverse.map fun (series, extents) =>
      drawSeries context yAxis plot series extents)

end CanvasChart.Line
