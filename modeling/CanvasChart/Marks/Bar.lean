import CanvasChart.Marks.Context

set_option autoImplicit false

/-! Bars. All bar plots on an X axis share the slots of its keys. A stacked plot
takes one column of a slot, any other plot one column per series. -/

namespace CanvasChart.Bar

variable {α : Type} [Scalar α]

def columns (plot : Plot α) : Nat := if plot.isStacked then 1 else Nat.max plot.series.length 1

/-- The offset and the width of a column in a slot of the given width. -/
def columnGeometry (width spacer : α) (column total : Nat) : α × α :=
  let count : α := Scalar.ofNat (Nat.max total 1)
  let barWidth := Scalar.max ((width - spacer * (count + 1)) / count) 1
  (spacer + Scalar.ofNat column * (barWidth + spacer), barWidth)

def rect (context : MarkContext α) (yAxis : Axis α) (count column total index : Nat)
    (point : DataPoint α) (extent : StackedPoint α) : Rect α :=
  let (start, width) := context.xAxis.slot index point.key count
  let (offset, barWidth) := columnGeometry width context.barSpacer column total
  let base := yAxis.positionOf extent.base
  ⟨start + offset, base, barWidth, yAxis.positionOf extent.top - base⟩

def drawSeries (context : MarkContext α) (yAxis : Axis α) (plot : Plot α) (column total : Nat)
    (series : Series α) (extents : List (StackedPoint α)) : Drawing α :=
  let style := plot.styleOf series
  let rects := (series.data.zip extents).mapIdx fun index (point, extent) =>
    rect context yAxis plot.keyCount column total index point extent
  .scope <|
    .calls [.setFillStyle (style.color.getD Color.firstSeries), .setAlpha (style.opacity.getD 1)] ++
      .calls (rects.map .fillRect)

/-- Draws a plot whose first column is the given one of a total. -/
def drawColumns (context : MarkContext α) (plot : Plot α) (first total : Nat) : Drawing α :=
  .withValue (context.yAxis plot) fun yAxis =>
    .sequence (plot.stackedSeries.mapIdx fun index (series, extents) =>
      drawSeries context yAxis plot (if plot.isStacked then first else first + index) total
        series extents)

def draw (context : MarkContext α) (plot : Plot α) : Drawing α :=
  drawColumns context plot 0 (columns plot)

def drawFrom (context : MarkContext α) (total : Nat) : Nat → List (Plot α) → Drawing α
  | _, [] => .empty
  | first, plot :: rest =>
      drawColumns context plot first total ++ drawFrom context total (first + columns plot) rest

def drawGroup (context : MarkContext α) (plots : List (Plot α)) : Drawing α :=
  drawFrom context (plots.foldl (fun total plot => total + columns plot) 0) 0 plots

end CanvasChart.Bar
