import CanvasChart.Plot.Basic

set_option autoImplicit false

/-! Stacking: where each data point begins and ends. Stacked plots add up the
values of every printed key in series order; in other plots points rest on zero. -/

namespace CanvasChart

structure StackedPoint (α : Type) where
  base : α
  top : α

abbrev StackTotals (α : Type) := List (String × α)

def StackTotals.total {α : Type} [Scalar α] (totals : StackTotals α) (key : String) : α :=
  (totals.lookup key).getD 0

namespace Plot

variable {α : Type} [Scalar α]

/-- The extents of data points on top of the totals, and the totals after them. -/
def stackData : StackTotals α → List (DataPoint α) → List (StackedPoint α) × StackTotals α
  | totals, [] => ([], totals)
  | totals, point :: rest =>
      let base := totals.total point.key.text
      let top := base + point.value
      let (later, final) := stackData (Association.put point.key.text top totals) rest
      (⟨base, top⟩ :: later, final)

def stackAll : StackTotals α → List (Series α) → List (List (StackedPoint α))
  | _, [] => []
  | totals, series :: rest =>
      let (points, next) := stackData totals series.data
      points :: stackAll next rest

/-- The extent of every data point, per series. -/
def stack (plot : Plot α) : List (List (StackedPoint α)) :=
  if plot.isStacked then stackAll [] plot.series
  else plot.series.map fun series => series.data.map fun point => ⟨0, point.value⟩

def stackedTops (plot : Plot α) : List (List α) :=
  plot.stack.map fun points => points.map StackedPoint.top

def stackedSeries (plot : Plot α) : List (Series α × List (StackedPoint α)) :=
  plot.series.zip plot.stack

end Plot
end CanvasChart
