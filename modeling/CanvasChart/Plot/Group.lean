import CanvasChart.Plot.Basic

set_option autoImplicit false

/-! Groups of plots of one type. -/

namespace CanvasChart.Plot

variable {α : Type}

/-- The plots by type in drawing order, without empty groups. A group keeps the
order of its plots. -/
def groups (plots : List (Plot α)) : List (PlotKind × List (Plot α)) :=
  (PlotKind.all.map fun kind => (kind, plots.filter fun plot => plot.kind = kind)).filter
    fun group => !group.2.isEmpty

end CanvasChart.Plot
