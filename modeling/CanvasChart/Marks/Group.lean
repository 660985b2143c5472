import CanvasChart.Marks.Bar
import CanvasChart.Marks.Line
import CanvasChart.Marks.Scatter

set_option autoImplicit false

/-! The marks of plots of any type. -/

namespace CanvasChart.Marks

variable {α : Type} [Scalar α]

def draw (context : MarkContext α) (plot : Plot α) : Drawing α :=
  match plot.kind with
  | .bar => Bar.draw context plot
  | .line => Line.draw context plot
  | .scatter => Scatter.draw context plot

def drawGroup (context : MarkContext α) (kind : PlotKind) (plots : List (Plot α)) : Drawing α :=
  match kind with
  | .bar => Bar.drawGroup context plots
  | .line => .sequence (plots.map (Line.draw context))
  | .scatter => .sequence (plots.map (Scatter.draw context))

end CanvasChart.Marks
