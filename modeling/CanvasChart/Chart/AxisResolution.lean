import CanvasChart.Axis.AxisSet
import CanvasChart.Axis.Range
import CanvasChart.Options.Chart

set_option autoImplicit false

/-! The axes that the visible plots call for: one on every side that a plot uses,
with the plots taken in in order of registration. -/

namespace CanvasChart

inductive AxisLayout where
  /-- Every visible plot uses the bottom X axis and the left Y axis. -/
  | twoAxis
  | fourSides
  deriving DecidableEq, Repr

namespace AxisSet

variable {α : Type} [Scalar α]

/-- The axis on a side in a role, or a new one; an axis cannot have two roles. -/
def inRole (axes : AxisSet α) (options : ChartOptions α) (side : Side) (kind : AxisKind)
    (companion : Side) : Except ChartError (Axis α) :=
  match axes.get? side with
  | some axis => if axis.kind = kind then .ok axis else .error (.axisRoleConflict side)
  | none => .ok (.new side kind companion (options.axis side))

def addPlotOn (axes : AxisSet α) (options : ChartOptions α) (side : Side) (kind : AxisKind)
    (companion : Side) (index : Nat) (plot : Plot α) : Except ChartError (AxisSet α) := do
  let axis ← axes.inRole options side kind companion
  return axes.insert (← axis.addPlot index plot)

def addPlot (axes : AxisSet α) (options : ChartOptions α) (index : Nat) (plot : Plot α) :
    Except ChartError (AxisSet α) := do
  let x := plot.options.xSide
  let y := plot.options.ySide
  if !x.isPerpendicularTo y then throw (.parallelAxes x y)
  let axes ← axes.addPlotOn options x .x y index plot
  axes.addPlotOn options y .y x index plot

def addPlots (axes : AxisSet α) (options : ChartOptions α) :
    List (Nat × Plot α) → Except ChartError (AxisSet α)
  | [] => .ok axes
  | (index, plot) :: rest => do addPlots (← axes.addPlot options index plot) options rest

/-- The visible plots with their positions among all plots. -/
def visiblePlots (plots : List (Plot α)) : List (Nat × Plot α) :=
  (plots.mapIdx fun index plot => (index, plot)).filter fun entry => entry.2.isVisible

def resolve (options : ChartOptions α) (plots : List (Plot α)) : Except ChartError (AxisSet α) :=
  (empty.addPlots options (visiblePlots plots)).map fun axes => axes.map Axis.fix

end AxisSet

def AxisLayout.of {α : Type} (plots : List (Plot α)) : AxisLayout :=
  if (plots.filter Plot.isVisible).all fun plot =>
      plot.options.xSide = .bottom && plot.options.ySide = .left
  then twoAxis
  else fourSides

end CanvasChart
