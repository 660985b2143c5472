import CanvasChart.Side

set_option autoImplicit false

/-! What can go wrong while a chart is configured or drawn, and how it is told. -/

namespace CanvasChart

structure PlotId where
  number : Nat
  deriving DecidableEq, Repr

def PlotId.text (id : PlotId) : String := "plot#" ++ toString id.number

inductive ChartError where
  | canvasNotFound (id : String)
  | plotNotFound (id : PlotId)
  | unknownShape (name : String)
  /-- Plots that share an axis disagree on whether their keys are categories. -/
  | discretenessMismatch (side : Side)
  | parallelAxes (x y : Side)
  | axisRoleConflict (side : Side)
  | missingAxis (side : Side)
  | unknownOption (name : String)
  | invalidOptionValue (option : String)
  /-- The text of a chart definition is not one. -/
  | invalidDefinition
  deriving DecidableEq, Repr

def ChartError.message : ChartError → String
  | canvasNotFound id => "Canvas element not found: " ++ id
  | plotNotFound id => "Plot is not registered with this chart: " ++ id.text
  | unknownShape name => "Unknown shape: " ++ name
  | discretenessMismatch side =>
      "Plots sharing the " ++ side.label ++ " axis disagree on whether it is discrete"
  | parallelAxes x y =>
      "X axis on " ++ x.label ++ " and Y axis on " ++ y.label ++ " must be perpendicular"
  | axisRoleConflict side =>
      "The " ++ side.label ++ " axis is used both as an X axis and as a Y axis"
  | missingAxis side => "No axis was resolved for the " ++ side.label ++ " side"
  | unknownOption name => "Unknown option: " ++ name
  | invalidOptionValue option => "Invalid value for option " ++ option
  | invalidDefinition => "Invalid chart definition"

end CanvasChart
