import CanvasChart.Chart.Element
import CanvasChart.Chart.Layout
import CanvasChart.Plot.Coloring

set_option autoImplicit false

/-! Charts: registered plots, options and a palette on a canvas element. -/

namespace CanvasChart

structure Chart (α : Type) where
  element : Element α
  options : ChartOptions α
  /-- The registered plots in order of registration. -/
  entries : List (PlotId × Plot α)
  palette : Palette
  nextId : Nat
  /-- The layout of the last successful drawing. -/
  layout : Option (Layout α)

namespace Chart

variable {α : Type}

def new [Scalar α] (element : Element α) : Chart α where
  element := element
  options := .standard
  entries := []
  palette := .standard
  nextId := 0
  layout := none

def ofDocument [Scalar α] (document : Document α) (id : String) : Except ChartError (Chart α) :=
  match document.element? id with
  | some element => .ok (new element)
  | none => .error (.canvasNotFound id)

def plots (chart : Chart α) : List (Plot α) := chart.entries.map Prod.snd

def withPlots (chart : Chart α) (plots : List (Plot α)) : Chart α :=
  { chart with entries := (chart.entries.map Prod.fst).zip plots }

def plot? (chart : Chart α) (id : PlotId) : Option (Plot α) := chart.entries.lookup id

def addPlot (chart : Chart α) (plot : Plot α) : PlotId × Chart α :=
  let id : PlotId := ⟨chart.nextId⟩
  (id, { chart with entries := chart.entries ++ [(id, plot)], nextId := chart.nextId + 1 })

def putPlot (chart : Chart α) (id : PlotId) (plot : Plot α) : Chart α :=
  { chart with entries := chart.entries.map fun entry =>
      if entry.1 = id then (id, plot) else entry }

/-- Takes a plot off the chart; its colors move to the end of the palette. -/
def removePlot (chart : Chart α) (id : PlotId) : Except ChartError (Plot α × Chart α) :=
  match chart.plot? id with
  | none => .error (.plotNotFound id)
  | some plot =>
      .ok (plot, { chart with
        entries := chart.entries.filter fun entry => entry.1 ≠ id
        palette := chart.palette.recycle plot.colors })

def set (name : String) (value : Json) (chart : Chart Float) : Except ChartError (Chart Float) :=
  (chart.options.set name value).map fun options => { chart with options := options }

def get (name : String) (chart : Chart Float) : Except ChartError Json := chart.options.get name

end Chart
end CanvasChart
