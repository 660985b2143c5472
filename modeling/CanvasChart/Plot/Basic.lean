import CanvasChart.Options.Plot
import CanvasChart.Series.Basic

set_option autoImplicit false

/-! Plots: series of one type with common options. -/

namespace CanvasChart

inductive PlotKind where
  | bar
  | line
  | scatter
  deriving DecidableEq, Repr

namespace PlotKind

/-- Every type in drawing order: bars below, markers on top. -/
def all : List PlotKind := [bar, line, scatter]

def name : PlotKind → String
  | bar => "bar"
  | line => "line"
  | scatter => "scatter"

/-- The keys are categories unless the options say otherwise. -/
def discreteByDefault : PlotKind → Bool
  | bar => true
  | line | scatter => false

/-- The values are stacked unless the options say otherwise. -/
def stackedByDefault : PlotKind → Bool
  | bar | line => true
  | scatter => false

instance : JsonCodec PlotKind where
  encode kind := .string kind.name
  decode := Json.decodeName Json.isNull (all.map fun kind => (kind.name, kind))

end PlotKind

structure Plot (α : Type) where
  kind : PlotKind
  options : PlotOptions α
  series : List (Series α)

namespace Plot

variable {α : Type}

def new (kind : PlotKind) : Plot α := ⟨kind, .standard, []⟩

def isDiscrete (plot : Plot α) : Bool :=
  plot.options.discrete.getD plot.kind.discreteByDefault

def isStacked (plot : Plot α) : Bool := plot.options.stacked.getD plot.kind.stackedByDefault

def isVisible (plot : Plot α) : Bool := plot.options.visible

def addSeries (plot : Plot α) (series : Series α) : Plot α :=
  { plot with series := plot.series ++ [series] }

def set (name : String) (value : Json) (plot : Plot Float) : Except ChartError (Plot Float) :=
  (plot.options.set name value).map fun options => { plot with options := options }

def get (name : String) (plot : Plot Float) : Except ChartError Json := plot.options.get name

/-- The style in which a series is shown: its own options, then those of the
plot, and for the color the one handed out by the chart. -/
def styleOf (plot : Plot α) (series : Series α) : SeriesStyle α :=
  let style := series.style.orElse plot.options.style
  { style with color := style.color <|> series.assignedColor }

def seriesStyle (plot : Plot α) (index : Nat) : SeriesStyle α :=
  match plot.series[index]? with
  | some series => plot.styleOf series
  | none => plot.options.style

def colors (plot : Plot α) : List String :=
  plot.series.filterMap fun series => (plot.styleOf series).color

def categories [Scalar α] (plot : Plot α) : List String :=
  match plot.series with
  | [] => []
  | first :: _ => first.keys.map Key.text

/-- The number of key positions: the length of the longest series. -/
def keyCount (plot : Plot α) : Nat :=
  plot.series.foldl (fun longest series => max longest series.data.length) 0

end Plot
end CanvasChart
