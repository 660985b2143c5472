import CanvasChart.Chart.Basic
import CanvasChart.Json.Reader

set_option autoImplicit false

/-! Whole charts in one document: the options of the chart, and its plots with
their types, options and series. -/

namespace CanvasChart

structure PlotDefinition (α : Type) where
  kind : PlotKind
  options : PlotOptions α
  series : List (Series α)

structure ChartDefinition (α : Type) where
  options : ChartOptions α
  plots : List (PlotDefinition α)

namespace PlotDefinition

variable {α : Type}

open Json in
def record : Record (PlotDefinition Float) :=
  .plain
    [ (RecordField.of "type" kind fun value definition =>
        { definition with kind := value }).mandatory,
      .of "config" options fun value definition => { definition with options := value },
      .of "series" series fun value definition => { definition with series := value } ]
    ⟨.bar, .standard, []⟩

instance : JsonCodec (PlotDefinition Float) := ⟨record.write, record.read?⟩

def toPlot (definition : PlotDefinition α) : Plot α :=
  ⟨definition.kind, definition.options, definition.series⟩

end PlotDefinition

namespace ChartDefinition

variable {α : Type}

open Json in
def record : Record (ChartDefinition Float) :=
  .plain
    [ .of "config" options fun value definition => { definition with options := value },
      .of "plots" plots fun value definition => { definition with plots := value } ]
    ⟨.standard, []⟩

instance : JsonCodec (ChartDefinition Float) := ⟨record.write, record.read?⟩

def read (text : String) : Except ChartError (ChartDefinition Float) :=
  match (Json.read? text).bind decode with
  | some definition => .ok definition
  | none => .error .invalidDefinition

/-- A chart on an element with every plot registered, not yet drawn. -/
def build [Scalar α] (definition : ChartDefinition α) (element : Element α) : Chart α :=
  definition.plots.foldl (fun chart plot => (chart.addPlot plot.toPlot).2)
    { Chart.new element with options := definition.options }

end ChartDefinition
end CanvasChart
