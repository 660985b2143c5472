import CanvasChart.Chart.Draw

set_option autoImplicit false

/-! The steps of drawing a chart, by name: the size that is written back, the colors
that are handed out, the layout for resolved axes, and the chart that they leave. -/

namespace CanvasChart.Chart

variable {α : Type} [Scalar α]

/-- The chart with its size settled and the configured lengths written back. -/
def sized (chart : Chart α) : Chart α := { chart with element := chart.resolveSize.2.2 }

def coloredPlots (chart : Chart α) : List (Plot α) :=
  (Plot.setColors chart.plots chart.palette).1

def rotatedPalette (chart : Chart α) : Palette :=
  (Plot.setColors chart.plots chart.palette).2

def layoutOn (chart : Chart α) (axes : AxisSet α) : Layout α :=
  layOut chart.options axes chart.coloredPlots chart.resolveSize.1 chart.resolveSize.2.1

def sectionsOn (chart : Chart α) (axes : AxisSet α) : Drawing α :=
  drawSections ⟨chart.options, (chart.layoutOn axes).axes, chart.coloredPlots⟩
    (chart.layoutOn axes).plotArea
    (Layout.sectionBands ⟨chart.options, axes, chart.coloredPlots⟩
      (chart.layoutOn axes).plotArea)

def plotsOn (chart : Chart α) (axes : AxisSet α) : Drawing α :=
  drawPlots chart.options (chart.layoutOn axes).axes chart.coloredPlots
    (chart.layoutOn axes).plotArea

/-- Everything that is drawn before the plots in a layout. -/
def framing (options : ChartOptions α) (plots : List (Plot α)) (axes : AxisSet α)
    (layout : Layout α) : Drawing α :=
  .call (.clearRect ⟨0, 0, layout.width, layout.height⟩) ++
    drawBackground options layout.width layout.height ++
    Layout.measure ⟨options, axes, plots⟩ ++
    drawPlotBorder options layout.plotArea ++
    drawSections ⟨options, layout.axes, plots⟩ layout.plotArea
      (Layout.sectionBands ⟨options, axes, plots⟩ layout.plotArea)

def framingOn (chart : Chart α) (axes : AxisSet α) : Drawing α :=
  framing chart.options chart.coloredPlots axes (chart.layoutOn axes)

def drawingOn (chart : Chart α) (axes : AxisSet α) : Drawing α :=
  drawing chart.options chart.coloredPlots axes (chart.layoutOn axes)

def canvasOn (chart : Chart α) (axes : AxisSet α) : Recorder α :=
  ((chart.drawingOn axes).run chart.sized.element.canvas).1

/-- The chart after a drawing on resolved axes, its layout apart. -/
def coloredOn (chart : Chart α) (axes : AxisSet α) : Chart α :=
  { chart.sized.withPlots chart.coloredPlots with
    palette := chart.rotatedPalette
    element := { chart.sized.element with canvas := chart.canvasOn axes } }

def writtenBack (chart : Chart α) (name : String) : Option String :=
  if name = "width" then chart.options.width.map Scalar.shortest
  else if name = "height" then chart.options.height.map Scalar.shortest
  else none

theorem drawingOn_eq (chart : Chart α) (axes : AxisSet α) :
    chart.drawingOn axes = chart.framingOn axes ++ chart.plotsOn axes := rfl

omit [Scalar α] in
theorem plots_withPlots (chart : Chart α) {plots : List (Plot α)}
    (sameLength : plots.length = chart.plots.length) : (chart.withPlots plots).plots = plots := by
  simp only [Chart.plots, withPlots, List.length_map] at sameLength ⊢
  exact List.map_snd_zip (by simp [sameLength])

omit [Scalar α] in
theorem withPlots_plots (chart : Chart α) : chart.withPlots chart.plots = chart := by
  have entries : (chart.entries.map Prod.fst).zip (chart.entries.map Prod.snd) = chart.entries := by
    rw [← List.unzip_fst, ← List.unzip_snd, List.zip_unzip]
  simp only [withPlots, Chart.plots, entries]

theorem sized_canvas (chart : Chart α) :
    chart.sized.element.canvas = chart.element.canvas := by
  simp only [sized, resolveSize, Element.resolveLength]
  cases chart.options.width <;> cases chart.options.height <;> rfl

theorem resolveLength_attribute? (element : Element α) (name asked : String)
    (configured : Option α) (fallback : α) :
    (element.resolveLength name configured fallback).2.attribute? asked =
      ((if asked = name then configured.map Scalar.shortest else none) <|>
        element.attribute? asked) := by
  cases configured with
  | none => simp [Element.resolveLength]
  | some value =>
      by_cases same : asked = name
      · subst same
        simp [Element.resolveLength, Element.setAttribute, Element.attribute?,
          Association.lookup_put_same]
      · simp [Element.resolveLength, Element.setAttribute, Element.attribute?,
          Association.lookup_put_other _ _ _ _ same, same]

theorem sized_attribute? (chart : Chart α) (name : String) :
    chart.sized.element.attribute? name =
      (chart.writtenBack name <|> chart.element.attribute? name) := by
  have height := resolveLength_attribute?
    (chart.element.resolveLength "width" chart.options.width standardWidth).2 "height" name
    chart.options.height standardHeight
  have width := resolveLength_attribute? chart.element "width" name chart.options.width
    standardWidth
  refine height.trans ?_
  rw [width, writtenBack]
  by_cases onWidth : name = "width"
  · subst onWidth
    simp
  · by_cases onHeight : name = "height"
    · subst onHeight
      simp
    · simp [onWidth, onHeight]

theorem draw_of_unresolved (chart : Chart α) (error : ChartError)
    (unresolved : AxisSet.resolve chart.options chart.plots = .error error) :
    chart.draw = (chart.sized, .error error) := by
  simp only [draw, unresolved]
  rfl

/-- On resolved axes the outcome is that of the drawing, and the layout is kept when the
drawing comes to its end. -/
theorem draw_of_resolved (chart : Chart α) (axes : AxisSet α)
    (resolved : AxisSet.resolve chart.options chart.plots = .ok axes) :
    chart.draw =
      match ((chart.drawingOn axes).run chart.sized.element.canvas).2 with
      | .ok () => ({ chart.coloredOn axes with layout := some (chart.layoutOn axes) }, .ok ())
      | .error error => (chart.coloredOn axes, .error error) := by
  simp only [draw, resolved]
  rfl

end CanvasChart.Chart
