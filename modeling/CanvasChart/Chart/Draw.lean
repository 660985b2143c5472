import CanvasChart.Chart.Basic
import CanvasChart.Marks.Group
import CanvasChart.Plot.Group

set_option autoImplicit false

/-! Drawing a chart. The axes are resolved before anything is drawn, so that
mistakes in the options leave the canvas as it is. Then colors are handed out,
the layout is settled, and borders, sections and plots are drawn in this order. -/

namespace CanvasChart

namespace Chart

variable {α : Type} [Scalar α]

/-- The size of a canvas when neither the options nor the element give one. -/
def standardWidth : α := 300

def standardHeight : α := 150

def resolveSize (chart : Chart α) : α × α × Element α :=
  let (width, element) := chart.element.resolveLength "width" chart.options.width standardWidth
  let (height, element) := element.resolveLength "height" chart.options.height standardHeight
  (width, height, element)

def drawBackground (options : ChartOptions α) (width height : α) : Drawing α :=
  let background : Drawing α :=
    match options.background with
    | some color => .calls [.setFillStyle color, .fillRect ⟨0, 0, width, height⟩]
    | none => .empty
  let border := Scalar.max options.borderWidth 0
  let outline : Drawing α :=
    if 0 < border then
      .calls [.setStrokeStyle options.borderColor, .setLineWidth border,
        .strokeRect ⟨border / 2, border / 2, width - border, height - border⟩]
    else .empty
  .scope (background ++ outline)

def drawPlotBorder (options : ChartOptions α) (plotArea : Rect α) : Drawing α :=
  if options.plotBorderWidth ≤ 0 then .empty
  else
    .scope <| .calls [.setStrokeStyle options.plotBorderColor,
      .setLineWidth options.plotBorderWidth, .strokeRect plotArea]

def drawSection (scene : Scene α) (plotArea : Rect α) (place : Section) (band : Rect α) :
    Drawing α :=
  .scope <| .call (.translate band.x band.y) ++
    place.draw scene ⟨0, 0, band.width, band.height⟩ (plotArea.moved (-band.x) (-band.y))

def drawSections (scene : Scene α) (plotArea : Rect α) (bands : List (Side × Section × Rect α)) :
    Drawing α :=
  .sequence (bands.map fun (_, place, band) => drawSection scene plotArea place band)

def members (plots : List (Plot α)) (axis : Axis α) : List (Plot α) :=
  axis.plots.filterMap fun index => plots[index]?

/-- Draws the plots of an X axis in its plot frame, one type after the other. -/
def drawAxisPlots (options : ChartOptions α) (axes : AxisSet α) (plots : List (Plot α))
    (plotArea : Rect α) (xAxis : Axis α) : Drawing α :=
  let drawn := members plots xAxis
  if drawn.isEmpty then .empty
  else
    let frame := Frame.forPlot xAxis.side xAxis.companion plotArea
    let context : MarkContext α := ⟨axes, xAxis, options.barSpacer⟩
    .scope <| .call (.transform frame.matrix) ++
      .sequence ((Plot.groups drawn).map fun (kind, group) => Marks.drawGroup context kind group)

def drawPlots (options : ChartOptions α) (axes : AxisSet α) (plots : List (Plot α))
    (plotArea : Rect α) : Drawing α :=
  .sequence (axes.xAxes.map (drawAxisPlots options axes plots plotArea))

def layOut (options : ChartOptions α) (axes : AxisSet α) (plots : List (Plot α))
    (width height : α) : Layout α :=
  let inner := Layout.innerRect (Scalar.max options.borderWidth 0) width height
  let scene : Scene α := ⟨options, axes, plots⟩
  let sizes := Layout.sideSizes scene inner
  let plotArea := inner.inset sizes
  { width := width
    height := height
    inner := inner
    plotArea := plotArea
    sizes := sizes
    axes := Layout.sizeAxes axes plotArea
    axisLayout := .of plots
    bands := (Layout.sectionBands scene plotArea).map fun (side, place, rect) =>
      ⟨side, place.name, rect⟩ }

def drawing (options : ChartOptions α) (plots : List (Plot α)) (axes : AxisSet α)
    (layout : Layout α) : Drawing α :=
  let plotArea := layout.plotArea
  let bands := Layout.sectionBands ⟨options, axes, plots⟩ plotArea
  .call (.clearRect ⟨0, 0, layout.width, layout.height⟩) ++
    drawBackground options layout.width layout.height ++
    Layout.measure ⟨options, axes, plots⟩ ++
    drawPlotBorder options plotArea ++
    drawSections ⟨options, layout.axes, plots⟩ plotArea bands ++
    drawPlots options layout.axes plots plotArea

def draw (chart : Chart α) : Chart α × Except ChartError Unit :=
  let (width, height, element) := chart.resolveSize
  let sized := { chart with element := element }
  match AxisSet.resolve chart.options chart.plots with
  | .error error => (sized, .error error)
  | .ok axes =>
      let (plots, palette) := Plot.setColors chart.plots chart.palette
      let layout := layOut chart.options axes plots width height
      let (canvas, result) := (drawing chart.options plots axes layout).run element.canvas
      let drawn := { sized.withPlots plots with
        palette := palette
        element := { element with canvas := canvas } }
      match result with
      | .ok () => ({ drawn with layout := some layout }, .ok ())
      | .error error => (drawn, .error error)

end Chart
end CanvasChart
