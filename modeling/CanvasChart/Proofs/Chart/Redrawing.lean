import CanvasChart.Proofs.Axis.Transport
import CanvasChart.Proofs.Chart.DrawnPlots
import CanvasChart.Proofs.Chart.SettledDrawing

set_option autoImplicit false

/-! Drawing a chart once more. The first drawing leaves sizes, colors and palette as it used
them, so the second draws the same on the same axes and changes nothing but the recording. -/

namespace CanvasChart

open Drawing

variable {α : Type} [Scalar α]

/-! ### Sizes -/

theorem Element.resolveLength_again {first second : Element α} {name : String}
    {configured : Option α}
    (written : second.attribute? name =
      (configured.map Scalar.shortest <|> first.attribute? name)) (fallback : α) :
    second.resolveLength name configured fallback =
      ((first.resolveLength name configured fallback).1, second) := by
  cases configured with
  | none =>
      have sameText : second.attribute? name = first.attribute? name := written
      simp only [resolveLength, length?, sameText]
  | some value =>
      have held : second.attributes.lookup name = some (Scalar.shortest value) := written
      simp only [resolveLength, setAttribute, Association.put_held held]

namespace Chart

private theorem resolveSize_again {chart again : Chart α}
    (sameOptions : again.options = chart.options)
    (written : ∀ name, again.element.attribute? name = chart.sized.element.attribute? name) :
    again.resolveSize = (chart.resolveSize.1, chart.resolveSize.2.1, again.element) := by
  let afterWidth := (chart.element.resolveLength "width" chart.options.width standardWidth).2
  have width : again.element.attribute? "width" =
      (chart.options.width.map Scalar.shortest <|> chart.element.attribute? "width") := by
    rw [written, sized_attribute?, writtenBack, if_pos rfl]
  have height : again.element.attribute? "height" =
      (chart.options.height.map Scalar.shortest <|> afterWidth.attribute? "height") := by
    rw [written, sized_attribute?, writtenBack, resolveLength_attribute?]
    simp
  simp only [resolveSize, sameOptions, Element.resolveLength_again width,
    Element.resolveLength_again height]
  rfl

variable {chart : Chart α}

/-- What an ended drawing did to the canvas depends on its graphics state alone. -/
private theorem drawingOn_hasEffect {gathered : AxisSet α}
    (gathers : gathered.Gathers chart.options (AxisSet.visiblePlots chart.plots))
    (before : GraphicsState α) :
    ∃ marks path, (chart.drawingOn (gathered.map Axis.fix)).HasEffect before
      ⟨before, marks, path, .ok ()⟩ := by
  obtain ⟨framing, frames⟩ := chart.framingOn_settled (gathered.map Axis.fix) before
  have disciplined : (chart.framingOn (gathered.map Axis.fix)).Framed False :=
    (drawingOn_framed gathers).1
  -- a run on a blank canvas tells that the sections end well, in the state they began in
  let blank : Recorder α := ⟨before, [], [], []⟩
  have run : (chart.framingOn (gathered.map Axis.fix)).run blank =
      (blank.after framing, framing.result) := frames.run_eq
  have ended := disciplined.run_ok blank
  have kept := (disciplined.run_sameGraphics blank).state
  rw [run] at ended kept
  have keptState : framing.state = before := kept
  obtain ⟨path, plots⟩ := plotsOn_draws gathers before
  rw [← keptState] at plots
  have whole := frames.append ended plots
  rw [keptState] at whole
  exact ⟨_, _, whole⟩

/-- Where sizes, colors and layout are those that a drawing would settle, drawing gives the
chart a new canvas and nothing else. -/
private theorem draw_of_settled {axes : AxisSet α} {canvas : Recorder α}
    (sized : chart.sized = chart)
    (colored : Plot.setColors chart.plots chart.palette = (chart.plots, chart.palette))
    (resolved : AxisSet.resolve chart.options chart.plots = .ok axes)
    (kept : chart.layout = some (chart.layoutOn axes))
    (run : (chart.drawingOn axes).run chart.element.canvas = (canvas, .ok ())) :
    chart.draw =
      ({ chart with element := { chart.element with canvas := canvas } }, .ok ()) := by
  have plots : chart.coloredPlots = chart.plots := congrArg Prod.fst colored
  have palette : chart.rotatedPalette = chart.palette := congrArg Prod.snd colored
  have recorded : chart.canvasOn axes = canvas := by rw [canvasOn, sized, run]
  rw [chart.draw_of_resolved axes resolved, sized, run]
  simp only [coloredOn, sized, plots, palette, recorded, chart.withPlots_plots, ← kept]

/-- Drawing once more right away ends well, records the same operations again and leaves all
else of the chart as it is. -/
theorem draw_again (chart : Chart α) (ended : chart.draw.2 = .ok ()) :
    let once := chart.draw.1
    ∃ marks, once.element.canvas.ops = chart.element.canvas.ops ++ marks ∧
      once.draw =
        ({ once with element := { once.element with canvas :=
            { once.element.canvas with ops := once.element.canvas.ops ++ marks } } }, .ok ()) := by
  obtain ⟨gathered, resolved, gathers, _compatible, drawn⟩ := draw_of_ok ended
  intro once
  let axes := gathered.map Axis.fix
  have onceEq : once = { chart.coloredOn axes with layout := some (chart.layoutOn axes) } :=
    congrArg Prod.fst drawn
  have options : once.options = chart.options := by rw [onceEq]; rfl
  have palette : once.palette = chart.rotatedPalette := by rw [onceEq]; rfl
  have plots : once.plots = chart.coloredPlots := draw_plots ended
  obtain ⟨marks, path, effect⟩ := drawingOn_hasEffect gathers chart.element.canvas.state
  have canvas : once.element.canvas = chart.element.canvas.after
      ⟨chart.element.canvas.state, marks, path, .ok ()⟩ := by
    rw [onceEq]
    change ((chart.drawingOn axes).run chart.sized.element.canvas).1 = _
    rw [chart.sized_canvas, effect.run_eq]
  have size : once.resolveSize = (chart.resolveSize.1, chart.resolveSize.2.1, once.element) :=
    resolveSize_again options fun name => by rw [onceEq]; rfl
  have colored : Plot.setColors once.plots once.palette = (once.plots, once.palette) := by
    rw [plots, palette]
    exact Plot.setColors_idempotent chart.plots chart.palette
  have coloredPlots : once.coloredPlots = chart.coloredPlots :=
    (congrArg Prod.fst colored).trans plots
  have sameAxes : AxisSet.resolve once.options once.plots = .ok axes := by
    rw [options, plots, ← resolved, ← AxisSet.resolve_uncolored _ chart.plots,
      ← AxisSet.resolve_uncolored, coloredPlots_uncolored]
  have layout : once.layoutOn axes = chart.layoutOn axes := by
    simp only [layoutOn, options, coloredPlots, size]
  have drawing : once.drawingOn axes = chart.drawingOn axes := by
    simp only [drawingOn, options, coloredPlots, layout]
  refine ⟨marks, by rw [canvas]; rfl, draw_of_settled ?_ colored sameAxes ?_ ?_⟩
  · rw [Chart.sized, size]
  · rw [layout, onceEq]
  · have sameState : once.element.canvas.state = chart.element.canvas.state := by
      rw [canvas]
      rfl
    -- the path that the first drawing left is the one that the second leaves
    have samePath : path.getD once.element.canvas.path = once.element.canvas.path := by
      rw [canvas]
      cases path <;> rfl
    rw [← sameState] at effect
    rw [drawing, effect.run_eq]
    simp only [Recorder.after, samePath]

theorem draw_again_withHiddenBars :
    ∃ marks, withHiddenBars.draw.1.element.canvas.ops = marks ∧
      withHiddenBars.draw.1.draw.2 = .ok () ∧
      withHiddenBars.draw.1.draw.1.element.canvas.ops = marks ++ marks := by
  obtain ⟨marks, recorded, again⟩ := draw_again withHiddenBars draw_withHiddenBars
  have onlyMarks : withHiddenBars.draw.1.element.canvas.ops = marks := recorded
  refine ⟨marks, onlyMarks, ?_, ?_⟩
  · rw [again]
  · rw [again, onlyMarks]

end Chart
end CanvasChart
