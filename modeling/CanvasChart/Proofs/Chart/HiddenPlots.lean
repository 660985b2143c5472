import CanvasChart.Proofs.Chart.DrawnPlots
import CanvasChart.Proofs.Section.VisibleScene

set_option autoImplicit false

/-! Hidden plots do not interfere. What is seen of a drawing is what a chart shows that has the
visible plots alone, whatever the options of sides that none of them uses. -/

namespace CanvasChart

variable {α : Type} [Scalar α] (number : Nat → Nat)

/-! ### Drawing without hidden plots -/

theorem Plot.marks_renumber (axes : AxisSet α) (xAxis : Axis α) (spacer : α)
    (state : GraphicsState α) (first total : Nat) (plot : Plot α) :
    plot.marks ⟨axes.map (Axis.renumber number), xAxis.renumber number, spacer⟩ state first
        total =
      plot.marks ⟨axes, xAxis, spacer⟩ state first total := by
  unfold marks MarkContext.yAxis AxisSet.require
  rw [AxisSet.get?_map]
  cases axes.get? plot.options.ySide with
  | none => rfl
  | some yAxis => cases plot.kind <;> rfl

theorem Layout.sideMarks_renumber (layout : Layout α) (spacer : α) (state : GraphicsState α)
    (plots : List (Plot α)) (side : Side) :
    (layout.renumber number).sideMarks spacer state plots side =
      layout.sideMarks spacer state plots side := by
  have held : (layout.renumber number).axes.get? side =
      (layout.axes.get? side).map (Axis.renumber number) :=
    AxisSet.get?_map layout.axes (Axis.renumber number) side
  unfold sideMarks
  rw [held]
  cases layout.axes.get? side with
  | none => rfl
  | some xAxis =>
      refine List.flatMap_congr fun kind _listed => List.flatMap_congr fun placed _member => ?_
      exact Plot.marks_renumber number _ _ _ _ _ _ _

theorem Layout.plotMarks_renumber (layout : Layout α) (spacer : α) (state : GraphicsState α)
    (plots : List (Plot α)) :
    (layout.renumber number).plotMarks spacer state plots =
      layout.plotMarks spacer state plots :=
  List.flatMap_congr fun side _listed => layout.sideMarks_renumber number spacer state plots side

namespace Chart

private theorem framing_visible (options : ChartOptions α) (plots : List (Plot α))
    (axes : AxisSet α) (layout : Layout α) :
    framing options (plots.filter Plot.isVisible) (axes.map (Axis.renumber number))
        (layout.renumber number) =
      framing options plots axes layout := by
  have measured := Layout.measure_visible number ⟨options, axes, plots⟩
  have bands := Layout.sectionBands_visible number ⟨options, axes, plots⟩ layout.plotArea
  have sections : drawSections (Scene.visible number ⟨options, layout.axes, plots⟩) =
      drawSections ⟨options, layout.axes, plots⟩ := by
    funext plotArea listed
    simp only [drawSections, drawSection, Section.draw_visible]
  simp only [Scene.visible] at measured bands sections
  simp only [framing, Layout.renumber, measured, bands, sections]

private theorem framing_withoutAxes (options : ChartOptions α) (plots : List (Plot α))
    (axes : AxisSet α) (layout : Layout α) :
    framing options.withoutAxes plots axes layout = framing options plots axes layout := rfl

/-! ### Visible plots alone -/

/-- What is seen of a drawing. -/
structure Seen (α : Type) where
  result : Except ChartError Unit
  ops : List (DrawOp α)
  attributes : List (String × String)
  /-- The visible plots in their colors. -/
  plots : List (Plot α)
  palette : Palette
  /-- The layout of a successful drawing. -/
  layout : Option (Layout α)

def seen (chart : Chart α) : Seen α where
  result := chart.draw.2
  ops := chart.draw.1.element.canvas.ops
  attributes := chart.draw.1.element.attributes
  plots := chart.draw.1.plots.filter Plot.isVisible
  palette := chart.draw.1.palette
  layout :=
    match chart.draw.2 with
    | .ok () => chart.draw.1.layout.map (Layout.renumber number)
    | .error _ => none

private theorem seen_of_resolved {chart : Chart α} {gathered : AxisSet α}
    (resolved : AxisSet.resolve chart.options chart.plots = .ok (gathered.map Axis.fix))
    (gathers : gathered.Gathers chart.options (AxisSet.visiblePlots chart.plots)) :
    chart.seen number =
      { result := .ok ()
        ops := (chart.canvasOn (gathered.map Axis.fix)).ops
        attributes := chart.sized.element.attributes
        plots := chart.coloredPlots.filter Plot.isVisible
        palette := chart.rotatedPalette
        layout := some ((chart.layoutOn (gathered.map Axis.fix)).renumber number) } := by
  have drawn := chart.draw_of_resolved _ resolved
  rw [(drawingOn_framed gathers).run_ok chart.sized.element.canvas] at drawn
  have ended : chart.draw.2 = .ok () := by rw [drawn]
  simp only [seen, draw_plots ended]
  rw [drawn]
  rfl

private theorem seen_of_unresolved {chart : Chart α} {error : ChartError}
    (unresolved : AxisSet.resolve chart.options chart.plots = .error error) :
    chart.seen number =
      { result := .error error
        ops := chart.element.canvas.ops
        attributes := chart.sized.element.attributes
        plots := chart.plots.filter Plot.isVisible
        palette := chart.palette
        layout := none } := by
  rw [seen, chart.draw_of_unresolved error unresolved, chart.sized_canvas]
  rfl

omit [Scalar α] in
/-- A chart of the visible plots of another, with options of its own. -/
def visibleOnly (chart : Chart α) (options : ChartOptions α) : Chart α where
  element := chart.element
  options := options
  entries := (chart.plots.filter Plot.isVisible).map (Prod.mk ⟨0⟩)
  palette := chart.palette
  nextId := 0
  layout := none

section VisibleOnly

variable (chart : Chart α) (options : ChartOptions α)

omit [Scalar α] in
private theorem visibleOnly_plots :
    (chart.visibleOnly options).plots = chart.plots.filter Plot.isVisible := by
  simp only [Chart.plots, visibleOnly, List.map_map]
  exact List.map_id _

omit [Scalar α] in
private theorem visibleOnly_coloredPlots :
    (chart.visibleOnly options).coloredPlots = chart.coloredPlots.filter Plot.isVisible := by
  rw [coloredPlots, visibleOnly_plots]
  exact congrArg Prod.fst (Plot.setColors_visible chart.plots chart.palette)

omit [Scalar α] in
private theorem visibleOnly_rotatedPalette :
    (chart.visibleOnly options).rotatedPalette = chart.rotatedPalette := by
  rw [rotatedPalette, visibleOnly_plots]
  change (Plot.setColors _ chart.palette).2 = _
  rw [Plot.setColors_visible]
  rfl

variable {chart options}

private theorem visibleOnly_resolveSize
    (sameOptions : options.withoutAxes = chart.options.withoutAxes) :
    (chart.visibleOnly options).resolveSize = chart.resolveSize := by
  have width := congrArg ChartOptions.width sameOptions
  have height := congrArg ChartOptions.height sameOptions
  simp only [ChartOptions.withoutAxes] at width height
  simp only [resolveSize, visibleOnly, width, height]

private theorem visibleOnly_layoutOn (sameOptions : options.withoutAxes = chart.options.withoutAxes)
    (axes : AxisSet α) :
    (chart.visibleOnly options).layoutOn (axes.map (Axis.renumber number)) =
      (chart.layoutOn axes).renumber number := by
  rw [layoutOn, visibleOnly_coloredPlots, visibleOnly_resolveSize sameOptions]
  change layOut options _ _ _ _ = _
  rw [← layOut_withoutAxes, sameOptions, layOut_withoutAxes, layOut_visible]
  rfl

private theorem visibleOnly_framingOn
    (sameOptions : options.withoutAxes = chart.options.withoutAxes) (axes : AxisSet α) :
    (chart.visibleOnly options).framingOn (axes.map (Axis.renumber number)) =
      chart.framingOn axes := by
  rw [framingOn, visibleOnly_coloredPlots, visibleOnly_layoutOn number sameOptions]
  change framing options _ _ _ = _
  rw [← framing_withoutAxes, sameOptions, framing_withoutAxes, framing_visible]
  rfl

private theorem visibleOnly_resolve
    (sameAxes : ∀ plot ∈ chart.plots.filter Plot.isVisible, ∀ kind,
      options.axis (plot.sideOf kind) = chart.options.axis (plot.sideOf kind)) :
    AxisSet.resolve (chart.visibleOnly options).options (chart.visibleOnly options).plots =
      (AxisSet.resolve chart.options chart.plots).map fun axes =>
        axes.map (Axis.renumber (Plot.rank chart.plots)) := by
  rw [visibleOnly_plots]
  exact AxisSet.resolve_visible sameAxes

private theorem visibleOnly_sized (sameOptions : options.withoutAxes = chart.options.withoutAxes) :
    (chart.visibleOnly options).sized.element = chart.sized.element :=
  congrArg (fun size => size.2.2) (visibleOnly_resolveSize sameOptions)

private theorem visibleOnly_canvasOn (sameOptions : options.withoutAxes = chart.options.withoutAxes)
    {gathered alone : AxisSet α}
    (gathers : gathered.Gathers chart.options (AxisSet.visiblePlots chart.plots))
    (aloneGathers : alone.Gathers options
      (AxisSet.visiblePlots (chart.visibleOnly options).plots))
    (sameAxes : alone.map Axis.fix = (gathered.map Axis.fix).map (Axis.renumber number)) :
    ((chart.visibleOnly options).canvasOn (alone.map Axis.fix)).ops =
      (chart.canvasOn (gathered.map Axis.fix)).ops := by
  have spacer : options.barSpacer = chart.options.barSpacer :=
    (congrArg ChartOptions.barSpacer sameOptions :)
  have recorded : ((chart.visibleOnly options).canvasOn (alone.map Axis.fix)).ops = _ :=
    canvasOn_ops aloneGathers
  rw [canvasOn_ops gathers, recorded, sameAxes, visibleOnly_framingOn number sameOptions,
    visibleOnly_layoutOn number sameOptions, Layout.plotMarks_renumber,
    visibleOnly_coloredPlots, List.filter_filter]
  simp only [Bool.and_self, visibleOnly, spacer]

/-- A drawing shows what the visible plots by themselves would show. -/
private theorem seen_visibleOnly (sameOptions : options.withoutAxes = chart.options.withoutAxes)
    (sameAxes : ∀ plot ∈ chart.plots.filter Plot.isVisible, ∀ kind,
      options.axis (plot.sideOf kind) = chart.options.axis (plot.sideOf kind)) :
    (chart.visibleOnly options).seen id = chart.seen (Plot.rank chart.plots) := by
  have resolution := visibleOnly_resolve sameAxes
  rcases chart.draw_outcome with
    ⟨gathered, resolved, gathers, _compatible, _drawn⟩ | ⟨error, unresolved, _fault, _failed⟩
  · rw [resolved] at resolution
    rcases (chart.visibleOnly options).draw_outcome with
      ⟨alone, aloneResolved, aloneGathers, _alike, _drawn⟩ |
      ⟨error, aloneUnresolved, _fault, _failed⟩
    case inr =>
      -- the plots cannot fail alone on axes that they resolve among hidden ones
      rw [resolution] at aloneUnresolved
      cases aloneUnresolved
    have axes : alone.map Axis.fix =
        (gathered.map Axis.fix).map (Axis.renumber (Plot.rank chart.plots)) :=
      Except.ok.inj (aloneResolved.symm.trans resolution)
    rw [seen_of_resolved _ resolved gathers, seen_of_resolved _ aloneResolved aloneGathers,
      visibleOnly_canvasOn _ sameOptions gathers aloneGathers axes,
      visibleOnly_sized sameOptions, visibleOnly_coloredPlots, visibleOnly_rotatedPalette, axes,
      visibleOnly_layoutOn _ sameOptions, List.filter_filter]
    simp only [Bool.and_self, Layout.renumber, AxisSet.map_renumber_id]
  · rw [unresolved] at resolution
    rw [seen_of_unresolved _ unresolved, seen_of_unresolved _ resolution,
      visibleOnly_sized sameOptions, visibleOnly_plots, List.filter_filter]
    simp only [Bool.and_self, visibleOnly]

end VisibleOnly

/-- A drawing leaves every hidden plot as it is, in its place and under its id. -/
def KeepsHidden (chart : Chart α) : Prop :=
  ∀ (index : Nat) (id : PlotId) (plot : Plot α), chart.entries[index]? = some (id, plot) →
    plot.isVisible = false → chart.draw.1.entries[index]? = some (id, plot)

private theorem keepsHidden (chart : Chart α) : chart.KeepsHidden := by
  intro index id plot found hidden
  rcases chart.draw_outcome with
    ⟨gathered, _resolved, _gathers, _compatible, drawn⟩ | ⟨error, _unresolved, _fault, failed⟩
  · have registered : chart.plots[index]? = some plot := by
      rw [Chart.plots, List.getElem?_map, found]
      rfl
    have named : (chart.entries.map Prod.fst)[index]? = some id := by
      rw [List.getElem?_map, found]
      rfl
    rw [drawn]
    exact List.getElem?_zip_eq_some.mpr ⟨named, Plot.distribute_hidden _ registered hidden⟩
  · rw [failed]
    exact found

/-- Charts with one element and one palette, whose visible plots are the same in the same order
and whose options differ at most in axes that no visible plot uses, are drawn alike, and their
hidden plots are left as they are. -/
theorem draw_ignores_hidden_plots (first second : Chart α)
    (sameElement : second.element = first.element) (samePalette : second.palette = first.palette)
    (sameVisible : second.plots.filter Plot.isVisible = first.plots.filter Plot.isVisible)
    (sameOptions : second.options.withoutAxes = first.options.withoutAxes)
    (sameAxes : ∀ plot ∈ first.plots.filter Plot.isVisible, ∀ kind,
      second.options.axis (plot.sideOf kind) = first.options.axis (plot.sideOf kind)) :
    second.seen (Plot.rank second.plots) = first.seen (Plot.rank first.plots) ∧
      first.KeepsHidden ∧ second.KeepsHidden := by
  -- both are compared with the visible plots alone, under the options of the first chart
  have alone : second.visibleOnly first.options = first.visibleOnly first.options := by
    simp only [visibleOnly, sameElement, samePalette, sameVisible]
  refine ⟨?_, first.keepsHidden, second.keepsHidden⟩
  have firstSeen : (first.visibleOnly first.options).seen id =
      first.seen (Plot.rank first.plots) :=
    seen_visibleOnly rfl fun _plot _shown _kind => rfl
  have secondSeen : (second.visibleOnly first.options).seen id =
      second.seen (Plot.rank second.plots) := by
    refine seen_visibleOnly sameOptions.symm fun plot shown kind => ?_
    rw [sameVisible] at shown
    exact (sameAxes plot shown kind).symm
  rw [← firstSeen, ← secondSeen, alone]

def afterHiddenBars : Chart Float :=
  { showing [⟨.bar, { PlotOptions.standard with visible := false, xSide := .top },
      [.ofValues [1, 2]]⟩, scatterOn .bottom .left [3]] with
    options := { ChartOptions.standard with
      topAxis := { AxisOptions.standard with scale := .log } } }

theorem draw_ignores_hidden_plots_scatter :
    afterHiddenBars.seen (Plot.rank afterHiddenBars.plots) =
        (showing [scatterOn .bottom .left [3]]).seen
          (Plot.rank (showing [scatterOn .bottom .left [(3 : Float)]]).plots) ∧
      afterHiddenBars.draw.1.entries[0]? = afterHiddenBars.entries[0]? := by
  have alike := draw_ignores_hidden_plots (showing [scatterOn .bottom .left [(3 : Float)]])
    afterHiddenBars rfl rfl rfl rfl (by
      intro plot shown kind
      rw [List.mem_singleton.mp shown]
      cases kind <;> rfl)
  exact ⟨alike.1, alike.2.2 0 _ _ rfl rfl⟩

end Chart
end CanvasChart
