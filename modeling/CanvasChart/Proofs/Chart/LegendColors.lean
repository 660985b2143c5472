import Mathlib.Data.List.Forall2
import CanvasChart.Proofs.Chart.DrawnPlots
import CanvasChart.Proofs.Marks.SeriesMarks

set_option autoImplicit false

/-! The legend beside the plots. It has one entry for every series of a visible plot, and
whatever is recorded for a series is in the color of its entry, in whichever order the plots
and their series are drawn. -/

namespace CanvasChart

open Drawing

variable {α : Type}

namespace Plot

def shownSeries (plots : List (Plot α)) : List (PlacedSeries α) :=
  (plots.filter isVisible).flatMap placedSeries

def seriesInDrawingOrder (plots : List (Plot α)) : List (PlacedSeries α) :=
  (inDrawingOrder (plots.filter isVisible)).flatMap drawnSeries

private theorem seriesInDrawingOrder_perm (plots : List (Plot α)) :
    (seriesInDrawingOrder plots).Perm (shownSeries plots) := by
  have sorted := (inDrawingOrder_perm (plots.filter isVisible)).flatMap_right drawnSeries
  have within := List.Perm.flatMap_left (plots.filter isVisible) fun plot _member =>
    plot.drawnSeries_perm
  exact sorted.trans within

end Plot

/-- Items in another order carry the numbers of their old places along. -/
private theorem exists_numbering {β : Type} {items listed : List β} (perm : items.Perm listed) :
    ∃ order : List (β × Nat),
      List.Forall₂ (fun item entry => item = entry.1 ∧ listed[entry.2]? = some entry.1)
        items order ∧ order.Perm listed.zipIdx := by
  have numbered : List.Forall₂
      (fun item (entry : β × Nat) => item = entry.1 ∧ listed[entry.2]? = some entry.1)
      (listed.zipIdx.map Prod.fst) listed.zipIdx := by
    refine List.forall₂_map_left_iff.mpr (List.forall₂_same.mpr fun entry member => ?_)
    exact ⟨rfl, List.mem_zipIdx_iff_getElem?.mp member⟩
  rw [List.zipIdx_map_fst] at numbered
  exact List.perm_comp_forall₂ perm numbered

namespace Legend

/-- The name of a series in the legend, given its number from zero. -/
def nameOf (number : Nat) (series : Series α) : String :=
  series.name.getD ("Series " ++ toString (number + 1))

private theorem entries_eq (plots : List (Plot α)) :
    entries plots =
      (Plot.shownSeries plots).mapIdx fun number placed =>
        ⟨nameOf number placed.series, placed.color⟩ := by
  have listed : ((plots.filter Plot.isVisible).flatMap fun plot =>
      plot.series.map fun series => (plot, series)) =
        (Plot.shownSeries plots).map fun placed => (placed.plot, placed.series) := by
    rw [Plot.shownSeries, List.map_flatMap]
    refine List.flatMap_congr fun plot _member => ?_
    exact List.ext_getElem (by simp [Plot.placedSeries]) (by simp [Plot.placedSeries])
  rw [entries, listed, List.mapIdx_eq_iff]
  intro number
  rw [List.getElem?_mapIdx, List.getElem?_map, Option.map_map]
  rfl

end Legend

namespace InTurn

variable {β γ : Type} {leaves : β → List (DrawOp α) → Prop}
  {others : γ → List (DrawOp α) → Prop}

private theorem parts {partsOf : β → List γ}
    (each : ∀ item marks, leaves item marks → InTurn others (partsOf item) marks)
    {items : List β} {marks : List (DrawOp α)} (inTurn : InTurn leaves items marks) :
    InTurn others (items.flatMap partsOf) marks := by
  induction inTurn with
  | nil => exact .nil
  | cons first _next ih => exact (each _ _ first).append ih

private theorem relabel {same : β → γ → Prop}
    (each : ∀ item other marks, same item other → leaves item marks → others other marks)
    {items : List β} {labels : List γ} (paired : List.Forall₂ same items labels)
    {marks : List (DrawOp α)} (inTurn : InTurn leaves items marks) :
    InTurn others labels marks := by
  induction inTurn generalizing labels with
  | nil =>
      cases paired
      exact .nil
  | cons first _next ih =>
      cases paired with
      | cons here later => exact .cons (each _ _ _ here first) (ih later)

private theorem exists_block {items : List β} {marks : List (DrawOp α)}
    (inTurn : InTurn leaves items marks) {mark : DrawOp α} (member : mark ∈ marks) :
    ∃ item block, leaves item block ∧ mark ∈ block := by
  induction inTurn with
  | nil => cases member
  | cons first _next ih =>
      rcases List.mem_append.mp member with here | later
      · exact ⟨_, _, first, here⟩
      · exact ih later

end InTurn

variable [Scalar α]

/-- The marks are what drawing the series records, on the axes of the layout that the sides of
its plot name. -/
def Layout.LeavesSeries (layout : Layout α) (spacer : α) (state : GraphicsState α)
    (placed : PlacedSeries α) (marks : List (DrawOp α)) : Prop :=
  ∃ xAxis yAxis first total,
    layout.axes.get? placed.plot.options.xSide = some xAxis ∧
    layout.axes.get? placed.plot.options.ySide = some yAxis ∧
    let plotState := state.within
      (Frame.forPlot placed.plot.options.xSide xAxis.companion layout.plotArea)
    (Marks.drawSeries ⟨layout.axes, xAxis, spacer⟩ yAxis first total placed).Draws plotState
      plotState marks

theorem Layout.series_inTurn {layout : Layout α} {spacer : α} {state : GraphicsState α}
    {plot : Plot α} {marks : List (DrawOp α)} (leaves : layout.Leaves spacer state plot marks) :
    InTurn (fun placed block => layout.LeavesSeries spacer state placed block ∧
      ∀ mark ∈ block, mark.color? = some placed.color) plot.drawnSeries marks := by
  obtain ⟨xAxis, yAxis, first, total, heldX, heldY, recorded, _leaves⟩ := leaves
  have present : (⟨layout.axes, xAxis, spacer⟩ : MarkContext α).yAxis plot = .ok yAxis :=
    AxisSet.require_of_get? heldY
  rw [recorded, Plot.marks_eq_flatMap present, ← List.flatMap_singleton' plot.drawnSeries,
    List.flatMap_assoc]
  refine InTurn.flatMap _ fun placed member => ?_
  have ofPlot : placed.plot = plot :=
    Plot.plot_of_mem_placedSeries (plot.drawnSeries_perm.mem_iff.mp member)
  rw [List.flatMap_singleton, ← List.append_nil (placed.marks _ _ _ _ _)]
  refine .cons ⟨⟨xAxis, yAxis, first, total, ?_, ?_, ?_⟩, ?_⟩ .nil
  · rwa [ofPlot]
  · rwa [ofPlot]
  · rw [ofPlot]
    exact Marks.drawSeries_draws _ _ yAxis first total placed
  · exact placed.marks_color _ _ yAxis first total

namespace Chart

/-- The legend of a drawn chart has one entry for every series of a visible plot, in plot then
series order, with the name of the series or its number. After the sections the series leave
their marks one after the other, each series once, and every mark of the series with a number
is in the color of the entry with that number. The plots are those of the drawn scene, in the
colors that were handed out. -/
theorem draw_legend_tells_colors (chart : Chart α) (ended : chart.draw.2 = .ok ()) :
    chart.draw.1.plots = chart.coloredPlots ∧
    ∃ axes layout marks order, AxisSet.resolve chart.options chart.plots = .ok axes ∧
      chart.draw.1.layout = some layout ∧
      chart.draw.1.element.canvas.ops =
        ((chart.framingOn axes).run chart.element.canvas).1.ops ++ marks ∧
      let listed := Plot.shownSeries chart.coloredPlots
      let entries := Legend.entries chart.coloredPlots
      entries.map LegendEntry.name =
        listed.mapIdx (fun number placed => Legend.nameOf number placed.series) ∧
      order.Perm listed.zipIdx ∧
      InTurn (fun numbered block =>
        layout.LeavesSeries chart.options.barSpacer chart.element.canvas.state numbered.1 block ∧
        ∃ entry, entries[numbered.2]? = some entry ∧
          ∀ mark ∈ block, mark.color? = some entry.color) order marks := by
  obtain ⟨gathered, resolved, gathers, _compatible, drawn⟩ := draw_of_ok ended
  let layout := chart.layoutOn (gathered.map Axis.fix)
  have byPlot := layout.plotMarks_inTurn chart.options.barSpacer chart.element.canvas.state
    (chart.coloredPlots.filter Plot.isVisible) fun plot shown kind => by
      obtain ⟨origin, _held, _onKind, settled⟩ := exists_axis_of_shown gathers shown kind
      exact ⟨_, settled⟩
  have bySeries := byPlot.parts fun _plot _marks => Layout.series_inTurn
  obtain ⟨order, labels, orderPerm⟩ :=
    exists_numbering (Plot.seriesInDrawingOrder_perm chart.coloredPlots)
  refine ⟨draw_plots ended, ?_⟩
  rw [drawn]
  refine ⟨_, layout, _, order, resolved, rfl, canvasOn_ops gathers, ?_, orderPerm, ?_⟩
  · rw [Legend.entries_eq]
    exact List.ext_getElem (by simp) (by simp)
  · refine bySeries.relabel ?_ labels
    rintro placed entry block ⟨rfl, found⟩ ⟨leaves, colored⟩
    refine ⟨leaves, ⟨Legend.nameOf entry.2 entry.1.series, entry.1.color⟩, ?_, colored⟩
    rw [Legend.entries_eq, List.getElem?_mapIdx, found, Option.map_some]

def mixedColors : Chart Float :=
  showing
    [⟨.line, .standard,
        [.ofValues [1, 2], { Series.ofValues [2, 3] with
          name := some "Sales", style.color := some "red" }]⟩,
      ⟨.bar, { PlotOptions.standard with visible := false }, [.ofValues [1]]⟩,
      ⟨.scatter, { PlotOptions.standard with
          style.color := some "green", style.shape := some .cross }, [.ofValues [3]]⟩]

private theorem draw_mixedColors : mixedColors.draw.2 = .ok () :=
  draw_ok_of_compatible (Plot.compatible_pair rfl rfl)

/-- Every mark is in a color of the legend, which leaves the hidden bars out. -/
theorem draw_legend_tells_colors_mixed :
    mixedColors.draw.2 = .ok () ∧
      Legend.entries mixedColors.draw.1.plots =
        [⟨"Series 1", Color.firstSeries⟩, ⟨"Sales", "red"⟩, ⟨"Series 3", "green"⟩] ∧
      ∃ axes marks, mixedColors.draw.1.element.canvas.ops =
        ((mixedColors.framingOn axes).run mixedColors.element.canvas).1.ops ++ marks ∧
        ∀ mark ∈ marks, ∃ entry ∈ Legend.entries mixedColors.draw.1.plots,
          mark.color? = some entry.color := by
  obtain ⟨plots, axes, _layout, marks, _order, _resolved, _kept, recorded, _names, _all, inTurn⟩ :=
    draw_legend_tells_colors mixedColors draw_mixedColors
  rw [plots]
  refine ⟨draw_mixedColors, rfl, axes, marks, recorded, fun mark member => ?_⟩
  obtain ⟨_series, _block, ⟨_leaves, entry, found, colored⟩, inBlock⟩ :=
    inTurn.exists_block member
  exact ⟨entry, List.mem_of_getElem? found, colored mark inBlock⟩

end Chart
end CanvasChart
