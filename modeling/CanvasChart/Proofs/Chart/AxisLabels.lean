import CanvasChart.Proofs.Chart.CategoryCells
import CanvasChart.Proofs.Section.TickLabels

set_option autoImplicit false

/-! The labels along the axes of a drawn chart. Each belongs to a mark or to a category, and
stands with it, on whatever canvas the axis is drawn. -/

namespace CanvasChart

variable [NumberTexts]

namespace Chart

/-- Wherever an axis of a drawn chart is drawn, its labels are in line with its marks. Along a
continuous axis they are those of the marks, and along a discrete one those of the categories. -/
theorem draw_labels (chart : Chart EReal) (ended : chart.draw.2 = .ok ()) :
    ∃ layout, chart.draw.1.layout = some layout ∧
      ∀ side axis, layout.axes.get? side = some axis → axis.options.showLabels = true →
        (∀ scene : Scene EReal, scene.axes = layout.axes → ∀ area state,
          (Ticks.draw scene side area).Draws state state ((Ticks.parts axis).map
            (Ticks.Part.op axis side (Frame.forAxis side axis.companion area) state)) ∧
          Ticks.InLine axis side area state) ∧
        (axis.isDiscrete = false → Ticks.LabelledTicks axis) ∧
        (axis.isDiscrete = true → Ticks.LabelledCells axis (chart.categoriesOn side)) := by
  obtain ⟨gathered, _resolved, gathers, _compatible, drawn⟩ := draw_of_ok ended
  rw [drawn]
  refine ⟨_, rfl, fun side axis held shown => ?_⟩
  have sized : 0 ≤ axis.size := layoutOn_size gathers held ▸ Rect.inset_lengths_nonneg _ _ side
  refine ⟨fun scene same area state => ?_, fun continuous => ?_, fun discrete => ?_⟩
  · have stored : scene.axes.get? side = some axis := same ▸ held
    exact ⟨Ticks.draw_draws stored area state, Ticks.inLine side area state sized⟩
  · exact Ticks.labelledTicks axis continuous shown
  · exact Ticks.labelledCells discrete (layoutOn_named gathers held discrete).1 sized shown

omit [NumberTexts] in
/-- A bar chart with a label for each of two categories. -/
theorem draw_labels_twoBars :
    letI := Exact.wholeTexts
    let chart : Chart EReal := showing [barPlot .left [("a", 1), ("b", 2)]]
    chart.draw.2 = .ok () ∧ ∃ layout axis yAxis, chart.draw.1.layout = some layout ∧
      layout.axes.get? .bottom = some axis ∧ axis.options.showLabels = true ∧
      axis.isDiscrete = true ∧
      (Ticks.parts axis).filterMap Ticks.Part.label? =
        [("a", Ticks.cellCenter axis 0), ("b", Ticks.cellCenter axis 1)] ∧
      layout.axes.get? .left = some yAxis ∧ yAxis.options.showLabels = true ∧
      yAxis.isDiscrete = false ∧ Ticks.LabelledTicks yAxis := by
  let _texts := Exact.wholeTexts
  intro chart
  have compatible : Plot.Compatible [barPlot .left [("a", (1 : EReal)), ("b", 2)]] :=
    (Plot.compatible_concat_iff [] _).mpr ⟨.nil, rfl⟩
  have ended : chart.draw.2 = .ok () := draw_ok_of_compatible compatible
  obtain ⟨layout, kept, labelled⟩ := draw_labels chart ended
  obtain ⟨gathered, _resolved, gathers, _compatible, drawn⟩ := draw_of_ok ended
  have listed : (0, barPlot .left [("a", 1), ("b", 2)]) ∈ AxisSet.visiblePlots chart.plots :=
    List.mem_cons_self
  obtain ⟨bottom, _heldBottom, onX, gathersBottom, settledBottom⟩ :=
    layoutOn_settled gathers listed .x
  obtain ⟨left, _heldLeft, onY, gathersLeft, settledLeft⟩ := layoutOn_settled gathers listed .y
  rw [drawn] at kept
  cases kept
  let area := (chart.layoutOn (gathered.map Axis.fix)).plotArea
  have bottomPlan := bottom.settle_samePlan area
  have leftPlan := left.settle_samePlan area
  have bottomShown : (bottom.settle area).options.showLabels = true := by
    rw [bottomPlan.options, gathersBottom.options_eq]
    rfl
  have leftShown : (left.settle area).options.showLabels = true := by
    rw [leftPlan.options, gathersLeft.options_eq]
    rfl
  have discrete : (bottom.settle area).isDiscrete = true := by
    rw [bottomPlan.isDiscrete]
    exact gathersBottom.isDiscrete_eq onX (Plot.mem_users.mpr ⟨listed, rfl⟩)
  have continuous : (left.settle area).isDiscrete = false := by
    simp [Axis.isDiscrete, leftPlan.kind, onY]
  have cells := (labelled _ _ settledBottom bottomShown).2.2 discrete
  refine ⟨ended, _, _, _, by rw [drawn], settledBottom, bottomShown, discrete, cells.labels,
    settledLeft, leftShown, continuous, ?_⟩
  exact (labelled _ _ settledLeft leftShown).2.1 continuous

end Chart
end CanvasChart
