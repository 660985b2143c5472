import CanvasChart.Proofs.Chart.DrawOutcome
import CanvasChart.Proofs.Plot.DrawingOrder

set_option autoImplicit false

/-! The plots of an axis. An axis records positions among all plots, hidden ones included;
what is drawn at these positions are the visible plots on the side of the axis. -/

namespace CanvasChart

variable {α : Type}

namespace AxisSet

private theorem users_positions (kind : AxisKind) (side : Side) {first second : List (Plot α)}
    (sameOptions : first.map Plot.options = second.map Plot.options) :
    (Plot.users kind side (visiblePlots first)).map Prod.fst =
      (Plot.users kind side (visiblePlots second)).map Prod.fst := by
  have byOptions (sideOf : PlotOptions α → Side) (plots : List (Plot α)) :
      ((visiblePlots plots).filter fun entry => sideOf entry.2.options = side).map Prod.fst =
        (((plots.map Plot.options).mapIdx Prod.mk).filter fun entry =>
          decide (sideOf entry.2 = side) && entry.2.visible).map Prod.fst := by
    have numbered : (plots.map Plot.options).mapIdx Prod.mk =
        (plots.mapIdx Prod.mk).map (Prod.map id Plot.options) :=
      List.ext_getElem (by simp) (by simp)
    rw [numbered, List.filter_map, List.map_map, visiblePlots, List.filter_filter]
    rfl
  have same (sideOf : PlotOptions α → Side) :=
    (byOptions sideOf first).trans (sameOptions ▸ (byOptions sideOf second).symm)
  cases kind with
  | x => exact same PlotOptions.xSide
  | y => exact same PlotOptions.ySide

private theorem onSide_visible (plots : List (Plot α)) (side : Side) :
    Plot.onSide side (plots.filter Plot.isVisible) =
      (Plot.users .x side (visiblePlots plots)).map Prod.snd := by
  rw [← visiblePlots_map_snd, Plot.onSide, List.filter_map]
  rfl

end AxisSet

namespace Chart

variable [Scalar α] {chart : Chart α} {gathered : AxisSet α}

theorem members_of_gathered
    (gathers : gathered.Gathers chart.options (AxisSet.visiblePlots chart.plots))
    {side : Side} {axis : Axis α} (held : gathered.get? side = some axis) (onX : axis.kind = .x)
    {settled : Axis α} (samePlots : settled.plots = axis.plots) :
    members chart.coloredPlots settled =
      Plot.onSide side (chart.coloredPlots.filter Plot.isVisible) := by
  have positions : settled.plots =
      (Plot.users .x side (AxisSet.visiblePlots chart.coloredPlots)).map Prod.fst := by
    rw [samePlots, (gathers.of_get? held).plots_eq, onX]
    exact AxisSet.users_positions .x side chart.coloredPlots_options.symm
  rw [members, positions, List.filterMap_map, AxisSet.onSide_visible, ← List.filterMap_eq_map]
  refine List.filterMap_congr fun entry user => ?_
  exact (AxisSet.mem_visiblePlots.mp (Plot.mem_users.mp user).1).1

theorem onSide_eq_nil
    (gathers : gathered.Gathers chart.options (AxisSet.visiblePlots chart.plots))
    {side : Side} {axis : Axis α} (held : gathered.get? side = some axis) (onY : axis.kind = .y) :
    Plot.onSide side (chart.coloredPlots.filter Plot.isVisible) = [] := by
  have alone := (gathers.of_get? held).alone
  rw [onY] at alone
  have positions := AxisSet.users_positions .x side chart.coloredPlots_options
  rw [show Plot.users .x side (AxisSet.visiblePlots chart.plots) = [] from alone, List.map_nil,
    List.map_eq_nil_iff] at positions
  rw [AxisSet.onSide_visible, positions, List.map_nil]

/-- Both sides of a visible plot carry an axis of the layout, settled from the axis that
gathered the plot. -/
theorem exists_axis_of_shown
    (gathers : gathered.Gathers chart.options (AxisSet.visiblePlots chart.plots))
    {plot : Plot α} (shown : plot ∈ chart.coloredPlots.filter Plot.isVisible)
    (kind : AxisKind) :
    ∃ origin, gathered.get? (plot.sideOf kind) = some origin ∧ origin.kind = kind ∧
      (chart.layoutOn (gathered.map Axis.fix)).axes.get? (plot.sideOf kind) =
        some (origin.settle (chart.layoutOn (gathered.map Axis.fix)).plotArea) := by
  obtain ⟨member, visible⟩ := List.mem_filter.mp shown
  obtain ⟨index, colored⟩ := List.mem_iff_getElem?.mp member
  obtain ⟨plain, found, sameOptions⟩ := chart.coloredPlots_getElem? colored
  have entry : (index, plain) ∈ AxisSet.visiblePlots chart.plots := by
    refine AxisSet.mem_visiblePlots.mpr ⟨found, ?_⟩
    rw [Plot.isVisible, ← sameOptions]
    exact visible
  have sameSide : plain.sideOf kind = plot.sideOf kind := by
    cases kind with
    | x => exact congrArg PlotOptions.xSide sameOptions.symm
    | y => exact congrArg PlotOptions.ySide sameOptions.symm
  obtain ⟨origin, held, onKind, _gathers, settled⟩ := layoutOn_settled gathers entry kind
  exact ⟨origin, sameSide ▸ held, onKind, sameSide ▸ settled⟩

end Chart
end CanvasChart
