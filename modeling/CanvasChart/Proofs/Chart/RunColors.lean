import CanvasChart.Proofs.Chart.Runs

set_option autoImplicit false

/-! Colors in the run of a chart. The palette keeps its colors, a series keeps the color that was
handed to it, and after a drawing no visible series is without one. -/

namespace CanvasChart

variable {α : Type}

/-- Plots are edited by single changes. -/
def Operation.IsChange : Operation α → Prop
  | .editPlot _id edit => ∃ change : PlotChange α, edit = change.apply
  | _ => True

namespace Chart

variable [Scalar α] {chart : Chart α}

private theorem perform_palette (chart : Chart α) (operation : Operation α) :
    (chart.perform operation).palette.colors.Perm chart.palette.colors := by
  cases operation with
  | addPlot plot => exact .refl _
  | removePlot id =>
      change (chart.withoutPlot id).palette.colors.Perm _
      unfold withoutPlot removePlot
      cases chart.plot? id with
      | none => exact .refl _
      | some plot => exact chart.palette.recycle_perm plot.colors
  | editPlot id edit =>
      change (chart.editPlot id edit).palette.colors.Perm _
      unfold editPlot
      cases chart.plot? id <;> exact .refl _
  | setOptions options => exact .refl _
  | draw =>
      change chart.draw.1.palette.colors.Perm _
      rcases chart.draw_outcome with
        ⟨gathered, _resolved, _gathers, _compatible, drawn⟩ | ⟨error, _unresolved, _fault, failed⟩
      · rw [drawn]
        exact chart.palette.recycle_perm _
      · rw [failed]
        exact .refl _

theorem run_palette (chart : Chart α) (operations : List (Operation α)) :
    (chart.run operations).palette.colors.Perm chart.palette.colors := by
  let Reordered (between : Chart α) : Prop :=
    between.palette.colors.Perm chart.palette.colors
  have kept : Reordered (chart.run operations) := by
    refine run_invariant operations ?_ (List.Perm.refl _)
    intro between operation _member reordered
    exact (between.perform_palette operation).trans reordered
  exact kept

private theorem perform_assigned? (numbered : chart.Numbered) {operation : Operation α}
    (change : operation.IsChange) {ref : SeriesRef} {color : String}
    (held : chart.assigned? ref = some color)
    (there : ((chart.perform operation).plot? ref.plot).isSome = true) :
    (chart.perform operation).assigned? ref = some color := by
  obtain ⟨before, stored, holds⟩ := Option.bind_eq_some_iff.mp held
  obtain ⟨after, found⟩ := Option.isSome_iff_exists.mp there
  rw [assigned?, found, Option.bind_some]
  obtain ⟨id, index⟩ := ref
  cases perform_arises found with
  | kept earlier =>
      cases stored.symm.trans earlier
      exact holds
  | added => exact absurd (numbered.given_of_plot? stored) (Nat.lt_irrefl _)
  | edited edit earlier =>
      cases stored.symm.trans earlier
      obtain ⟨single, rfl⟩ := change
      exact single.assigned?_apply holds
  | colored ended earlier recolored =>
      cases stored.symm.trans earlier
      exact recolored.assigned?_kept holds

theorem eq_of_perform_assigned? (numbered : chart.Numbered) {operation : Operation α}
    (change : operation.IsChange) {ref : SeriesRef} {before after : String}
    (held : chart.assigned? ref = some before)
    (holds : (chart.perform operation).assigned? ref = some after) : before = after := by
  have there : ((chart.perform operation).plot? ref.plot).isSome = true := by
    obtain ⟨plot, found, _color⟩ := Option.bind_eq_some_iff.mp holds
    rw [found]
    rfl
  have kept := perform_assigned? numbered change held there
  exact Option.some.inj (kept.symm.trans holds)

private theorem run_assigned? (numbered : chart.Numbered) {operations : List (Operation α)}
    (changes : ∀ operation ∈ operations, operation.IsChange) {ref : SeriesRef}
    {color : String} (held : chart.assigned? ref = some color)
    (there : ((chart.run operations).plot? ref.plot).isSome = true) :
    (chart.run operations).assigned? ref = some color := by
  induction operations generalizing chart with
  | nil => exact held
  | cons operation rest ih =>
      rw [List.forall_mem_cons] at changes
      -- a plot that is there at the end has been there all the time
      have still : ((chart.perform operation).plot? ref.plot).isSome = true := by
        cases found : (chart.perform operation).plot? ref.plot with
        | some plot => rfl
        | none =>
            obtain ⟨plot, stored, _holds⟩ := Option.bind_eq_some_iff.mp held
            have given := (numbered.given_of_plot? stored).trans_le (chart.nextId_le_perform operation)
            have gone := run_absent given found rest
            rw [run, List.foldl_cons, ← run, gone] at there
            cases there
      exact ih (numbered.perform operation) changes.2
        (perform_assigned? numbered changes.1 held still) there

/-- In a run the palette is only reordered, and no series of a plot that stays loses or changes
a color that was handed to it. A successful drawing shows all visible series in a color. -/
theorem run_keeps_colors (element : Element α) (options : ChartOptions α) (palette : Palette)
    (earlier later : List (Operation α))
    (changes : ∀ operation ∈ earlier ++ later, operation.IsChange) :
    let start := (fresh element options palette).run earlier
    let chart := start.run later
    chart.palette.colors.Perm palette.colors ∧
      (∀ ref color, start.assigned? ref = some color →
        (chart.plot? ref.plot).isSome = true → chart.assigned? ref = some color) ∧
      (chart.draw.2 = .ok () → ∀ plot ∈ chart.draw.1.plots, plot.isVisible = true →
        ∀ index < plot.series.length, (plot.seriesStyle index).color.isSome = true) := by
  intro start chart
  have numbered : start.Numbered := (fresh_numbered element options palette).run earlier
  refine ⟨?_, fun ref color held there => ?_, fun ended plot listed => ?_⟩
  · exact (start.run_palette later).trans (run_palette _ earlier)
  · refine run_assigned? numbered (fun operation member => ?_) held there
    exact changes operation (List.mem_append_right earlier member)
  · rw [draw_plots ended] at listed
    exact Plot.setColors_shown chart.plots chart.palette plot listed

def dots (color : Option String) : Plot α :=
  ⟨.scatter, .standard, [{ Series.empty with assignedColor := color }]⟩

omit [Scalar α] in
theorem compatible_dots (color : Option String) : Plot.Compatible [(dots color : Plot α)] :=
  (Plot.compatible_concat_iff [] _).mpr ⟨.nil, rfl⟩

/-- The first plot keeps its color when it is hidden. -/
theorem run_keeps_colors_dots :
    let start : Chart Float :=
      (fresh .new .standard ⟨["red", "green"]⟩).run [.addPlot (dots none), .draw]
    let chart := start.run [.removePlot ⟨7⟩,
      .editPlot ⟨0⟩ (PlotChange.visible false).apply, .addPlot (dots none)]
    start.assigned? ⟨⟨0⟩, 0⟩ = some "red" ∧ chart.assigned? ⟨⟨0⟩, 0⟩ = some "red" ∧
      chart.palette.colors.Perm ["red", "green"] ∧ chart.draw.2 = .ok () ∧
      ∀ plot ∈ chart.draw.1.plots, plot.isVisible = true →
        ∀ index < plot.series.length, (plot.seriesStyle index).color.isSome = true := by
  intro start chart
  have drawn : ∃ element layout, start = ⟨element, .standard,
      [(⟨0⟩, dots (some "red"))], ⟨["green", "red"]⟩, 1, layout⟩ :=
    draw_recolors ((fresh .new .standard ⟨["red", "green"]⟩).run [.addPlot (dots none)])
      (compatible_dots none)
  obtain ⟨element, layout, started⟩ := drawn
  have held : start.assigned? ⟨⟨0⟩, 0⟩ = some "red" := by rw [started]; rfl
  have there : (chart.plot? ⟨0⟩).isSome = true := by
    change ((start.run _).plot? ⟨0⟩).isSome = true
    rw [started]
    rfl
  have compatible : Plot.Compatible (chart.plots.filter Plot.isVisible) := by
    change Plot.Compatible ((start.run _).plots.filter Plot.isVisible)
    rw [started]
    exact compatible_dots none
  have ended : chart.draw.2 = .ok () := draw_ok_of_compatible compatible
  let earlier : List (Operation Float) := [.addPlot (dots none), .draw]
  let later : List (Operation Float) := [.removePlot ⟨7⟩,
    .editPlot ⟨0⟩ (PlotChange.visible false).apply, .addPlot (dots none)]
  have changes : ∀ operation ∈ earlier ++ later, operation.IsChange := by
    simp [earlier, later, Operation.IsChange]
  obtain ⟨palette, kept, shown⟩ :=
    run_keeps_colors .new .standard ⟨["red", "green"]⟩ earlier later changes
  exact ⟨held, kept ⟨⟨0⟩, 0⟩ "red" held there, palette, ended, shown ended⟩

end Chart
end CanvasChart
