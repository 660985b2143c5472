import CanvasChart.Proofs.Chart.AxisPresence
import CanvasChart.Proofs.Chart.DrawingFrame

set_option autoImplicit false

/-! How drawing a chart ends. Once the axes are resolved everything that is drawn comes to
its end, so drawing fails exactly where axis resolution does, before anything is drawn. -/

namespace CanvasChart.Chart

open Drawing

variable {α : Type} [Scalar α] {chart : Chart α} {gathered : AxisSet α}

private theorem ticks_present (chart : Chart α) (gathered : AxisSet α) :
    ∀ band ∈ Layout.sectionBands ⟨chart.options, gathered.map Axis.fix, chart.coloredPlots⟩
        (chart.layoutOn (gathered.map Axis.fix)).plotArea,
      ∀ side error, band.2.1 = .ticks side →
        (chart.layoutOn (gathered.map Axis.fix)).axes.require side = .error error → False := by
  intro band member side error onTicks absent
  obtain ⟨listedSide, registered⟩ := Layout.onSide_of_mem_sectionBands member
  rw [onTicks] at registered
  have present := Section.isSome_of_ticks registered
  rw [AxisSet.get?_map, Option.isSome_map] at present
  obtain ⟨axis, held⟩ := Option.isSome_iff_exists.mp present
  rw [layoutOn_axes] at absent
  have settled := AxisSet.get?_map gathered
    (Axis.settle (chart.layoutOn (gathered.map Axis.fix)).plotArea) side
  rw [held] at settled
  rw [AxisSet.require_of_get? settled] at absent
  cases absent

private theorem values_present
    (gathers : gathered.Gathers chart.options (AxisSet.visiblePlots chart.plots)) :
    ∀ xAxis ∈ (chart.layoutOn (gathered.map Axis.fix)).axes.xAxes,
      ∀ plot ∈ members chart.coloredPlots xAxis, ∀ error,
        (chart.layoutOn (gathered.map Axis.fix)).axes.require plot.options.ySide =
          .error error → False := by
  intro xAxis member plot drawn error absent
  rw [layoutOn_axes] at member absent
  obtain ⟨index, recorded, colored⟩ := List.mem_filterMap.mp drawn
  obtain ⟨registered, found, yAxis, present⟩ :=
    AxisSet.require_ySide gathers _ member recorded
  obtain ⟨plain, foundPlain, sameOptions⟩ := chart.coloredPlots_getElem? colored
  rw [foundPlain] at found
  cases found
  rw [sameOptions, present] at absent
  cases absent

private theorem sectionsOn_framed (chart : Chart α) (gathered : AxisSet α) :
    (chart.sectionsOn (gathered.map Axis.fix)).Framed False :=
  drawSections_framed _ _ _ (ticks_present chart gathered)

private theorem plotsOn_framed
    (gathers : gathered.Gathers chart.options (AxisSet.visiblePlots chart.plots)) :
    (chart.plotsOn (gathered.map Axis.fix)).Framed False :=
  drawPlots_framed _ _ _ _ (values_present gathers)

theorem drawingOn_framed
    (gathers : gathered.Gathers chart.options (AxisSet.visiblePlots chart.plots)) :
    (chart.drawingOn (gathered.map Axis.fix)).Framed False :=
  drawing_framed _ _ _ _ (ticks_present chart gathered) (values_present gathers)

/-- Drawing ends well on the axes of compatible plots, and else with the first fault and
with nothing but the size settled. -/
theorem draw_outcome (chart : Chart α) :
    (∃ gathered : AxisSet α,
      AxisSet.resolve chart.options chart.plots = .ok (gathered.map Axis.fix) ∧
      gathered.Gathers chart.options (AxisSet.visiblePlots chart.plots) ∧
      Plot.Compatible (chart.plots.filter Plot.isVisible) ∧
      chart.draw = ({ chart.coloredOn (gathered.map Axis.fix) with
        layout := some (chart.layoutOn (gathered.map Axis.fix)) }, .ok ())) ∨
    ∃ error, AxisSet.resolve chart.options chart.plots = .error error ∧
      Plot.FirstFault (chart.plots.filter Plot.isVisible) error ∧
      chart.draw = (chart.sized, .error error) := by
  rcases AxisSet.resolve_outcome chart.options chart.plots with
    ⟨gathered, resolved, gathers, compatible⟩ | ⟨error, unresolved, fault⟩
  · have complete := (drawingOn_framed gathers).run_ok chart.sized.element.canvas
    have drawn := chart.draw_of_resolved _ resolved
    rw [complete] at drawn
    exact .inl ⟨gathered, resolved, gathers, compatible, drawn⟩
  · exact .inr ⟨error, unresolved, fault, chart.draw_of_unresolved error unresolved⟩

theorem draw_of_ok (ended : chart.draw.2 = .ok ()) :
    ∃ gathered : AxisSet α,
      AxisSet.resolve chart.options chart.plots = .ok (gathered.map Axis.fix) ∧
      gathered.Gathers chart.options (AxisSet.visiblePlots chart.plots) ∧
      Plot.Compatible (chart.plots.filter Plot.isVisible) ∧
      chart.draw = ({ chart.coloredOn (gathered.map Axis.fix) with
        layout := some (chart.layoutOn (gathered.map Axis.fix)) }, .ok ()) := by
  rcases chart.draw_outcome with drawn | ⟨error, _unresolved, _fault, failed⟩
  · exact drawn
  · rw [failed] at ended
    cases ended

/-- A chart with default options on a fresh canvas, with the given plots. -/
def showing (plots : List (Plot α)) : Chart α :=
  plots.foldl (fun chart plot => (chart.addPlot plot).2) (.new .new)

def scatterOn (xSide ySide : Side) (values : List α) : Plot α :=
  ⟨.scatter, { PlotOptions.standard with xSide := xSide, ySide := ySide }, [.ofValues values]⟩

theorem draw_ok_of_compatible
    (compatible : Plot.Compatible (chart.plots.filter Plot.isVisible)) :
    chart.draw.2 = .ok () := by
  rcases chart.draw_outcome with
    ⟨gathered, _resolved, _gathers, _compatible, drawn⟩ | ⟨error, _unresolved, fault, _failed⟩
  · rw [drawn]
  · exact absurd compatible fault.not_compatible

/-- Drawing succeeds exactly for compatible visible plots, and else tells their first
fault. -/
theorem draw_ok_iff_compatible (chart : Chart α) :
    (chart.draw.2 = .ok () ↔ Plot.Compatible (chart.plots.filter Plot.isVisible)) ∧
    ∀ error, chart.draw.2 = .error error ↔
      Plot.FirstFault (chart.plots.filter Plot.isVisible) error := by
  rcases chart.draw_outcome with
    ⟨gathered, _resolved, _gathers, compatible, drawn⟩ | ⟨told, _unresolved, fault, failed⟩
  · have ended : chart.draw.2 = .ok () := by rw [drawn]
    refine ⟨⟨fun _ended => compatible, fun _compatible => ended⟩, fun error => ⟨?_, ?_⟩⟩
    · intro failed
      rw [ended] at failed
      cases failed
    · intro fault
      exact absurd compatible fault.not_compatible
  · have refused : chart.draw.2 = .error told := by rw [failed]
    refine ⟨⟨?_, draw_ok_of_compatible⟩, fun error => ⟨?_, ?_⟩⟩
    · intro ended
      rw [refused] at ended
      cases ended
    · intro same
      rw [refused] at same
      cases same
      exact fault
    · intro other
      rw [refused, fault.unique other]

/-- A drawing that fails has changed nothing but the attributes to which the configured
lengths are written. Once the axes are resolved, sections and plots are drawn to their end
on every canvas, so an axis is never found missing. -/
theorem draw_failure_changes_nothing (chart : Chart α) :
    (∀ error, chart.draw.2 = .error error →
      chart.draw.1 = { chart with element := chart.draw.1.element } ∧
      chart.draw.1.element.canvas = chart.element.canvas ∧
      ∀ name, chart.draw.1.element.attribute? name =
        (chart.writtenBack name <|> chart.element.attribute? name)) ∧
    (∀ axes, AxisSet.resolve chart.options chart.plots = .ok axes → ∀ canvas,
      ((chart.sectionsOn axes).run canvas).2 = .ok () ∧
      ((chart.plotsOn axes).run canvas).2 = .ok ()) ∧
    ∀ side, chart.draw.2 ≠ .error (.missingAxis side) := by
  rcases chart.draw_outcome with
    ⟨gathered, resolved, gathers, _compatible, drawn⟩ | ⟨told, unresolved, fault, failed⟩
  · refine ⟨fun error failed => ?_, fun axes reached canvas => ?_, fun side failed => ?_⟩
    · rw [drawn] at failed
      cases failed
    · rw [resolved] at reached
      cases reached
      exact ⟨(sectionsOn_framed chart gathered).run_ok canvas,
        (plotsOn_framed gathers).run_ok canvas⟩
    · rw [drawn] at failed
      cases failed
  · rw [failed]
    refine ⟨fun error _same => ?_, fun axes reached => ?_, fun side same => ?_⟩
    · exact ⟨rfl, chart.sized_canvas, chart.sized_attribute?⟩
    · rw [unresolved] at reached
      cases reached
    · cases same
      exact fault.ne_missingAxis side rfl

theorem draw_failure_changes_nothing_scatter :
    (showing [scatterOn .bottom .top [(1 : Float)]]).draw.2 =
        .error (.parallelAxes .bottom .top) ∧
      (showing [scatterOn .bottom .top [(1 : Float)]]).draw.1.element.canvas =
        (showing [scatterOn .bottom .top [(1 : Float)]]).element.canvas ∧
      ∃ axes, AxisSet.resolve .standard (showing [scatterOn .bottom .left [(1 : Float)]]).plots =
          .ok axes ∧
        (((showing [scatterOn .bottom .left [(1 : Float)]]).plotsOn axes).run .new).2 =
          .ok () := by
  have parallel : (showing [scatterOn .bottom .top [(1 : Float)]]).draw.2 =
      .error (.parallelAxes .bottom .top) := rfl
  have failure := (draw_failure_changes_nothing _).1 _ parallel
  refine ⟨parallel, failure.2.1, _, rfl, ?_⟩
  exact ((draw_failure_changes_nothing
    (showing [scatterOn .bottom .left [(1 : Float)]])).2.1 _ rfl .new).2

end CanvasChart.Chart
