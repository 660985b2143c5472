import CanvasChart.Chart.Draw
import CanvasChart.Proofs.Axis.Transport

set_option autoImplicit false

/-! What sections do not look at: hidden plots, the positions that axes record, and axis
options, since an axis brings its own. -/

namespace CanvasChart

variable {α : Type} [Scalar α]

def ChartOptions.withoutAxes (options : ChartOptions α) : ChartOptions α :=
  { options with
    bottomAxis := .standard
    leftAxis := .standard
    topAxis := .standard
    rightAxis := .standard }

/-- What sections look at, with the plots of the axes numbered anew. -/
def Scene.visible (number : Nat → Nat) (scene : Scene α) : Scene α :=
  ⟨scene.options, scene.axes.map (Axis.renumber number), scene.plots.filter Plot.isVisible⟩

omit [Scalar α] in
theorem Legend.entries_visible (plots : List (Plot α)) :
    entries (plots.filter Plot.isVisible) = entries plots := by
  simp only [entries, List.filter_filter, Bool.and_self]

variable (number : Nat → Nat) (scene : Scene α)

namespace Ticks

private theorem sizeRequired_visible (side : Side) :
    sizeRequired (scene.visible number) side = sizeRequired scene side := by
  unfold sizeRequired Scene.visible
  rw [AxisSet.get?_map]
  cases scene.axes.get? side <;> rfl

omit [Scalar α] in
private theorem measure_visible (side : Side) :
    measure (scene.visible number) side = measure scene side := by
  unfold measure Scene.visible
  rw [AxisSet.get?_map]
  cases scene.axes.get? side <;> rfl

private theorem draw_visible (side : Side) (plotArea : Rect α) :
    draw (scene.visible number) side plotArea = draw scene side plotArea := by
  unfold draw Scene.visible AxisSet.require
  rw [AxisSet.get?_map]
  cases scene.axes.get? side <;> rfl

end Ticks

omit [Scalar α] in
theorem Title.ofAxis_visible (side : Side) :
    Title.ofAxis (scene.visible number) side = Title.ofAxis scene side := by
  unfold Title.ofAxis Scene.visible
  rw [AxisSet.get?_map]
  cases scene.axes.get? side <;> rfl

namespace Legend

variable (options : LegendOptions α) (plots : List (Plot α)) (side : Side)

private theorem sizeRequired_visible :
    sizeRequired options (plots.filter Plot.isVisible) side = sizeRequired options plots side := by
  simp only [sizeRequired, entries_visible]

omit [Scalar α] in
private theorem measure_visible :
    measure options (plots.filter Plot.isVisible) side = measure options plots side := by
  simp only [measure, entries_visible]

private theorem draw_visible (band : Rect α) :
    draw options (plots.filter Plot.isVisible) side band = draw options plots side band := by
  simp only [draw, entries_visible]

end Legend

namespace Section

private theorem sizeRequired_visible (place : Section) :
    place.sizeRequired (scene.visible number) = place.sizeRequired scene := by
  cases place with
  | ticks side => exact Ticks.sizeRequired_visible number scene side
  | axisTitle side => exact congrArg Title.sizeRequired (Title.ofAxis_visible number scene side)
  | legend side => exact Legend.sizeRequired_visible _ _ side
  | chartTitle => rfl

omit [Scalar α] in
private theorem measure_visible (place : Section) :
    place.measure (scene.visible number) = place.measure scene := by
  cases place with
  | ticks side => exact Ticks.measure_visible number scene side
  | legend side => exact Legend.measure_visible _ _ side
  | axisTitle | chartTitle => rfl

theorem draw_visible (place : Section) (band plotArea : Rect α) :
    place.draw (scene.visible number) band plotArea = place.draw scene band plotArea := by
  cases place with
  | ticks side => exact Ticks.draw_visible number scene side plotArea
  | axisTitle side =>
      exact congrArg (Title.draw · side band) (Title.ofAxis_visible number scene side)
  | legend side => exact Legend.draw_visible _ _ side band
  | chartTitle => rfl

omit [Scalar α] in
private theorem onSide_visible (side : Side) :
    onSide (scene.visible number).options (scene.visible number).axes side =
      onSide scene.options scene.axes side := by
  simp only [onSide, Scene.visible, AxisSet.get?_map, Option.isSome_map]
  rfl

end Section

namespace Layout

omit [Scalar α] in
theorem measure_visible : measure (scene.visible number) = measure scene := by
  simp only [measure, Section.onSide_visible]
  rw [show Section.measure (scene.visible number) = Section.measure scene from
    funext (Section.measure_visible number scene)]

private theorem sizedSections_visible (side : Side) :
    sizedSections (scene.visible number) side = sizedSections scene side := by
  simp only [sizedSections, Section.onSide_visible, Section.sizeRequired_visible]

private theorem sideSizes_visible (inner : Rect α) :
    sideSizes (scene.visible number) inner = sideSizes scene inner := by
  simp only [sideSizes, sideSize, sizedSections_visible]

theorem sectionBands_visible (plotArea : Rect α) :
    sectionBands (scene.visible number) plotArea = sectionBands scene plotArea := by
  simp only [sectionBands, sizedSections_visible]

omit [Scalar α] in
/-- The layout with the plots of its axes numbered anew. -/
def renumber (layout : Layout α) : Layout α :=
  { layout with axes := layout.axes.map (Axis.renumber number) }

omit [Scalar α] in
private theorem sizeAxes_renumber (axes : AxisSet α) (plotArea : Rect α) :
    sizeAxes (axes.map (Axis.renumber number)) plotArea =
      (sizeAxes axes plotArea).map (Axis.renumber number) := by
  rw [sizeAxes, sizeAxes, AxisSet.map_map, AxisSet.map_map]
  rfl

end Layout

namespace Chart

omit [Scalar α] in
private theorem axisLayout_visible (plots : List (Plot α)) :
    AxisLayout.of (plots.filter Plot.isVisible) = AxisLayout.of plots := by
  simp only [AxisLayout.of, List.filter_filter, Bool.and_self]

theorem layOut_visible (options : ChartOptions α) (axes : AxisSet α) (plots : List (Plot α))
    (width height : α) :
    layOut options (axes.map (Axis.renumber number)) (plots.filter Plot.isVisible) width height =
      (layOut options axes plots width height).renumber number := by
  have sizes := Layout.sideSizes_visible number ⟨options, axes, plots⟩
  have bands := Layout.sectionBands_visible number ⟨options, axes, plots⟩
  simp only [Scene.visible] at sizes bands
  simp only [layOut, sizes, bands, axisLayout_visible, Layout.sizeAxes_renumber,
    Layout.renumber]

/-- Axis options count only where axes are made. -/
theorem layOut_withoutAxes (options : ChartOptions α) (axes : AxisSet α) (plots : List (Plot α))
    (width height : α) :
    layOut options.withoutAxes axes plots width height =
      layOut options axes plots width height := rfl

end Chart
end CanvasChart
