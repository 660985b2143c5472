import CanvasChart.Proofs.Axis.Coverage
import CanvasChart.Proofs.Geometry.PlotArea
import CanvasChart.Proofs.Marks.PlotMarks
import CanvasChart.Proofs.Plot.Extents

set_option autoImplicit false

/-! Marks inside an area. Axes that map zero and the data of a plot to offsets that fit on the
sides of an area keep its bars and vertices inside, the baseline of areas included. -/

namespace CanvasChart

variable [NumberTexts]

/-- An axis maps zero and the data of a plot to offsets that fit on a side of an area. -/
def Axis.Places (axis : Axis EReal) (kind : AxisKind) (plot : Plot EReal) (area : Rect EReal)
    (side : Side) : Prop :=
  ∀ value ∈ insert 0 (Point.reach kind plot.coordinates), area.Fits side (axis.positionOf value)

/-- The bars of a plot keep to an area in the direction of its values. -/
def Plot.BarsWithin (plot : Plot EReal) (context : MarkContext EReal) (yAxis : Axis EReal)
    (frame : Frame EReal) (area : Rect EReal) : Prop :=
  ∀ entry ∈ plot.stackedSeries, ∀ column total,
    ∀ bar ∈ Bar.rects context yAxis plot column total entry.1 entry.2,
      let side := plot.options.ySide
      area.Spans side ((frame.toCanvas bar.x bar.y).coordinate side) ∧
        area.Spans side ((frame.toCanvas bar.x (bar.y + bar.height)).coordinate side)

/-- The vertices of the lines and markers of a plot lie in an area, and with them those of the
areas below the lines. -/
def Plot.PointsWithin (plot : Plot EReal) (context : MarkContext EReal) (yAxis : Axis EReal)
    (frame : Frame EReal) (area : Rect EReal) : Prop :=
  ∀ entry ∈ plot.stackedSeries,
    let vertices := context.vertices yAxis plot entry.1 entry.2
    ∀ point ∈ vertices ++ Path.areaOutline vertices yAxis.zero,
      area.Contains (frame.toCanvas point.x point.y)

section Placed

variable {xAxis yAxis : Axis EReal} {plot : Plot EReal} {area : Rect EReal}
  {entry : Series EReal × List (StackedPoint EReal)}

theorem Axis.Places.extent {side : Side} (places : yAxis.Places .y plot area side)
    (member : entry ∈ plot.stackedSeries) {extent : StackedPoint EReal}
    (held : extent ∈ entry.2) :
    area.Fits side (yAxis.positionOf extent.base) ∧
      area.Fits side (yAxis.positionOf extent.top) := by
  refine plot.extents_within (fun value => area.Fits side (yAxis.positionOf value)) ?_ ?_
    member held
  · rw [Exact.literal_eq, Nat.cast_zero]
    exact places 0 (.inl rfl)
  · intro place listed
    exact places place.y (.inr ⟨place, listed, rfl⟩)

theorem Axis.Places.vertex {context : MarkContext EReal} {xSide ySide : Side}
    (placesX : context.xAxis.Places .x plot area xSide)
    (continuous : context.xAxis.isDiscrete = false)
    (placesY : yAxis.Places .y plot area ySide) (member : entry ∈ plot.stackedSeries)
    {vertex : Point EReal} (drawn : vertex ∈ context.vertices yAxis plot entry.1 entry.2) :
    area.Fits xSide vertex.x ∧ area.Fits ySide vertex.y := by
  obtain ⟨index, point, extent, paired, rfl⟩ := Plot.mem_mapIdx_zip.mp drawn
  have listed := Plot.mem_coordinates.mpr ⟨entry, member, index, point, extent, paired, rfl⟩
  constructor
  · change area.Fits xSide (context.xAxis.keyPosition index point.key plot.keyCount)
    rw [Axis.keyPosition, continuous, if_neg Bool.false_ne_true]
    exact placesX _ (.inr ⟨_, listed, rfl⟩)
  · exact placesY _ (.inr ⟨_, listed, rfl⟩)

theorem Rect.Fits.sub_add {side : Side} {base top : EReal} (baseFits : area.Fits side base)
    (topFits : area.Fits side top) (bounded : area.Bounded) : base + (top - base) = top := by
  obtain ⟨lower, rfl⟩ := baseFits.exists_real bounded
  obtain ⟨upper, rfl⟩ := topFits.exists_real bounded
  rw [← EReal.coe_sub, ← EReal.coe_add, add_sub_cancel]

theorem Plot.barsWithin {context : MarkContext EReal} (bounded : area.Bounded)
    (perpendicular : plot.options.xSide.isPerpendicularTo plot.options.ySide = true)
    (companion : Side) (places : yAxis.Places .y plot area plot.options.ySide) :
    plot.BarsWithin context yAxis (Frame.forPlot plot.options.xSide companion area) area := by
  intro entry member column total bar drawn
  obtain ⟨index, point, extent, paired, rfl⟩ := Plot.mem_mapIdx_zip.mp drawn
  have held : extent ∈ entry.2 := (List.of_mem_zip (List.mem_of_getElem? paired)).2
  obtain ⟨base, top⟩ := places.extent member held
  refine ⟨Frame.forPlot_spans_ySide bounded perpendicular companion base,
    Frame.forPlot_spans_ySide bounded perpendicular companion ?_⟩
  -- the other edge of a bar is its base and its height, which add up to its top
  change area.Fits plot.options.ySide (yAxis.positionOf extent.base +
    (yAxis.positionOf extent.top - yAxis.positionOf extent.base))
  rw [base.sub_add top bounded]
  exact top

theorem Plot.pointsWithin {context : MarkContext EReal} (bounded : area.Bounded)
    (perpendicular : plot.options.xSide.isPerpendicularTo plot.options.ySide = true)
    (companion : Side) (placesX : context.xAxis.Places .x plot area plot.options.xSide)
    (continuous : context.xAxis.isDiscrete = false) (linear : yAxis.isLog = false)
    (placesY : yAxis.Places .y plot area plot.options.ySide) :
    plot.PointsWithin context yAxis (Frame.forPlot plot.options.xSide companion area) area := by
  intro entry member vertices point drawn
  have vertexFits {vertex : Point EReal} (isVertex : vertex ∈ vertices) :=
    placesX.vertex continuous placesY member isVertex
  have baseline : area.Fits plot.options.ySide yAxis.zero := by
    rw [Axis.zero, linear, if_neg Bool.false_ne_true, Exact.literal_eq, Nat.cast_zero]
    exact placesY 0 (.inl rfl)
  have fits : area.Fits plot.options.xSide point.x ∧ area.Fits plot.options.ySide point.y := by
    rcases List.mem_append.mp drawn with isVertex | outlined
    · exact vertexFits isVertex
    · rcases Path.mem_areaOutline outlined with isVertex | ⟨vertex, isVertex, rfl⟩
      · exact vertexFits isVertex
      · exact ⟨(vertexFits isVertex).1, baseline⟩
  exact Frame.forPlot_contains bounded perpendicular companion fits.1 fits.2

end Placed

end CanvasChart
