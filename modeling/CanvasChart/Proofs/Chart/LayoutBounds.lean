import CanvasChart.Proofs.Geometry.PlotArea
import CanvasChart.Proofs.Chart.DrawOutcome

set_option autoImplicit false

/-! The size of the plot area on exact numbers. No section takes less than nothing, so that the
plot area of a finite canvas is finite, and tick marks alone take what they reach. -/

namespace CanvasChart

variable [NumberTexts]

namespace Rect

private theorem lengthAcross_nonneg {area : Rect EReal}
    (positive : ∀ side, 0 ≤ area.lengthAlong side) (side : Side) : 0 ≤ area.lengthAcross side := by
  cases side
  case bottom => exact positive .left
  case left => exact positive .bottom
  case top => exact positive .left
  case right => exact positive .bottom

omit [NumberTexts] in
private theorem bounded_iff {area : Rect EReal} :
    area.Bounded ↔ area.width ≠ ⊤ ∧ area.height ≠ ⊤ := by
  constructor
  · exact fun bounded => ⟨bounded .bottom, bounded .left⟩
  · rintro ⟨width, height⟩ side
    cases side <;> assumption

theorem Bounded.inset {outer : Rect EReal} (bounded : outer.Bounded) {insets : Insets EReal}
    (positive : ∀ side, 0 ≤ insets.get side) : (outer.inset insets).Bounded := by
  have within {length first second : EReal} (finite : length ≠ ⊤) (takesFirst : 0 ≤ first)
      (takesSecond : 0 ≤ second) : Scalar.max (length - first - second) (Scalar.ofNat 0) ≠ ⊤ :=
    Exact.max_zero_ne_top (ne_top_of_le_ne_top finite
      ((Exact.sub_le takesSecond).trans (Exact.sub_le takesFirst)))
  rw [bounded_iff] at bounded ⊢
  exact ⟨within bounded.1 (positive .left) (positive .right),
    within bounded.2 (positive .top) (positive .bottom)⟩

end Rect

namespace Layout

theorem innerRect_nonneg (border width height : EReal) (side : Side) :
    0 ≤ (innerRect border width height).lengthAlong side := by
  cases side <;> exact Exact.nonneg_max_zero _

private theorem innerRect_bounded {border width height : EReal} (positive : 0 ≤ border)
    (finiteWidth : width ≠ ⊤) (finiteHeight : height ≠ ⊤) :
    (innerRect border width height).Bounded := by
  have within {length : EReal} (finite : length ≠ ⊤) :
      Scalar.max (length - Scalar.ofNat 2 * border) (Scalar.ofNat 0) ≠ ⊤ := by
    have takes : 0 ≤ Scalar.ofNat 2 * border := EReal.mul_nonneg (Nat.cast_nonneg' 2) positive
    exact Exact.max_zero_ne_top (ne_top_of_le_ne_top finite (Exact.sub_le takes))
  exact Rect.bounded_iff.mpr ⟨within finiteWidth, within finiteHeight⟩

theorem emptySideShare_nonneg : 0 ≤ (emptySideShare : EReal) := by
  have share : (0 : ℝ) ≤ OfScientific.ofScientific 5 true 2 := by norm_num
  exact EReal.coe_nonneg.mpr share

theorem sideSize_nonneg (scene : Scene EReal) {inner : Rect EReal}
    (positive : ∀ side, 0 ≤ inner.lengthAlong side) (side : Side) :
    0 ≤ sideSize scene inner side := by
  simp only [sideSize, Exact.literal_eq, Nat.cast_zero]
  split
  case isTrue some => exact some.le
  case isFalse =>
    exact EReal.mul_nonneg emptySideShare_nonneg (Rect.lengthAcross_nonneg positive side)

theorem sizeRequired_marks {scene : Scene EReal} {side : Side} {axis : Axis EReal}
    (held : scene.axes.get? side = some axis) (unlabelled : axis.options.showLabels = false) :
    Ticks.sizeRequired scene side = Ticks.markReach axis.options := by
  simp [Ticks.sizeRequired, held, unlabelled]

theorem sideSize_marks {scene : Scene EReal} {side : Side} {axis : Axis EReal}
    (held : scene.axes.get? side = some axis) (unlabelled : axis.options.showLabels = false)
    (untitled : axis.options.title = none) (noTitle : scene.options.title = none)
    (noLegend : scene.options.legend.visible = false)
    (reaches : 0 < Ticks.markReach axis.options) (inner : Rect EReal) :
    sideSize scene inner side = Ticks.markReach axis.options := by
  have marks := sizeRequired_marks held unlabelled
  have axisTitle : Title.sizeRequired (Title.ofAxis scene side) = (Scalar.ofNat 0 : EReal) := by
    simp only [Title.ofAxis, held, untitled, Title.nonempty]
    rfl
  have chartTitle : Title.sizeRequired (Title.ofChart scene) = (Scalar.ofNat 0 : EReal) := by
    simp only [Title.ofChart, noTitle, Title.nonempty]
    rfl
  have listed : Section.onSide scene.options scene.axes side =
      [.ticks side, .axisTitle side] ++ if side = .top then [.chartTitle] else [] := by
    simp [Section.onSide, held, noLegend]
  have total : Scalar.sum ((sizedSections scene side).map SizedSection.size) =
      Ticks.markReach axis.options := by
    rw [sizedSections, listed]
    split <;> simp [Section.sizeRequired, marks, axisTitle, chartTitle, Scalar.sum, Exact.max_eq,
      reaches.le]
  simp only [sideSize, total, Exact.literal_eq, Nat.cast_zero]
  exact if_pos reaches

end Layout

namespace Chart

private theorem layOut_bounded (options : ChartOptions EReal) (axes : AxisSet EReal)
    (plots : List (Plot EReal)) {width height : EReal} (finiteWidth : width ≠ ⊤)
    (finiteHeight : height ≠ ⊤) :
    (layOut options axes plots width height).plotArea.Bounded := by
  have border : 0 ≤ Scalar.max options.borderWidth (Scalar.ofNat 0) :=
    Exact.nonneg_max_zero _
  refine (Layout.innerRect_bounded border finiteWidth finiteHeight).inset fun side => ?_
  cases side <;> exact Layout.sideSize_nonneg _ (Layout.innerRect_nonneg _ width height) _

theorem draw_plotArea_bounded {chart : Chart EReal} (ended : chart.draw.2 = .ok ())
    (finiteWidth : chart.resolveSize.1 ≠ ⊤) (finiteHeight : chart.resolveSize.2.1 ≠ ⊤)
    {layout : Layout EReal} (kept : chart.draw.1.layout = some layout) :
    layout.plotArea.Bounded := by
  obtain ⟨gathered, _resolved, _gathers, _compatible, drawn⟩ := draw_of_ok ended
  rw [drawn] at kept
  cases kept
  exact layOut_bounded _ _ _ finiteWidth finiteHeight

end Chart
end CanvasChart
