import CanvasChart.Proofs.Geometry.TickFrames
import CanvasChart.Proofs.Chart.PlotContainment
import CanvasChart.Proofs.Plot.Stacking

set_option autoImplicit false

/-! Data points beside the ticks of their axes. Points are level with the ticks of their
X axis, and with those of their Y axis where the plot pairs it with the same X side as the
first plot on it does. On other Y axes values run against the ticks. -/

namespace CanvasChart

variable {α : Type}

def Plot.founder? (plots : List (Plot α)) (ySide : Side) : Option (Plot α) :=
  (plots.filter Plot.isVisible).find? fun plot => plot.options.ySide = ySide

theorem Plot.exists_founder {plots : List (Plot α)} {ySide companion : Side}
    (paired : (Plot.users .y ySide (AxisSet.visiblePlots plots)).head?.map
      (fun first => first.2.options.xSide) = some companion) :
    ∃ founder ∈ plots.filter Plot.isVisible, Plot.founder? plots ySide = some founder ∧
      founder.options.ySide = ySide ∧ founder.options.xSide = companion := by
  rw [Plot.users, List.head?_filter] at paired
  obtain ⟨entry, found, same⟩ := Option.map_eq_some_iff.mp paired
  have founder : Plot.founder? plots ySide = some entry.2 := by
    rw [Plot.founder?, ← AxisSet.visiblePlots_map_snd, List.find?_map]
    exact congrArg (Option.map Prod.snd) found
  have onSide := List.find?_some found
  exact ⟨entry.2, List.mem_of_find?_eq_some founder, founder, of_decide_eq_true onSide, same⟩

namespace Chart

/-- On exact numbers every data point is drawn level with the ticks of its X axis. It is
level with the ticks of its Y axis exactly if the first plot on that axis has the same X
side, or if the point lies where offsets from both ends meet. -/
theorem draw_levels_with_ticks [NumberTexts] (chart : Chart EReal)
    (ended : chart.draw.2 = .ok ()) :
    ∃ layout, chart.draw.1.layout = some layout ∧
      ∀ plot ∈ chart.plots.filter Plot.isVisible, ∃ xAxis yAxis founder,
        layout.axes.get? plot.options.xSide = some xAxis ∧
        layout.axes.get? plot.options.ySide = some yAxis ∧
        Plot.founder? chart.plots plot.options.ySide = some founder ∧
        ∀ place series index point, plot.series[place]? = some series →
          series.data[index]? = some point → ∃ extent, plot.extent? place index = some extent ∧
            let x := xAxis.keyPosition index point.key plot.keyCount
            let y := yAxis.positionOf extent.top
            let drawn := (Frame.forPlot plot.options.xSide xAxis.companion
              layout.plotArea).toCanvas x y
            drawn.LevelWith plot.options.xSide xAxis.companion layout.plotArea x ∧
            (drawn.LevelWith plot.options.ySide yAxis.companion layout.plotArea y ↔
              founder.options.xSide = plot.options.xSide ∨
              layout.plotArea.near plot.options.ySide + y =
                layout.plotArea.far plot.options.ySide - y) := by
  rcases chart.draw_outcome with
    ⟨gathered, _resolved, gathers, compatible, drawn⟩ | ⟨error, _unresolved, _fault, failed⟩
  case inr =>
    rw [failed] at ended
    cases ended
  rw [drawn]
  refine ⟨_, rfl, ?_⟩
  intro plot visible
  have perpendicular := compatible.perpendicular plot visible
  rw [← AxisSet.visiblePlots_map_snd] at visible
  obtain ⟨entry, member, rfl⟩ := List.mem_map.mp visible
  obtain ⟨xAxis, heldX, _foundedX⟩ := layoutOn_present gathers member .x
  obtain ⟨yAxis, heldY, foundedY⟩ := layoutOn_present gathers member .y
  obtain ⟨founder, founderVisible, founded, onSide, paired⟩ := Plot.exists_founder foundedY
  have founderAcross := compatible.perpendicular founder founderVisible
  rw [onSide, paired] at founderAcross
  refine ⟨xAxis, yAxis, founder, heldX, heldY, founded, ?_⟩
  intro place series index point listed stored
  obtain ⟨extent, found⟩ := entry.2.exists_extent listed stored
  refine ⟨extent, found, Frame.forPlot_level_xSide _ _ _ _ _, ?_⟩
  rw [Frame.forPlot_level_ySide perpendicular founderAcross, ← paired]

/-- The first of two plots on the left axis is level with its ticks. The second one has the other X
side, and its point is drawn at the end that is opposite to its tick. -/
theorem draw_levels_with_ticks_scatter :
    letI := Exact.wholeTexts
    let chart := sharing (150 : ℝ) (0 : ℝ) (10 : ℝ)
    let key : Key EReal := .number (Scalar.ofNat 0)
    chart.draw.2 = .ok () ∧ ∃ layout bottom top left, chart.draw.1.layout = some layout ∧
      layout.axes.get? .bottom = some bottom ∧ layout.axes.get? .top = some top ∧
      layout.axes.get? .left = some left ∧
      ((Frame.forPlot .bottom bottom.companion layout.plotArea).toCanvas
        (bottom.keyPosition 0 key 1) (left.positionOf (0 : ℝ))).LevelWith .left left.companion
          layout.plotArea (left.positionOf (0 : ℝ)) ∧
      ((Frame.forPlot .top top.companion layout.plotArea).toCanvas
        (top.keyPosition 0 key 1) (left.positionOf (10 : ℝ))).LevelWith .top top.companion
          layout.plotArea (top.keyPosition 0 key 1) ∧
      ¬ ((Frame.forPlot .top top.companion layout.plotArea).toCanvas
        (top.keyPosition 0 key 1) (left.positionOf (10 : ℝ))).LevelWith .left left.companion
          layout.plotArea (left.positionOf (10 : ℝ)) := by
  let _texts := Exact.wholeTexts
  intro chart key
  have ended : chart.draw.2 = .ok () := draw_sharing _ _ _
  obtain ⟨layout, _bottom, origin, kept, _heldBottom, _marked, _continuous, settledLeft, onLeft,
    linear, numeric, covers, start, height⟩ := sharing_axes (150 : ℝ) (0 : ℝ) (10 : ℝ)
  obtain ⟨_layout, same, levels⟩ := draw_levels_with_ticks chart ended
  cases kept.symm.trans same
  obtain ⟨bottom, left, first, heldBottom, heldLeft, founded, level⟩ :=
    levels (scatterOn .bottom .left [((0 : ℝ) : EReal)]) List.mem_cons_self
  obtain ⟨top, _left, founder, heldTop, heldAgain, foundedAgain, levelAgain⟩ :=
    levels (scatterOn .top .left [((10 : ℝ) : EReal)]) (List.mem_cons_of_mem _ List.mem_cons_self)
  cases heldLeft.symm.trans heldAgain
  cases heldLeft.symm.trans settledLeft
  obtain ⟨extent, found, _levelX, levelY⟩ := level 0 _ 0 ⟨key, (0 : ℝ)⟩ rfl rfl
  obtain ⟨extentAgain, foundAgain, levelTop, levelLeft⟩ :=
    levelAgain 0 _ 0 ⟨key, (10 : ℝ)⟩ rfl rfl
  cases found
  cases foundAgain
  cases founded
  cases foundedAgain
  refine ⟨ended, layout, bottom, top, _, kept, heldBottom, heldTop, heldLeft,
    levelY.mpr (.inl rfl), levelTop, fun isLevel => ?_⟩
  have ten : (0 : EReal) ≤ ((10 : ℝ) : EReal) := EReal.coe_nonneg.mpr (by norm_num)
  have least : IsLeast (insert 0 {((0 : ℝ) : EReal), ((10 : ℝ) : EReal)}) ((0 : ℝ) : EReal) :=
    ⟨.inl rfl, by rintro value (rfl | rfl | rfl) <;> first | exact le_rfl | exact ten⟩
  have greatest : IsGreatest (insert 0 {((0 : ℝ) : EReal), ((10 : ℝ) : EReal)})
      ((10 : ℝ) : EReal) :=
    ⟨.inr (.inr rfl), by rintro value (rfl | rfl | rfl) <;> first | exact le_rfl | exact ten⟩
  obtain ⟨low, high⟩ := covers.fix_of_finite (linear ▸ rfl) numeric (Set.insert_nonempty _ _)
    least greatest
  rw [if_neg (by norm_num)] at high
  have tall := height.trans (inner_height (by norm_num))
  have position := positionOf_left onLeft linear tall low high (by norm_num) 10
  rcases levelLeft.mp isLevel with same | middle
  · cases same
  · change layout.plotArea.y + _ = layout.plotArea.y + layout.plotArea.height - _ at middle
    rw [position, start, tall, ← EReal.coe_natCast, ← EReal.coe_add, ← EReal.coe_add,
      ← EReal.coe_sub, EReal.coe_eq_coe_iff] at middle
    norm_num at middle

/-- Two scatter plots on one Y axis, from the bottom and from the top. -/
def crossed : Chart Float :=
  let axis : AxisOptions Float :=
    { AxisOptions.standard with showLabels := false, ticks := some (.explicit [0, 10]) }
  { showing [scatterOn .bottom .left [0, 10], scatterOn .top .left [0, 10]] with
    options := { ChartOptions.standard with
      legend := { LegendOptions.standard with visible := false }
      bottomAxis := axis
      leftAxis := axis
      topAxis := axis } }

set_option maxRecDepth 10000 in
/-- The plot from the top has its zero at the top, and the axis has its tick at the bottom. -/
theorem draw_crossed_not_level :
    crossed.draw.2 = .ok () ∧
      scatterOn .top .left [0, 10] ∈ crossed.plots.filter Plot.isVisible ∧
      ∃ layout xAxis yAxis, crossed.draw.1.layout = some layout ∧
        layout.axes.get? .top = some xAxis ∧ layout.axes.get? .left = some yAxis ∧
        (scatterOn .top .left [(0 : Float), 10]).extent? 0 0 = some ⟨0, 0⟩ ∧
        ¬ ((Frame.forPlot .top xAxis.companion layout.plotArea).toCanvas
          (xAxis.keyPosition 0 (.number (Scalar.ofNat 0)) 2)
          (yAxis.positionOf 0)).LevelWith .left yAxis.companion layout.plotArea
            (yAxis.positionOf 0) := by
  refine ⟨rfl, List.mem_cons_of_mem _ List.mem_cons_self, _, _, _, rfl, rfl, rfl, rfl, ?_⟩
  intro level
  have bits := congrArg Float.toBits (level 0)
  revert bits
  decide +kernel

end Chart
end CanvasChart
