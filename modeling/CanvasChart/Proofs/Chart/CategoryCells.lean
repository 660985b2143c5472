import CanvasChart.Proofs.Axis.Cells
import CanvasChart.Proofs.Chart.DrawnPlots
import CanvasChart.Proofs.Chart.PlotContainment
import CanvasChart.Proofs.Marks.BarColumns
import CanvasChart.Proofs.Plot.DrawingOrder

set_option autoImplicit false

/-! The cells of the discrete axes of a drawn chart. Keys that are categories keep to their cells,
and different ones to different cells. A key that is none of them is put where its place counts
to: into the cell of another key, or beyond the end of the axis. -/

namespace CanvasChart

section Named

variable {α : Type}

/-- The data point stands at a place of a series of the plot. -/
def Plot.Stores (plot : Plot α) (index : ℕ) (point : DataPoint α) : Prop :=
  ∃ series ∈ plot.series, series.data[index]? = some point

def Chart.shownOn (chart : Chart α) (side : Side) : List (Plot α) :=
  Plot.onSide side (chart.plots.filter Plot.isVisible)

def Chart.barsOn (chart : Chart α) (side : Side) : List (Plot α) :=
  Plot.ofKind .bar (chart.shownOn side)

variable [Scalar α]

def Chart.categoriesOn (chart : Chart α) (side : Side) : List String :=
  Plot.categoriesOf (chart.shownOn side)

omit [Scalar α] in
theorem Chart.users_map_snd (chart : Chart α) (side : Side) :
    (Plot.users .x side (AxisSet.visiblePlots chart.plots)).map Prod.snd = chart.shownOn side := by
  rw [shownOn, ← AxisSet.visiblePlots_map_snd, Plot.onSide, List.filter_map]
  rfl

omit [Scalar α] in
theorem Chart.barsOn_uncolored {first second : Chart α}
    (same : first.plots.map Plot.uncolored = second.plots.map Plot.uncolored) (side : Side) :
    (first.barsOn side).map Plot.uncolored = (second.barsOn side).map Plot.uncolored := by
  have onSide := congrArg (Plot.onSide side) (Plot.visible_uncolored same)
  rw [Plot.onSide, Plot.onSide, List.filter_map, List.filter_map] at onSide
  have bars := congrArg (Plot.ofKind .bar) onSide
  rw [Plot.ofKind, Plot.ofKind, List.filter_map, List.filter_map] at bars
  exact bars

theorem Axis.Named.settle {axis : Axis α} {names : List String} (named : axis.Named names)
    (discrete : axis.isDiscrete = true) (area : Rect α) : (axis.settle area).Named names := by
  have labels : (axis.settle area).labels = axis.labels := Axis.fix_labels_of_discrete discrete
  exact ⟨by rw [Axis.names, labels]; exact named.names_eq, by rw [labels]; exact named.length_eq⟩

end Named

variable [NumberTexts]

/-- Both ends of a bar lie between the ends of a side. -/
def Bar.Beside (area : Rect EReal) (side : Side) (frame : Frame EReal) (bar : Rect EReal) : Prop :=
  area.Spans side ((frame.toCanvas bar.x bar.y).coordinate side) ∧
    area.Spans side ((frame.toCanvas (bar.x + bar.width) (bar.y + bar.height)).coordinate side)

/-- Opposite corners of a bar lie inside an area. -/
def Bar.Inside (area : Rect EReal) (frame : Frame EReal) (bar : Rect EReal) : Prop :=
  area.Contains (frame.toCanvas bar.x bar.y) ∧
    area.Contains (frame.toCanvas (bar.x + bar.width) (bar.y + bar.height))

theorem Axis.Includes.fits {axis : Axis EReal} {part : EReal × EReal} {area : Rect EReal}
    {side : Side} {start width : EReal} (includes : axis.Includes part)
    (length : axis.size = area.lengthAlong side) (left : part.1 ≤ start)
    (right : start + width ≤ part.1 + part.2) (wide : 0 ≤ width) :
    area.Fits side start ∧ area.Fits side (start + width) := by
  have ends : start ≤ start + width := le_add_of_nonneg_right wide
  have nonneg := includes.1.trans left
  have fits := right.trans (includes.2.trans length.le)
  exact ⟨⟨nonneg, ends.trans fits⟩, nonneg.trans ends, fits⟩

/-- What a chart has on a discrete axis of its layout. -/
structure Chart.Divides (chart : Chart EReal) (layout : Layout EReal) (side : Side)
    (axis : Axis EReal) : Prop where
  /-- A slot lies on the axis just if its key is a category or its place counts to a cell. -/
  included_iff : ∀ plot ∈ chart.shownOn side, ∀ index point, plot.Stores index point →
    (axis.Includes (axis.slot index point.key plot.keyCount) ↔
      point.key.text ∈ chart.categoriesOn side ∨
        index < Axis.cellCount (chart.categoriesOn side) ∨ axis.size = 0)
  /-- Slots of keys that print differently do not overlap, or they are the same slot, since one
  key is no category and its place counts to the cell of the other one. -/
  apart : ∀ plot ∈ chart.shownOn side, ∀ index point, plot.Stores index point →
    ∀ other ∈ chart.shownOn side, ∀ place further, other.Stores place further →
      point.key.text ≠ further.key.text →
        let slot := axis.slot index point.key plot.keyCount
        let slot' := axis.slot place further.key other.keyCount
        let names := chart.categoriesOn side
        SlotsApart slot slot' ∨ slot = slot' ∧
          (Axis.FallsOn names index point.key place further.key ∨
            Axis.FallsOn names place further.key index point.key)
  /-- The bar plots on the axis record their bars and nothing else. -/
  painted : ∀ state, ∀ op ∈ Plot.groupMarks ⟨layout.axes, axis, chart.options.barSpacer⟩ state
      (chart.draw.1.barsOn side),
    ∃ plot index point bar color alpha,
      Bar.Drawn ⟨layout.axes, axis, chart.options.barSpacer⟩ (chart.barsOn side) plot index point
        bar ∧
      op = .fillRect (state.matrix.boundsOf bar) color alpha
  /-- A bar whose slot has room for the columns keeps to the slot, and with it to the area. -/
  within : ∀ plot index point bar,
    Bar.Drawn ⟨layout.axes, axis, chart.options.barSpacer⟩ (chart.barsOn side) plot index point
      bar →
    let slot := axis.slot index point.key plot.keyCount
    let frame := Frame.forPlot side axis.companion layout.plotArea
    Bar.Roomy chart.options.barSpacer slot.2 (Bar.total (chart.barsOn side)) →
      (slot.1 ≤ bar.x ∧ bar.x + bar.width ≤ slot.1 + slot.2) ∧
      (axis.Includes slot → Bar.Beside layout.plotArea side frame bar ∧
        ((chart.options.axis plot.options.ySide).scale = .linear →
          Plot.FiniteOn .y plot.options.ySide (chart.plots.filter Plot.isVisible) →
          Bar.Inside layout.plotArea frame bar))

section Drawn

variable {context : MarkContext EReal} {group : List (Plot EReal)} {plot : Plot EReal} {index : ℕ}
  {point : DataPoint EReal} {bar area : Rect EReal}

theorem Bar.Drawn.mem_group (drawn : Drawn context group plot index point bar) : plot ∈ group := by
  obtain ⟨first, _place, _series, _extents, _extent, _yAxis, member, _rest⟩ := drawn.drawn
  exact mem_of_placed member

theorem Bar.Drawn.fits (drawn : Drawn context group plot index point bar) {yAxis : Axis EReal}
    (held : context.yAxis plot = .ok yAxis) (bounded : area.Bounded)
    (places : yAxis.Places .y plot area plot.options.ySide) :
    area.Fits plot.options.ySide bar.y ∧ area.Fits plot.options.ySide (bar.y + bar.height) := by
  obtain ⟨_first, _place, series, extents, extent, other, _member, same, stacked, paired, rfl⟩ :=
    drawn.drawn
  cases held.symm.trans same
  obtain ⟨base, top⟩ := places.extent (List.mem_of_getElem? stacked)
    (List.of_mem_zip (List.mem_of_getElem? paired)).2
  refine ⟨base, ?_⟩
  change area.Fits _ (yAxis.positionOf extent.base +
    (yAxis.positionOf extent.top - yAxis.positionOf extent.base))
  rw [base.sub_add top bounded]
  exact top

end Drawn

namespace Chart

private theorem exists_places {chart : Chart EReal} {gathered : AxisSet EReal}
    (gathers : gathered.Gathers chart.options (AxisSet.visiblePlots chart.plots))
    {plot : Plot EReal} (visible : plot ∈ chart.plots.filter Plot.isVisible)
    (linear : (chart.options.axis plot.options.ySide).scale = .linear)
    (finite : Plot.FiniteOn .y plot.options.ySide (chart.plots.filter Plot.isVisible)) :
    let layout := chart.layoutOn (gathered.map Axis.fix)
    ∃ yAxis, layout.axes.require plot.options.ySide = .ok yAxis ∧
      yAxis.Places .y plot layout.plotArea plot.options.ySide := by
  intro layout
  have member := visible
  rw [← AxisSet.visiblePlots_map_snd] at member
  obtain ⟨entry, listed, rfl⟩ := List.mem_map.mp member
  obtain ⟨origin, _held, onY, gathersY, settled⟩ := layoutOn_settled gathers listed .y
  refine ⟨_, AxisSet.require_of_get? settled, ?_⟩
  have numeric : origin.isDiscrete = false := by simp [Axis.isDiscrete, onY]
  have scale : origin.options.scale = .linear := gathersY.options_eq ▸ linear
  rw [← onY] at finite ⊢
  exact gathersY.places_settle layout.plotArea (Rect.inset_lengths_nonneg _ _ _) scale numeric
    finite visible (onY ▸ rfl)

variable {chart : Chart EReal} {gathered : AxisSet EReal} {side : Side} {axis : Axis EReal}

theorem layoutOn_size
    (gathers : gathered.Gathers chart.options (AxisSet.visiblePlots chart.plots))
    (held : (chart.layoutOn (gathered.map Axis.fix)).axes.get? side = some axis) :
    axis.size = (chart.layoutOn (gathered.map Axis.fix)).plotArea.lengthAlong side := by
  obtain ⟨origin, _found, onSide, rfl⟩ := exists_origin gathers held
  rw [origin.settle_size, onSide.side_eq]

theorem layoutOn_named
    (gathers : gathered.Gathers chart.options (AxisSet.visiblePlots chart.plots))
    (held : (chart.layoutOn (gathered.map Axis.fix)).axes.get? side = some axis)
    (discrete : axis.isDiscrete = true) :
    axis.Named (chart.categoriesOn side) ∧
      axis.size = (chart.layoutOn (gathered.map Axis.fix)).plotArea.lengthAlong side := by
  refine ⟨?_, layoutOn_size gathers held⟩
  obtain ⟨origin, _found, onSide, rfl⟩ := exists_origin gathers held
  let area := (chart.layoutOn (gathered.map Axis.fix)).plotArea
  have originDiscrete : origin.isDiscrete = true :=
    (origin.settle_samePlan area).isDiscrete ▸ discrete
  have named := (onSide.named originDiscrete).settle originDiscrete area
  rw [chart.users_map_snd side] at named
  exact named

/-- What the bar plots of a drawn chart record are the bars of the plots as they were given. -/
private theorem recorded_bars {chart : Chart EReal} (ended : chart.draw.2 = .ok ()) {side : Side}
    {context : MarkContext EReal} {state : GraphicsState EReal} {op : DrawOp EReal}
    (recorded : op ∈ Plot.groupMarks context state (chart.draw.1.barsOn side)) :
    ∃ plot index point bar color alpha,
      Bar.Drawn context (chart.barsOn side) plot index point bar ∧
      op = .fillRect (state.matrix.boundsOf bar) color alpha := by
  have samePlots := chart.coloredPlots_uncolored
  rw [← draw_plots ended] at samePlots
  have sameBars := barsOn_uncolored samePlots side
  have bars : ∀ plot ∈ chart.draw.1.barsOn side, plot.kind = .bar := fun plot member =>
    of_decide_eq_true (List.mem_filter.mp member).2
  obtain ⟨_plot, index, point, bar, color, alpha, isDrawn, rfl⟩ :=
    Bar.mem_groupMarks bars recorded
  have plain := Bar.drawn_uncolored.mpr ⟨_, rfl, isDrawn⟩
  rw [sameBars] at plain
  obtain ⟨plot, _same, given⟩ := Bar.drawn_uncolored.mp plain
  exact ⟨plot, index, point, bar, color, alpha, given, rfl⟩

/-- On exact numbers, in a plot area of finite size, the keys on a discrete axis that are
categories keep to cells of their own, and bars keep to the slots that have room for them. -/
theorem draw_divides (chart : Chart EReal) (ended : chart.draw.2 = .ok ()) :
    ∃ layout, chart.draw.1.layout = some layout ∧ (layout.plotArea.Bounded →
      ∀ side axis, layout.axes.get? side = some axis → axis.isDiscrete = true →
        chart.Divides layout side axis) := by
  obtain ⟨gathered, _resolved, gathers, compatible, drawn⟩ := draw_of_ok ended
  rw [drawn]
  refine ⟨_, rfl, fun bounded side axis held discrete => ?_⟩
  let area := (chart.layoutOn (gathered.map Axis.fix)).plotArea
  obtain ⟨named, length⟩ := layoutOn_named gathers held discrete
  have nonneg : 0 ≤ axis.size := length ▸ Rect.inset_lengths_nonneg _ _ side
  obtain ⟨size, sized⟩ := Exact.Finite.exists_real
    ⟨length ▸ bounded side, ne_bot_of_le_ne_bot EReal.zero_ne_bot nonneg⟩
  rw [sized, EReal.coe_nonneg] at nonneg
  refine ⟨fun plot _shown index point _stored => ?_, ?_, ?_, ?_⟩
  · rw [Axis.slot_included_iff discrete named sized nonneg, Axis.cellOf_lt_iff, or_assoc, sized,
      EReal.coe_eq_zero]
  · intro plot _shown index point _stored other _otherShown place further _furtherStored different
    dsimp only
    rw [← Axis.cellOf_eq_iff different]
    by_cases same : Axis.cellOf (chart.categoriesOn side) index point.key =
        Axis.cellOf (chart.categoriesOn side) place further.key
    · refine .inr ⟨?_, same⟩
      rw [Axis.slot_eq discrete named sized, Axis.slot_eq discrete named sized, same]
    · exact .inl (Axis.slot_apart discrete named sized nonneg same _ _)
  · exact fun state op recorded => recorded_bars ended recorded
  · intro plot index point bar isDrawn slot frame roomy
    have cell := Axis.slot_eq discrete named sized index point.key plot.keyCount
    obtain ⟨shown, _isBar⟩ := List.mem_filter.mp isDrawn.mem_group
    obtain ⟨visible, onSide⟩ := List.mem_filter.mp shown
    have uses : plot.options.xSide = side := of_decide_eq_true onSide
    simp only [slot, cell] at roomy ⊢
    obtain ⟨left, right, wide⟩ := isDrawn.within_slot cell roomy
    refine ⟨⟨left, right⟩, fun spans => ?_⟩
    obtain ⟨startFits, endFits⟩ := spans.fits length left right wide
    refine ⟨⟨?_, ?_⟩, fun linear finite => ?_⟩
    · rw [Frame.forPlot_toCanvas_xSide]
      exact startFits.spans_measured bounded _
    · rw [Frame.forPlot_toCanvas_xSide]
      exact endFits.spans_measured bounded _
    · have perpendicular := compatible.perpendicular plot visible
      rw [uses] at perpendicular
      obtain ⟨yAxis, required, places⟩ := exists_places gathers visible linear finite
      obtain ⟨baseFits, topFits⟩ := isDrawn.fits required bounded places
      exact ⟨Frame.forPlot_contains bounded perpendicular _ startFits baseFits,
        Frame.forPlot_contains bounded perpendicular _ endFits topFits⟩

def barPlot (ySide : Side) (data : List (String × EReal)) : Plot EReal :=
  ⟨.bar, { PlotOptions.standard with ySide := ySide },
    [.ofData (data.map fun (label, value) => ⟨.label label, value⟩)]⟩

/-- Two bar plots on one X axis, with nothing but tick marks around them. The one on the right
has a key that the other one has not. -/
noncomputable def crowded : Chart EReal :=
  { showing [barPlot .left [("a", 1), ("b", 2)], barPlot .right [("c", 3)]] with
    options := { ChartOptions.standard with
      legend := { LegendOptions.standard with visible := false }
      bottomAxis := unlabelled
      leftAxis := unlabelled
      rightAxis := unlabelled } }

private theorem draw_crowded : crowded.draw.2 = .ok () := by
  have compatible : Plot.Compatible
      [barPlot .left [("a", 1), ("b", 2)], barPlot .right [("c", 3)]] :=
    Plot.compatible_pair rfl rfl
  exact draw_ok_of_compatible compatible

private theorem crowded_axes :
    ∃ layout axis yAxis, crowded.draw.1.layout = some layout ∧ layout.plotArea.Bounded ∧
      layout.axes.get? .bottom = some axis ∧ layout.axes.get? .left = some yAxis ∧
      axis.isDiscrete = true ∧ axis.Named ["a", "b"] ∧ axis.size = ((288 : ℝ) : EReal) := by
  have bounded {layout : Layout EReal} (kept : crowded.draw.1.layout = some layout) :
      layout.plotArea.Bounded :=
    draw_plotArea_bounded draw_crowded (EReal.natCast_ne_top 300) (EReal.natCast_ne_top 150) kept
  obtain ⟨gathered, _resolved, gathers, _compatible, drawn⟩ := draw_of_ok draw_crowded
  rw [drawn] at bounded ⊢
  have leftListed : (0, barPlot .left [("a", 1), ("b", 2)]) ∈
      AxisSet.visiblePlots crowded.plots := List.mem_cons_self
  have rightListed : (1, barPlot .right [("c", 3)]) ∈ AxisSet.visiblePlots crowded.plots :=
    List.mem_cons_of_mem _ List.mem_cons_self
  obtain ⟨bottom, _heldBottom, onX, gathersBottom, settledBottom⟩ :=
    layoutOn_settled gathers leftListed .x
  obtain ⟨left, heldLeft, _onY, gathersLeft, settledLeft⟩ :=
    layoutOn_settled gathers leftListed .y
  obtain ⟨right, heldRight, _onY, gathersRight, _settledRight⟩ :=
    layoutOn_settled gathers rightListed .y
  have discrete : (bottom.settle (crowded.layoutOn (gathered.map Axis.fix)).plotArea).isDiscrete =
      true := by
    rw [(bottom.settle_samePlan _).isDiscrete]
    exact gathersBottom.isDiscrete_eq onX (Plot.mem_users.mpr ⟨leftListed, rfl⟩)
  obtain ⟨named, length⟩ := layoutOn_named gathers settledBottom discrete
  refine ⟨_, _, _, rfl, bounded rfl, settledBottom, settledLeft, discrete, named, ?_⟩
  let scene : Scene EReal := ⟨crowded.options, gathered.map Axis.fix, crowded.coloredPlots⟩
  have before (inner : Rect EReal) : Layout.sideSize scene inner .left = ((6 : ℕ) : EReal) :=
    sideSize_unlabelled heldLeft gathersLeft.options_eq rfl rfl _ inner
  have behind (inner : Rect EReal) : Layout.sideSize scene inner .right = ((6 : ℕ) : EReal) :=
    sideSize_unlabelled heldRight gathersRight.options_eq rfl rfl _ inner
  rw [length]
  change Scalar.max (Scalar.max (Scalar.ofNat 300 - Scalar.ofNat 2 *
    Scalar.max (Scalar.ofNat 0) (Scalar.ofNat 0)) (Scalar.ofNat 0) -
      Layout.sideSize scene _ .left - Layout.sideSize scene _ .right) (Scalar.ofNat 0) = _
  rw [before, behind]
  simp only [Exact.max_eq, Exact.ofNat_eq, ← EReal.coe_natCast, ← EReal.coe_mul, ← EReal.coe_sub,
    ← EReal.coe_strictMono.monotone.map_max]
  norm_num

omit [NumberTexts] in
/-- The bar of a category in a slot of 144 pixels for two columns. -/
theorem draw_divides_crowded :
    letI := Exact.wholeTexts
    let plot := barPlot .left [("a", 1), ("b", 2)]
    crowded.draw.2 = .ok () ∧ ∃ layout axis bar, crowded.draw.1.layout = some layout ∧
      layout.plotArea.Bounded ∧ layout.axes.get? .bottom = some axis ∧ axis.isDiscrete = true ∧
      crowded.Divides layout .bottom axis ∧
      Bar.Drawn ⟨layout.axes, axis, crowded.options.barSpacer⟩ (crowded.barsOn .bottom) plot 0
        ⟨.label "a", 1⟩ bar ∧
      Bar.Inside layout.plotArea (Frame.forPlot .bottom axis.companion layout.plotArea) bar := by
  let _texts := Exact.wholeTexts
  intro plot
  obtain ⟨layout, axis, yAxis, kept, bounded, held, heldY, discrete, named, sized⟩ := crowded_axes
  obtain ⟨_layout, same, divides⟩ := draw_divides crowded draw_crowded
  cases kept.symm.trans same
  have parts := divides bounded .bottom axis held discrete
  have shown : plot ∈ crowded.shownOn .bottom := List.mem_cons_self
  have stored : plot.Stores 0 ⟨.label "a", 1⟩ := ⟨_, List.mem_cons_self, rfl⟩
  have isDrawn : Bar.Drawn ⟨layout.axes, axis, crowded.options.barSpacer⟩
      (crowded.barsOn .bottom) plot 0 ⟨.label "a", 1⟩ _ :=
    ⟨0, 0, _, _, _, yAxis, List.mem_cons_self, AxisSet.require_of_get? heldY, rfl, rfl, rfl⟩
  have slot := Axis.slot_eq discrete named sized 0 (.label "a") plot.keyCount
  have roomy : Bar.Roomy crowded.options.barSpacer (axis.slot 0 (.label "a") plot.keyCount).2
      (Bar.total (crowded.barsOn .bottom)) := by
    rw [slot]
    refine ⟨Nat.cast_nonneg' 4, ?_⟩
    change ((4 : ℕ) : EReal) * ((3 : ℕ) : EReal) + ((2 : ℕ) : EReal) ≤
      ((288 / (2 : ℕ) : ℝ) : EReal)
    rw [← EReal.coe_natCast, ← EReal.coe_natCast, ← EReal.coe_natCast, ← EReal.coe_mul,
      ← EReal.coe_add, EReal.coe_le_coe_iff]
    norm_num
  have finite : Plot.FiniteOn .y .left (crowded.plots.filter Plot.isVisible) := by
    refine Plot.finiteOn_y .left fun other listed series among point held => ?_
    have whole : ∃ number : ℕ, point.value = number := by
      rcases List.mem_pair.mp (List.mem_filter.mp listed).1 with rfl | rfl
      · cases List.mem_singleton.mp among
        rcases List.mem_pair.mp held with rfl | rfl
        · exact ⟨1, Nat.cast_one.symm⟩
        · exact ⟨2, Nat.cast_ofNat.symm⟩
      · cases List.mem_singleton.mp among
        cases List.mem_singleton.mp held
        exact ⟨3, Nat.cast_ofNat.symm⟩
    obtain ⟨number, same⟩ := whole
    exact same ▸ Exact.finite_natCast number
  obtain ⟨_inSlot, inArea⟩ := parts.within plot 0 _ _ isDrawn roomy
  have included := (parts.included_iff plot shown 0 _ stored).mpr (.inl List.mem_cons_self)
  exact ⟨draw_crowded, layout, axis, _, kept, bounded, held, discrete, parts, isDrawn,
    (inArea included).2 rfl finite⟩

omit [NumberTexts] in
/-- Keys that print differently share a slot if one of them is no category. -/
theorem not_draw_divides :
    letI := Exact.wholeTexts
    ¬ ∀ chart : Chart EReal, chart.draw.2 = .ok () → ∀ layout, chart.draw.1.layout = some layout →
      ∀ side axis, layout.axes.get? side = some axis → axis.isDiscrete = true →
        (∀ plot ∈ chart.shownOn side, ∀ index point, plot.Stores index point →
          axis.Includes (axis.slot index point.key plot.keyCount)) ∧
        ∀ plot ∈ chart.shownOn side, ∀ index point, plot.Stores index point →
          ∀ other ∈ chart.shownOn side, ∀ place further, other.Stores place further →
            point.key.text ≠ further.key.text →
              axis.slot index point.key plot.keyCount ≠
                axis.slot place further.key other.keyCount := by
  let _texts := Exact.wholeTexts
  intro divides
  obtain ⟨layout, axis, _yAxis, kept, _bounded, held, _heldY, discrete, named, sized⟩ :=
    crowded_axes
  obtain ⟨_included, apart⟩ := divides crowded draw_crowded layout kept .bottom axis held discrete
  have first : (barPlot .left [("a", 1), ("b", 2)]).Stores 0 ⟨.label "a", 1⟩ :=
    ⟨_, List.mem_cons_self, rfl⟩
  have second : (barPlot .right [("c", 3)]).Stores 0 ⟨.label "c", 3⟩ :=
    ⟨_, List.mem_cons_self, rfl⟩
  have different : (Key.label "a" : Key EReal).text ≠ (Key.label "c" : Key EReal).text := by
    change "a" ≠ "c"
    decide
  have separate := apart _ List.mem_cons_self 0 _ first _
    (List.mem_cons_of_mem _ List.mem_cons_self) 0 _ second different
  rw [Axis.slot_eq discrete named sized, Axis.slot_eq discrete named sized] at separate
  have same : Axis.cellOf ["a", "b"] 0 (Key.label "a" : Key EReal) =
      Axis.cellOf ["a", "b"] 0 (Key.label "c" : Key EReal) := rfl
  rw [same] at separate
  exact separate rfl

end Chart

end CanvasChart
