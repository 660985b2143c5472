import CanvasChart.Proofs.Chart.LayoutBounds
import CanvasChart.Proofs.Marks.Containment

set_option autoImplicit false

/-! Plots inside the plot area. On finite data the axes of a drawn chart map what their plots
reach to offsets that fit on their sides, and so the marks of its plots stay inside. -/

namespace CanvasChart

variable [NumberTexts]

/-- The plots that use a side in a role have finite data along it. -/
def Plot.FiniteOn (kind : AxisKind) (side : Side) (plots : List (Plot EReal)) : Prop :=
  ∀ plot ∈ plots, plot.sideOf kind = side → ∀ value ∈ Point.reach kind plot.coordinates,
    Exact.Finite value

theorem Plot.finiteOn_y {plots : List (Plot EReal)} (side : Side)
    (values : ∀ plot ∈ plots, ∀ series ∈ plot.series, ∀ point ∈ series.data,
      Exact.Finite point.value) : Plot.FiniteOn .y side plots :=
  fun plot listed _onSide => Plot.finite_reach_y (values plot listed)

theorem Plot.finiteOn_x {plots : List (Plot EReal)} (side : Side)
    (keys : ∀ plot ∈ plots, ∀ series ∈ plot.series, ∀ point ∈ series.data,
      ∀ number, point.key.number? = some number → Exact.Finite number) :
    Plot.FiniteOn .x side plots :=
  fun plot listed _onSide => Plot.finite_reach_x (keys plot listed)

/-! ### Settled axes -/

theorem Plot.mem_reach_users {kind : AxisKind} {plots : List (Plot EReal)} {side : Side}
    {value : EReal} :
    value ∈ Plot.reach kind (Plot.users kind side (AxisSet.visiblePlots plots)) ↔
      ∃ plot ∈ plots.filter Plot.isVisible, plot.sideOf kind = side ∧
        value ∈ Point.reach kind plot.coordinates := by
  rw [← AxisSet.visiblePlots_map_snd]
  constructor
  · rintro ⟨entry, user, reached⟩
    obtain ⟨member, onSide⟩ := Plot.mem_users.mp user
    exact ⟨entry.2, List.mem_map_of_mem member, onSide, reached⟩
  · rintro ⟨plot, shown, onSide, reached⟩
    obtain ⟨entry, member, rfl⟩ := List.mem_map.mp shown
    exact ⟨entry, Plot.mem_users.mpr ⟨member, onSide⟩, reached⟩

theorem Axis.Gathers.places_settle {options : ChartOptions EReal} {plots : List (Plot EReal)}
    {side : Side} {axis : Axis EReal}
    (gathers : axis.Gathers options (AxisSet.visiblePlots plots) side) (area : Rect EReal)
    (positive : 0 ≤ area.lengthAlong side)
    (linear : axis.options.scale = .linear) (continuous : axis.isDiscrete = false)
    (finite : Plot.FiniteOn axis.kind side (plots.filter Plot.isVisible))
    {plot : Plot EReal} (visible : plot ∈ plots.filter Plot.isVisible)
    (uses : plot.sideOf axis.kind = side) :
    (axis.settle area).Places axis.kind plot area side := by
  have finiteReach : ∀ value ∈ Plot.reach axis.kind
      (Plot.users axis.kind side (AxisSet.visiblePlots plots)), Exact.Finite value := by
    intro value reached
    obtain ⟨other, shown, onSide, member⟩ := Plot.mem_reach_users.mp reached
    exact finite other shown onSide value member
  have shows : (axis.settle area).Shows _ :=
    (gathers.covers linear continuous).shows_fix linear continuous finiteReach
  have plan := axis.settle_samePlan area
  have sized : (axis.settle area).size = area.lengthAlong side :=
    gathers.side_eq ▸ axis.settle_size area
  have notLog : (axis.settle area).isLog = false :=
    Axis.isLog_of_linear (plan.options ▸ linear)
  intro value member
  have among : value ∈ insert 0 (Plot.reach axis.kind
      (Plot.users axis.kind side (AxisSet.visiblePlots plots))) := by
    rcases member with zero | reached
    · exact .inl zero
    · exact .inr (Plot.mem_reach_users.mpr ⟨plot, visible, uses, reached⟩)
  have fits := shows.positionOf_within notLog (sized ▸ positive) among
  rw [sized] at fits
  exact fits

namespace Chart

/-- On exact numbers, in a plot area of finite size, the marks of a visible plot stay inside the
area if all plots that share its axes have finite data there: the bars of a bar plot in the
direction of its linear Y axis, and the vertices of lines, areas and markers if the X axis is
continuous and linear too. -/
theorem draw_within_plotArea (chart : Chart EReal) (ended : chart.draw.2 = .ok ()) :
    ∃ layout, chart.draw.1.layout = some layout ∧ (layout.plotArea.Bounded →
      ∀ plot ∈ chart.plots.filter Plot.isVisible, ∃ xAxis yAxis,
        layout.axes.get? plot.options.xSide = some xAxis ∧
        layout.axes.get? plot.options.ySide = some yAxis ∧
        xAxis.options = chart.options.axis plot.options.xSide ∧
        yAxis.options = chart.options.axis plot.options.ySide ∧
        xAxis.isDiscrete = plot.isDiscrete ∧
        (yAxis.options.scale = .linear →
          Plot.FiniteOn .y plot.options.ySide (chart.plots.filter Plot.isVisible) →
          let context : MarkContext EReal := ⟨layout.axes, xAxis, chart.options.barSpacer⟩
          let frame := Frame.forPlot plot.options.xSide xAxis.companion layout.plotArea
          (plot.kind = .bar → plot.BarsWithin context yAxis frame layout.plotArea) ∧
          (plot.kind ≠ .bar → xAxis.options.scale = .linear → xAxis.isDiscrete = false →
            Plot.FiniteOn .x plot.options.xSide (chart.plots.filter Plot.isVisible) →
            plot.PointsWithin context yAxis frame layout.plotArea))) := by
  obtain ⟨gathered, _resolved, gathers, compatible, drawn⟩ := draw_of_ok ended
  rw [drawn]
  refine ⟨_, rfl, fun bounded plot visible => ?_⟩
  let area := (chart.layoutOn (gathered.map Axis.fix)).plotArea
  have perpendicular := compatible.perpendicular plot visible
  have member := visible
  rw [← AxisSet.visiblePlots_map_snd] at member
  obtain ⟨entry, listed, rfl⟩ := List.mem_map.mp member
  obtain ⟨xOrigin, _heldX, onX, gathersX, settledX⟩ := layoutOn_settled gathers listed .x
  obtain ⟨yOrigin, _heldY, onY, gathersY, settledY⟩ := layoutOn_settled gathers listed .y
  have planX := xOrigin.settle_samePlan area
  have planY := yOrigin.settle_samePlan area
  have toldX := gathersX.isDiscrete_eq onX (Plot.mem_users.mpr ⟨listed, rfl⟩)
  refine ⟨_, _, settledX, settledY, planX.options.trans gathersX.options_eq,
    planY.options.trans gathersY.options_eq, planX.isDiscrete.trans toldX,
    fun linearY finiteY => ?_⟩
  -- also where the sections leave no room, since an inset stops at zero
  have positive : ∀ side, 0 ≤ area.lengthAlong side := Rect.inset_lengths_nonneg _ _
  have placesY : (yOrigin.settle area).Places .y entry.2 area entry.2.options.ySide := by
    have numeric : yOrigin.isDiscrete = false := by simp [Axis.isDiscrete, onY]
    rw [← onY] at finiteY ⊢
    exact gathersY.places_settle area (positive _) (planY.options ▸ linearY) numeric finiteY
      visible (onY ▸ rfl)
  constructor
  · intro _bars
    exact entry.2.barsWithin bounded perpendicular _ placesY
  · intro _points linearX continuous finiteX
    have placesX : (xOrigin.settle area).Places .x entry.2 area entry.2.options.xSide := by
      rw [← onX] at finiteX ⊢
      exact gathersX.places_settle area (positive _) (planX.options ▸ linearX)
        (planX.isDiscrete.symm.trans continuous) finiteX visible (onX ▸ rfl)
    exact entry.2.pointsWithin bounded perpendicular _ placesX continuous
      (Axis.isLog_of_linear linearY) placesY

omit [NumberTexts] in
/-- The area below a line at the bottom left, and bars from the top right. -/
theorem draw_within_plotArea_sides :
    letI := Exact.wholeTexts
    let line : Plot EReal := ⟨.line, { PlotOptions.standard with fill := true },
      [.ofValues [0, 1]]⟩
    let bars : Plot EReal :=
      ⟨.bar, { PlotOptions.standard with xSide := .top, ySide := .right }, [.ofValues [0, 1]]⟩
    let chart : Chart EReal := showing [line, bars]
    chart.draw.2 = .ok () ∧ ∃ layout, chart.draw.1.layout = some layout ∧
      (∃ xAxis yAxis, layout.axes.get? .bottom = some xAxis ∧
        layout.axes.get? .left = some yAxis ∧
        line.PointsWithin ⟨layout.axes, xAxis, chart.options.barSpacer⟩ yAxis
          (Frame.forPlot .bottom xAxis.companion layout.plotArea) layout.plotArea) ∧
      ∃ xAxis yAxis, layout.axes.get? .top = some xAxis ∧
        layout.axes.get? .right = some yAxis ∧
        bars.BarsWithin ⟨layout.axes, xAxis, chart.options.barSpacer⟩ yAxis
          (Frame.forPlot .top xAxis.companion layout.plotArea) layout.plotArea := by
  let _texts := Exact.wholeTexts
  intro line bars chart
  have compatible : Plot.Compatible [line, bars] := Plot.compatible_pair rfl rfl
  have ended : chart.draw.2 = .ok () := draw_ok_of_compatible compatible
  obtain ⟨layout, kept, within⟩ := draw_within_plotArea chart ended
  have bounded : layout.plotArea.Bounded := by
    refine draw_plotArea_bounded ended ?_ ?_ kept
    · exact EReal.natCast_ne_top 300
    · exact EReal.natCast_ne_top 150
  have points : ∀ plot ∈ chart.plots.filter Plot.isVisible, ∀ series ∈ plot.series,
      ∀ point ∈ series.data, point ∈ (Series.ofValues [(0 : EReal), 1]).data := by
    intro plot shown series listed point stored
    have among : plot ∈ [line, bars] := (List.mem_filter.mp shown).1
    have sole : series = .ofValues [0, 1] := by
      rcases List.mem_pair.mp among with rfl | rfl <;> exact List.mem_singleton.mp listed
    exact sole ▸ stored
  have finite : ∀ point ∈ (Series.ofValues [(0 : EReal), 1]).data,
      Exact.Finite point.value ∧
        ∀ number, point.key.number? = some number → Exact.Finite number := by
    intro point stored
    rcases List.mem_pair.mp stored with rfl | rfl
    · exact ⟨⟨EReal.zero_ne_top, EReal.zero_ne_bot⟩, by
        rintro _ ⟨⟩
        exact Exact.finite_natCast 0⟩
    · exact ⟨Exact.finite_coe 1, by
        rintro _ ⟨⟩
        exact Exact.finite_natCast 1⟩
  have values (side : Side) : Plot.FiniteOn .y side (chart.plots.filter Plot.isVisible) :=
    Plot.finiteOn_y side fun plot shown series listed point stored =>
      (finite point (points plot shown series listed point stored)).1
  have keys (side : Side) : Plot.FiniteOn .x side (chart.plots.filter Plot.isVisible) :=
    Plot.finiteOn_x side fun plot shown series listed point stored =>
      (finite point (points plot shown series listed point stored)).2
  refine ⟨ended, layout, kept, ?_, ?_⟩
  · obtain ⟨xAxis, yAxis, heldX, heldY, optionsX, optionsY, told, inside⟩ :=
      within bounded line List.mem_cons_self
    refine ⟨xAxis, yAxis, heldX, heldY, ?_⟩
    exact (inside (optionsY ▸ rfl) (values _)).2 (fun same => by cases same)
      (optionsX ▸ rfl) told (keys _)
  · obtain ⟨xAxis, yAxis, heldX, heldY, _optionsX, optionsY, _told, inside⟩ :=
      within bounded bars (List.mem_cons_of_mem _ List.mem_cons_self)
    refine ⟨xAxis, yAxis, heldX, heldY, ?_⟩
    exact (inside (optionsY ▸ rfl) (values _)).1 rfl

/-- A scatter plot of finite keys and values on linear axes has a marker centered outside the
plot area. -/
def Strays (chart : Chart EReal) : Prop :=
  chart.draw.2 = .ok () ∧ ∃ layout xAxis yAxis, chart.draw.1.layout = some layout ∧
    ∃ plot ∈ chart.plots.filter Plot.isVisible, plot.kind = .scatter ∧
      layout.axes.get? plot.options.xSide = some xAxis ∧
      layout.axes.get? plot.options.ySide = some yAxis ∧
      xAxis.options.scale = .linear ∧ xAxis.isDiscrete = false ∧
      yAxis.options.scale = .linear ∧
      (∀ kind, ∀ value ∈ Point.reach kind plot.coordinates, Exact.Finite value) ∧
      ∃ entry ∈ plot.stackedSeries,
        ∃ vertex ∈ MarkContext.vertices ⟨layout.axes, xAxis, chart.options.barSpacer⟩ yAxis plot
          entry.1 entry.2,
        ¬ layout.plotArea.Contains ((Frame.forPlot plot.options.xSide xAxis.companion
          layout.plotArea).toCanvas vertex.x vertex.y)

noncomputable def unlabelled : AxisOptions EReal :=
  { AxisOptions.standard with showLabels := false }

/-- Two scatter plots on one Y axis, from the bottom and from the top, with nothing but tick
marks around them. -/
noncomputable def sharing (height first second : EReal) : Chart EReal :=
  let axis := unlabelled
  { showing [scatterOn .bottom .left [first], scatterOn .top .left [second]] with
    options := { ChartOptions.standard with
      height := some height
      legend := { LegendOptions.standard with visible := false }
      bottomAxis := axis
      leftAxis := axis
      topAxis := axis } }

variable (height first second : EReal)

theorem draw_sharing : (sharing height first second).draw.2 = .ok () := by
  have compatible : Plot.Compatible
      [scatterOn .bottom .left [first], scatterOn .top .left [second]] :=
    Plot.compatible_pair rfl rfl
  exact draw_ok_of_compatible compatible

private theorem reach_sharing :
    Plot.reach .y (Plot.users .y .left
      (AxisSet.visiblePlots (sharing height first second).plots)) = {first, second} := by
  change Plot.reach .y
    [(0, scatterOn .bottom .left [first]), (1, scatterOn .top .left [second])] = _
  rw [Plot.reach_cons, Plot.reach_cons, Plot.reach_nil, Set.union_empty]
  change Point.reach .y [⟨Scalar.ofNat 0, first⟩] ∪
    Point.reach .y [⟨Scalar.ofNat 0, second⟩] = _
  rw [Point.reach_cons, Point.reach_cons, Point.reach_nil, Set.union_empty, Set.union_empty]
  exact Set.singleton_union

theorem sideSize_unlabelled {options : ChartOptions EReal} {gathered : AxisSet EReal}
    {side : Side} {axis : Axis EReal} (held : gathered.get? side = some axis)
    (marked : axis.options = unlabelled) (noTitle : options.title = none)
    (noLegend : options.legend.visible = false) (plots : List (Plot EReal))
    (inner : Rect EReal) :
    Layout.sideSize ⟨options, gathered.map Axis.fix, plots⟩ inner side = ((6 : ℕ) : EReal) := by
  have fixedOptions : axis.fix.options = unlabelled := axis.fix_samePlan.options.trans marked
  have reach : Ticks.markReach axis.fix.options = ((6 : ℕ) : EReal) := by
    rw [fixedOptions]
    change Scalar.max (Scalar.ofNat 6) (Scalar.ofNat 0) = _
    rw [Exact.max_eq]
    exact max_eq_left (Nat.cast_le.mpr (Nat.zero_le 6))
  have heldFixed : (gathered.map Axis.fix).get? side = some axis.fix := by
    rw [AxisSet.get?_map, held]
    rfl
  have positive : (0 : EReal) < ((6 : ℕ) : EReal) :=
    EReal.coe_pos.mpr (Nat.cast_pos.mpr (Nat.succ_pos 5))
  rw [Layout.sideSize_marks heldFixed (fixedOptions ▸ rfl) (fixedOptions ▸ rfl) noTitle noLegend
    (reach ▸ positive), reach]

theorem sharing_axes :
    ∃ (layout : Layout EReal) (xAxis origin : Axis EReal),
      (sharing height first second).draw.1.layout = some layout ∧
      layout.axes.get? .bottom = some xAxis ∧ xAxis.options = unlabelled ∧
      xAxis.isDiscrete = false ∧
      layout.axes.get? .left = some (origin.settle layout.plotArea) ∧
      origin.side = .left ∧ origin.options = unlabelled ∧ origin.isDiscrete = false ∧
      origin.Covers {first, second} ∧ layout.plotArea.y = ((6 : ℕ) : EReal) ∧
      layout.plotArea.height = max (max height 0 - (6 : ℕ) - (6 : ℕ)) 0 := by
  let chart := sharing height first second
  obtain ⟨gathered, _resolved, gathers, _compatible, drawn⟩ :=
    draw_of_ok (draw_sharing height first second)
  rw [drawn]
  let layout := chart.layoutOn (gathered.map Axis.fix)
  have firstListed : (0, scatterOn .bottom .left [first]) ∈ AxisSet.visiblePlots chart.plots :=
    List.mem_cons_self
  have secondListed : (1, scatterOn .top .left [second]) ∈ AxisSet.visiblePlots chart.plots :=
    List.mem_cons_of_mem _ List.mem_cons_self
  obtain ⟨bottom, heldBottom, onX, gathersBottom, settledBottom⟩ :=
    layoutOn_settled gathers firstListed .x
  obtain ⟨left, _heldLeft, onY, gathersLeft, settledLeft⟩ :=
    layoutOn_settled gathers firstListed .y
  obtain ⟨top, heldTop, _onX, gathersTop, _settledTop⟩ :=
    layoutOn_settled gathers secondListed .x
  have plan := bottom.settle_samePlan layout.plotArea
  have numeric : left.isDiscrete = false := by simp [Axis.isDiscrete, onY]
  have covers := gathersLeft.covers (gathersLeft.options_eq ▸ rfl) numeric
  rw [onY] at covers
  let scene : Scene EReal := ⟨chart.options, gathered.map Axis.fix, chart.coloredPlots⟩
  have below (inner : Rect EReal) : Layout.sideSize scene inner .bottom = ((6 : ℕ) : EReal) :=
    sideSize_unlabelled heldBottom gathersBottom.options_eq rfl rfl _ inner
  have above (inner : Rect EReal) : Layout.sideSize scene inner .top = ((6 : ℕ) : EReal) :=
    sideSize_unlabelled heldTop gathersTop.options_eq rfl rfl _ inner
  refine ⟨_, _, left, rfl, settledBottom, plan.options.trans gathersBottom.options_eq, ?_,
    settledLeft, gathersLeft.side_eq, gathersLeft.options_eq, numeric,
    reach_sharing height first second ▸ covers, ?_, ?_⟩
  · exact plan.isDiscrete.trans
      (gathersBottom.isDiscrete_eq onX (Plot.mem_users.mpr ⟨firstListed, rfl⟩))
  · change Scalar.max (Scalar.ofNat 0) (Scalar.ofNat 0) + Layout.sideSize scene _ .top = _
    rw [above]
    simp [Exact.max_eq, -Nat.cast_ofNat]
  · change Scalar.max (Scalar.max (height - Scalar.ofNat 2 *
      Scalar.max (Scalar.ofNat 0) (Scalar.ofNat 0)) (Scalar.ofNat 0) -
        Layout.sideSize scene _ .top - Layout.sideSize scene _ .bottom) (Scalar.ofNat 0) = _
    rw [above, below]
    simp [Exact.max_eq, -Nat.cast_ofNat]

theorem inner_height {tall : ℝ} (room : 12 ≤ tall) :
    max (max (tall : EReal) 0 - (6 : ℕ) - (6 : ℕ)) 0 = ((tall - 12 : ℝ) : EReal) := by
  have six : ((6 : ℕ) : EReal) = ((6 : ℝ) : EReal) := by
    rw [← EReal.coe_natCast, Nat.cast_ofNat]
  have rest : tall - 6 - 6 = tall - 12 := by ring
  rw [six, max_eq_left (EReal.coe_nonneg.mpr (by linarith)), ← EReal.coe_sub, ← EReal.coe_sub,
    rest, max_eq_left (EReal.coe_nonneg.mpr (by linarith))]

private theorem settle_size_left {origin : Axis EReal} (onLeft : origin.side = .left)
    (area : Rect EReal) : (origin.settle area).size = area.height := by
  rw [origin.settle_size, onLeft]
  rfl

private theorem settle_linear {origin : Axis EReal} (marked : origin.options = unlabelled)
    (area : Rect EReal) : (origin.settle area).isLog = false :=
  Axis.isLog_of_linear (((origin.settle_samePlan area).options.trans marked) ▸ rfl)

theorem positionOf_left {origin : Axis EReal} (onLeft : origin.side = .left)
    (marked : origin.options = unlabelled) {area : Rect EReal} {tall low high : ℝ}
    (height : area.height = tall) (least : (origin.settle area).min = low)
    (greatest : (origin.settle area).max = high) (wide : low < high) (number : ℝ) :
    (origin.settle area).positionOf number =
      (((number - low) / (high - low) * tall : ℝ) : EReal) := by
  rw [Axis.positionOf, settle_linear marked, if_neg Bool.false_ne_true,
    Axis.offset_eq least greatest wide, settle_size_left onLeft, height, EReal.coe_mul]

variable {height first second}

private theorem strays_of_above {layout : Layout EReal} {xAxis yAxis : Axis EReal}
    (kept : (sharing height first second).draw.1.layout = some layout)
    (heldX : layout.axes.get? .bottom = some xAxis) (heldY : layout.axes.get? .left = some yAxis)
    (linearX : xAxis.options = unlabelled) (linearY : yAxis.options = unlabelled)
    (continuous : xAxis.isDiscrete = false) (finite : Exact.Finite first)
    (above : layout.plotArea.bottom - yAxis.positionOf first < layout.plotArea.y) :
    (sharing height first second).Strays := by
  refine ⟨draw_sharing height first second, layout, xAxis, yAxis, kept,
    scatterOn .bottom .left [first], List.mem_cons_self, rfl, heldX, heldY, linearX ▸ rfl,
    continuous, linearY ▸ rfl, ?_, ?_⟩
  · intro kind value reached
    have sole : value ∈ Point.reach kind [⟨Scalar.ofNat 0, first⟩] := reached
    rw [Point.reach_cons, Point.reach_nil, Set.union_empty, Set.mem_singleton_iff] at sole
    subst sole
    cases kind with
    | x => exact Exact.finite_natCast 0
    | y => exact finite
  · refine ⟨_, List.mem_cons_self, _, List.mem_cons_self, fun inside => ?_⟩
    have below : layout.plotArea.y ≤ ((Frame.forPlot .bottom xAxis.companion
      layout.plotArea).toCanvas _ (yAxis.positionOf first)).coordinate .left := inside.2.1
    rw [Frame.forPlot_toCanvas_ySide rfl] at below
    exact above.not_ge below

omit [NumberTexts] in
/-- Finite data are thrown out of the plot area by infinite data on their Y axis, and by a plot
area without end. -/
theorem draw_strays :
    letI := Exact.wholeTexts
    (sharing (150 : ℝ) (5 : ℝ) ⊤).Strays ∧ (sharing ⊤ (1 : ℝ) (1 : ℝ)).Strays := by
  let _texts := Exact.wholeTexts
  have six : ((6 : ℕ) : EReal) = ((6 : ℝ) : EReal) := by
    rw [← EReal.coe_natCast, Nat.cast_ofNat]
  constructor
  · obtain ⟨layout, xAxis, origin, kept, heldX, linearX, continuous, heldY, onLeft, linearY,
      numeric, covers, start, height⟩ := sharing_axes (150 : ℝ) (5 : ℝ) ⊤
    have tall := height.trans (inner_height (by norm_num))
    -- beside the infinite value the axis shows zero to one, so 5 is five heights up
    obtain ⟨least, greatest⟩ : (origin.settle layout.plotArea).min = (0 : ℝ) ∧
        (origin.settle layout.plotArea).max = (1 : ℝ) :=
      covers.fix_of_infinite (linearY ▸ rfl) numeric (.inr rfl) fun finite => finite.1 rfl
    have position := positionOf_left onLeft linearY tall least greatest zero_lt_one 5
    refine strays_of_above kept heldX heldY linearX
      ((origin.settle_samePlan layout.plotArea).options.trans linearY) continuous
      (Exact.finite_coe 5) ?_
    rw [Rect.bottom, start, tall, position, six, ← EReal.coe_add, ← EReal.coe_sub,
      EReal.coe_lt_coe_iff]
    norm_num
  · obtain ⟨layout, xAxis, origin, kept, heldX, linearX, continuous, heldY, onLeft, linearY,
      numeric, covers, start, height⟩ := sharing_axes ⊤ (1 : ℝ) (1 : ℝ)
    have endless : layout.plotArea.height = ⊤ := by
      rw [height, six, max_eq_left le_top, EReal.top_sub_coe, EReal.top_sub_coe,
        max_eq_left le_top]
    have finite : Exact.Finite ((1 : ℝ) : EReal) := Exact.finite_coe 1
    have shows : (origin.settle layout.plotArea).Shows _ :=
      covers.shows_fix (linearY ▸ rfl) numeric (by simpa using finite)
    have position := shows.positionOf_infinite (settle_linear linearY layout.plotArea)
      ((settle_size_left onLeft layout.plotArea).trans endless) (.inl rfl)
      (EReal.coe_pos.mpr zero_lt_one)
    refine strays_of_above kept heldX heldY linearX
      ((origin.settle_samePlan layout.plotArea).options.trans linearY) continuous finite ?_
    rw [position, sub_eq_add_neg, EReal.neg_top, EReal.add_bot, start, six]
    exact EReal.bot_lt_coe 6

end Chart
end CanvasChart
