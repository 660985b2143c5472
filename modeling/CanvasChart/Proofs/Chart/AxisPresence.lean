import CanvasChart.Proofs.Chart.AxisResolution
import CanvasChart.Proofs.Chart.DrawSteps

set_option autoImplicit false

/-! Nothing that is drawn misses an axis. Ticks are listed on the sides that have an axis,
and every plot of a resolved X axis finds its Y axis, since axes are resolved from both
sides of each visible plot. -/

namespace CanvasChart

variable {α : Type}

/-! ### Axes of plots -/

namespace AxisSet

theorem require_of_get? {axes : AxisSet α} {side : Side} {axis : Axis α}
    (found : axes.get? side = some axis) : axes.require side = .ok axis := by
  simp only [require, found]

theorem get?_of_mem_toList {axes : AxisSet α} {axis : Axis α} (member : axis ∈ axes.toList) :
    ∃ side, axes.get? side = some axis := by
  obtain ⟨side, _listed, found⟩ := List.mem_filterMap.mp member
  exact ⟨side, found⟩

variable [Scalar α] {options : ChartOptions α} {entries : List (Nat × Plot α)}
  {axes : AxisSet α}

theorem Gathers.present (gathers : axes.Gathers options entries) {entry : Nat × Plot α}
    (member : entry ∈ entries) (kind : AxisKind) :
    ∃ axis, axes.get? (entry.2.sideOf kind) = some axis ∧ axis.kind = kind ∧
      axis.Gathers options entries (entry.2.sideOf kind) := by
  have user : entry ∈ Plot.users kind (entry.2.sideOf kind) entries :=
    Plot.mem_users.mpr ⟨member, rfl⟩
  have held := gathers (entry.2.sideOf kind)
  cases found : axes.get? (entry.2.sideOf kind) with
  | none =>
      rw [found] at held
      rw [held kind] at user
      cases user
  | some axis =>
      rw [found] at held
      exact ⟨axis, rfl, held.kind_eq member rfl, held⟩

theorem Gathers.recorded (gathers : axes.Gathers options entries) {side : Side}
    {axis : Axis α} (found : axes.get? side = some axis) (onX : axis.kind = .x) {index : Nat}
    (recorded : index ∈ axis.plots) :
    ∃ plot, (index, plot) ∈ entries ∧ plot.options.xSide = side := by
  rw [(gathers.of_get? found).plots_eq, onX] at recorded
  obtain ⟨⟨position, plot⟩, user, rfl⟩ := List.mem_map.mp recorded
  obtain ⟨member, same⟩ := Plot.mem_users.mp user
  exact ⟨plot, member, same⟩

end AxisSet

/-! ### Colors -/

theorem Plot.distribute_options (plots : List (Plot α)) (colors : List String) :
    (Plot.distribute plots colors).map Plot.options = plots.map Plot.options := by
  induction plots generalizing colors with
  | nil => rfl
  | cons plot rest ih =>
      simp only [distribute]
      split <;> simp only [List.map_cons, ih]

namespace Chart

theorem coloredPlots_options (chart : Chart α) :
    chart.coloredPlots.map Plot.options = chart.plots.map Plot.options :=
  Plot.distribute_options _ _

theorem coloredPlots_length (chart : Chart α) :
    chart.coloredPlots.length = chart.plots.length := by
  have sameLength := congrArg List.length chart.coloredPlots_options
  simpa only [List.length_map] using sameLength

theorem coloredPlots_getElem? (chart : Chart α) {index : Nat} {colored : Plot α}
    (found : chart.coloredPlots[index]? = some colored) :
    ∃ plot, chart.plots[index]? = some plot ∧ colored.options = plot.options := by
  have same := congrArg (fun options => options[index]?) chart.coloredPlots_options
  simp only [List.getElem?_map, found, Option.map_some] at same
  cases plain : chart.plots[index]? with
  | none =>
      rw [plain] at same
      cases same
  | some plot =>
      rw [plain] at same
      exact ⟨plot, rfl, Option.some.inj same⟩

end Chart

/-! ### Settled axes -/

variable [Scalar α]

/-- What becomes of a gathered axis: its range is settled, and then its lengths are. -/
def Axis.settle (plotArea : Rect α) (axis : Axis α) : Axis α :=
  axis.fix.withSizes (plotArea.lengthAlong axis.fix.side) (plotArea.lengthAcross axis.fix.side)

theorem Axis.settle_samePlan (plotArea : Rect α) (axis : Axis α) :
    SamePlan axis (axis.settle plotArea) :=
  axis.fix_samePlan.trans (axis.fix.withSizes_samePlan _ _)

theorem Axis.settle_size (plotArea : Rect α) (axis : Axis α) :
    (axis.settle plotArea).size = plotArea.lengthAlong axis.side := by
  rw [← axis.fix_samePlan.side]
  rfl

theorem Layout.sizeAxes_fixed (gathered : AxisSet α) (plotArea : Rect α) :
    Layout.sizeAxes (gathered.map Axis.fix) plotArea = gathered.map (Axis.settle plotArea) := by
  simp only [Layout.sizeAxes, AxisSet.map, Option.map_map]
  rfl

namespace AxisSet

variable {options : ChartOptions α} {plots : List (Plot α)} {gathered : AxisSet α}

theorem require_ySide (gathers : gathered.Gathers options (visiblePlots plots))
    (plotArea : Rect α) {xAxis : Axis α}
    (member : xAxis ∈ (gathered.map (Axis.settle plotArea)).xAxes) {index : Nat}
    (recorded : index ∈ xAxis.plots) :
    ∃ plot, plots[index]? = some plot ∧
      ∃ yAxis, (gathered.map (Axis.settle plotArea)).require plot.options.ySide = .ok yAxis := by
  obtain ⟨listed, onX⟩ := List.mem_filter.mp member
  obtain ⟨side, found⟩ := get?_of_mem_toList listed
  rw [get?_map] at found
  obtain ⟨origin, held, rfl⟩ := Option.map_eq_some_iff.mp found
  have samePlan := origin.settle_samePlan plotArea
  rw [samePlan.plots] at recorded
  have originOnX : origin.kind = .x := samePlan.kind ▸ of_decide_eq_true onX
  obtain ⟨plot, entry, _onSide⟩ := gathers.recorded held originOnX recorded
  obtain ⟨yAxis, present, _onY, _gathers⟩ := gathers.present entry .y
  have settled : (gathered.map (Axis.settle plotArea)).get? plot.options.ySide =
      some (yAxis.settle plotArea) := by
    rw [get?_map]
    exact congrArg (Option.map (Axis.settle plotArea)) present
  exact ⟨plot, (mem_visiblePlots.mp entry).1, _, require_of_get? settled⟩

end AxisSet

namespace Chart

theorem layoutOn_axes (chart : Chart α) (gathered : AxisSet α) :
    (chart.layoutOn (gathered.map Axis.fix)).axes =
      gathered.map (Axis.settle (chart.layoutOn (gathered.map Axis.fix)).plotArea) :=
  Layout.sizeAxes_fixed gathered _

theorem layoutOn_get? (chart : Chart α) (gathered : AxisSet α) (side : Side) :
    (chart.layoutOn (gathered.map Axis.fix)).axes.get? side =
      (gathered.get? side).map
        (Axis.settle (chart.layoutOn (gathered.map Axis.fix)).plotArea) := by
  rw [layoutOn_axes, AxisSet.get?_map]

variable {chart : Chart α} {gathered : AxisSet α}

theorem exists_origin
    (gathers : gathered.Gathers chart.options (AxisSet.visiblePlots chart.plots)) {side : Side}
    {axis : Axis α}
    (held : (chart.layoutOn (gathered.map Axis.fix)).axes.get? side = some axis) :
    ∃ origin, gathered.get? side = some origin ∧
      origin.Gathers chart.options (AxisSet.visiblePlots chart.plots) side ∧
      axis = origin.settle (chart.layoutOn (gathered.map Axis.fix)).plotArea := by
  rw [layoutOn_get?] at held
  obtain ⟨origin, found, rfl⟩ := Option.map_eq_some_iff.mp held
  exact ⟨origin, found, gathers.of_get? found, rfl⟩

/-- Both sides of a visible plot carry an axis of the layout, settled from the one that
gathered the plots in this role. -/
theorem layoutOn_settled
    (gathers : gathered.Gathers chart.options (AxisSet.visiblePlots chart.plots))
    {entry : Nat × Plot α} (member : entry ∈ AxisSet.visiblePlots chart.plots)
    (kind : AxisKind) :
    ∃ origin : Axis α, gathered.get? (entry.2.sideOf kind) = some origin ∧ origin.kind = kind ∧
      origin.Gathers chart.options (AxisSet.visiblePlots chart.plots) (entry.2.sideOf kind) ∧
      (chart.layoutOn (gathered.map Axis.fix)).axes.get? (entry.2.sideOf kind) =
        some (origin.settle (chart.layoutOn (gathered.map Axis.fix)).plotArea) := by
  obtain ⟨origin, held, onKind, originGathers⟩ := gathers.present member kind
  refine ⟨origin, held, onKind, originGathers, ?_⟩
  rw [layoutOn_get?, held]
  rfl

/-- The companion of such an axis is the other side of the first plot that gives the side the
same role. -/
theorem layoutOn_present
    (gathers : gathered.Gathers chart.options (AxisSet.visiblePlots chart.plots))
    {entry : Nat × Plot α} (member : entry ∈ AxisSet.visiblePlots chart.plots)
    (kind : AxisKind) :
    ∃ axis, (chart.layoutOn (gathered.map Axis.fix)).axes.get? (entry.2.sideOf kind) =
        some axis ∧
      (Plot.users kind (entry.2.sideOf kind) (AxisSet.visiblePlots chart.plots)).head?.map
        (fun first => first.2.sideOf kind.other) = some axis.companion := by
  obtain ⟨origin, _held, rfl, originGathers, settled⟩ := layoutOn_settled gathers member kind
  have plan := origin.settle_samePlan (chart.layoutOn (gathered.map Axis.fix)).plotArea
  exact ⟨_, settled, plan.companion ▸ originGathers.companion_eq⟩

end Chart

/-! ### Sections -/

namespace Layout

theorem mem_stackBands {plotArea : Rect α} {side : Side} {offset : α}
    {sections : List (SizedSection α)} {band : Section × Rect α}
    (member : band ∈ stackBands plotArea side offset sections) :
    ∃ sized ∈ sections, sized.place = band.1 ∧ ¬ sized.size ≤ 0 ∧
      ∃ start, band.2 = plotArea.band side start sized.size := by
  induction sections generalizing offset with
  | nil => cases member
  | cons first rest ih =>
      simp only [stackBands] at member
      split at member
      case isTrue =>
        obtain ⟨sized, listed, placed⟩ := ih member
        exact ⟨sized, List.mem_cons_of_mem first listed, placed⟩
      case isFalse needed =>
        rcases List.mem_cons.mp member with here | later
        · exact ⟨first, List.mem_cons_self, here ▸ rfl, needed, offset, here ▸ rfl⟩
        · obtain ⟨sized, listed, placed⟩ := ih later
          exact ⟨sized, List.mem_cons_of_mem first listed, placed⟩

theorem onSide_of_mem_sectionBands {scene : Scene α} {plotArea : Rect α}
    {band : Side × Section × Rect α} (member : band ∈ sectionBands scene plotArea) :
    ∃ side, band.2.1 ∈ Section.onSide scene.options scene.axes side := by
  obtain ⟨side, _visited, placed⟩ := List.mem_flatMap.mp member
  obtain ⟨stacked, inStack, rfl⟩ := List.mem_map.mp placed
  obtain ⟨sized, listed, same, _needed, _placed⟩ := mem_stackBands inStack
  obtain ⟨place, registered, rfl⟩ := List.mem_map.mp listed
  exact ⟨side, same ▸ registered⟩

end Layout

omit [Scalar α] in
theorem Section.isSome_of_ticks {options : ChartOptions α} {axes : AxisSet α}
    {side ticksSide : Side} (member : Section.ticks ticksSide ∈ Section.onSide options axes side) :
    (axes.get? ticksSide).isSome = true := by
  unfold onSide at member
  rcases List.mem_append.mp member with beforeTitle | title
  · rcases List.mem_append.mp beforeTitle with ofAxis | ofLegend
    · split at ofAxis
      case isTrue present =>
        simp only [List.mem_cons, Section.ticks.injEq, reduceCtorEq, List.not_mem_nil,
          or_false] at ofAxis
        exact ofAxis ▸ present
      case isFalse => cases ofAxis
    · split at ofLegend <;> simp at ofLegend
  · split at title <;> simp at title

end CanvasChart
