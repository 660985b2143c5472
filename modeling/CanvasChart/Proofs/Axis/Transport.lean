import CanvasChart.Proofs.Chart.AxisResolution
import CanvasChart.Proofs.Plot.Coloring

set_option autoImplicit false

/-! What axis resolution does not look at. Plots are told apart only by their sides and by what
axes read of their data, positions are only recorded, and options count only on the sides that
a plot uses. -/

namespace CanvasChart

variable {α : Type}

/-! ### What axes read of a plot -/

/-- Axes cannot tell the plots apart. -/
structure Plot.SameToAxes [Scalar α] (first second : Plot α) : Prop where
  options : second.options = first.options
  discrete : second.isDiscrete = first.isDiscrete
  categories : second.categories = first.categories
  boundingBox : second.boundingBox = first.boundingBox

namespace Plot

variable [Scalar α]

private theorem stackAll_uncolored (totals : StackTotals α) (all : List (Series α)) :
    stackAll totals (all.map Series.uncolored) = stackAll totals all := by
  induction all generalizing totals with
  | nil => rfl
  | cons series rest ih => simp only [List.map_cons, stackAll, Series.uncolored, ih]

theorem stack_uncolored (plot : Plot α) : plot.uncolored.stack = plot.stack := by
  unfold stack
  split
  case isTrue stacked =>
    rw [if_pos (by exact stacked)]
    exact stackAll_uncolored [] plot.series
  case isFalse apart =>
    rw [if_neg (by exact apart), uncolored, List.map_map]
    rfl

private theorem coordinates_uncolored (plot : Plot α) :
    plot.uncolored.coordinates = plot.coordinates := by
  unfold coordinates stackedSeries
  rw [stack_uncolored, uncolored, List.zip_map_left, List.flatMap_map]
  rfl

private theorem sameToAxes_uncolored (plot : Plot α) : plot.SameToAxes plot.uncolored where
  options := rfl
  discrete := rfl
  categories := by
    unfold categories uncolored
    cases plot.series <;> rfl
  boundingBox := by rw [boundingBox, boundingBox, coordinates_uncolored]

theorem SameToAxes.refl (plot : Plot α) : plot.SameToAxes plot := ⟨rfl, rfl, rfl, rfl⟩

end Plot

/-! ### Positions -/

def Axis.renumber (number : Nat → Nat) (axis : Axis α) : Axis α :=
  { axis with plots := axis.plots.map number }

theorem Axis.renumber_id (axis : Axis α) : axis.renumber id = axis := by
  simp [Axis.renumber]

namespace AxisSet

private theorem map_insert (change : Axis α → Axis α)
    (keepsSide : ∀ axis, (change axis).side = axis.side) (axes : AxisSet α) (axis : Axis α) :
    (axes.insert axis).map change = (axes.map change).insert (change axis) := by
  unfold insert
  rw [keepsSide]
  cases axis.side <;> rfl

theorem map_renumber_id (axes : AxisSet α) : axes.map (Axis.renumber id) = axes := by
  have same : Axis.renumber (α := α) id = id := funext Axis.renumber_id
  simp [map, same]

end AxisSet

variable [Scalar α] (number : Nat → Nat)

namespace Axis

omit [Scalar α] in
private theorem agree_renumber {first second : Plot α}
    (sameKeys : second.isDiscrete = first.isDiscrete) (axis : Axis α) :
    (axis.renumber number).agree second = (axis.agree first).map (renumber number) := by
  obtain ⟨_, _, kind, _, discrete⟩ := axis
  unfold agree
  rw [sameKeys]
  cases kind with
  | y => rfl
  | x =>
      cases discrete with
      | none => rfl
      | some discrete =>
          by_cases agrees : discrete = first.isDiscrete
          · subst agrees
            simp [renumber, Except.map]
          · simp [renumber, agrees, Except.map]

omit [Scalar α] in
private theorem unfix_renumber (axis : Axis α) :
    (axis.renumber number).unfix = axis.unfix.renumber number := by
  unfold unfix
  split
  · rename_i fixed
    rw [if_pos (by exact fixed)]
    rfl
  · rename_i loose
    rw [if_neg (by exact loose)]

private theorem widen_renumber (axis : Axis α) (box : BoundingBox α) :
    (axis.renumber number).widen box = (axis.widen box).renumber number := by
  have sameScale : (axis.renumber number).options.scale = axis.options.scale := rfl
  unfold widen
  rw [sameScale]
  cases axis.options.scale <;> rfl

private theorem absorb_renumber {first second : Plot α} (same : first.SameToAxes second)
    (axis : Axis α) :
    (axis.renumber number).absorb second = (axis.absorb first).renumber number := by
  unfold absorb
  rw [same.categories, same.boundingBox]
  have sameKeys : (axis.renumber number).isDiscrete = axis.isDiscrete := rfl
  have sameLabels : (axis.renumber number).labels = axis.labels := rfl
  rw [sameKeys, sameLabels]
  split
  · split <;> rfl
  · cases first.boundingBox with
    | none => rfl
    | some box =>
        simp only [widen_renumber]
        rfl

private theorem addPlot_renumber {first second : Plot α} (same : first.SameToAxes second)
    (axis : Axis α) (index : Nat) :
    (axis.renumber number).addPlot (number index) second =
      (axis.addPlot index first).map (renumber number) := by
  unfold addPlot
  rw [agree_renumber number same.discrete]
  cases axis.agree first with
  | error error => rfl
  | ok agreed =>
      simp only [Except.map, unfix_renumber]
      rw [← absorb_renumber number same]
      simp only [renumber, List.map_append, List.map_cons, List.map_nil]

private theorem fix_renumber (axis : Axis α) :
    (axis.renumber number).fix = axis.fix.renumber number := by
  unfold fix
  have sameFixed : (axis.renumber number).fixed = axis.fixed := rfl
  rw [sameFixed]
  split
  · rfl
  · simp only [apply_ite (renumber number)]
    rfl

end Axis

namespace AxisSet

variable {first second : ChartOptions α}

private theorem inRole_renumber (axes : AxisSet α) {side : Side}
    (sameOptions : second.axis side = first.axis side) (kind : AxisKind) (companion : Side) :
    (axes.map (Axis.renumber number)).inRole second side kind companion =
      (axes.inRole first side kind companion).map (Axis.renumber number) := by
  unfold inRole
  rw [get?_map, sameOptions]
  cases axes.get? side with
  | none => rfl
  | some axis =>
      have sameKind : (axis.renumber number).kind = axis.kind := rfl
      simp only [Option.map_some, sameKind]
      split <;> rfl

private theorem addPlotOn_renumber {plot other : Plot α} (same : plot.SameToAxes other)
    (axes : AxisSet α) {side : Side} (sameOptions : second.axis side = first.axis side)
    (kind : AxisKind) (companion : Side) (index : Nat) :
    (axes.map (Axis.renumber number)).addPlotOn second side kind companion (number index) other =
      (axes.addPlotOn first side kind companion index plot).map
        fun taken => taken.map (Axis.renumber number) := by
  unfold addPlotOn
  rw [inRole_renumber number axes sameOptions]
  cases axes.inRole first side kind companion with
  | error error => rfl
  | ok axis =>
      simp only [Except.map, bind, Except.bind, Axis.addPlot_renumber number same]
      cases axis.addPlot index plot with
      | error error => rfl
      | ok next => exact congrArg Except.ok (map_insert (Axis.renumber number) (fun _axis => rfl) axes next).symm

private theorem addPlot_renumber {plot other : Plot α} (same : plot.SameToAxes other)
    (axes : AxisSet α)
    (sameOptions : ∀ kind, second.axis (plot.sideOf kind) = first.axis (plot.sideOf kind))
    (index : Nat) :
    (axes.map (Axis.renumber number)).addPlot second (number index) other =
      (axes.addPlot first index plot).map fun taken => taken.map (Axis.renumber number) := by
  have onX : second.axis plot.options.xSide = first.axis plot.options.xSide := sameOptions .x
  have onY : second.axis plot.options.ySide = first.axis plot.options.ySide := sameOptions .y
  unfold addPlot
  rw [same.options]
  simp only
  split
  · rfl
  · rw [addPlotOn_renumber number same axes onX]
    cases axes.addPlotOn first plot.options.xSide .x plot.options.ySide index plot with
    | error error => rfl
    | ok next =>
        exact addPlotOn_renumber number same next onY .y plot.options.xSide index

/-- Resolution takes the same course over plots that axes cannot tell apart, whatever their
positions and whatever the options of the sides that none of them uses. -/
private theorem addPlots_renumber {change : Plot α → Plot α} (axes : AxisSet α)
    {entries : List (Nat × Plot α)}
    (same : ∀ entry ∈ entries, entry.2.SameToAxes (change entry.2))
    (sameOptions : ∀ entry ∈ entries, ∀ kind,
      second.axis (entry.2.sideOf kind) = first.axis (entry.2.sideOf kind)) :
    (axes.map (Axis.renumber number)).addPlots second (entries.map (Prod.map number change)) =
      (axes.addPlots first entries).map fun taken => taken.map (Axis.renumber number) := by
  induction entries generalizing axes with
  | nil => rfl
  | cons entry rest ih =>
      rw [List.forall_mem_cons] at same sameOptions
      simp only [List.map_cons, Prod.map, addPlots,
        addPlot_renumber number same.1 axes sameOptions.1]
      cases axes.addPlot first entry.1 entry.2 with
      | error error => rfl
      | ok next => exact ih next same.2 sameOptions.2

/-! ### Resolution -/

omit [Scalar α] in
theorem map_map (axes : AxisSet α) (first second : Axis α → Axis α) :
    (axes.map first).map second = axes.map (second ∘ first) := by
  simp only [map, Option.map_map]

private theorem map_fix_renumber (axes : AxisSet α) :
    (axes.map (Axis.renumber number)).map Axis.fix =
      (axes.map Axis.fix).map (Axis.renumber number) := by
  rw [map_map, map_map]
  exact congrArg axes.map (funext (Axis.fix_renumber number))

omit [Scalar α] in
private theorem visiblePlots_map (change : Plot α → Plot α)
    (sameVisible : ∀ plot, (change plot).isVisible = plot.isVisible) (plots : List (Plot α)) :
    visiblePlots (plots.map change) = (visiblePlots plots).map (Prod.map id change) := by
  have numbered : (plots.map change).mapIdx Prod.mk =
      (plots.mapIdx Prod.mk).map (Prod.map id change) :=
    List.ext_getElem (by simp) (by simp)
  have sameTest : (fun entry : Nat × Plot α => entry.2.isVisible) ∘ Prod.map id change =
      fun entry => entry.2.isVisible := funext fun entry => sameVisible entry.2
  change ((plots.map change).mapIdx Prod.mk).filter _ = _
  rw [numbered, List.filter_map, sameTest]
  rfl

private theorem resolve_renumber {change : Plot α → Plot α} {plots others : List (Plot α)}
    (listed : visiblePlots others = (visiblePlots plots).map (Prod.map number change))
    (same : ∀ plot ∈ plots.filter Plot.isVisible, plot.SameToAxes (change plot))
    (sameOptions : ∀ plot ∈ plots.filter Plot.isVisible, ∀ kind,
      second.axis (plot.sideOf kind) = first.axis (plot.sideOf kind)) :
    resolve second others =
      (resolve first plots).map fun axes => axes.map (Axis.renumber number) := by
  rw [← visiblePlots_map_snd, List.forall_mem_map] at same sameOptions
  have transported : empty.addPlots second (visiblePlots others) =
      (empty.addPlots first (visiblePlots plots)).map fun taken =>
        taken.map (Axis.renumber number) := by
    rw [listed]
    exact addPlots_renumber number empty same sameOptions
  unfold resolve
  rw [transported]
  cases empty.addPlots first (visiblePlots plots) with
  | error error => rfl
  | ok axes => exact congrArg Except.ok (map_fix_renumber number axes)

theorem resolve_uncolored (options : ChartOptions α) (plots : List (Plot α)) :
    resolve options (plots.map Plot.uncolored) = resolve options plots := by
  have listed : visiblePlots (plots.map Plot.uncolored) =
      (visiblePlots plots).map (Prod.map id Plot.uncolored) :=
    visiblePlots_map Plot.uncolored (fun _plot => rfl) plots
  have transported : resolve options (plots.map Plot.uncolored) =
      (resolve options plots).map fun axes => axes.map (Axis.renumber id) :=
    resolve_renumber id listed (fun plot _member => plot.sameToAxes_uncolored)
      fun _plot _member _kind => rfl
  rw [transported]
  cases resolve options plots with
  | error error => rfl
  | ok axes => exact congrArg Except.ok axes.map_renumber_id

end AxisSet

/-! ### Visible plots by themselves -/

omit [Scalar α]

/-- The position among the visible plots of the plot at a position. -/
def Plot.rank (plots : List (Plot α)) (index : Nat) : Nat :=
  ((plots.take index).filter isVisible).length

theorem Plot.rank_succ_of_visible {plot : Plot α} (shown : plot.isVisible = true)
    {rest : List (Plot α)} {index : Nat} :
    rank (plot :: rest) (index + 1) = rank rest index + 1 := by
  simp [rank, shown]

theorem Plot.rank_succ_of_hidden {plot : Plot α} (hidden : plot.isVisible = false)
    {rest : List (Plot α)} {index : Nat} :
    rank (plot :: rest) (index + 1) = rank rest index := by
  simp [rank, hidden]

namespace AxisSet

private theorem visiblePlots_cons (plot : Plot α) (rest : List (Plot α)) :
    visiblePlots (plot :: rest) =
      (if plot.isVisible then [(0, plot)] else []) ++
        (visiblePlots rest).map (Prod.map Nat.succ id) := by
  have numbered : rest.mapIdx (fun index plot => (index + 1, plot)) =
      (rest.mapIdx Prod.mk).map (Prod.map Nat.succ id) :=
    List.ext_getElem (by simp) (by simp)
  unfold visiblePlots
  rw [List.mapIdx_cons, numbered, List.filter_cons, List.filter_map]
  split <;> rfl

private theorem visiblePlots_visible (plots : List (Plot α)) :
    visiblePlots (plots.filter Plot.isVisible) =
      (visiblePlots plots).map (Prod.map (Plot.rank plots) id) := by
  induction plots with
  | nil => rfl
  | cons plot rest ih =>
      rw [visiblePlots_cons, List.filter_cons, List.map_append, List.map_map]
      cases shown : plot.isVisible with
      | true =>
          rw [if_pos rfl, if_pos rfl, visiblePlots_cons, shown, if_pos rfl, ih, List.map_map]
          refine congrArg (_ :: ·) (List.map_congr_left fun entry _member => ?_)
          exact Prod.ext (Plot.rank_succ_of_visible shown).symm rfl
      | false =>
          rw [if_neg Bool.false_ne_true, if_neg Bool.false_ne_true, ih, List.map_nil,
            List.nil_append]
          refine List.map_congr_left fun entry _member => ?_
          exact Prod.ext (Plot.rank_succ_of_hidden shown).symm rfl

/-- The axes of some plots are those of the visible ones alone, up to positions and whatever
the options of the sides that no visible plot uses. -/
theorem resolve_visible [Scalar α] {first second : ChartOptions α} {plots : List (Plot α)}
    (sameOptions : ∀ plot ∈ plots.filter Plot.isVisible, ∀ kind,
      second.axis (plot.sideOf kind) = first.axis (plot.sideOf kind)) :
    resolve second (plots.filter Plot.isVisible) =
      (resolve first plots).map fun axes => axes.map (Axis.renumber (Plot.rank plots)) :=
  resolve_renumber (Plot.rank plots) (visiblePlots_visible plots)
    (fun plot _member => .refl plot) sameOptions

end AxisSet
end CanvasChart
