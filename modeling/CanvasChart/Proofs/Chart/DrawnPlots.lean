import CanvasChart.Proofs.Chart.AxisMembers
import CanvasChart.Proofs.Marks.PlotMarks
import CanvasChart.Proofs.Plot.Coloring

set_option autoImplicit false

/-! What a chart records for its plots: after the sections come the marks of every visible
plot once, side by side and type by type, and none of a hidden plot. -/

namespace CanvasChart

open Drawing

variable {α : Type} [Scalar α]

/-- Some items left the marks one after the other, each of them its own. -/
inductive InTurn {β : Type} (leaves : β → List (DrawOp α) → Prop) :
    List β → List (DrawOp α) → Prop
  | nil : InTurn leaves [] []
  | cons {item : β} {own : List (DrawOp α)} {rest : List β} {later : List (DrawOp α)}
      (first : leaves item own) (next : InTurn leaves rest later) :
      InTurn leaves (item :: rest) (own ++ later)

namespace InTurn

variable {β : Type} {leaves : β → List (DrawOp α) → Prop}

omit [Scalar α] in
theorem append {items later : List β} {marks rest : List (DrawOp α)}
    (earlier : InTurn leaves items marks) (next : InTurn leaves later rest) :
    InTurn leaves (items ++ later) (marks ++ rest) := by
  induction earlier with
  | nil => exact next
  | cons first _next ih =>
      rw [List.cons_append, List.append_assoc]
      exact .cons first ih

omit [Scalar α] in
theorem flatMap {γ : Type} (list : List γ) {items : γ → List β}
    {marks : γ → List (DrawOp α)}
    (each : ∀ entry ∈ list, InTurn leaves (items entry) (marks entry)) :
    InTurn leaves (list.flatMap items) (list.flatMap marks) := by
  induction list with
  | nil => exact .nil
  | cons first rest ih =>
      rw [List.forall_mem_cons] at each
      rw [List.flatMap_cons, List.flatMap_cons]
      exact each.1.append (ih each.2)

end InTurn

/-- What a plot leaves on its axes: the marks that its type asks for, and for every series of
a line plot that has data a line with one vertex for every data point, in their order. -/
structure Plot.Leaves (plot : Plot α) (xAxis yAxis : Axis α) (state : GraphicsState α)
    (marks : List (DrawOp α)) : Prop where
  forms : marks.map DrawOp.form = plot.forms
  lines : plot.kind = .line → ∀ place series, plot.series[place]? = some series →
    series.data ≠ [] → ∃ vertices, Line.polyline state (plot.styleOf series) vertices ∈ marks ∧
      vertices.length = series.data.length ∧
      ∀ index point, series.data[index]? = some point →
        ∃ extent, plot.extent? place index = some extent ∧
          vertices[index]? = some
            ⟨xAxis.keyPosition index point.key plot.keyCount, yAxis.positionOf extent.top⟩

theorem Plot.leaves_marks {context : MarkContext α} {plot : Plot α} {yAxis : Axis α}
    (present : context.yAxis plot = .ok yAxis) (state : GraphicsState α) (first total : Nat) :
    plot.Leaves context.xAxis yAxis state (plot.marks context state first total) where
  forms := Plot.marks_forms present state first total
  lines drawnAs place series listed filled := by
    obtain ⟨extents, stacked⟩ := plot.exists_stackedSeries listed
    have member := List.mem_of_getElem? stacked
    refine ⟨_, Line.polyline_mem_marks present drawnAs member filled state first total,
      context.vertices_length yAxis plot (plot.stackedSeries_length member), ?_⟩
    intro index point stored
    exact context.vertices_getElem? yAxis stacked stored

theorem Plot.groupMarks_inTurn {leaves : Plot α → List (DrawOp α) → Prop}
    {context : MarkContext α} {state : GraphicsState α} {group : List (Plot α)}
    (each : ∀ plot ∈ group, ∀ first total,
      leaves plot (plot.marks context state first total)) :
    InTurn leaves group (Plot.groupMarks context state group) := by
  unfold groupMarks
  generalize Bar.total group = total
  generalize 0 = first
  induction group generalizing first with
  | nil => exact .nil
  | cons plot rest ih =>
      rw [List.forall_mem_cons] at each
      exact .cons (each.1 first total) (ih each.2 _)

def GraphicsState.within (state : GraphicsState α) (frame : Frame α) : GraphicsState α :=
  { state with matrix := state.matrix.multiply frame.matrix }

/-- The marks of some plots on the X axis of a side, one type after the other. -/
def Layout.sideMarks (layout : Layout α) (spacer : α) (state : GraphicsState α)
    (plots : List (Plot α)) (side : Side) : List (DrawOp α) :=
  match layout.axes.get? side with
  | none => []
  | some xAxis =>
      let frame := Frame.forPlot side xAxis.companion layout.plotArea
      PlotKind.all.flatMap fun kind =>
        Plot.groupMarks ⟨layout.axes, xAxis, spacer⟩ (state.within frame)
          (Plot.ofKind kind (Plot.onSide side plots))

def Layout.plotMarks (layout : Layout α) (spacer : α) (state : GraphicsState α)
    (plots : List (Plot α)) : List (DrawOp α) :=
  Side.all.flatMap (layout.sideMarks spacer state plots)

/-- The plot leaves its marks on the axes of the layout that its sides name. -/
def Layout.Leaves (layout : Layout α) (spacer : α) (state : GraphicsState α) (plot : Plot α)
    (marks : List (DrawOp α)) : Prop :=
  ∃ xAxis yAxis first total,
    layout.axes.get? plot.options.xSide = some xAxis ∧
    layout.axes.get? plot.options.ySide = some yAxis ∧
    let plotState := state.within
      (Frame.forPlot plot.options.xSide xAxis.companion layout.plotArea)
    marks = plot.marks ⟨layout.axes, xAxis, spacer⟩ plotState first total ∧
    plot.Leaves xAxis yAxis plotState marks

theorem InTurn.forms {layout : Layout α} {spacer : α} {state : GraphicsState α}
    {plots : List (Plot α)} {marks : List (DrawOp α)}
    (inTurn : InTurn (layout.Leaves spacer state) plots marks) :
    marks.map DrawOp.form = plots.flatMap Plot.forms := by
  induction inTurn with
  | nil => rfl
  | cons first _next ih =>
      obtain ⟨_xAxis, _yAxis, _first, _total, _heldX, _heldY, _marks, leaves⟩ := first
      rw [List.map_append, List.flatMap_cons, leaves.forms, ih]

/-- The marks of some plots with both axes are those of each, in drawing order. -/
theorem Layout.plotMarks_inTurn (layout : Layout α) (spacer : α) (state : GraphicsState α)
    (plots : List (Plot α))
    (present : ∀ plot ∈ plots, ∀ kind, ∃ axis,
      layout.axes.get? (plot.sideOf kind) = some axis) :
    InTurn (layout.Leaves spacer state) (Plot.inDrawingOrder plots)
      (layout.plotMarks spacer state plots) := by
  refine InTurn.flatMap Side.all fun side _listed => ?_
  unfold sideMarks
  cases held : layout.axes.get? side with
  | none =>
      have vacant : Plot.onSide side plots = [] := by
        refine List.filter_eq_nil_iff.mpr fun plot member onSide => ?_
        obtain ⟨axis, found⟩ := present plot member .x
        rw [← of_decide_eq_true onSide] at held
        rw [show layout.axes.get? plot.options.xSide = some axis from found] at held
        cases held
      rw [vacant]
      exact .nil
  | some xAxis =>
      refine InTurn.flatMap PlotKind.all fun kind _listed => ?_
      refine Plot.groupMarks_inTurn fun plot inGroup first total => ?_
      obtain ⟨member, onSide⟩ := List.mem_filter.mp (List.mem_filter.mp inGroup).1
      have xSide : plot.options.xSide = side := of_decide_eq_true onSide
      subst xSide
      obtain ⟨yAxis, foundY⟩ := present plot member .y
      have required : (⟨layout.axes, xAxis, spacer⟩ : MarkContext α).yAxis plot = .ok yAxis :=
        AxisSet.require_of_get? foundY
      exact ⟨xAxis, yAxis, first, total, held, foundY, rfl,
        Plot.leaves_marks required _ first total⟩

omit [Scalar α] in
theorem AxisSet.flatMap_xAxes {β : Type} (axes : AxisSet α) (each : Axis α → List β) :
    axes.xAxes.flatMap each = Side.all.flatMap fun side =>
      match axes.get? side with
      | none => []
      | some axis => if axis.kind = .x then each axis else [] := by
  unfold xAxes toList
  induction Side.all with
  | nil => rfl
  | cons side rest ih =>
      rw [List.flatMap_cons, ← ih]
      cases held : axes.get? side with
      | none => rw [List.filterMap_cons_none held, List.nil_append]
      | some axis =>
          rw [List.filterMap_cons_some held, List.filter_cons]
          by_cases onX : axis.kind = .x <;> simp [onX]

theorem Plot.flatMap_groups (plots : List (Plot α)) (context : MarkContext α)
    (state : GraphicsState α) :
    (Plot.groups plots).flatMap (fun group => Plot.groupMarks context state group.2) =
      PlotKind.all.flatMap fun kind => Plot.groupMarks context state (Plot.ofKind kind plots) := by
  unfold groups
  induction PlotKind.all with
  | nil => rfl
  | cons kind rest ih =>
      rw [List.flatMap_cons, ← ih, List.map_cons, List.filter_cons]
      cases group : plots.filter fun plot => plot.kind = kind with
      | nil => simp [ofKind, group, groupMarks, Bar.placed]
      | cons first later => simp [ofKind, group]

namespace Chart

private theorem drawAxisPlots_draws (options : ChartOptions α) (axes : AxisSet α)
    (plots : List (Plot α)) (plotArea : Rect α) (xAxis : Axis α) (before : GraphicsState α)
    (present : ∀ plot ∈ members plots xAxis, ∃ yAxis,
      axes.require plot.options.ySide = .ok yAxis) :
    (drawAxisPlots options axes plots plotArea xAxis).Draws before before
      (PlotKind.all.flatMap fun kind =>
        Plot.groupMarks ⟨axes, xAxis, options.barSpacer⟩
          (before.within (Frame.forPlot xAxis.side xAxis.companion plotArea))
          (Plot.ofKind kind (members plots xAxis))) := by
  rw [← Plot.flatMap_groups]
  simp only [drawAxisPlots]
  split
  case isTrue none =>
    rw [List.isEmpty_iff] at none
    rw [none]
    exact draws_empty
  case isFalse =>
    let frame := Frame.forPlot xAxis.side xAxis.companion plotArea
    have framed : (call (.transform frame.matrix)).Draws before (before.within frame) [] :=
      draws_of_silent fun _saved _path _ops => rfl
    refine (framed.append (draws_sequence _ _ _ ?_)).scope
    rintro ⟨kind, group⟩ grouped
    simp only [Plot.groups, List.mem_filter, List.mem_map] at grouped
    obtain ⟨⟨drawnKind, _listed, same⟩, _nonempty⟩ := grouped
    cases same
    refine Marks.drawGroup_draws _ _ kind _ ?_ ?_
    · intro plot member
      exact of_decide_eq_true (List.mem_filter.mp member).2
    · intro plot member
      exact present plot (List.mem_filter.mp member).1

variable {chart : Chart α} {gathered : AxisSet α}

/-- A side with no axis or with a Y axis leaves no mark, and no visible plot has it as X side. -/
private theorem sideMarks_layoutOn
    (gathers : gathered.Gathers chart.options (AxisSet.visiblePlots chart.plots))
    (before : GraphicsState α) (side : Side) :
    let layout := chart.layoutOn (gathered.map Axis.fix)
    layout.sideMarks chart.options.barSpacer before (chart.coloredPlots.filter Plot.isVisible)
        side =
      match layout.axes.get? side with
      | none => []
      | some axis =>
          if axis.kind = .x then
            PlotKind.all.flatMap fun kind =>
              Plot.groupMarks ⟨layout.axes, axis, chart.options.barSpacer⟩
                (before.within (Frame.forPlot axis.side axis.companion layout.plotArea))
                (Plot.ofKind kind (members chart.coloredPlots axis))
          else [] := by
  intro layout
  have settled : layout.axes.get? side = (gathered.get? side).map (Axis.settle layout.plotArea) :=
    chart.layoutOn_get? gathered side
  unfold Layout.sideMarks
  rw [settled]
  cases held : gathered.get? side with
  | none => rfl
  | some origin =>
      have samePlan := origin.settle_samePlan layout.plotArea
      simp only [Option.map_some, samePlan.side, samePlan.kind, (gathers.of_get? held).side_eq]
      cases kind : origin.kind with
      | x =>
          rw [if_pos rfl, members_of_gathered gathers held kind samePlan.plots]
      | y =>
          rw [onSide_eq_nil gathers held kind]
          rfl

theorem plotsOn_draws
    (gathers : gathered.Gathers chart.options (AxisSet.visiblePlots chart.plots))
    (before : GraphicsState α) :
    (chart.plotsOn (gathered.map Axis.fix)).Draws before before
      ((chart.layoutOn (gathered.map Axis.fix)).plotMarks chart.options.barSpacer before
        (chart.coloredPlots.filter Plot.isVisible)) := by
  let layout := chart.layoutOn (gathered.map Axis.fix)
  have drawn := draws_sequence layout.axes.xAxes
    (drawAxisPlots chart.options layout.axes chart.coloredPlots layout.plotArea) _
    fun xAxis member => drawAxisPlots_draws _ _ _ _ xAxis before ?present
  case present =>
    intro plot drawn
    obtain ⟨listed, onX⟩ := List.mem_filter.mp member
    obtain ⟨side, found⟩ := AxisSet.get?_of_mem_toList listed
    obtain ⟨origin, held, _onSide, rfl⟩ := exists_origin gathers found
    have samePlan := origin.settle_samePlan layout.plotArea
    rw [members_of_gathered gathers held (samePlan.kind ▸ of_decide_eq_true onX)
      samePlan.plots] at drawn
    obtain ⟨yOrigin, _heldY, _onY, settled⟩ :=
      exists_axis_of_shown gathers (List.mem_filter.mp drawn).1 .y
    exact ⟨_, AxisSet.require_of_get? settled⟩
  rw [AxisSet.flatMap_xAxes] at drawn
  have sideBySide := List.flatMap_congr fun side (_listed : side ∈ Side.all) =>
    sideMarks_layoutOn gathers before side
  rw [Layout.plotMarks, sideBySide]
  exact drawn

private theorem drawingOn_ops
    (gathers : gathered.Gathers chart.options (AxisSet.visiblePlots chart.plots))
    (canvas : Recorder α) :
    ((chart.drawingOn (gathered.map Axis.fix)).run canvas).1.ops =
      ((chart.framingOn (gathered.map Axis.fix)).run canvas).1.ops ++
        (chart.layoutOn (gathered.map Axis.fix)).plotMarks chart.options.barSpacer canvas.state
          (chart.coloredPlots.filter Plot.isVisible) := by
  have framed : (chart.framingOn (gathered.map Axis.fix)).Framed False :=
    (drawingOn_framed gathers).1
  have complete := framed.run_ok canvas
  have kept := framed.run_sameGraphics canvas
  have drawn := plotsOn_draws gathers canvas.state
  rw [drawingOn_eq]
  cases reached : (chart.framingOn (gathered.map Axis.fix)).run canvas with
  | mk next result =>
      rw [reached] at complete kept
      rw [← kept.state] at drawn
      cases complete
      rw [run_append_of_ok reached, drawn.run_ops, kept.state]

theorem canvasOn_ops
    (gathers : gathered.Gathers chart.options (AxisSet.visiblePlots chart.plots)) :
    (chart.canvasOn (gathered.map Axis.fix)).ops =
      ((chart.framingOn (gathered.map Axis.fix)).run chart.element.canvas).1.ops ++
        (chart.layoutOn (gathered.map Axis.fix)).plotMarks chart.options.barSpacer
          chart.element.canvas.state (chart.coloredPlots.filter Plot.isVisible) := by
  rw [canvasOn, chart.sized_canvas, drawingOn_ops gathers]

omit [Scalar α] in
theorem coloredPlots_uncolored (chart : Chart α) :
    chart.coloredPlots.map Plot.uncolored = chart.plots.map Plot.uncolored :=
  Plot.distribute_uncolored _ _

theorem draw_plots (ended : chart.draw.2 = .ok ()) : chart.draw.1.plots = chart.coloredPlots := by
  obtain ⟨gathered, _resolved, _gathers, _compatible, drawn⟩ := draw_of_ok ended
  rw [drawn]
  exact chart.sized.plots_withPlots chart.coloredPlots_length

/-- After the sections a successful drawing records the marks of the visible plots, side by
side and type by type, each once, and nothing of a hidden plot. The plots are the registered
ones, in the colors that were handed out. -/
theorem draw_marks_visible_plots (chart : Chart α) (ended : chart.draw.2 = .ok ()) :
    ∃ axes layout marks, AxisSet.resolve chart.options chart.plots = .ok axes ∧
      chart.draw.1.layout = some layout ∧
      chart.draw.1.element.canvas.ops =
        ((chart.framingOn axes).run chart.element.canvas).1.ops ++ marks ∧
      let shown := chart.draw.1.plots.filter Plot.isVisible
      InTurn (layout.Leaves chart.options.barSpacer chart.element.canvas.state)
        (Plot.inDrawingOrder shown) marks ∧
      (Plot.inDrawingOrder shown).Perm shown ∧
      shown.map Plot.uncolored = (chart.plots.filter Plot.isVisible).map Plot.uncolored := by
  obtain ⟨gathered, resolved, gathers, _compatible, drawn⟩ := draw_of_ok ended
  rw [draw_plots ended, drawn]
  let layout := chart.layoutOn (gathered.map Axis.fix)
  let marks := layout.plotMarks chart.options.barSpacer chart.element.canvas.state
    (chart.coloredPlots.filter Plot.isVisible)
  refine ⟨_, layout, marks, resolved, rfl, canvasOn_ops gathers, ?_,
    Plot.inDrawingOrder_perm _, Plot.visible_uncolored chart.coloredPlots_uncolored⟩
  · refine Layout.plotMarks_inTurn _ _ _ _ fun plot shown kind => ?_
    obtain ⟨origin, _held, _onKind, settled⟩ := exists_axis_of_shown gathers shown kind
    exact ⟨_, settled⟩

def withHiddenBars : Chart Float :=
  showing [scatterOn .bottom .left [3],
    ⟨.bar, { PlotOptions.standard with visible := false }, [.ofValues [1, 2]]⟩,
    ⟨.line, .standard, [.ofValues [1, 2]]⟩]

theorem draw_withHiddenBars : withHiddenBars.draw.2 = .ok () :=
  draw_ok_of_compatible (Plot.compatible_pair rfl rfl)

/-- The line leaves its mark first, and then the scatter plot one for its point. -/
theorem draw_marks_visible_plots_hidden :
    withHiddenBars.draw.2 = .ok () ∧
      ∃ axes marks, withHiddenBars.draw.1.element.canvas.ops =
        ((withHiddenBars.framingOn axes).run withHiddenBars.element.canvas).1.ops ++ marks ∧
        marks.map DrawOp.form = [.strokedPath, .filledPath] := by
  obtain ⟨axes, layout, marks, _resolved, _kept, recorded, inTurn, _each, _registered⟩ :=
    draw_marks_visible_plots withHiddenBars draw_withHiddenBars
  have forms := inTurn.forms
  rw [draw_plots draw_withHiddenBars] at forms
  exact ⟨draw_withHiddenBars, axes, marks, recorded, forms⟩

end Chart
end CanvasChart
