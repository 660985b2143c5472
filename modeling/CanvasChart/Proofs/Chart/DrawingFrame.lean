import CanvasChart.Proofs.Canvas.StateFrame
import CanvasChart.Proofs.Chart.DrawSteps

set_option autoImplicit false

/-! The discipline of everything that is drawn for a chart. Every mark and every section
changes styles and matrices within scopes only, and the only drawings that can end with
an error are those of an axis that is not there. -/

namespace CanvasChart

open Drawing

variable {α : Type} {mayFail : Prop}

/-! ### Lines, paths, texts and markers -/

@[simp] theorem Drawing.line_framed (start stop : Point α) :
    (Drawing.line start stop).Framed mayFail := by
  simp [Drawing.line, CanvasCall.keepsState]

@[simp] theorem Path.trace_framed (path : Path α) : path.trace.Framed mayFail := by
  simp only [trace, disciplined_append, disciplined_call, disciplined_calls, List.mem_map]
  refine ⟨rfl, ?_⟩
  rintro step ⟨command, _member, rfl⟩
  cases command <;> rfl

@[simp] theorem Path.fill_framed (path : Path α) : path.fill.Framed mayFail :=
  ⟨path.trace_framed, rfl⟩

@[simp] theorem Path.stroke_framed (path : Path α) : path.stroke.Framed mayFail :=
  ⟨path.trace_framed, rfl⟩

@[simp] theorem TextStyle.select_balanced (style : TextStyle) (align : TextAlign)
    (baseline : TextBaseline) :
    (style.select align baseline : Drawing α).Balanced mayFail := by
  simp [TextStyle.select, CanvasCall.keepsSaved]

@[simp] theorem TextStyle.draw_framed (style : TextStyle) (text : String) (anchor : Point α)
    (align : TextAlign) (baseline : TextBaseline) :
    (style.draw text anchor align baseline).Framed mayFail := by
  simp [TextStyle.draw, CanvasCall.keepsSaved]

@[simp] theorem TextStyle.measure_framed (style : TextStyle) :
    (style.measure : Drawing α).Framed mayFail := rfl

variable [Scalar α]

@[simp] theorem TextStyle.drawRotated_framed (style : TextStyle) (text : String)
    (center : Point α) (angle : α) :
    (style.drawRotated text center angle).Framed mayFail := by
  simp [TextStyle.drawRotated, CanvasCall.keepsSaved]

@[simp] theorem Marker.draw_framed (shape : Shape) (center : Point α) (size : α) :
    (Marker.draw shape center size).Framed mayFail := by
  cases shape <;> simp [Marker.draw, Marker.outline, CanvasCall.keepsState]

/-! ### Marks of plots -/

/-- A missing value axis is the only reason for which the marks of a plot can fail. -/
def MarkContext.Missing (context : MarkContext α) (plot : Plot α) : Prop :=
  ∃ error, context.yAxis plot = .error error

section Marks

variable (context : MarkContext α)

theorem Bar.drawSeries_framed (yAxis : Axis α) (plot : Plot α) (column total : Nat)
    (series : Series α) (extents : List (StackedPoint α)) :
    (Bar.drawSeries context yAxis plot column total series extents).Framed mayFail := by
  simp only [Bar.drawSeries, disciplined_scope, disciplined_append, disciplined_calls]
  refine ⟨?styles, List.forall_mem_map.mpr fun rect _member => rfl⟩
  simp [CanvasCall.keepsSaved]

theorem Bar.drawColumns_framed (plot : Plot α) (first total : Nat)
    (missing : context.Missing plot → mayFail) :
    (Bar.drawColumns context plot first total).Framed mayFail := by
  refine (disciplined_withValue _ _).mpr ⟨fun error absent => missing ⟨error, absent⟩, ?_⟩
  intro yAxis _found
  simp only [disciplined_sequence, List.mem_mapIdx]
  rintro drawing ⟨index, _bound, rfl⟩
  exact Bar.drawSeries_framed context yAxis plot _ _ _ _

theorem Bar.drawFrom_framed (total first : Nat) (plots : List (Plot α))
    (missing : ∀ plot ∈ plots, context.Missing plot → mayFail) :
    (Bar.drawFrom context total first plots).Framed mayFail := by
  induction plots generalizing first with
  | nil => exact disciplined_empty
  | cons plot rest ih =>
      rw [List.forall_mem_cons] at missing
      exact ⟨Bar.drawColumns_framed context plot first total missing.1, ih _ missing.2⟩

theorem Line.drawVertices_framed (plot : Plot α) (style : SeriesStyle α) (baseline : α)
    (vertices : List (Point α)) :
    (Line.drawVertices plot style baseline vertices).Framed mayFail := by
  simp only [Line.drawVertices, disciplined_scope, disciplined_append]
  refine ⟨⟨?area, ?line⟩, ?markers⟩
  case area =>
    split
    · simp [(Path.fill_framed _).balanced, CanvasCall.keepsSaved]
    · exact disciplined_empty
  case line => simp [(Path.stroke_framed _).balanced, CanvasCall.keepsSaved]
  case markers =>
    split
    · simp [(Marker.draw_framed _ _ _).balanced, CanvasCall.keepsSaved]
    · exact disciplined_empty

theorem Line.draw_framed (plot : Plot α) (missing : context.Missing plot → mayFail) :
    (Line.draw context plot).Framed mayFail := by
  refine (disciplined_withValue _ _).mpr ⟨fun error absent => missing ⟨error, absent⟩, ?_⟩
  intro yAxis _found
  simp only [disciplined_sequence, List.mem_map]
  rintro drawing ⟨⟨series, extents⟩, _member, rfl⟩
  simp only [Line.drawSeries]
  split
  · exact disciplined_empty
  · exact Line.drawVertices_framed plot _ _ _

theorem Scatter.draw_framed (plot : Plot α) (missing : context.Missing plot → mayFail) :
    (Scatter.draw context plot).Framed mayFail := by
  refine (disciplined_withValue _ _).mpr ⟨fun error absent => missing ⟨error, absent⟩, ?_⟩
  intro yAxis _found
  simp only [disciplined_sequence, List.mem_map]
  rintro drawing ⟨⟨series, extents⟩, _member, rfl⟩
  simp [Scatter.drawSeries, (Marker.draw_framed _ _ _).balanced, CanvasCall.keepsSaved]

theorem Marks.drawGroup_framed (kind : PlotKind) (plots : List (Plot α))
    (missing : ∀ plot ∈ plots, context.Missing plot → mayFail) :
    (Marks.drawGroup context kind plots).Framed mayFail := by
  cases kind with
  | bar => exact Bar.drawFrom_framed context _ 0 plots missing
  | line =>
      simp only [Marks.drawGroup, disciplined_sequence, List.forall_mem_map]
      exact fun plot member => Line.draw_framed context plot (missing plot member)
  | scatter =>
      simp only [Marks.drawGroup, disciplined_sequence, List.forall_mem_map]
      exact fun plot member => Scatter.draw_framed context plot (missing plot member)

end Marks

/-! ### Sections -/

namespace Ticks

omit [Scalar α] in
@[simp] theorem across_framed (position start stop : α) :
    (across position start stop).Framed mayFail :=
  Drawing.line_framed _ _

private theorem drawGridLine_balanced (axis : Axis α) (position : α) :
    (drawGridLine axis position).Balanced mayFail :=
  ⟨rfl, (across_framed _ _ _).balanced⟩

private theorem drawMark_balanced (axis : Axis α) (position : α) :
    (drawMark axis position).Balanced mayFail :=
  ⟨rfl, (across_framed _ _ _).balanced⟩

private theorem drawMinorTick_balanced (axis : Axis α) (position : α) :
    (drawMinorTick axis position).Balanced mayFail := by
  simp only [drawMinorTick, disciplined_append, disciplined_call]
  refine ⟨⟨?grid, rfl⟩, (across_framed _ _ _).balanced⟩
  split
  · simp [(across_framed _ _ _).balanced, CanvasCall.keepsSaved]
  · exact disciplined_empty

private theorem drawMinorTicks_balanced (axis : Axis α) (positions : List α) (index : Nat)
    (position : α) : (drawMinorTicks axis positions index position).Balanced mayFail := by
  unfold drawMinorTicks
  split
  · simp only [disciplined_sequence, List.forall_mem_map]
    exact fun minor _member => drawMinorTick_balanced axis minor
  · exact disciplined_empty

private theorem drawTick_balanced (axis : Axis α) (positions : List α) (index : Nat)
    (position : α) : (drawTick axis positions index position).Balanced mayFail := by
  unfold drawTick
  split
  · refine ⟨⟨?grid, ?minor⟩, drawMark_balanced axis position⟩
    case grid =>
      split
      · exact drawGridLine_balanced axis position
      · exact disciplined_empty
    case minor =>
      split
      · exact drawMinorTicks_balanced axis positions index position
      · exact disciplined_empty
  · exact disciplined_empty

private theorem inFrame_framed (frame : Frame α) (body : Drawing α)
    (balanced : body.Balanced mayFail) : (inFrame frame body).Framed mayFail := by
  refine ⟨?setup, balanced⟩
  simp [CanvasCall.keepsSaved]

private theorem drawLabels_framed (axis : Axis α) (side : Side) (frame : Frame α)
    (positions : List α) : (drawLabels axis side frame positions).Framed mayFail := by
  simp only [drawLabels]
  split
  · simp only [disciplined_sequence, List.forall_mem_map]
    intro label _member
    split
    · exact TextStyle.draw_framed _ _ _ _ _
    · exact disciplined_empty
  · exact disciplined_empty

private theorem drawContinuous_framed (axis : Axis α) (side : Side) (frame : Frame α) :
    (drawContinuous axis side frame).Framed mayFail := by
  refine ⟨inFrame_framed frame _ ?_, drawLabels_framed axis side frame _⟩
  simp only [disciplined_sequence, List.mem_mapIdx]
  rintro drawing ⟨index, _bound, rfl⟩
  exact drawTick_balanced axis _ index _

private theorem drawDiscrete_framed (axis : Axis α) (side : Side) (frame : Frame α) :
    (drawDiscrete axis side frame).Framed mayFail := by
  simp only [drawDiscrete]
  split
  · exact disciplined_empty
  · refine ⟨inFrame_framed frame _ ?_, drawLabels_framed axis side frame _⟩
    simp only [disciplined_sequence, List.forall_mem_map]
    intro index _member
    refine ⟨?grid, drawMark_balanced axis _⟩
    split
    · exact drawGridLine_balanced axis _
    · exact disciplined_empty

omit [Scalar α] in
private theorem measure_framed (scene : Scene α) (side : Side) :
    (measure scene side).Framed mayFail := by
  unfold measure
  split
  · exact disciplined_empty
  · split
    · exact disciplined_empty
    · exact TextStyle.measure_framed _

private theorem draw_framed (scene : Scene α) (side : Side) (plotArea : Rect α)
    (missing : ∀ error, scene.axes.require side = .error error → mayFail) :
    (draw scene side plotArea).Framed mayFail := by
  refine (disciplined_withValue _ _).mpr ⟨missing, ?_⟩
  intro axis _found
  split
  · exact drawDiscrete_framed axis side _
  · exact drawContinuous_framed axis side _

end Ticks

theorem Title.draw_framed (title : Option (String × TextStyle)) (side : Side) (band : Rect α) :
    (Title.draw title side band).Framed mayFail := by
  unfold Title.draw
  split
  · exact disciplined_empty
  · cases side <;> simp

namespace Legend

variable (options : LegendOptions α)

omit [Scalar α] in
private theorem measureEntries_framed (listed : List LegendEntry) :
    (measureEntries options listed).Framed mayFail := by
  simp [measureEntries]

omit [Scalar α] in
private theorem measure_framed (plots : List (Plot α)) (side : Side) :
    (measure options plots side).Framed mayFail := by
  simp only [measure]
  split
  · exact disciplined_empty
  · refine ⟨measureEntries_framed options _, ?title⟩
    split
    · exact TextStyle.measure_framed _
    · exact disciplined_empty

private theorem drawEntry_framed (entry : LegendEntry) (corner : Point α) :
    (drawEntry options entry corner).Framed mayFail := by
  simp [drawEntry, CanvasCall.keepsSaved]

private theorem drawColumn_framed (listed : List LegendEntry) (y : α) :
    (drawColumn options listed y).Framed mayFail := by
  induction listed generalizing y with
  | nil => exact disciplined_empty
  | cons entry rest ih => exact ⟨drawEntry_framed options entry _, ih _⟩

private theorem drawRow_framed (y : α) (listed : List LegendEntry) (x : α) :
    (drawRow options y listed x).Framed mayFail := by
  induction listed generalizing x with
  | nil => exact disciplined_empty
  | cons entry rest ih => exact ⟨drawEntry_framed options entry _, ih _⟩

private theorem drawVertical_framed (listed : List LegendEntry) (band : Rect α) :
    (drawVertical options listed band).Framed mayFail := by
  simp only [drawVertical]
  split
  · exact ⟨TextStyle.draw_framed _ _ _ _ _, drawColumn_framed options listed _⟩
  · exact drawColumn_framed options listed _

private theorem drawHorizontal_framed (listed : List LegendEntry) (band : Rect α) :
    (drawHorizontal options listed band).Framed mayFail := by
  simp only [drawHorizontal]
  split
  · exact ⟨⟨TextStyle.draw_framed _ _ _ _ _, measureEntries_framed options listed⟩,
      drawRow_framed options _ listed _⟩
  · exact ⟨measureEntries_framed options listed, drawRow_framed options _ listed _⟩

private theorem draw_framed (plots : List (Plot α)) (side : Side) (band : Rect α) :
    (draw options plots side band).Framed mayFail := by
  simp only [draw]
  split
  · exact disciplined_empty
  · split
    · exact drawHorizontal_framed options _ band
    · exact drawVertical_framed options _ band

end Legend

omit [Scalar α] in
theorem Section.measure_framed (scene : Scene α) (place : Section) :
    (place.measure scene).Framed mayFail := by
  cases place with
  | ticks side => exact Ticks.measure_framed scene side
  | legend side => exact Legend.measure_framed _ _ side
  | axisTitle | chartTitle => exact disciplined_empty

theorem Section.draw_framed (scene : Scene α) (band plotArea : Rect α) (place : Section)
    (missing : ∀ side error, place = .ticks side →
      scene.axes.require side = .error error → mayFail) :
    (place.draw scene band plotArea).Framed mayFail := by
  cases place with
  | ticks side => exact Ticks.draw_framed scene side plotArea fun error => missing side error rfl
  | axisTitle side => exact Title.draw_framed _ side band
  | legend side => exact Legend.draw_framed _ _ side band
  | chartTitle => exact Title.draw_framed _ .top band

/-! ### The whole chart -/

omit [Scalar α] in
theorem Layout.measure_framed (scene : Scene α) : (Layout.measure scene).Framed mayFail := by
  simp only [Layout.measure, disciplined_sequence, List.forall_mem_map]
  exact fun side _listed place _placed => Section.measure_framed scene place

namespace Chart

private theorem drawBackground_framed (options : ChartOptions α) (width height : α) :
    (drawBackground options width height).Framed mayFail := by
  simp only [drawBackground, disciplined_scope, disciplined_append]
  refine ⟨?background, ?outline⟩
  case background => split <;> simp [CanvasCall.keepsSaved]
  case outline => split <;> simp [CanvasCall.keepsSaved]

private theorem drawPlotBorder_framed (options : ChartOptions α) (plotArea : Rect α) :
    (drawPlotBorder options plotArea).Framed mayFail := by
  unfold drawPlotBorder
  split <;> simp [CanvasCall.keepsSaved]

theorem drawSections_framed (scene : Scene α) (plotArea : Rect α)
    (bands : List (Side × Section × Rect α))
    (missing : ∀ band ∈ bands, ∀ side error, band.2.1 = .ticks side →
      scene.axes.require side = .error error → mayFail) :
    (drawSections scene plotArea bands).Framed mayFail := by
  simp only [drawSections, disciplined_sequence, List.forall_mem_map]
  rintro ⟨place, drawn, band⟩ member
  exact ⟨rfl, (Section.draw_framed scene _ _ drawn (missing _ member)).balanced⟩

private theorem drawAxisPlots_framed (options : ChartOptions α) (axes : AxisSet α)
    (plots : List (Plot α)) (plotArea : Rect α) (xAxis : Axis α)
    (missing : ∀ plot ∈ members plots xAxis, ∀ error,
      axes.require plot.options.ySide = .error error → mayFail) :
    (drawAxisPlots options axes plots plotArea xAxis).Framed mayFail := by
  simp only [drawAxisPlots]
  split
  · exact disciplined_empty
  · refine ⟨rfl, ?groups⟩
    simp only [disciplined_sequence, List.forall_mem_map]
    rintro ⟨kind, group⟩ grouped
    refine (Marks.drawGroup_framed _ kind group ?_).balanced
    intro plot inGroup absent
    obtain ⟨error, notFound⟩ := absent
    refine missing plot ?_ error notFound
    -- a group is a filtered part of the plots of the axis
    simp only [Plot.groups, List.mem_filter, List.mem_map] at grouped
    obtain ⟨⟨drawnKind, _listed, same⟩, _nonempty⟩ := grouped
    cases same
    exact (List.mem_filter.mp inGroup).1

theorem drawPlots_framed (options : ChartOptions α) (axes : AxisSet α)
    (plots : List (Plot α)) (plotArea : Rect α)
    (missing : ∀ xAxis ∈ axes.xAxes, ∀ plot ∈ members plots xAxis, ∀ error,
      axes.require plot.options.ySide = .error error → mayFail) :
    (drawPlots options axes plots plotArea).Framed mayFail := by
  simp only [drawPlots, disciplined_sequence, List.forall_mem_map]
  exact fun xAxis member =>
    drawAxisPlots_framed options axes plots plotArea xAxis (missing xAxis member)

theorem drawing_framed (options : ChartOptions α) (plots : List (Plot α)) (axes : AxisSet α)
    (layout : Layout α)
    (ticksMissing : ∀ band ∈ Layout.sectionBands ⟨options, axes, plots⟩ layout.plotArea,
      ∀ side error, band.2.1 = .ticks side →
        layout.axes.require side = .error error → mayFail)
    (plotsMissing : ∀ xAxis ∈ layout.axes.xAxes, ∀ plot ∈ members plots xAxis, ∀ error,
      layout.axes.require plot.options.ySide = .error error → mayFail) :
    (drawing options plots axes layout).Framed mayFail :=
  ⟨⟨⟨⟨⟨rfl, drawBackground_framed options layout.width layout.height⟩,
    Layout.measure_framed ⟨options, axes, plots⟩⟩,
    drawPlotBorder_framed options layout.plotArea⟩,
    drawSections_framed ⟨options, layout.axes, plots⟩ layout.plotArea _ ticksMissing⟩,
    drawPlots_framed options layout.axes plots layout.plotArea plotsMissing⟩

/-- Drawing a chart, successfully or not, gives the canvas back with the graphics state
and the saved states it had before. -/
theorem draw_keeps_graphics (chart : Chart α) :
    chart.draw.1.element.canvas.state = chart.element.canvas.state ∧
      chart.draw.1.element.canvas.saved = chart.element.canvas.saved := by
  have sameGraphics : chart.element.canvas.SameGraphics chart.draw.1.element.canvas := by
    rw [← chart.sized_canvas]
    cases settled : AxisSet.resolve chart.options chart.plots with
    | error error =>
        rw [chart.draw_of_unresolved error settled]
        exact .refl _
    | ok axes =>
        have framed : (chart.drawingOn axes).Framed True :=
          drawing_framed _ _ _ _ (fun _ _ _ _ _ _ => trivial) fun _ _ _ _ _ _ => trivial
        have kept := framed.run_sameGraphics chart.sized.element.canvas
        rw [chart.draw_of_resolved axes settled]
        split <;> exact kept
  exact ⟨sameGraphics.state, sameGraphics.saved⟩

end Chart
end CanvasChart
