import CanvasChart.Marks.Group
import CanvasChart.Proofs.Canvas.PathMarks
import CanvasChart.Proofs.Plot.Stacking

set_option autoImplicit false

/-! The marks of plots. What a plot records is a list that its data, its axes and the graphics
state tell: one rectangle for every point of a bar plot, one marker for every point of a
scatter plot, and an area, a line and markers for every series of a line plot. -/

namespace CanvasChart

open Drawing

variable {α : Type} [Scalar α]

/-! ### What is recorded -/

section Recorded

variable (context : MarkContext α) (state : GraphicsState α) (yAxis : Axis α) (plot : Plot α)

def Bar.rects (column total : Nat) (series : Series α) (extents : List (StackedPoint α)) :
    List (Rect α) :=
  (series.data.zip extents).mapIdx fun index (point, extent) =>
    Bar.rect context yAxis plot.keyCount column total index point extent

def Bar.seriesMarks (column total : Nat) (series : Series α) (extents : List (StackedPoint α)) :
    List (DrawOp α) :=
  let style := plot.styleOf series
  (rects context yAxis plot column total series extents).map fun rect =>
    .fillRect (state.matrix.boundsOf rect) (style.color.getD Color.firstSeries)
      (style.opacity.getD 1)

def Bar.marks (first total : Nat) : List (DrawOp α) :=
  plot.stackedSeries.zipIdx.flatMap fun ((series, extents), index) =>
    seriesMarks context state yAxis plot (if plot.isStacked then first else first + index) total
      series extents

def Line.afterArea (style : SeriesStyle α) : GraphicsState α :=
  if plot.options.fill then
    { state with fillStyle := style.color.getD Color.firstSeries, alpha := 1 }
  else state

def Line.areaMarks (style : SeriesStyle α) (baseline : α) (vertices : List (Point α)) :
    List (DrawOp α) :=
  if plot.options.fill then
    [.fillPath ((Path.areaOutline vertices baseline).map state.matrix.apply)
      (style.color.getD Color.firstSeries) (style.opacity.getD Line.areaAlpha)]
  else []

def Line.afterLine (style : SeriesStyle α) : GraphicsState α :=
  { Line.afterArea state plot style with
    strokeStyle := style.color.getD Color.firstSeries
    lineWidth := style.lineWidth.getD Line.standardWidth }

def Line.polyline (style : SeriesStyle α) (vertices : List (Point α)) : DrawOp α :=
  .strokePath (Path.parts (vertices.map state.matrix.apply))
    (style.color.getD Color.firstSeries) (style.lineWidth.getD Line.standardWidth)
    (!state.dash.isEmpty)

def Line.markers (style : SeriesStyle α) (vertices : List (Point α)) : List (DrawOp α) :=
  match style.shape with
  | some shape =>
      vertices.map <| Marker.mark
        { Line.afterLine state plot style with
          fillStyle := style.color.getD Color.firstSeries }
        shape (style.shapeSize.getD Marker.standardSize)
  | none => []

def Line.vertexMarks (style : SeriesStyle α) (baseline : α) (vertices : List (Point α)) :
    List (DrawOp α) :=
  areaMarks state plot style baseline vertices ++ [polyline state style vertices] ++
    markers state plot style vertices

def Line.seriesMarks (series : Series α) (extents : List (StackedPoint α)) : List (DrawOp α) :=
  if series.data.isEmpty then []
  else
    vertexMarks state plot (plot.styleOf series) yAxis.zero
      (context.vertices yAxis plot series extents)

def Scatter.seriesMarks (series : Series α) (extents : List (StackedPoint α)) :
    List (DrawOp α) :=
  let style := plot.styleOf series
  let color := style.color.getD Color.firstSeries
  let markerState : GraphicsState α :=
    { state with
      fillStyle := color
      strokeStyle := color
      lineWidth := style.lineWidth.getD 1
      alpha := style.opacity.getD 1 }
  (context.vertices yAxis plot series extents).map
    (Marker.mark markerState (style.shape.getD .circle) (style.shapeSize.getD Marker.standardSize))

end Recorded

/-- The marks of a plot by itself. A bar plot begins with the given column of a total. -/
def Plot.marks (context : MarkContext α) (state : GraphicsState α) (first total : Nat)
    (plot : Plot α) : List (DrawOp α) :=
  match context.yAxis plot with
  | .error _ => []
  | .ok yAxis =>
      match plot.kind with
      | .bar => Bar.marks context state yAxis plot first total
      | .line =>
          plot.stackedSeries.reverse.flatMap fun (series, extents) =>
            Line.seriesMarks context state yAxis plot series extents
      | .scatter =>
          plot.stackedSeries.flatMap fun (series, extents) =>
            Scatter.seriesMarks context state yAxis plot series extents

/-- The plots of a group, each with the number of columns before its own. -/
def Bar.placed : Nat → List (Plot α) → List (Nat × Plot α)
  | _, [] => []
  | first, plot :: rest => (first, plot) :: placed (first + columns plot) rest

def Bar.total (group : List (Plot α)) : Nat :=
  group.foldl (fun total plot => total + columns plot) 0

/-- The marks of the plots of one type on one X axis: those of each, one after the other. -/
def Plot.groupMarks (context : MarkContext α) (state : GraphicsState α) (group : List (Plot α)) :
    List (DrawOp α) :=
  (Bar.placed 0 group).flatMap fun (first, plot) =>
    plot.marks context state first (Bar.total group)

omit [Scalar α] in
theorem Bar.placed_snd (first : Nat) (group : List (Plot α)) :
    (placed first group).map Prod.snd = group := by
  induction group generalizing first with
  | nil => rfl
  | cons plot rest ih => simp only [placed, List.map_cons, ih]

omit [Scalar α] in
theorem Bar.mem_of_placed {start first : Nat} {group : List (Plot α)} {plot : Plot α}
    (member : (first, plot) ∈ placed start group) : plot ∈ group := by
  rw [← placed_snd start group]
  exact List.mem_map_of_mem member

/-! ### Drawing records the marks -/

theorem Drawing.fillRects_draws (rects : List (Rect α)) (before : GraphicsState α) :
    (calls (rects.map .fillRect)).Draws before before
      (rects.map fun rect =>
        .fillRect (before.matrix.boundsOf rect) before.fillStyle before.alpha) := by
  rw [calls, List.map_map]
  exact draws_each rects _ _ fun rect => ⟨none, fun _saved _path _ops => rfl⟩

theorem Marker.draws_all (shape : Shape) (size : α) (centers : List (Point α))
    (before : GraphicsState α) :
    (sequence (centers.map fun center => Marker.draw shape center size)).Draws before before
      (centers.map (Marker.mark before shape size)) :=
  draws_each centers _ _ fun center => Marker.draw_draws shape center size before

section Drawn

variable (context : MarkContext α) (before : GraphicsState α)

theorem Bar.drawSeries_draws (yAxis : Axis α) (plot : Plot α) (column total : Nat)
    (series : Series α) (extents : List (StackedPoint α)) :
    (Bar.drawSeries context yAxis plot column total series extents).Draws before before
      (Bar.seriesMarks context before yAxis plot column total series extents) := by
  let style := plot.styleOf series
  let styled : GraphicsState α :=
    { before with
      fillStyle := style.color.getD Color.firstSeries
      alpha := style.opacity.getD 1 }
  have styles : (calls [.setFillStyle (style.color.getD Color.firstSeries),
      .setAlpha (style.opacity.getD 1)]).Draws before styled [] :=
    draws_of_silent fun _saved _path _ops => rfl
  exact (styles.append (fillRects_draws
    (Bar.rects context yAxis plot column total series extents) styled)).scope

theorem Line.afterArea_matrix (plot : Plot α) (style : SeriesStyle α) :
    (afterArea before plot style).matrix = before.matrix := by
  unfold afterArea
  split <;> rfl

theorem Line.afterArea_dash (plot : Plot α) (style : SeriesStyle α) :
    (afterArea before plot style).dash = before.dash := by
  unfold afterArea
  split <;> rfl

theorem Line.area_draws (plot : Plot α) (style : SeriesStyle α) (baseline : α)
    (vertices : List (Point α)) :
    (if plot.options.fill then
        calls [.setFillStyle (style.color.getD Color.firstSeries),
          .setAlpha (style.opacity.getD areaAlpha)] ++
          (Path.area vertices baseline).fill ++ call (.setAlpha 1)
      else empty : Drawing α).Draws before (afterArea before plot style)
      (areaMarks before plot style baseline vertices) := by
  unfold afterArea areaMarks
  split
  case isFalse => exact draws_empty
  case isTrue =>
    let areaState : GraphicsState α :=
      { before with
        fillStyle := style.color.getD Color.firstSeries
        alpha := style.opacity.getD areaAlpha }
    have styled : (calls [.setFillStyle (style.color.getD Color.firstSeries),
        .setAlpha (style.opacity.getD areaAlpha)]).Draws before areaState [] :=
      draws_of_silent fun _saved _path _ops => rfl
    have restored : (call (.setAlpha 1)).Draws areaState
        { areaState with alpha := 1 } [] := draws_of_silent fun _saved _path _ops => rfl
    exact (styled.append (Path.fill_area_draws vertices baseline areaState)).append restored

theorem Line.drawVertices_draws (plot : Plot α) (style : SeriesStyle α) (baseline : α)
    (vertices : List (Point α)) :
    (Line.drawVertices plot style baseline vertices).Draws before before
      (Line.vertexMarks before plot style baseline vertices) := by
  have area := area_draws before plot style baseline vertices
  have styled : (calls [.setStrokeStyle (style.color.getD Color.firstSeries),
      .setLineWidth (style.lineWidth.getD standardWidth)]).Draws
      (afterArea before plot style) (afterLine before plot style) [] :=
    draws_of_silent fun _saved _path _ops => rfl
  have line := styled.append (Path.stroke_line_draws vertices (afterLine before plot style))
  have stroked : [.strokePath
      (Path.parts (vertices.map (afterLine before plot style).matrix.apply))
      (afterLine before plot style).strokeStyle (afterLine before plot style).lineWidth
      (!(afterLine before plot style).dash.isEmpty)] = [polyline before style vertices] := by
    simp only [afterLine, afterArea_matrix, afterArea_dash, polyline]
  rw [List.nil_append, stroked] at line
  unfold drawVertices vertexMarks markers
  cases style.shape with
  | none => exact ((area.append line).append draws_empty).scope
  | some shape =>
      let markerState : GraphicsState α :=
        { afterLine before plot style with fillStyle := style.color.getD Color.firstSeries }
      have filled : (call (.setFillStyle (style.color.getD Color.firstSeries))).Draws
          (afterLine before plot style) markerState [] :=
        draws_of_silent fun _saved _path _ops => rfl
      exact ((area.append line).append (filled.append
        (Marker.draws_all shape _ vertices markerState))).scope

theorem Line.drawSeries_draws (yAxis : Axis α) (plot : Plot α) (series : Series α)
    (extents : List (StackedPoint α)) :
    (Line.drawSeries context yAxis plot series extents).Draws before before
      (Line.seriesMarks context before yAxis plot series extents) := by
  unfold drawSeries seriesMarks
  split
  · exact draws_empty
  · exact drawVertices_draws before plot _ _ _

theorem Scatter.drawSeries_draws (yAxis : Axis α) (plot : Plot α) (series : Series α)
    (extents : List (StackedPoint α)) :
    (Scatter.drawSeries context yAxis plot series extents).Draws before before
      (Scatter.seriesMarks context before yAxis plot series extents) := by
  let style := plot.styleOf series
  let color := style.color.getD Color.firstSeries
  let markerState : GraphicsState α :=
    { before with
      fillStyle := color
      strokeStyle := color
      lineWidth := style.lineWidth.getD 1
      alpha := style.opacity.getD 1 }
  have styled : (calls [.setFillStyle color, .setStrokeStyle color,
      .setLineWidth (style.lineWidth.getD 1), .setAlpha (style.opacity.getD 1)]).Draws
      before markerState [] := draws_of_silent fun _saved _path _ops => rfl
  exact (styled.append (Marker.draws_all (style.shape.getD .circle) _
    (context.vertices yAxis plot series extents) markerState)).scope

def Marks.drawPlaced (kind : PlotKind) (total : Nat) (entry : Nat × Plot α) : Drawing α :=
  match kind with
  | .bar => Bar.drawColumns context entry.2 entry.1 total
  | .line => Line.draw context entry.2
  | .scatter => Scatter.draw context entry.2

theorem Marks.drawPlaced_draws {plot : Plot α} {yAxis : Axis α}
    (present : context.yAxis plot = .ok yAxis) (first total : Nat) :
    (Marks.drawPlaced context plot.kind total (first, plot)).Draws before before
      (plot.marks context before first total) := by
  unfold Marks.drawPlaced Plot.marks
  rw [present]
  cases plot.kind with
  | bar =>
      simp only [Bar.drawColumns, present, withValue, List.mapIdx_eq_zipIdx_map]
      exact draws_sequence _ _ _ fun entry _member =>
        Bar.drawSeries_draws context before yAxis plot _ total entry.1.1 entry.1.2
  | line =>
      simp only [Line.draw, present, withValue]
      exact draws_sequence _ _ _ fun entry _member =>
        Line.drawSeries_draws context before yAxis plot entry.1 entry.2
  | scatter =>
      simp only [Scatter.draw, present, withValue]
      exact draws_sequence _ _ _ fun entry _member =>
        Scatter.drawSeries_draws context before yAxis plot entry.1 entry.2

theorem Bar.drawFrom_eq (total first : Nat) (group : List (Plot α)) :
    Bar.drawFrom context total first group =
      sequence ((Bar.placed first group).map (Marks.drawPlaced context .bar total)) := by
  induction group generalizing first with
  | nil => rfl
  | cons plot rest ih => exact congrArg (Drawing.andThen _) (ih (first + Bar.columns plot))

theorem Marks.drawGroup_eq (kind : PlotKind) (group : List (Plot α)) :
    Marks.drawGroup context kind group =
      sequence ((Bar.placed 0 group).map
        (Marks.drawPlaced context kind (Bar.total group))) := by
  have eachAlone (draw : Plot α → Drawing α) :
      group.map draw = (Bar.placed 0 group).map (draw ∘ Prod.snd) := by
    rw [← List.map_map, Bar.placed_snd]
  cases kind with
  | bar => exact Bar.drawFrom_eq context (Bar.total group) 0 group
  | line => exact congrArg sequence (eachAlone (Line.draw context))
  | scatter => exact congrArg sequence (eachAlone (Scatter.draw context))

theorem Marks.drawGroup_draws (kind : PlotKind) (group : List (Plot α))
    (sameKind : ∀ plot ∈ group, plot.kind = kind)
    (present : ∀ plot ∈ group, ∃ yAxis, context.yAxis plot = .ok yAxis) :
    (Marks.drawGroup context kind group).Draws before before
      (Plot.groupMarks context before group) := by
  rw [Marks.drawGroup_eq]
  refine draws_sequence _ _ _ ?_
  rintro ⟨first, plot⟩ placed
  have member := Bar.mem_of_placed placed
  obtain ⟨yAxis, found⟩ := present plot member
  rw [← sameKind plot member]
  exact Marks.drawPlaced_draws context before found first _

end Drawn

/-! ### What the marks are -/

inductive MarkForm where
  | filledRect
  | filledPath
  | strokedPath
  | other
  deriving DecidableEq, Repr

def DrawOp.form : DrawOp α → MarkForm
  | .fillRect .. => .filledRect
  | .fillPath .. => .filledPath
  | .strokePath .. => .strokedPath
  | _ => .other

def Marker.form (shape : Shape) : MarkForm :=
  if shape = .cross then .strokedPath else .filledPath

omit [Scalar α] in
/-- What a series of a line plot leaves: nothing without data, else an area when the plot
fills it, the line, and markers when the style has a shape. -/
def Line.seriesForms (plot : Plot α) (series : Series α) : List MarkForm :=
  if series.data.isEmpty then []
  else
    (if plot.options.fill then [.filledPath] else []) ++ [.strokedPath] ++
      match (plot.styleOf series).shape with
      | some shape => List.replicate series.data.length (Marker.form shape)
      | none => []

/-- What a plot leaves, by its type. The last series of a line plot comes first. -/
def Plot.forms (plot : Plot α) : List MarkForm :=
  match plot.kind with
  | .bar => plot.series.flatMap fun series => List.replicate series.data.length .filledRect
  | .line => plot.series.reverse.flatMap (Line.seriesForms plot)
  | .scatter =>
      plot.series.flatMap fun series =>
        List.replicate series.data.length
          (Marker.form ((plot.styleOf series).shape.getD .circle))

theorem Marker.mark_form (state : GraphicsState α) (shape : Shape) (size : α)
    (center : Point α) : (Marker.mark state shape size center).form = Marker.form shape := by
  unfold Marker.mark Marker.form
  split <;> rfl

section Forms

variable (context : MarkContext α) (state : GraphicsState α) (yAxis : Axis α) (plot : Plot α)
  {series : Series α} {extents : List (StackedPoint α)}

theorem MarkContext.vertices_length (sameLength : extents.length = series.data.length) :
    (context.vertices yAxis plot series extents).length = series.data.length := by
  simp [MarkContext.vertices, sameLength]

theorem Bar.rects_length (column total : Nat) (sameLength : extents.length = series.data.length) :
    (Bar.rects context yAxis plot column total series extents).length = series.data.length := by
  simp [Bar.rects, sameLength]

theorem Bar.seriesMarks_forms (column total : Nat)
    (sameLength : extents.length = series.data.length) :
    (Bar.seriesMarks context state yAxis plot column total series extents).map DrawOp.form =
      List.replicate series.data.length .filledRect := by
  rw [← Bar.rects_length context yAxis plot column total sameLength, ← List.map_const',
    Bar.seriesMarks, List.map_map]
  rfl

theorem Scatter.seriesMarks_forms (sameLength : extents.length = series.data.length) :
    (Scatter.seriesMarks context state yAxis plot series extents).map DrawOp.form =
      List.replicate series.data.length
        (Marker.form ((plot.styleOf series).shape.getD .circle)) := by
  rw [← context.vertices_length yAxis plot sameLength, ← List.map_const', Scatter.seriesMarks,
    List.map_map]
  exact List.map_congr_left fun vertex _member => Marker.mark_form _ _ _ vertex

theorem Line.seriesMarks_forms (sameLength : extents.length = series.data.length) :
    (Line.seriesMarks context state yAxis plot series extents).map DrawOp.form =
      Line.seriesForms plot series := by
  unfold seriesMarks seriesForms
  split
  case isTrue => rfl
  case isFalse =>
    simp only [vertexMarks, List.map_append]
    congr 1
    · unfold areaMarks
      split <;> rfl
    · unfold markers
      cases (plot.styleOf series).shape with
      | none => rfl
      | some shape =>
          simp only
          rw [← context.vertices_length yAxis plot sameLength, ← List.map_const', List.map_map]
          exact List.map_congr_left fun vertex _member => Marker.mark_form _ _ _ vertex

end Forms

omit [Scalar α] in
private theorem flatMap_forms {β : Type} {list : List β} {marksOf : β → List (DrawOp α)}
    {formsOf : β → List MarkForm}
    (each : ∀ item ∈ list, (marksOf item).map DrawOp.form = formsOf item) :
    (list.flatMap marksOf).map DrawOp.form = list.flatMap formsOf := by
  rw [List.map_flatMap, List.flatMap_def, List.flatMap_def, List.map_congr_left each]

/-- The marks of a plot are one for every data point and, for lines, those of the series. -/
theorem Plot.marks_forms {context : MarkContext α} {plot : Plot α} {yAxis : Axis α}
    (present : context.yAxis plot = .ok yAxis) (state : GraphicsState α) (first total : Nat) :
    (plot.marks context state first total).map DrawOp.form = plot.forms := by
  unfold marks forms
  rw [present, ← plot.stackedSeries_fst]
  cases plot.kind with
  | bar =>
      have listed := List.zipIdx_map_fst 0 plot.stackedSeries
      simp only [Bar.marks]
      rw [← listed, List.map_map, List.flatMap_map, listed]
      exact flatMap_forms fun entry member =>
        Bar.seriesMarks_forms context state yAxis plot _ total
          (plot.stackedSeries_length (List.fst_mem_of_mem_zipIdx member))
  | line =>
      simp only
      rw [← List.map_reverse, List.flatMap_map]
      exact flatMap_forms fun entry member =>
        Line.seriesMarks_forms context state yAxis plot
          (plot.stackedSeries_length (List.mem_reverse.mp member))
  | scatter =>
      simp only
      rw [List.flatMap_map]
      exact flatMap_forms fun entry member =>
        Scatter.seriesMarks_forms context state yAxis plot (plot.stackedSeries_length member)

theorem MarkContext.vertices_getElem? (context : MarkContext α) (yAxis : Axis α) {plot : Plot α}
    {place index : Nat} {series : Series α} {extents : List (StackedPoint α)}
    (stacked : plot.stackedSeries[place]? = some (series, extents)) {point : DataPoint α}
    (stored : series.data[index]? = some point) :
    ∃ extent, plot.extent? place index = some extent ∧
      (context.vertices yAxis plot series extents)[index]? =
        some ⟨context.xAxis.keyPosition index point.key plot.keyCount,
          yAxis.positionOf extent.top⟩ := by
  obtain ⟨listed, stackedExtents⟩ := List.getElem?_zip_eq_some.mp stacked
  obtain ⟨extent, found⟩ := plot.exists_extent listed stored
  have onExtents : extents[index]? = some extent := by
    simpa only [Plot.extent?, stackedExtents, Option.bind_some] using found
  have paired : (series.data.zip extents)[index]? = some (point, extent) :=
    List.getElem?_zip_eq_some.mpr ⟨stored, onExtents⟩
  refine ⟨extent, found, ?_⟩
  simp only [MarkContext.vertices, List.getElem?_mapIdx, paired, Option.map_some]

theorem Line.polyline_mem_marks {context : MarkContext α} {plot : Plot α} {yAxis : Axis α}
    (present : context.yAxis plot = .ok yAxis) (drawnAs : plot.kind = .line)
    {entry : Series α × List (StackedPoint α)} (member : entry ∈ plot.stackedSeries)
    (filled : entry.1.data ≠ []) (state : GraphicsState α) (first total : Nat) :
    polyline state (plot.styleOf entry.1) (context.vertices yAxis plot entry.1 entry.2) ∈
      plot.marks context state first total := by
  have ofSeries : polyline state (plot.styleOf entry.1)
      (context.vertices yAxis plot entry.1 entry.2) ∈
        seriesMarks context state yAxis plot entry.1 entry.2 := by
    have nonempty : entry.1.data.isEmpty = false := by simpa using filled
    simp [seriesMarks, nonempty, vertexMarks]
  unfold Plot.marks
  rw [present, drawnAs]
  exact List.mem_flatMap.mpr ⟨entry, List.mem_reverse.mpr member, ofSeries⟩

end CanvasChart
