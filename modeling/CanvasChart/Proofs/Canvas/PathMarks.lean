import CanvasChart.Canvas.Marker
import CanvasChart.Canvas.Path
import CanvasChart.Proofs.Canvas.Effect

set_option autoImplicit false

/-! What lines, paths and markers record. Each is one operation whose points are the points
that were asked for, mapped by the matrix of the canvas, whatever path was left before. -/

namespace CanvasChart

open Drawing

variable {α : Type}

/-- The parts of a path through some points: one, unless there is no point. -/
def Path.parts : List (Point α) → List (List (Point α))
  | [] => []
  | first :: rest => [first :: rest]

/-- The outline of the area between points and a baseline. It starts on the baseline and
comes back to its start. -/
def Path.areaOutline (points : List (Point α)) (baseline : α) : List (Point α) :=
  match points.head?, points.getLast? with
  | some first, some last =>
      ⟨first.x, baseline⟩ :: points ++ [⟨last.x, baseline⟩, ⟨first.x, baseline⟩]
  | _, _ => []

theorem Path.mem_areaOutline {points : List (Point α)} {baseline : α}
    {point : Point α} (member : point ∈ areaOutline points baseline) :
    point ∈ points ∨ ∃ vertex ∈ points, point = ⟨vertex.x, baseline⟩ := by
  unfold areaOutline at member
  split at member
  case h_1 first last starts ends =>
    have firstIn := List.mem_of_head? starts
    have lastIn := List.mem_of_getLast? ends
    simp only [List.cons_append, List.mem_cons, List.mem_append, List.not_mem_nil,
      or_false] at member
    rcases member with start | between | stop | close
    · exact .inr ⟨first, firstIn, start⟩
    · exact .inl between
    · exact .inr ⟨last, lastIn, stop⟩
    · exact .inr ⟨first, firstIn, close⟩
  case h_2 => exact (List.not_mem_nil member).elim

variable [Scalar α]

namespace Marker

def corners (shape : Shape) (center : Point α) (size : α) : List (Point α) :=
  let half := size / 2
  let left := center.x - half
  let right := center.x + half
  let above := center.y - half
  let below := center.y + half
  match shape with
  | .circle => Recorder.arcPoints center half 0 (2 * Scalar.pi)
  | .square => Recorder.corners ⟨left, above, size, size⟩ ++ [⟨left, above⟩]
  | .diamond => [⟨center.x, above⟩, ⟨right, center.y⟩, ⟨center.x, below⟩, ⟨left, center.y⟩]
  | .triangle => [⟨center.x, below⟩, ⟨right, above⟩, ⟨left, above⟩]
  | .cross => []

def strokes (center : Point α) (size : α) : List (List (Point α)) :=
  let half := size / 2
  let left := center.x - half
  let right := center.x + half
  let above := center.y - half
  let below := center.y + half
  [[⟨left, above⟩, ⟨right, below⟩], [⟨left, below⟩, ⟨right, above⟩]]

def traced (matrix : Matrix α) (shape : Shape) (center : Point α) (size : α) :
    List (List (Point α)) :=
  if shape = .cross then (strokes center size).map (List.map matrix.apply)
  else closeLast [(corners shape center size).map matrix.apply]

/-- The operation that a marker records: a cross is stroked, and the outline of any other
shape is filled. -/
def mark (state : GraphicsState α) (shape : Shape) (size : α) (center : Point α) : DrawOp α :=
  let path := traced state.matrix shape center size
  if shape = .cross then
    .strokePath path state.strokeStyle state.lineWidth (!state.dash.isEmpty)
  else .fillPath path.flatten state.fillStyle state.alpha

end Marker

namespace Recorder

private theorem foldl_lineTo (points : List (Point α)) (state : GraphicsState α)
    (saved : List (GraphicsState α)) (part : List (Point α)) (ops : List (DrawOp α)) :
    (points.map CanvasCall.lineTo).foldl apply ⟨state, saved, [part], ops⟩ =
      ⟨state, saved, [part ++ points.map state.matrix.apply], ops⟩ := by
  induction points generalizing part with
  | nil => rw [List.map_nil, List.map_nil, List.append_nil, List.foldl_nil]
  | cons point rest ih =>
      rw [List.map_cons, List.map_cons, List.foldl_cons, List.append_cons, ← ih]
      rfl

end Recorder

namespace Path

variable (before : GraphicsState α)

private theorem line_trace_effect (points : List (Point α)) :
    (line points).trace.HasEffect before
      ⟨before, [], some (parts (points.map before.matrix.apply)), .ok ()⟩ := by
  intro saved path ops
  change (calls (.beginPath :: (line points).commands.map PathCommand.call)).run _ = _
  rw [run_calls]
  cases points with
  | nil => simp [line, Recorder.apply, Recorder.after, parts]
  | cons first rest =>
      have drawn := Recorder.foldl_lineTo rest before saved [before.matrix.apply first] ops
      simp only [line, List.map_cons, List.map_map, List.foldl_cons]
      refine Prod.ext (drawn.trans ?_) rfl
      simp [Recorder.after, parts]

private theorem area_trace_effect (points : List (Point α)) (baseline : α) :
    (area points baseline).trace.HasEffect before
      ⟨before, [], some (parts ((areaOutline points baseline).map before.matrix.apply)),
        .ok ()⟩ := by
  intro saved path ops
  change (calls (.beginPath :: (area points baseline).commands.map PathCommand.call)).run _ = _
  rw [run_calls]
  cases first : points.head? with
  | none =>
      simp [area, areaOutline, first, Recorder.apply, Recorder.after, parts]
  | some start =>
      obtain ⟨last, ended⟩ : ∃ last, points.getLast? = some last := by
        cases points with
        | nil => cases first
        | cons point rest => exact ⟨_, List.getLast?_eq_some_getLast (List.cons_ne_nil _ _)⟩
      let finish : Point α := ⟨last.x, baseline⟩
      have drawn := Recorder.foldl_lineTo (points ++ [finish]) before saved
        [before.matrix.apply ⟨start.x, baseline⟩] ops
      have commands : (area points baseline).commands.map PathCommand.call =
          .moveTo ⟨start.x, baseline⟩ :: (points ++ [finish]).map .lineTo ++ [.closePath] := by
        simp only [area, first, ended, List.map_append, List.map_cons, List.map_map,
          List.map_nil, List.append_assoc, List.cons_append, List.nil_append]
        rfl
      rw [commands, List.foldl_cons, List.foldl_append, List.foldl_cons]
      refine Prod.ext ((congrArg (Recorder.apply · .closePath) drawn).trans ?_) rfl
      simp [Recorder.after, parts, Recorder.apply, areaOutline, first, ended, closeLast, finish]

end Path

theorem Drawing.hasEffect_trace_then {trace : Drawing α} {step : CanvasCall α}
    {before : GraphicsState α} {path : List (List (Point α))} {mark : DrawOp α}
    (traced : trace.HasEffect before ⟨before, [], some path, .ok ()⟩)
    (records : ∀ saved ops,
      (⟨before, saved, path, ops⟩ : Recorder α).apply step = ⟨before, saved, path, ops ++ [mark]⟩) :
    (trace ++ call step).HasEffect before ⟨before, [mark], some path, .ok ()⟩ := by
  intro saved left ops
  rw [run_append_of_ok (traced saved left ops), Recorder.after, List.append_nil]
  exact Prod.ext (records saved ops) rfl

theorem Path.stroke_line_effect (points : List (Point α)) (before : GraphicsState α) :
    (Path.line points).stroke.HasEffect before
      ⟨before, [.strokePath (Path.parts (points.map before.matrix.apply)) before.strokeStyle
        before.lineWidth (!before.dash.isEmpty)],
        some (Path.parts (points.map before.matrix.apply)), .ok ()⟩ :=
  hasEffect_trace_then (Path.line_trace_effect before points) fun _saved _ops => rfl

theorem Path.stroke_line_draws (points : List (Point α)) (before : GraphicsState α) :
    (Path.line points).stroke.Draws before before
      [.strokePath (Path.parts (points.map before.matrix.apply)) before.strokeStyle
        before.lineWidth (!before.dash.isEmpty)] :=
  ⟨_, Path.stroke_line_effect points before⟩

omit [Scalar α] in
theorem Path.parts_flatten (points : List (Point α)) : (Path.parts points).flatten = points := by
  cases points <;> simp [Path.parts]

theorem Path.fill_area_effect (points : List (Point α)) (baseline : α)
    (before : GraphicsState α) :
    (Path.area points baseline).fill.HasEffect before
      ⟨before, [.fillPath ((Path.areaOutline points baseline).map before.matrix.apply)
        before.fillStyle before.alpha],
        some (Path.parts ((Path.areaOutline points baseline).map before.matrix.apply)),
        .ok ()⟩ := by
  refine hasEffect_trace_then (Path.area_trace_effect before points baseline) fun saved ops => ?_
  simp only [Recorder.apply, Recorder.record, Path.parts_flatten]

theorem Path.fill_area_draws (points : List (Point α)) (baseline : α)
    (before : GraphicsState α) :
    (Path.area points baseline).fill.Draws before before
      [.fillPath ((Path.areaOutline points baseline).map before.matrix.apply) before.fillStyle
        before.alpha] :=
  ⟨_, Path.fill_area_effect points baseline before⟩

theorem Drawing.line_draws (start stop : Point α) (before : GraphicsState α) :
    (Drawing.line start stop).Draws before before
      [.strokePath [[before.matrix.apply start, before.matrix.apply stop]] before.strokeStyle
        before.lineWidth (!before.dash.isEmpty)] :=
  ⟨some [[before.matrix.apply start, before.matrix.apply stop]], fun _saved _path _ops => rfl⟩

theorem Marker.draw_draws (shape : Shape) (center : Point α) (size : α)
    (before : GraphicsState α) :
    (Marker.draw shape center size).Draws before before
      [Marker.mark before shape size center] := by
  refine ⟨some (Marker.traced before.matrix shape center size), fun saved path ops => ?_⟩
  cases shape <;> rfl

/-- On any canvas a stroked line is recorded as one part through its points, and a filled area
as its outline from the baseline and back to it, every point mapped by the matrix of the canvas.
Whatever path was left before goes, and the graphics states stay. -/
theorem Path.run_stroke_line_and_fill_area (points : List (Point α)) (baseline : α)
    (canvas : Recorder α) :
    let mapped := points.map canvas.state.matrix.apply
    let outline := (Path.areaOutline points baseline).map canvas.state.matrix.apply
    (Path.line points).stroke.run canvas =
        ({ canvas with
            path := Path.parts mapped
            ops := canvas.ops ++ [.strokePath (Path.parts mapped) canvas.state.strokeStyle
              canvas.state.lineWidth (!canvas.state.dash.isEmpty)] }, .ok ()) ∧
      (Path.area points baseline).fill.run canvas =
        ({ canvas with
            path := Path.parts outline
            ops := canvas.ops ++ [.fillPath outline canvas.state.fillStyle
              canvas.state.alpha] }, .ok ()) :=
  ⟨(Path.stroke_line_effect points canvas.state).run_eq,
    (Path.fill_area_effect points baseline canvas.state).run_eq⟩

end CanvasChart
