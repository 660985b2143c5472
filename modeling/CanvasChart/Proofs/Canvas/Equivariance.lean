import Mathlib.Data.List.Forall2
import Mathlib.Tactic.Ring
import CanvasChart.Proofs.Exact.Real
import CanvasChart.Canvas.Recorder

set_option autoImplicit false

/-! Drawing under an affine map. On a canvas whose matrix was set first, any calls record what
they record without it, with every point of a path and every text anchor mapped. -/

namespace CanvasChart

/-! ### Paths -/

section Paths

variable {α : Type} (map : Point α → Point α)

private theorem appendPoint_map (point : Point α) (path : List (List (Point α))) :
    appendPoint (map point) (path.map (List.map map)) =
      (appendPoint point path).map (List.map map) := by
  induction path with
  | nil => rfl
  | cons part rest ih =>
      cases rest with
      | nil => simp [appendPoint]
      | cons next later => exact congrArg (List.cons (part.map map)) ih

private theorem closeLast_map (path : List (List (Point α))) :
    closeLast (path.map (List.map map)) = (closeLast path).map (List.map map) := by
  induction path with
  | nil => rfl
  | cons part rest ih =>
      cases rest with
      | nil => cases part <;> simp [closeLast]
      | cons next later => exact congrArg (List.cons (part.map map)) ih

end Paths

variable [RealConventions]

/-! ### Matrices -/

namespace Matrix

private theorem multiply_apply (first second : Matrix ℝ) (point : Point ℝ) :
    (first.multiply second).apply point = first.apply (second.apply point) := by
  simp only [multiply, apply, Exact.add_real, Exact.mul_real]
  congr 1 <;> ring

private theorem multiply_assoc (first second third : Matrix ℝ) :
    (first.multiply second).multiply third = first.multiply (second.multiply third) := by
  simp only [multiply, Exact.add_real, Exact.mul_real]
  congr 1 <;> ring

private theorem multiply_identity (matrix : Matrix ℝ) : matrix.multiply .identity = matrix := by
  simp [multiply, identity, Exact.literal_real]

private theorem identity_multiply (matrix : Matrix ℝ) :
    Matrix.identity.multiply matrix = matrix := by
  simp [multiply, identity, Exact.literal_real]

end Matrix

/-! ### Canvases -/

noncomputable def GraphicsState.under (matrix : Matrix ℝ) (state : GraphicsState ℝ) :
    GraphicsState ℝ :=
  { state with matrix := matrix.multiply state.matrix }

/-- An operation with its points mapped. What rectangle it covers and in which direction it
writes a text is left open. -/
inductive DrawOp.Carried (matrix : Matrix ℝ) : DrawOp ℝ → DrawOp ℝ → Prop
  | fillRect (rect other : Rect ℝ) (color : String) (alpha : ℝ) :
      Carried matrix (.fillRect rect color alpha) (.fillRect other color alpha)
  | strokeRect (rect other : Rect ℝ) (color : String) (width : ℝ) :
      Carried matrix (.strokeRect rect color width) (.strokeRect other color width)
  | clearRect (rect other : Rect ℝ) : Carried matrix (.clearRect rect) (.clearRect other)
  | fillPath (points : List (Point ℝ)) (color : String) (alpha : ℝ) :
      Carried matrix (.fillPath points color alpha)
        (.fillPath (points.map matrix.apply) color alpha)
  | strokePath (subpaths : List (List (Point ℝ))) (color : String) (width : ℝ) (dashed : Bool) :
      Carried matrix (.strokePath subpaths color width dashed)
        (.strokePath (subpaths.map (List.map matrix.apply)) color width dashed)
  | text (mark : TextMark ℝ) (angle : ℝ) :
      Carried matrix (.text mark)
        (.text { mark with anchor := matrix.apply mark.anchor, angle := angle })

namespace Recorder

/-- A canvas that holds what another one holds, with a map before every matrix and with all
points mapped. -/
structure Carried (matrix : Matrix ℝ) (canvas other : Recorder ℝ) : Prop where
  state : other.state = canvas.state.under matrix
  saved : other.saved = canvas.saved.map (GraphicsState.under matrix)
  path : other.path = canvas.path.map (List.map matrix.apply)
  ops : List.Forall₂ (DrawOp.Carried matrix) canvas.ops other.ops

variable {matrix : Matrix ℝ} {canvas other : Recorder ℝ}

private theorem carried_new (matrix : Matrix ℝ) :
    Carried matrix new ((new : Recorder ℝ).apply (.transform matrix)) where
  state := by
    simp only [apply, transformBy, GraphicsState.under, new, GraphicsState.initial,
      Matrix.multiply_identity, Matrix.identity_multiply]
  saved := rfl
  path := rfl
  ops := .nil

theorem Carried.apply_point (carried : Carried matrix canvas other) (point : Point ℝ) :
    other.state.matrix.apply point = matrix.apply (canvas.state.matrix.apply point) := by
  rw [carried.state]
  exact Matrix.multiply_apply matrix canvas.state.matrix point

theorem Carried.record (carried : Carried matrix canvas other) {op mapped : DrawOp ℝ}
    (same : op.Carried matrix mapped) : Carried matrix (canvas.record op) (other.record mapped) :=
  { carried with ops := List.rel_append carried.ops (.cons same .nil) }

theorem Carried.transformBy (carried : Carried matrix canvas other) (step : Matrix ℝ) :
    Carried matrix (canvas.transformBy step) (other.transformBy step) :=
  { carried with
    state := by
      simp only [Recorder.transformBy, carried.state, GraphicsState.under, Matrix.multiply_assoc] }

theorem Carried.startAt (carried : Carried matrix canvas other) (point : Point ℝ) :
    Carried matrix (canvas.startAt point) (other.startAt point) :=
  { carried with
    path := by simp [Recorder.startAt, carried.path, carried.apply_point] }

theorem Carried.addPoint (carried : Carried matrix canvas other) (point : Point ℝ) :
    Carried matrix (canvas.addPoint point) (other.addPoint point) :=
  { carried with
    path := by
      simp only [Recorder.addPoint, carried.path, carried.apply_point, appendPoint_map] }

theorem Carried.addPoints (carried : Carried matrix canvas other) (points : List (Point ℝ)) :
    Carried matrix (points.foldl Recorder.addPoint canvas)
      (points.foldl Recorder.addPoint other) := by
  induction points generalizing canvas other with
  | nil => exact carried
  | cons point rest ih => exact ih (carried.addPoint point)

theorem Carried.closePath (carried : Carried matrix canvas other) :
    Carried matrix { canvas with path := closeLast canvas.path }
      { other with path := closeLast other.path } :=
  { carried with path := by rw [carried.path, closeLast_map] }

theorem Carried.restore (carried : Carried matrix canvas other) :
    Carried matrix (canvas.apply .restore) (other.apply .restore) := by
  have saved := carried.saved
  cases held : canvas.saved with
  | nil =>
      rw [held, List.map_nil] at saved
      simpa only [apply, held, saved] using carried
  | cons state rest =>
      rw [held, List.map_cons] at saved
      simp only [apply, held, saved]
      exact ⟨rfl, rfl, carried.path, carried.ops⟩

/-- One call keeps two canvases in step. -/
theorem Carried.apply (carried : Carried matrix canvas other) (step : CanvasCall ℝ) :
    Carried matrix (canvas.apply step) (other.apply step) := by
  cases step with
  | save =>
      refine ⟨carried.state, ?_, carried.path, carried.ops⟩
      simp only [Recorder.apply, carried.state, carried.saved, List.map_cons]
  | restore => exact carried.restore
  | translate x y => exact carried.transformBy (.shift x y)
  | rotate angle => exact carried.transformBy (.rotation angle)
  | transform map => exact carried.transformBy map
  | beginPath => exact ⟨carried.state, carried.saved, rfl, carried.ops⟩
  | moveTo point => exact carried.startAt point
  | lineTo point => exact carried.addPoint point
  | arc center radius start stop => exact carried.addPoints _
  | rect rect => exact ((carried.startAt _).addPoints _).closePath
  | closePath => exact carried.closePath
  | fill =>
      refine carried.record ?_
      rw [carried.state, carried.path, ← List.map_flatten]
      exact .fillPath _ _ _
  | stroke =>
      refine carried.record ?_
      rw [carried.state, carried.path]
      exact .strokePath _ _ _ _
  | fillRect rect =>
      refine carried.record ?_
      rw [carried.state]
      exact .fillRect _ _ _ _
  | strokeRect rect =>
      refine carried.record ?_
      rw [carried.state]
      exact .strokeRect _ _ _ _
  | clearRect rect => exact carried.record (.clearRect _ _)
  | fillText text anchor =>
      refine carried.record ?_
      rw [carried.apply_point, carried.state]
      exact .text ⟨text, canvas.state.matrix.apply anchor, _, _, _, _, _⟩ _
  | setFillStyle | setStrokeStyle | setLineWidth | setAlpha | setLineDash | setFont
    | setTextAlign | setTextBaseline =>
      refine ⟨?_, carried.saved, carried.path, carried.ops⟩
      simp only [Recorder.apply, carried.state]
      rfl

theorem Carried.run (carried : Carried matrix canvas other) (steps : List (CanvasCall ℝ)) :
    Carried matrix (steps.foldl Recorder.apply canvas) (steps.foldl Recorder.apply other) := by
  induction steps generalizing canvas other with
  | nil => exact carried
  | cons step rest ih => exact ih (carried.apply step)

/-- After one call that sets the matrix of a fresh canvas, any further calls record the same
operations as without it, with every point of a path and every text anchor mapped by it. -/
theorem run_equivariant (matrix : Matrix ℝ) (steps : List (CanvasCall ℝ)) :
    List.Forall₂ (DrawOp.Carried matrix)
      (steps.foldl Recorder.apply new).ops
      (steps.foldl Recorder.apply ((new : Recorder ℝ).apply (.transform matrix))).ops :=
  ((carried_new matrix).run steps).ops

end Recorder
end CanvasChart
