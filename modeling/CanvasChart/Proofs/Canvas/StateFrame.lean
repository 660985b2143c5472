import CanvasChart.Canvas.Drawing

set_option autoImplicit false

/-! What a drawing leaves alone. A drawing whose calls outside every scope only build
paths and record operations, and whose scopes never save or restore by hand, gives the
canvas back with the graphics state and the saved states it was handed, also when it
ends with an error. -/

namespace CanvasChart

variable {α : Type}

def CanvasCall.keepsSaved : CanvasCall α → Bool
  | .save | .restore => false
  | _ => true

/-- The call builds a path or records an operation; of the graphics state it only reads. -/
def CanvasCall.keepsState : CanvasCall α → Bool
  | .beginPath | .moveTo _ | .lineTo _ | .arc .. | .rect _ | .closePath | .fill | .stroke
  | .fillRect _ | .strokeRect _ | .clearRect _ | .fillText .. => true
  | _ => false

theorem CanvasCall.keepsSaved_of_keepsState (step : CanvasCall α)
    (inert : step.keepsState = true) : step.keepsSaved = true := by
  cases step <;> first | rfl | cases inert

namespace Recorder

/-- Two canvases that differ at most in their paths and recorded operations. -/
structure SameGraphics (before after : Recorder α) : Prop where
  state : after.state = before.state
  saved : after.saved = before.saved

theorem SameGraphics.refl (canvas : Recorder α) : SameGraphics canvas canvas := ⟨rfl, rfl⟩

theorem SameGraphics.trans {first second third : Recorder α}
    (earlier : SameGraphics first second) (later : SameGraphics second third) :
    SameGraphics first third :=
  ⟨later.state.trans earlier.state, later.saved.trans earlier.saved⟩

variable [Scalar α]

private theorem foldl_addPoint_sameGraphics (points : List (Point α)) (canvas : Recorder α) :
    SameGraphics canvas (points.foldl addPoint canvas) := by
  induction points generalizing canvas with
  | nil => exact .refl canvas
  | cons point rest ih =>
      have pointAdded : SameGraphics canvas (canvas.addPoint point) := ⟨rfl, rfl⟩
      exact pointAdded.trans (ih (canvas.addPoint point))

private theorem apply_sameGraphics (canvas : Recorder α) (step : CanvasCall α)
    (inert : step.keepsState = true) : SameGraphics canvas (canvas.apply step) := by
  cases step with
  | arc center radius start stop => exact foldl_addPoint_sameGraphics _ canvas
  | beginPath | moveTo | lineTo | rect | closePath | fill | stroke | fillRect | strokeRect
    | clearRect | fillText => exact ⟨rfl, rfl⟩
  | save | restore | translate | rotate | transform | setFillStyle | setStrokeStyle
    | setLineWidth | setAlpha | setLineDash | setFont | setTextAlign | setTextBaseline =>
      cases inert

theorem apply_saved (canvas : Recorder α) (step : CanvasCall α)
    (neutral : step.keepsSaved = true) : (canvas.apply step).saved = canvas.saved := by
  cases inert : step.keepsState with
  | true => exact (apply_sameGraphics canvas step inert).saved
  | false =>
      cases step with
      | translate | rotate | transform | setFillStyle | setStrokeStyle | setLineWidth
        | setAlpha | setLineDash | setFont | setTextAlign | setTextBaseline => rfl
      | save | restore => cases neutral
      | beginPath | moveTo | lineTo | arc | rect | closePath | fill | stroke | fillRect
        | strokeRect | clearRect | fillText => cases inert

end Recorder

namespace Drawing

/-- Outside every scope the drawing makes allowed calls only, within a scope it neither
saves nor restores by hand, and it ends with an error only where it may fail. -/
def Disciplined (mayFail : Prop) (allowed : CanvasCall α → Bool) : Drawing α → Prop
  | empty => True
  | call step => allowed step = true
  | fail _ => mayFail
  | andThen first second =>
      first.Disciplined mayFail allowed ∧ second.Disciplined mayFail allowed
  | scope body => body.Disciplined mayFail CanvasCall.keepsSaved

/-- What the drawing does outside its scopes leaves the graphics state alone. -/
abbrev Framed (mayFail : Prop) (drawing : Drawing α) : Prop :=
  drawing.Disciplined mayFail CanvasCall.keepsState

/-- The drawing leaves the saved states alone and may be the body of a scope. -/
abbrev Balanced (mayFail : Prop) (drawing : Drawing α) : Prop :=
  drawing.Disciplined mayFail CanvasCall.keepsSaved

section Discipline

variable {mayFail : Prop} {allowed : CanvasCall α → Bool}

@[simp] theorem disciplined_empty : (empty : Drawing α).Disciplined mayFail allowed := trivial

@[simp] theorem disciplined_call (step : CanvasCall α) :
    (call step).Disciplined mayFail allowed ↔ allowed step = true := Iff.rfl

@[simp] theorem disciplined_append (first second : Drawing α) :
    (first ++ second).Disciplined mayFail allowed ↔
      first.Disciplined mayFail allowed ∧ second.Disciplined mayFail allowed := Iff.rfl

@[simp] theorem disciplined_scope (body : Drawing α) :
    (scope body).Disciplined mayFail allowed ↔ body.Balanced mayFail := Iff.rfl

@[simp] theorem disciplined_sequence (drawings : List (Drawing α)) :
    (sequence drawings).Disciplined mayFail allowed ↔
      ∀ drawing ∈ drawings, drawing.Disciplined mayFail allowed := by
  induction drawings with
  | nil => simp [sequence]
  | cons first rest ih =>
      change (first.Disciplined mayFail allowed ∧
        (sequence rest).Disciplined mayFail allowed) ↔ _
      rw [ih, List.forall_mem_cons]

@[simp] theorem disciplined_calls (list : List (CanvasCall α)) :
    (calls list).Disciplined mayFail allowed ↔ ∀ step ∈ list, allowed step = true := by
  simp [calls]

@[simp] theorem disciplined_withValue {β : Type} (value : Except ChartError β)
    (draw : β → Drawing α) :
    (withValue value draw).Disciplined mayFail allowed ↔
      (∀ error, value = .error error → mayFail) ∧
        ∀ found, value = .ok found → (draw found).Disciplined mayFail allowed := by
  cases value with
  | error error => simp [withValue, Disciplined]
  | ok found => simp [withValue]

theorem Disciplined.mono {wider : CanvasCall α → Bool} (drawing : Drawing α)
    (included : ∀ step, allowed step = true → wider step = true)
    (disciplined : drawing.Disciplined mayFail allowed) :
    drawing.Disciplined mayFail wider := by
  induction drawing with
  | empty => trivial
  | call step => exact included step disciplined
  | fail error => exact disciplined
  | andThen first second ihFirst ihSecond =>
      exact ⟨ihFirst disciplined.1, ihSecond disciplined.2⟩
  | scope body => exact disciplined

theorem Framed.balanced {drawing : Drawing α} (framed : drawing.Framed mayFail) :
    drawing.Balanced mayFail :=
  Disciplined.mono drawing CanvasCall.keepsSaved_of_keepsState framed

end Discipline

variable [Scalar α] {mayFail : Prop}

/-- Scopes restore what they saved, so a balanced drawing gives the saved states back.
The induction is on the drawing, over any canvas. -/
theorem Balanced.run_saved {drawing : Drawing α} (balanced : drawing.Balanced mayFail)
    (canvas : Recorder α) : (drawing.run canvas).1.saved = canvas.saved := by
  induction drawing generalizing canvas with
  | empty => rfl
  | call step => exact canvas.apply_saved step balanced
  | fail error => rfl
  | andThen first second ihFirst ihSecond =>
      have firstSaved := ihFirst balanced.1 canvas
      simp only [run]
      split
      · rename_i next reached
        rw [reached] at firstSaved
        exact (ihSecond balanced.2 next).trans firstSaved
      · rename_i next error reached
        rw [reached] at firstSaved
        exact firstSaved
  | scope body ih =>
      have bodySaved := ih balanced (canvas.apply .save)
      change (((body.run (canvas.apply .save)).1).apply .restore).saved = canvas.saved
      simp only [Recorder.apply] at bodySaved ⊢
      rw [bodySaved]

/-- A framed drawing leaves the graphics state and the saved states as they were,
whether it comes to its end or not. -/
theorem Framed.run_sameGraphics {drawing : Drawing α} (framed : drawing.Framed mayFail)
    (canvas : Recorder α) : canvas.SameGraphics (drawing.run canvas).1 := by
  induction drawing generalizing canvas with
  | empty => exact .refl canvas
  | call step => exact canvas.apply_sameGraphics step framed
  | fail error => exact .refl canvas
  | andThen first second ihFirst ihSecond =>
      have firstSame := ihFirst framed.1 canvas
      simp only [run]
      split
      · rename_i next reached
        rw [reached] at firstSame
        exact firstSame.trans (ihSecond framed.2 next)
      · rename_i next error reached
        rw [reached] at firstSame
        exact firstSame
  | scope body =>
      have bodySaved := Balanced.run_saved framed (canvas.apply .save)
      change canvas.SameGraphics (((body.run (canvas.apply .save)).1).apply .restore)
      simp only [Recorder.apply] at bodySaved ⊢
      rw [bodySaved]
      exact ⟨rfl, rfl⟩

theorem Disciplined.run_ok {allowed : CanvasCall α → Bool} {drawing : Drawing α}
    (disciplined : drawing.Disciplined False allowed) (canvas : Recorder α) :
    (drawing.run canvas).2 = .ok () := by
  induction drawing generalizing canvas allowed with
  | empty => rfl
  | call step => rfl
  | fail error => exact disciplined.elim
  | andThen first second ihFirst ihSecond =>
      have firstEnds := ihFirst disciplined.1 canvas
      simp only [run]
      split
      · rename_i next reached
        exact ihSecond disciplined.2 next
      · rename_i next error reached
        rw [reached] at firstEnds
        cases firstEnds
  | scope body ih => exact ih disciplined (canvas.apply .save)

end Drawing
end CanvasChart
