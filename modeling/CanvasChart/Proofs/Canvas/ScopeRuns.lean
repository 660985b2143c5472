import Mathlib.Data.List.TakeWhile
import CanvasChart.Binary64.Scalar
import CanvasChart.Canvas.Marker
import CanvasChart.Proofs.Canvas.Effect
import CanvasChart.Proofs.Canvas.StateFrame

set_option autoImplicit false

/-! Scopes around calls that save and restore by hand. Both use one stack of saved states. If the
calls right inside every scope restore what they saved and nothing else, each scope gives back the
graphics that it began with, wherever in its body a step fails. -/

namespace CanvasChart

variable {α : Type}

/-! ### Saves and restores -/

namespace CanvasCall

def isSave : CanvasCall α → Bool
  | .save => true
  | _ => false

def isRestore : CanvasCall α → Bool
  | .restore => true
  | _ => false

private theorem not_save_or_restore (step : CanvasCall α) (neutral : step.keepsSaved = true) :
    step.isSave = false ∧ step.isRestore = false := by
  cases step <;> first | exact ⟨rfl, rfl⟩ | cases neutral

private theorem eq_save_or_restore (step : CanvasCall α) (changes : step.keepsSaved = false) :
    step = .save ∨ step = .restore := by
  cases step <;> first | exact .inl rfl | exact .inr rfl | cases changes

/-- With some states held already, no call has to restore one that was not saved. -/
def Covered (held : Nat) (steps : List (CanvasCall α)) : Prop :=
  ∀ initial, initial <+: steps → initial.countP isRestore ≤ held + initial.countP isSave

/-- At no time the calls restored more often than they saved, and in the end just as often. -/
structure Matched (steps : List (CanvasCall α)) : Prop where
  covered : ∀ initial, initial <+: steps → initial.countP isRestore ≤ initial.countP isSave
  even : steps.countP isSave = steps.countP isRestore

variable {held left : Nat} {first second steps : List (CanvasCall α)}

theorem Matched.covered_zero (matched : Matched steps) : Covered 0 steps := by
  intro initial before
  rw [Nat.zero_add]
  exact matched.covered initial before

theorem Covered.of_append (covered : Covered held (first ++ second)) : Covered held first :=
  fun initial before => covered initial (before.trans (List.prefix_append first second))

private theorem matched_iff : Matched steps ↔
    (∀ length < steps.length + 1,
      (steps.take length).countP isRestore ≤ (steps.take length).countP isSave) ∧
      steps.countP isSave = steps.countP isRestore := by
  constructor
  · intro matched
    exact ⟨fun length _short => matched.covered _ (List.take_prefix length steps), matched.even⟩
  · rintro ⟨covered, even⟩
    refine ⟨fun initial before => ?_, even⟩
    have within : initial.length < steps.length + 1 := Nat.lt_succ_of_le before.length_le
    rw [List.prefix_iff_eq_take.mp before]
    exact covered initial.length within

instance (steps : List (CanvasCall α)) : Decidable (Matched steps) :=
  decidable_of_iff _ matched_iff.symm

theorem Covered.after_append (covered : Covered held (first ++ second))
    (count : left + first.countP isRestore = held + first.countP isSave) : Covered left second := by
  intro initial before
  have whole := covered (first ++ initial) ((List.prefix_append_right_inj first).mpr before)
  rw [List.countP_append, List.countP_append] at whole
  omega

end CanvasCall

/-! ### Recorded operations -/

namespace Recorder

variable [Scalar α]

def recorded (canvas : Recorder α) (step : CanvasCall α) : List (DrawOp α) :=
  (canvas.clearOps.apply step).ops

def recordedBy : Recorder α → List (CanvasCall α) → List (DrawOp α)
  | _, [] => []
  | canvas, step :: rest => canvas.recorded step ++ (canvas.apply step).recordedBy rest

private theorem foldl_addPoint_ops (points : List (Point α)) (canvas : Recorder α) :
    (points.foldl addPoint canvas).ops = canvas.ops := by
  induction points generalizing canvas with
  | nil => rfl
  | cons point rest ih => exact ih (canvas.addPoint point)

private theorem apply_ops (canvas : Recorder α) (step : CanvasCall α) :
    (canvas.apply step).ops = canvas.ops ++ canvas.recorded step := by
  obtain ⟨state, saved, path, ops⟩ := canvas
  cases step with
  | fill | stroke | fillRect | strokeRect | clearRect | fillText => rfl
  | arc => simp [recorded, apply, foldl_addPoint_ops, clearOps]
  | restore => cases saved <;> exact (List.append_nil ops).symm
  | save | translate | rotate | transform | beginPath | moveTo | lineTo | rect | closePath
    | setFillStyle | setStrokeStyle | setLineWidth | setAlpha | setLineDash | setFont
    | setTextAlign | setTextBaseline => exact (List.append_nil ops).symm

private theorem foldl_apply_ops (steps : List (CanvasCall α)) (canvas : Recorder α) :
    (steps.foldl apply canvas).ops = canvas.ops ++ canvas.recordedBy steps := by
  induction steps generalizing canvas with
  | nil => exact (List.append_nil canvas.ops).symm
  | cons step rest ih =>
      rw [List.foldl_cons, ih, apply_ops, recordedBy, List.append_assoc]

end Recorder

namespace Drawing

/-! ### What is executed -/

/-- The calls and failures of a drawing in their order. -/
def steps : Drawing α → List (Except ChartError (CanvasCall α))
  | empty => []
  | call step => [.ok step]
  | fail error => [.error error]
  | andThen first second => first.steps ++ second.steps
  | scope body => body.steps

def failure? (drawing : Drawing α) : Option ChartError :=
  drawing.steps.findSome? fun
    | .ok _ => none
    | .error error => some error

def outcome (drawing : Drawing α) : Except ChartError Unit :=
  match drawing.failure? with
  | none => .ok ()
  | some error => .error error

/-- The part of a drawing before its first failure. The scopes around the failure end there. -/
def executed : Drawing α → Drawing α
  | empty => empty
  | call step => call step
  | fail _ => empty
  | andThen first second =>
      match first.failure? with
      | none => andThen first.executed second.executed
      | some _ => first.executed
  | scope body => scope body.executed

def directCalls : Drawing α → List (CanvasCall α)
  | empty | fail _ | scope _ => []
  | call step => [step]
  | andThen first second => first.directCalls ++ second.directCalls

def bodies : Drawing α → List (Drawing α)
  | empty | call _ | fail _ => []
  | andThen first second => first.bodies ++ second.bodies
  | scope body => body :: body.bodies

def canvasCalls : Drawing α → List (CanvasCall α)
  | empty | fail _ => []
  | call step => [step]
  | andThen first second => first.canvasCalls ++ second.canvasCalls
  | scope body => .save :: body.canvasCalls ++ [.restore]

private theorem failure?_andThen (first second : Drawing α) :
    (first.andThen second).failure? = first.failure?.or second.failure? :=
  List.findSome?_append

private theorem failure?_eq_none_iff {drawing : Drawing α} :
    drawing.failure? = none ↔ ∀ step ∈ drawing.steps, step.isOk = true := by
  unfold failure?
  rw [List.findSome?_eq_none_iff]
  refine forall₂_congr fun step _member => ?_
  cases step <;> simp [Except.isOk, Except.toBool]

private theorem executed_steps (drawing : Drawing α) :
    drawing.executed.steps = drawing.steps.takeWhile Except.isOk := by
  induction drawing with
  | empty | call | fail => rfl
  | andThen first second ihFirst ihSecond =>
      have goesOn : (first.steps.takeWhile Except.isOk).length = first.steps.length ↔
          first.failure? = none := by
        rw [failure?_eq_none_iff, ← List.takeWhile_eq_self_iff]
        exact ⟨(List.takeWhile_prefix _).eq_of_length, congrArg List.length⟩
      rw [steps, List.takeWhile_append, ← ihFirst, ← ihSecond]
      cases failed : first.failure? with
      | none =>
          have whole : first.steps.takeWhile Except.isOk = first.steps :=
            List.takeWhile_eq_self_iff.mpr (failure?_eq_none_iff.mp failed)
          rw [ihFirst, whole, if_pos rfl, executed, failed]
          exact congrArg (· ++ second.executed.steps) (ihFirst.trans whole)
      | some error =>
          rw [ihFirst, if_neg (by rw [goesOn, failed]; exact Option.some_ne_none error), executed,
            failed]
          exact ihFirst
  | scope body ih => exact ih

variable [Scalar α]

/-- A run applies the calls of what is executed, and ends as the first failure says. -/
private theorem run_eq (drawing : Drawing α) (canvas : Recorder α) :
    drawing.run canvas =
      (drawing.executed.canvasCalls.foldl Recorder.apply canvas, drawing.outcome) := by
  induction drawing generalizing canvas with
  | empty | call | fail => rfl
  | andThen first second ihFirst ihSecond =>
      rw [run, ihFirst, executed]
      unfold outcome
      rw [failure?_andThen]
      cases first.failure? with
      | none =>
          rw [canvasCalls, List.foldl_append]
          exact ihSecond _
      | some error => rfl
  | scope body ih =>
      have inner := ih (canvas.apply .save)
      rw [run, inner, executed, canvasCalls, List.foldl_append, List.foldl_cons]
      rfl

/-! ### The saved states -/

/-- Applied above saved states of their own, the calls leave those below alone. -/
def KeepsBelow (drawing : Drawing α) : Prop :=
  ∀ (canvas : Recorder α) (held base : List (GraphicsState α)), canvas.saved = held ++ base →
    CanvasCall.Covered held.length drawing.directCalls →
      ∃ left, (drawing.canvasCalls.foldl Recorder.apply canvas).saved = left ++ base ∧
        left.length + drawing.directCalls.countP CanvasCall.isRestore =
          held.length + drawing.directCalls.countP CanvasCall.isSave

private theorem keepsBelow_call (step : CanvasCall α) : (call step).KeepsBelow := by
  intro canvas held base saved covered
  cases neutral : step.keepsSaved with
  | true =>
      obtain ⟨noSave, noRestore⟩ := step.not_save_or_restore neutral
      refine ⟨held, (canvas.apply_saved step neutral).trans saved, ?_⟩
      simp [directCalls, noSave, noRestore]
  | false =>
      obtain rfl | rfl := step.eq_save_or_restore neutral
      · exact ⟨canvas.state :: held, congrArg (List.cons canvas.state) saved, rfl⟩
      · -- With nothing held, this restore would take a state of those below.
        cases held with
        | nil => exact absurd (covered [.restore] List.prefix_rfl) (Nat.not_succ_le_zero 0)
        | cons state rest =>
            refine ⟨rest, ?_, rfl⟩
            change (canvas.apply .restore).saved = rest ++ base
            rw [Recorder.apply, saved, List.cons_append]

/-- A scope whose body settles its own saves takes back just the state that it saved. -/
theorem KeepsBelow.scope_sameGraphics {body : Drawing α} (keeps : body.KeepsBelow)
    (matched : CanvasCall.Matched body.directCalls) (canvas : Recorder α) :
    canvas.SameGraphics ((scope body).canvasCalls.foldl Recorder.apply canvas) := by
  obtain ⟨left, ended, total⟩ :=
    keeps (canvas.apply .save) [] (canvas.state :: canvas.saved) rfl matched.covered_zero
  -- All that the body saved is restored again, so its end finds the state of the scope on top.
  have settled : left = [] := by
    rw [matched.even] at total
    exact List.length_eq_zero_iff.mp (Nat.add_right_cancel total)
  rw [canvasCalls, List.foldl_append, List.foldl_cons]
  rw [settled, List.nil_append] at ended
  simp only [List.foldl_cons, List.foldl_nil]
  generalize body.canvasCalls.foldl Recorder.apply (canvas.apply .save) = reached at ended
  rw [Recorder.apply, ended]
  exact ⟨rfl, rfl⟩

/-- The induction is on the drawing, above any states saved before. -/
private theorem keepsBelow {drawing : Drawing α}
    (matched : ∀ body ∈ drawing.bodies, CanvasCall.Matched body.directCalls) :
    drawing.KeepsBelow := by
  induction drawing with
  | empty | fail => exact fun _canvas held _base saved _covered => ⟨held, saved, rfl⟩
  | call step => exact keepsBelow_call step
  | andThen first second ihFirst ihSecond =>
      intro canvas held base saved covered
      rw [bodies, List.forall_mem_append] at matched
      obtain ⟨middle, reached, count⟩ := ihFirst matched.1 canvas held base saved covered.of_append
      obtain ⟨left, ended, total⟩ :=
        ihSecond matched.2 _ middle base reached (covered.after_append count)
      refine ⟨left, ?_, ?_⟩
      · rw [canvasCalls, List.foldl_append]
        exact ended
      · rw [directCalls, List.countP_append, List.countP_append]
        omega
  | scope body ih =>
      intro canvas held base saved _covered
      rw [bodies, List.forall_mem_cons] at matched
      have same := (ih matched.2).scope_sameGraphics matched.1 canvas
      exact ⟨held, same.saved.trans saved, rfl⟩

/-! ### Runs of scopes -/

/-- With which canvases the scopes of a run begin and end. -/
def scopeRuns : Drawing α → Recorder α → List (Recorder α × Recorder α)
  | empty, _ | call _, _ | fail _, _ => []
  | andThen first second, canvas =>
      first.scopeRuns canvas ++
        match first.run canvas with
        | (next, .ok ()) => second.scopeRuns next
        | (_, .error _) => []
  | scope body, canvas =>
      (canvas, ((scope body).run canvas).1) :: body.scopeRuns (canvas.apply .save)

private theorem scopeRuns_sameGraphics {drawing : Drawing α}
    (matched : ∀ body ∈ drawing.executed.bodies, CanvasCall.Matched body.directCalls)
    (canvas : Recorder α) :
    ∀ visit ∈ drawing.scopeRuns canvas, visit.1.SameGraphics visit.2 := by
  induction drawing generalizing canvas with
  | empty | call | fail => exact List.forall_mem_nil _
  | andThen first second ihFirst ihSecond =>
      rw [executed] at matched
      rw [scopeRuns, run_eq first, List.forall_mem_append]
      unfold outcome
      cases failed : first.failure? with
      | none =>
          rw [failed, bodies, List.forall_mem_append] at matched
          exact ⟨ihFirst matched.1 canvas, ihSecond matched.2 _⟩
      | some error =>
          rw [failed] at matched
          exact ⟨ihFirst matched canvas, List.forall_mem_nil _⟩
  | scope body ih =>
      rw [executed, bodies, List.forall_mem_cons] at matched
      refine List.forall_mem_cons.mpr ⟨?_, ih matched.2 _⟩
      rw [run_eq, executed]
      exact (keepsBelow matched.2).scope_sameGraphics matched.1 canvas

/-- Let the calls right inside each scope that is entered, up to the first failure, restore what
they saved and nothing else. Then every scope gives back the graphics it began with, however it
ends, and a run records what the calls before the first failure record one after the other. -/
theorem run_keepsScopes (drawing : Drawing α)
    (matched : ∀ body ∈ drawing.executed.bodies, CanvasCall.Matched body.directCalls)
    (canvas : Recorder α) :
    (∀ visit ∈ drawing.scopeRuns canvas, visit.1.SameGraphics visit.2) ∧
      drawing.executed.steps = drawing.steps.takeWhile Except.isOk ∧
      drawing.run canvas =
        (drawing.executed.canvasCalls.foldl Recorder.apply canvas, drawing.outcome) ∧
      (drawing.run canvas).1.ops =
        canvas.ops ++ canvas.recordedBy drawing.executed.canvasCalls := by
  refine ⟨scopeRuns_sameGraphics matched canvas, executed_steps drawing, run_eq drawing canvas, ?_⟩
  rw [run_eq]
  exact Recorder.foldl_apply_ops _ canvas

def interrupted : Drawing Float :=
  .scope (.call .save ++ .call (.translate 5 0) ++
    .scope (.calls [.save, .setFont "20px serif", .restore, .setAlpha 0.5]) ++
    .call .restore ++ .call (.fillRect ⟨0, 0, 1, 1⟩) ++ Marker.drawNamed "hexagon" ⟨0, 0⟩ 6 ++
    .call (.fillRect ⟨1, 0, 1, 1⟩))

theorem run_keepsScopes_interrupted :
    (∀ body ∈ interrupted.executed.bodies, CanvasCall.Matched body.directCalls) ∧
      (interrupted.scopeRuns .new).length = 2 ∧
      (∀ visit ∈ interrupted.scopeRuns .new, visit.1.SameGraphics visit.2) ∧
      (interrupted.run .new).2 = .error (.unknownShape "hexagon") ∧
      (interrupted.run .new).1.ops.length = 1 := by
  have matched : ∀ body ∈ interrupted.executed.bodies, CanvasCall.Matched body.directCalls := by
    decide
  obtain ⟨same, _executed, ran, recorded⟩ := run_keepsScopes interrupted matched .new
  refine ⟨matched, rfl, same, ?_, ?_⟩
  · rw [ran]
    rfl
  · rw [recorded]
    rfl

end Drawing
end CanvasChart
