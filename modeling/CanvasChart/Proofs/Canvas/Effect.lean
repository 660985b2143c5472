import CanvasChart.Canvas.Drawing

set_option autoImplicit false

/-! The effect of a drawing. A drawing that begins every path before it uses it does the same
on all canvases in one graphics state: what was saved, what was drawn and what was traced
before has no part in it. -/

namespace CanvasChart

variable {α : Type}

/-- What a drawing does to a canvas, and how it ends. -/
structure Effect (α : Type) where
  state : GraphicsState α
  marks : List (DrawOp α)
  /-- The path that is left, when one was begun. -/
  path : Option (List (List (Point α)))
  result : Except ChartError Unit

def Recorder.after (canvas : Recorder α) (effect : Effect α) : Recorder α :=
  ⟨effect.state, canvas.saved, effect.path.getD canvas.path, canvas.ops ++ effect.marks⟩

theorem Recorder.after_of_unmarked {state : GraphicsState α} {saved : List (GraphicsState α)}
    {path : List (List (Point α))} {ops : List (DrawOp α)} (result : Except ChartError Unit) :
    (⟨state, saved, path, ops⟩ : Recorder α).after ⟨state, [], none, result⟩ =
      ⟨state, saved, path, ops⟩ :=
  congrArg (Recorder.mk state saved path) (List.append_nil ops)

/-- The call neither reads nor changes the path, and leaves the saved states alone. -/
def CanvasCall.ignoresPath : CanvasCall α → Bool
  | .save | .restore | .beginPath | .moveTo _ | .lineTo _ | .arc .. | .rect _ | .closePath
  | .fill | .stroke => false
  | _ => true

variable [Scalar α]

theorem Recorder.apply_ignoresPath (step : CanvasCall α) (ignores : step.ignoresPath = true)
    (before : GraphicsState α) :
    ∃ state marks, ∀ saved path ops,
      (⟨before, saved, path, ops⟩ : Recorder α).apply step =
        ⟨state, saved, path, ops ++ marks⟩ := by
  -- a canvas that holds nothing but the state shows what the call does
  let blank : Recorder α := ⟨before, [], [], []⟩
  refine ⟨(blank.apply step).state, (blank.apply step).ops, fun saved path ops => ?_⟩
  cases step with
  | fillRect | strokeRect | clearRect | fillText => rfl
  | translate | rotate | transform | setFillStyle | setStrokeStyle | setLineWidth | setAlpha
    | setLineDash | setFont | setTextAlign | setTextBaseline =>
      change (⟨_, saved, path, ops⟩ : Recorder α) = ⟨_, saved, path, ops ++ []⟩
      rw [List.append_nil]
      rfl
  | save | restore | beginPath | moveTo | lineTo | arc | rect | closePath | fill | stroke =>
      cases ignores

namespace Drawing

/-! ### Running -/

section Running

variable {first second : Drawing α} {canvas next : Recorder α}

theorem run_append_of_ok (reached : first.run canvas = (next, .ok ())) :
    (first ++ second).run canvas = second.run next := by
  change (first.andThen second).run canvas = _
  rw [run, reached]

private theorem run_append_of_error {error : ChartError}
    (reached : first.run canvas = (next, .error error)) :
    (first ++ second).run canvas = (next, .error error) := by
  change (first.andThen second).run canvas = _
  rw [run, reached]

/-- A scope gives back the state that it saved, however its body ends. -/
private theorem run_scope {body : Drawing α} {before left : GraphicsState α}
    {saved : List (GraphicsState α)} {path later : List (List (Point α))}
    {ops marks : List (DrawOp α)} {result : Except ChartError Unit}
    (inner : body.run ⟨before, before :: saved, path, ops⟩ =
      (⟨left, before :: saved, later, marks⟩, result)) :
    (scope body).run ⟨before, saved, path, ops⟩ = (⟨before, saved, later, marks⟩, result) := by
  change ((body.run ⟨before, before :: saved, path, ops⟩).1.apply .restore,
    (body.run ⟨before, before :: saved, path, ops⟩).2) = _
  rw [inner]
  rfl

end Running

/-- In a graphics state the drawing has an effect, whatever else a canvas holds. -/
def HasEffect (drawing : Drawing α) (before : GraphicsState α) (effect : Effect α) : Prop :=
  ∀ saved path ops,
    drawing.run ⟨before, saved, path, ops⟩ =
      ((⟨before, saved, path, ops⟩ : Recorder α).after effect, effect.result)

def Settled (drawing : Drawing α) : Prop := ∀ before, ∃ effect, drawing.HasEffect before effect

/-- The drawing comes to its end and records the marks. -/
def Draws (drawing : Drawing α) (before after : GraphicsState α) (marks : List (DrawOp α)) :
    Prop :=
  ∃ path, drawing.HasEffect before ⟨after, marks, path, .ok ()⟩

theorem HasEffect.run_eq {drawing : Drawing α} {canvas : Recorder α} {effect : Effect α}
    (effects : drawing.HasEffect canvas.state effect) :
    drawing.run canvas = (canvas.after effect, effect.result) :=
  effects canvas.saved canvas.path canvas.ops

section Effects

variable {first second : Drawing α} {before : GraphicsState α} {effect later : Effect α}

theorem HasEffect.append (earlier : first.HasEffect before effect)
    (ended : effect.result = .ok ()) (next : second.HasEffect effect.state later) :
    (first ++ second).HasEffect before
      ⟨later.state, effect.marks ++ later.marks, later.path <|> effect.path, later.result⟩ := by
  intro saved path ops
  have reached := earlier saved path ops
  rw [ended] at reached
  rw [run_append_of_ok reached]
  refine (next saved (effect.path.getD path) (ops ++ effect.marks)).trans ?_
  cases path : later.path <;> simp [Recorder.after, path]

theorem HasEffect.append_error {error : ChartError} (earlier : first.HasEffect before effect)
    (failed : effect.result = .error error) :
    (first ++ second).HasEffect before effect := by
  intro saved path ops
  have reached := earlier saved path ops
  rw [failed] at reached ⊢
  exact run_append_of_error reached

theorem HasEffect.scope {body : Drawing α} (inner : body.HasEffect before effect) :
    (Drawing.scope body).HasEffect before { effect with state := before } :=
  fun saved path ops => run_scope (inner (before :: saved) path ops)

end Effects

/-! ### Settled drawings -/

section Settling

@[simp] theorem settled_empty : (empty : Drawing α).Settled :=
  fun before => ⟨⟨before, [], none, .ok ()⟩, fun _saved _path _ops =>
    Prod.ext (Recorder.after_of_unmarked _).symm rfl⟩

@[simp] theorem settled_fail (error : ChartError) : (fail error : Drawing α).Settled :=
  fun before => ⟨⟨before, [], none, .error error⟩, fun _saved _path _ops =>
    Prod.ext (Recorder.after_of_unmarked _).symm rfl⟩

theorem settled_call {step : CanvasCall α} (ignores : step.ignoresPath = true) :
    (call step).Settled := by
  intro before
  obtain ⟨state, marks, applied⟩ := Recorder.apply_ignoresPath step ignores before
  exact ⟨⟨state, marks, none, .ok ()⟩, fun saved path ops => Prod.ext (applied saved path ops) rfl⟩

theorem Settled.append {first second : Drawing α} (earlier : first.Settled)
    (later : second.Settled) : (first ++ second).Settled := by
  intro before
  obtain ⟨effect, effects⟩ := earlier before
  cases ended : effect.result with
  | error error => exact ⟨effect, effects.append_error ended⟩
  | ok =>
      obtain ⟨next, follows⟩ := later effect.state
      exact ⟨_, effects.append ended follows⟩

theorem Settled.scope {body : Drawing α} (settled : body.Settled) :
    (Drawing.scope body).Settled := by
  intro before
  obtain ⟨effect, effects⟩ := settled before
  exact ⟨_, effects.scope⟩

theorem settled_sequence {drawings : List (Drawing α)}
    (settled : ∀ drawing ∈ drawings, drawing.Settled) : (sequence drawings).Settled := by
  induction drawings with
  | nil => exact settled_empty
  | cons first rest ih =>
      rw [List.forall_mem_cons] at settled
      exact settled.1.append (ih settled.2)

theorem settled_calls {list : List (CanvasCall α)}
    (ignore : list.all CanvasCall.ignoresPath = true) : (calls list).Settled :=
  settled_sequence <| List.forall_mem_map.mpr fun step listed =>
    settled_call (List.all_eq_true.mp ignore step listed)

theorem settled_withValue {β : Type} {value : Except ChartError β} {draw : β → Drawing α}
    (settled : ∀ found, value = .ok found → (draw found).Settled) :
    (withValue value draw).Settled := by
  cases value with
  | error error => exact settled_fail error
  | ok found => exact settled found rfl

end Settling

/-! ### Drawings that come to their end -/

section Drawn

variable {before middle after : GraphicsState α} {marks later : List (DrawOp α)}

theorem Draws.settled {drawing : Drawing α}
    (draws : ∀ before, ∃ after marks, drawing.Draws before after marks) : drawing.Settled := by
  intro before
  obtain ⟨after, marks, path, effects⟩ := draws before
  exact ⟨_, effects⟩

theorem Draws.run_ops {drawing : Drawing α} {canvas : Recorder α}
    (draws : drawing.Draws canvas.state after marks) :
    (drawing.run canvas).1.ops = canvas.ops ++ marks := by
  obtain ⟨path, effects⟩ := draws
  rw [effects.run_eq]
  rfl

theorem draws_of_silent {drawing : Drawing α}
    (silent : ∀ saved path ops,
      drawing.run ⟨before, saved, path, ops⟩ = (⟨after, saved, path, ops⟩, .ok ())) :
    drawing.Draws before after [] :=
  ⟨none, fun saved path ops =>
    (silent saved path ops).trans (Prod.ext (Recorder.after_of_unmarked _).symm rfl)⟩

theorem draws_empty : (empty : Drawing α).Draws before before [] :=
  draws_of_silent fun _saved _path _ops => rfl

theorem Draws.append {first second : Drawing α} (earlier : first.Draws before middle marks)
    (next : second.Draws middle after later) :
    (first ++ second).Draws before after (marks ++ later) := by
  obtain ⟨path, effects⟩ := earlier
  obtain ⟨laterPath, follows⟩ := next
  exact ⟨_, effects.append rfl follows⟩

theorem Draws.scope {body : Drawing α} (inner : body.Draws before after marks) :
    (Drawing.scope body).Draws before before marks := by
  obtain ⟨path, effects⟩ := inner
  exact ⟨path, effects.scope⟩

theorem draws_sequence {β : Type} (list : List β) (draw : β → Drawing α)
    (marksOf : β → List (DrawOp α))
    (each : ∀ item ∈ list, (draw item).Draws before before (marksOf item)) :
    (sequence (list.map draw)).Draws before before (list.flatMap marksOf) := by
  induction list with
  | nil => exact draws_empty
  | cons first rest ih =>
      rw [List.forall_mem_cons] at each
      rw [List.flatMap_cons]
      exact each.1.append (ih each.2)

theorem draws_each {β : Type} (list : List β) (draw : β → Drawing α) (markOf : β → DrawOp α)
    (each : ∀ item, (draw item).Draws before before [markOf item]) :
    (sequence (list.map draw)).Draws before before (list.map markOf) := by
  rw [List.map_eq_flatMap (f := markOf)]
  exact draws_sequence list draw _ fun item _member => each item

end Drawn

theorem run_calls (list : List (CanvasCall α)) (canvas : Recorder α) :
    (calls list).run canvas = (list.foldl Recorder.apply canvas, .ok ()) := by
  induction list generalizing canvas with
  | nil => rfl
  | cons step rest ih => exact ih (canvas.apply step)

end Drawing
end CanvasChart
