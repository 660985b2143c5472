import CanvasChart.Canvas.Recorder
import CanvasChart.Error

set_option autoImplicit false

/-! Drawings: what a component asks of a canvas, as a tree of calls. A scope saves
the graphics state before its body and restores it afterwards, also when the
body fails. -/

namespace CanvasChart

inductive Drawing (α : Type) where
  | empty
  | call (step : CanvasCall α)
  | fail (error : ChartError)
  | andThen (first second : Drawing α)
  | scope (body : Drawing α)

namespace Drawing

variable {α : Type}

instance : Append (Drawing α) := ⟨andThen⟩

def sequence (drawings : List (Drawing α)) : Drawing α := drawings.foldr andThen empty

def calls (list : List (CanvasCall α)) : Drawing α := sequence (list.map call)

/-- A drawing that needs a value, or the error that stands in for the value. -/
def withValue {β : Type} (value : Except ChartError β) (draw : β → Drawing α) : Drawing α :=
  match value with
  | .ok value => draw value
  | .error error => fail error

def line (start stop : Point α) : Drawing α :=
  calls [.beginPath, .moveTo start, .lineTo stop, .stroke]

variable [Scalar α]

/-- The canvas after a drawing, and whether the drawing came to its end. What was
drawn before an error stays. -/
def run : Drawing α → Recorder α → Recorder α × Except ChartError Unit
  | empty, canvas => (canvas, .ok ())
  | call step, canvas => (canvas.apply step, .ok ())
  | fail error, canvas => (canvas, .error error)
  | andThen first second, canvas =>
      match run first canvas with
      | (next, .ok ()) => run second next
      | (next, .error error) => (next, .error error)
  | scope body, canvas =>
      let (next, result) := run body (canvas.apply .save)
      (next.apply .restore, result)

end Drawing
end CanvasChart
