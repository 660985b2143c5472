import CanvasChart.Canvas.Drawing

set_option autoImplicit false

/-! Paths that are built once and then filled or stroked. -/

namespace CanvasChart

inductive PathCommand (α : Type) where
  | moveTo (point : Point α)
  | lineTo (point : Point α)
  | arc (center : Point α) (radius start stop : α)
  | close

structure Path (α : Type) where
  commands : List (PathCommand α)

def PathCommand.call {α : Type} : PathCommand α → CanvasCall α
  | moveTo point => .moveTo point
  | lineTo point => .lineTo point
  | arc center radius start stop => .arc center radius start stop
  | close => .closePath

namespace Path

variable {α : Type}

def isEmpty (path : Path α) : Bool := path.commands.isEmpty

/-- Begins a new canvas path and follows every command. -/
def trace (path : Path α) : Drawing α :=
  .call .beginPath ++ .calls (path.commands.map PathCommand.call)

def fill (path : Path α) : Drawing α := path.trace ++ .call .fill

def stroke (path : Path α) : Drawing α := path.trace ++ .call .stroke

def line : List (Point α) → Path α
  | [] => ⟨[]⟩
  | first :: rest => ⟨.moveTo first :: rest.map .lineTo⟩

/-- The closed area between the line through the points and a horizontal baseline. -/
def area (points : List (Point α)) (baseline : α) : Path α :=
  match points.head?, points.getLast? with
  | some first, some last =>
      ⟨.moveTo ⟨first.x, baseline⟩ :: points.map .lineTo ++ [.lineTo ⟨last.x, baseline⟩, .close]⟩
  | _, _ => ⟨[]⟩

end Path
end CanvasChart
