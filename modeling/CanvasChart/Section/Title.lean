import CanvasChart.Section.Scene

set_option autoImplicit false

/-! Titles of the chart and of its axes. -/

namespace CanvasChart.Title

variable {α : Type} [Scalar α]

def padding : α := 4

/-- A title with its style; an empty text is no title. -/
def nonempty (title : Option String) (style : TextStyle) : Option (String × TextStyle) :=
  match title with
  | some text => if text = "" then none else some (text, style)
  | none => none

def ofChart (scene : Scene α) : Option (String × TextStyle) :=
  nonempty scene.options.title ⟨scene.options.titleFont, scene.options.titleColor⟩

def ofAxis (scene : Scene α) (side : Side) : Option (String × TextStyle) :=
  match scene.axes.get? side with
  | some axis => nonempty axis.options.title ⟨axis.options.titleFont, axis.options.titleColor⟩
  | none => none

def sizeRequired : Option (String × TextStyle) → α
  | some (_, style) => style.height + 2 * padding
  | none => 0

/-- Draws a title in the middle of its band, upright at the top and bottom and
read upward on the left and downward on the right. -/
def draw (title : Option (String × TextStyle)) (side : Side) (band : Rect α) : Drawing α :=
  match title with
  | none => .empty
  | some (text, style) =>
      match side with
      | .left => style.drawRotated text band.center (-(Scalar.pi / 2))
      | .right => style.drawRotated text band.center (Scalar.pi / 2)
      | .top | .bottom => style.draw text band.center .center .middle

end CanvasChart.Title
