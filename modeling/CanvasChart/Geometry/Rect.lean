import CanvasChart.Side

set_option autoImplicit false

/-! Points, rectangles and the amounts by which the sides of a rectangle are moved
inward. Rows grow downward, so the top of a rectangle is its least row. -/

namespace CanvasChart

structure Point (α : Type) where
  x : α
  y : α

structure Rect (α : Type) where
  x : α
  y : α
  width : α
  height : α

structure Insets (α : Type) where
  top : α
  right : α
  bottom : α
  left : α

namespace Insets

variable {α : Type}

def uniform (amount : α) : Insets α := ⟨amount, amount, amount, amount⟩

def get (insets : Insets α) : Side → α
  | .bottom => insets.bottom
  | .left => insets.left
  | .top => insets.top
  | .right => insets.right

def set (insets : Insets α) (side : Side) (amount : α) : Insets α :=
  match side with
  | .bottom => { insets with bottom := amount }
  | .left => { insets with left := amount }
  | .top => { insets with top := amount }
  | .right => { insets with right := amount }

end Insets

namespace Rect

variable {α : Type} [Scalar α]

def right (rect : Rect α) : α := rect.x + rect.width

def bottom (rect : Rect α) : α := rect.y + rect.height

def center (rect : Rect α) : Point α := ⟨rect.x + rect.width / 2, rect.y + rect.height / 2⟩

def moved (rect : Rect α) (dx dy : α) : Rect α :=
  { rect with x := rect.x + dx, y := rect.y + dy }

def inset (rect : Rect α) (insets : Insets α) : Rect α where
  x := rect.x + insets.left
  y := rect.y + insets.top
  width := Scalar.max (rect.width - insets.left - insets.right) 0
  height := Scalar.max (rect.height - insets.top - insets.bottom) 0

def lengthAlong (rect : Rect α) (side : Side) : α :=
  if side.isHorizontal then rect.width else rect.height

/-- The extent at a right angle to the edge on a side. -/
def lengthAcross (rect : Rect α) (side : Side) : α :=
  if side.isHorizontal then rect.height else rect.width

/-- The band of the given thickness outside a side, `offset` away from the edge
and as long as the edge. -/
def band (rect : Rect α) (side : Side) (offset size : α) : Rect α :=
  match side with
  | .bottom => ⟨rect.x, rect.bottom + offset, rect.width, size⟩
  | .top => ⟨rect.x, rect.y - offset - size, rect.width, size⟩
  | .left => ⟨rect.x - offset - size, rect.y, size, rect.height⟩
  | .right => ⟨rect.right + offset, rect.y, size, rect.height⟩

def corner (rect : Rect α) (first second : Side) : Point α :=
  let horizontal := if first.isHorizontal then first else second
  let vertical := if first.isHorizontal then second else first
  { x := if vertical = .right then rect.right else rect.x
    y := if horizontal = .top then rect.y else rect.bottom }

end Rect
end CanvasChart
