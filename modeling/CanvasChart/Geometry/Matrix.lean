import CanvasChart.Geometry.Rect

set_option autoImplicit false

/-! Affine maps of the plane. -/

namespace CanvasChart

/-- The map that takes `(x, y)` to `(a * x + c * y + e, b * x + d * y + f)`. -/
structure Matrix (α : Type) where
  a : α
  b : α
  c : α
  d : α
  e : α
  f : α

namespace Matrix

variable {α : Type} [Scalar α]

def identity : Matrix α := ⟨1, 0, 0, 1, 0, 0⟩

def shift (x y : α) : Matrix α := ⟨1, 0, 0, 1, x, y⟩

def rotation (angle : α) : Matrix α :=
  ⟨Scalar.cos angle, Scalar.sin angle, -Scalar.sin angle, Scalar.cos angle, 0, 0⟩

/-- The map that applies `second` first and `first` after it. -/
def multiply (first second : Matrix α) : Matrix α where
  a := first.a * second.a + first.c * second.b
  b := first.b * second.a + first.d * second.b
  c := first.a * second.c + first.c * second.d
  d := first.b * second.c + first.d * second.d
  e := first.a * second.e + first.c * second.f + first.e
  f := first.b * second.e + first.d * second.f + first.f

def apply (matrix : Matrix α) (point : Point α) : Point α where
  x := matrix.a * point.x + matrix.c * point.y + matrix.e
  y := matrix.b * point.x + matrix.d * point.y + matrix.f

def angle (matrix : Matrix α) : α := Scalar.atan2 matrix.b matrix.a

def boundsOf (matrix : Matrix α) (rect : Rect α) : Rect α :=
  let corners := [
    matrix.apply ⟨rect.x, rect.y⟩,
    matrix.apply ⟨rect.x + rect.width, rect.y⟩,
    matrix.apply ⟨rect.x, rect.y + rect.height⟩,
    matrix.apply ⟨rect.x + rect.width, rect.y + rect.height⟩ ]
  let minX := Scalar.least (corners.map Point.x)
  let maxX := Scalar.greatest (corners.map Point.x)
  let minY := Scalar.least (corners.map Point.y)
  let maxY := Scalar.greatest (corners.map Point.y)
  ⟨minX, minY, maxX - minX, maxY - minY⟩

end Matrix
end CanvasChart
