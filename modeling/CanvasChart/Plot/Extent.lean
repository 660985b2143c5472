import CanvasChart.Geometry.Rect
import CanvasChart.Plot.Stack

set_option autoImplicit false

/-! The data extent of a plot. -/

namespace CanvasChart

/-- The least box around some points. The least positive coordinates, infinite
when there are none, give logarithmic axes their lower bounds. -/
structure BoundingBox (α : Type) where
  minX : α
  maxX : α
  minY : α
  maxY : α
  minPositiveX : α
  minPositiveY : α

namespace BoundingBox

variable {α : Type} [Scalar α]

def positiveOrInfinite (value : α) : α := if 0 < value then value else Scalar.infinity

/-- A box whose least positive coordinates are its lower bounds, when positive. -/
def new (minX maxX minY maxY : α) : BoundingBox α :=
  ⟨minX, maxX, minY, maxY, positiveOrInfinite minX, positiveOrInfinite minY⟩

def point (x y : α) : BoundingBox α := new x x y y

def union (first second : BoundingBox α) : BoundingBox α where
  minX := Scalar.min first.minX second.minX
  maxX := Scalar.max first.maxX second.maxX
  minY := Scalar.min first.minY second.minY
  maxY := Scalar.max first.maxY second.maxY
  minPositiveX := Scalar.min first.minPositiveX second.minPositiveX
  minPositiveY := Scalar.min first.minPositiveY second.minPositiveY

def unionAll : List (BoundingBox α) → Option (BoundingBox α)
  | [] => none
  | first :: rest => some (rest.foldl union first)

end BoundingBox

namespace Plot

variable {α : Type} [Scalar α]

/-- The coordinates of the data points: numeric key or position in the series,
and stacked upper end. -/
def coordinates (plot : Plot α) : List (Point α) :=
  plot.stackedSeries.flatMap fun (series, extents) =>
    (series.data.zip extents).mapIdx fun index (point, extent) =>
      ⟨point.key.position index, extent.top⟩

def boundingBox (plot : Plot α) : Option (BoundingBox α) :=
  BoundingBox.unionAll (plot.coordinates.map fun place => .point place.x place.y)

end Plot
end CanvasChart
