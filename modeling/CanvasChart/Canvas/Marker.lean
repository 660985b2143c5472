import CanvasChart.Canvas.Drawing
import CanvasChart.Series.Style

set_option autoImplicit false

/-! Markers of data points. -/

namespace CanvasChart.Marker

variable {α : Type} [Scalar α]

def standardSize : α := 6

/-- The outline of a marker with the given half size. -/
def outline (shape : Shape) (center : Point α) (half size : α) : List (CanvasCall α) :=
  let left := center.x - half
  let right := center.x + half
  let above := center.y - half
  let below := center.y + half
  match shape with
  | .circle => [.arc center half 0 (2 * Scalar.pi)]
  | .square => [.rect ⟨left, above, size, size⟩]
  | .diamond =>
      [.moveTo ⟨center.x, above⟩, .lineTo ⟨right, center.y⟩, .lineTo ⟨center.x, below⟩,
        .lineTo ⟨left, center.y⟩]
  | .triangle => [.moveTo ⟨center.x, below⟩, .lineTo ⟨right, above⟩, .lineTo ⟨left, above⟩]
  | .cross =>
      [.moveTo ⟨left, above⟩, .lineTo ⟨right, below⟩, .moveTo ⟨left, below⟩,
        .lineTo ⟨right, above⟩]

/-- Draws a marker in the current styles. A cross is stroked; the other shapes are filled. -/
def draw (shape : Shape) (center : Point α) (size : α) : Drawing α :=
  let finish : List (CanvasCall α) :=
    if shape = .cross then [.stroke] else [.closePath, .fill]
  .calls (.beginPath :: outline shape center (size / 2) size ++ finish)

def drawNamed (name : String) (center : Point α) (size : α) : Drawing α :=
  .withValue (Shape.ofName name) fun shape => draw shape center size

end CanvasChart.Marker
