import CanvasChart.Canvas.Drawing

set_option autoImplicit false

/-! A font and a color for measuring and drawing texts. -/

namespace CanvasChart

structure TextStyle where
  font : String
  color : String

namespace TextStyle

variable {α : Type} [Scalar α]

def height (style : TextStyle) : α := Font.height style.font

def width (style : TextStyle) (text : String) : α := Font.textWidth style.font text

def widest (style : TextStyle) (texts : List String) : α := Font.widestText style.font texts

/-- What measuring texts does to a canvas: the font is selected in a scope of its own. -/
def measure (style : TextStyle) : Drawing α := .scope (.call (.setFont style.font))

theorem measureText_eq_width (style : TextStyle) (text : String) (canvas : Recorder α) :
    ((canvas.apply .save).apply (.setFont style.font)).measureText text = style.width text :=
  rfl

@[simp] theorem run_measure (style : TextStyle) (canvas : Recorder α) :
    style.measure.run canvas = (canvas, .ok ()) :=
  rfl

def select (style : TextStyle) (align : TextAlign) (baseline : TextBaseline) : Drawing α :=
  .calls [.setFont style.font, .setFillStyle style.color, .setTextAlign align,
    .setTextBaseline baseline]

def draw (style : TextStyle) (text : String) (anchor : Point α) (align : TextAlign)
    (baseline : TextBaseline) : Drawing α :=
  .scope (style.select align baseline ++ .call (.fillText text anchor))

/-- Draws a text centered on a point, its line turned by an angle. -/
def drawRotated (style : TextStyle) (text : String) (center : Point α) (angle : α) : Drawing α :=
  .scope <|
    .calls [.translate center.x center.y, .rotate angle] ++
      style.select .center .middle ++ .call (.fillText text ⟨0, 0⟩)

end TextStyle
end CanvasChart
