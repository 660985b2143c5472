import CanvasChart.Decimal.Numeral
import CanvasChart.Text.Blank

set_option autoImplicit false

/-! Sizes of fonts and widths of texts. -/

namespace CanvasChart.Font

variable {α : Type} [Scalar α]

/-- The height taken for a font that names no size in pixels. -/
def standardSize : α := 10

/-- The advance of every glyph as a share of the font size. -/
def glyphWidthRatio : α := 0.6

/-- What stands before a final `px`. -/
def pixels? (letters : List Char) : Option (List Char) :=
  match letters.reverse with
  | 'x' :: 'p' :: rest => some rest.reverse
  | _ => none

/-- The size that one word of a font names, before an optional line height. -/
def sizeOfWord? (word : List Char) : Option α := do
  Decimal.number? (← pixels? (word.takeWhile fun letter => letter != '/'))

/-- The first size in pixels that a font names. -/
def size? (font : String) : Option α := (Text.words font.toList).findSome? sizeOfWord?

def height (font : String) : α := (size? font).getD standardSize

def textWidth (font text : String) : α :=
  Scalar.ofNat text.length * height font * glyphWidthRatio

def widestText (font : String) (texts : List String) : α :=
  (texts.map (textWidth font)).foldl Scalar.max 0

end CanvasChart.Font
