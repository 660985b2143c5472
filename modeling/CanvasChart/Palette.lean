set_option autoImplicit false

/-! Colors of a chart and their assignment to series. A palette is an ordered
list; colors in use move to its end, so that the next assignment starts from
colors that nobody shows. -/

namespace CanvasChart

namespace Color

def textPrimary : String := "#222222"

def textMuted : String := "#666666"

def border : String := "#999999"

def grid : String := "#dddddd"

/-- The color of a series that has none, and the first of the standard palette. -/
def firstSeries : String := "#3b82f6"

end Color

structure Palette where
  colors : List String
  deriving DecidableEq, Repr

namespace Palette

def standard : Palette where
  colors :=
    [ Color.firstSeries, "#ef4444", "#22c55e", "#fbbf24", "#a855f7", "#06b6d4", "#f97316",
      "#ec4899", "#84cc16", "#64748b" ]

/-- Moves the given colors to the end; both parts keep their order. -/
def recycle (palette : Palette) (used : List String) : Palette where
  colors :=
    (palette.colors.filter fun color => !used.contains color) ++
      palette.colors.filter fun color => used.contains color

/-- What an assignment has done so far: every color in use, and how many times
the exhausted palette was reused. -/
structure Progress where
  inUse : List String
  reused : Nat

/-- The color for the next open slot: the first one not in use, or else the next
one in palette order. An empty palette gives the text color. -/
def nextColor (palette : Palette) (progress : Progress) : String × Progress :=
  match palette.colors.find? fun color => !progress.inUse.contains color with
  | some color => (color, { progress with inUse := progress.inUse ++ [color] })
  | none =>
      match palette.colors[progress.reused % palette.colors.length]? with
      | some color => (color, ⟨progress.inUse ++ [color], progress.reused + 1⟩)
      | none =>
          (Color.textPrimary, { progress with inUse := progress.inUse ++ [Color.textPrimary] })

def fill (palette : Palette) : Progress → List (Option String) → List String × Progress
  | progress, [] => ([], progress)
  | progress, some color :: rest =>
      let (filled, final) := fill palette progress rest
      (color :: filled, final)
  | progress, none :: rest =>
      let (color, next) := palette.nextColor progress
      let (filled, final) := fill palette next rest
      (color :: filled, final)

/-- The slots with every open one filled, and the palette with the colors now in
use at its end. -/
def assign (palette : Palette) (used : List String) (slots : List (Option String)) :
    List String × Palette :=
  let (filled, final) := palette.fill ⟨used, 0⟩ slots
  (filled, palette.recycle final.inUse)

end Palette
end CanvasChart
