import CanvasChart.Section.Scene
import CanvasChart.Section.Title

set_option autoImplicit false

/-! The legend: a swatch and a name for every series of a visible plot, stacked on
the left and right sides and in one row at the top and bottom. -/

namespace CanvasChart

structure LegendEntry where
  name : String
  color : String
  deriving DecidableEq, Repr

namespace Legend

variable {α : Type} [Scalar α]

def padding : α := 6

def swatchGap : α := 4

def entryGap : α := 4

/-- One entry per series, in plot then series order. Series without a name are
numbered across the chart. -/
def entries (plots : List (Plot α)) : List LegendEntry :=
  ((plots.filter Plot.isVisible).flatMap fun plot =>
    plot.series.map fun series => (plot, series)).mapIdx fun index (plot, series) =>
      { name := series.name.getD ("Series " ++ toString (index + 1))
        color := (plot.styleOf series).color.getD Color.firstSeries }

variable (options : LegendOptions α)

def labelStyle : TextStyle := ⟨options.font, options.color⟩

def title : Option (String × TextStyle) :=
  Title.nonempty options.title ⟨options.titleFont, options.titleColor⟩

def lineHeight : α := Scalar.max (labelStyle options).height options.swatchSize

def titleHeight : α :=
  match title options with
  | some (_, style) => style.height + entryGap
  | none => 0

def entryWidth (entry : LegendEntry) : α :=
  options.swatchSize + swatchGap + (labelStyle options).width entry.name

def measureEntries (listed : List LegendEntry) : Drawing α :=
  .sequence (listed.map fun _ => (labelStyle options).measure)

/-- On a vertical side the names and the title are measured. -/
def measure (plots : List (Plot α)) (side : Side) : Drawing α :=
  let listed := entries plots
  if !options.visible || listed.isEmpty || side.isHorizontal then .empty
  else
    measureEntries options listed ++
      match title options with
      | some (_, style) => style.measure
      | none => .empty

/-- The thickness that the legend needs on a side; nothing without entries. -/
def sizeRequired (plots : List (Plot α)) (side : Side) : α :=
  let listed := entries plots
  if !options.visible || listed.isEmpty then 0
  else if side.isHorizontal then lineHeight options + titleHeight options + 2 * padding
  else
    let widestEntry := (listed.map (entryWidth options)).foldl Scalar.max 0
    let titleWidth : α :=
      match title options with
      | some (text, style) => style.width text
      | none => 0
    Scalar.max widestEntry titleWidth + 2 * padding

def drawEntry (entry : LegendEntry) (corner : Point α) : Drawing α :=
  let line := lineHeight options
  let swatch := options.swatchSize
  .scope (.calls [.setFillStyle entry.color,
    .fillRect ⟨corner.x, corner.y + (line - swatch) / 2, swatch, swatch⟩]) ++
    (labelStyle options).draw entry.name ⟨corner.x + swatch + swatchGap, corner.y + line / 2⟩
      .left .middle

def drawColumn : List LegendEntry → α → Drawing α
  | [], _ => .empty
  | entry :: rest, y =>
      drawEntry options entry ⟨padding, y⟩ ++ drawColumn rest (y + (lineHeight options + entryGap))

def drawRow (y : α) : List LegendEntry → α → Drawing α
  | [], _ => .empty
  | entry :: rest, x =>
      drawEntry options entry ⟨x, y⟩ ++
        drawRow y rest (x + (entryWidth options entry + 2 * entryGap))

def drawVertical (listed : List LegendEntry) (band : Rect α) : Drawing α :=
  let content :=
    titleHeight options + Scalar.ofNat listed.length * (lineHeight options + entryGap) - entryGap
  let start := Scalar.max ((band.height - content) / 2) padding
  match title options with
  | some (text, style) =>
      style.draw text ⟨padding, start⟩ .left .top ++
        drawColumn options listed (start + titleHeight options)
  | none => drawColumn options listed start

def drawHorizontal (listed : List LegendEntry) (band : Rect α) : Drawing α :=
  let widths := listed.map (entryWidth options)
  let total := Scalar.sum widths + 2 * entryGap * (Scalar.ofNat widths.length - 1)
  let start := Scalar.max ((band.width - total) / 2) 0
  match title options with
  | some (text, style) =>
      style.draw text ⟨band.width / 2, padding⟩ .center .top ++ measureEntries options listed ++
        drawRow options (padding + (style.height + entryGap)) listed start
  | none => measureEntries options listed ++ drawRow options padding listed start

def draw (plots : List (Plot α)) (side : Side) (band : Rect α) : Drawing α :=
  let listed := entries plots
  if !options.visible || listed.isEmpty then .empty
  else if side.isHorizontal then drawHorizontal options listed band
  else drawVertical options listed band

end Legend
end CanvasChart
