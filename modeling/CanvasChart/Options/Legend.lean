import CanvasChart.Binary64.Scalar
import CanvasChart.Options.ByName
import CanvasChart.Palette

set_option autoImplicit false

/-! The options of the legend. -/

namespace CanvasChart

structure LegendOptions (α : Type) where
  visible : Bool
  side : Side
  title : Option String
  font : String
  color : String
  titleFont : String
  titleColor : String
  swatchSize : α

namespace LegendOptions

def standard {α : Type} [Scalar α] : LegendOptions α where
  visible := true
  side := .right
  title := none
  font := "10px sans-serif"
  color := Color.textPrimary
  titleFont := "12px sans-serif"
  titleColor := Color.textPrimary
  swatchSize := 10

open Json in
def fields : List (RecordField (LegendOptions Float)) :=
  [ .of "show" visible fun value options => { options with visible := value },
    .of "side" side fun value options => { options with side := value },
    .of "title" title fun value options => { options with title := value },
    .of "font" font fun value options => { options with font := value },
    .of "color" color fun value options => { options with color := value },
    .of "titleFont" titleFont fun value options => { options with titleFont := value },
    .of "titleColor" titleColor fun value options => { options with titleColor := value },
    .of "swatchSize" swatchSize fun value options => { options with swatchSize := value } ]

def record : Json.Record (LegendOptions Float) := .plain fields standard

instance : JsonCodec (LegendOptions Float) := ⟨record.write, record.read?⟩

end LegendOptions
end CanvasChart
