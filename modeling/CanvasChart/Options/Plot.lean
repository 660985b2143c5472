import CanvasChart.Series.Style

set_option autoImplicit false

/-! The options of a plot. -/

namespace CanvasChart

structure PlotOptions (α : Type) where
  style : SeriesStyle α
  visible : Bool
  /-- Left open, it depends on the type of the plot. -/
  stacked : Option Bool
  /-- Left open, it depends on the type of the plot. -/
  discrete : Option Bool
  xSide : Side
  ySide : Side
  /-- Line plots fill the area down to the zero line. -/
  fill : Bool

namespace PlotOptions

variable {α : Type}

def standard : PlotOptions α where
  style := .unset
  visible := true
  stacked := none
  discrete := none
  xSide := .bottom
  ySide := .left
  fill := false

open Json in
def ownFields : List (RecordField (PlotOptions Float)) :=
  [ .of "visible" visible fun value options => { options with visible := value },
    .of "stacked" stacked fun value options => { options with stacked := value },
    .of "discrete" discrete fun value options => { options with discrete := value },
    .of "xSide" xSide fun value options => { options with xSide := value },
    .of "ySide" ySide fun value options => { options with ySide := value },
    .of "fill" fill fun value options => { options with fill := value } ]

open Json in
/-- The members of plot options: the options of its style and its own. -/
def record : Record (PlotOptions Float) where
  fields :=
    (SeriesStyle.inlineFields.map fun field =>
      field.within style fun value options => { options with style := value }) ++ ownFields
  start := standard
  acceptsArray := false
  accepts := readable

instance : JsonCodec (PlotOptions Float) := ⟨record.write, record.read?⟩

def set (name : String) (value : Json) (options : PlotOptions Float) :
    Except ChartError (PlotOptions Float) :=
  if SeriesStyle.isOption name then
    (options.style.set name value).map fun style => { options with style := style }
  else record.setOption name value options

def get (name : String) (options : PlotOptions Float) : Except ChartError Json :=
  record.getOption name options

end PlotOptions
end CanvasChart
