import CanvasChart.Series.Key
import CanvasChart.Series.Style

set_option autoImplicit false

/-! Series: a named list of data points with display options. -/

namespace CanvasChart

structure Series (α : Type) where
  name : Option String
  data : List (DataPoint α)
  style : SeriesStyle α
  /-- The palette color handed out by the chart. It shows only while neither the
  series nor its plot sets a color, and it is never written out. -/
  assignedColor : Option String

namespace Series

variable {α : Type}

def ofData (data : List (DataPoint α)) : Series α := ⟨none, data, .unset, none⟩

def empty : Series α := ofData []

def ofValues [Scalar α] (values : List α) : Series α :=
  ofData (values.mapIdx fun index value => ⟨.number (Scalar.ofNat index), value⟩)

def keys (series : Series α) : List (Key α) := series.data.map DataPoint.key

def values (series : Series α) : List α := series.data.map DataPoint.value

open Json in
def record : Record (Series Float) where
  fields :=
    [ .optional "name" name fun value series => { series with name := value },
      .of "data" data fun value series => { series with data := value } ] ++
    SeriesStyle.inlineFields.map fun field =>
      field.within style fun value series => { series with style := value }
  start := empty
  acceptsArray := false
  accepts := readable

instance : JsonCodec (Series Float) := ⟨record.write, record.read?⟩

def set (name : String) (value : Json) (series : Series Float) :
    Except ChartError (Series Float) :=
  if name = "name" then record.setOption name value series
  else (series.style.set name value).map fun style => { series with style := style }

def get (name : String) (series : Series Float) : Except ChartError Json :=
  if name = "name" then record.getOption name series else series.style.get name

end Series
end CanvasChart
