import CanvasChart.Json.Writer
import CanvasChart.Options.ByName

set_option autoImplicit false

/-! How series are displayed. A plot's style supplies the defaults of its series. -/

namespace CanvasChart

inductive Shape where
  | circle
  | square
  | diamond
  | triangle
  | cross
  deriving DecidableEq, Repr

namespace Shape

def all : List Shape := [circle, square, diamond, triangle, cross]

def name : Shape → String
  | circle => "circle"
  | square => "square"
  | diamond => "diamond"
  | triangle => "triangle"
  | cross => "cross"

def ofName (name : String) : Except ChartError Shape :=
  match all.find? fun shape => shape.name = name with
  | some shape => .ok shape
  | none => .error (.unknownShape name)

def ofOption : Json → Except ChartError (Option Shape)
  | .null => .ok none
  | .string name => (ofName name).map some
  | value => .error (.unknownShape value.text)

def decodeWith (isEmpty : Json → Bool) : Json → Option Shape :=
  Json.decodeName isEmpty (all.map fun shape => (shape.name, shape))

instance : JsonCodec Shape where
  encode shape := .string shape.name
  decode := decodeWith Json.isNull

end Shape

/-- Display options shared by series and plots; each may be left open. -/
structure SeriesStyle (α : Type) where
  color : Option String
  opacity : Option α
  shape : Option Shape
  lineWidth : Option α
  shapeSize : Option α

namespace SeriesStyle

variable {α : Type}

def unset : SeriesStyle α := ⟨none, none, none, none, none⟩

def orElse (style fallback : SeriesStyle α) : SeriesStyle α where
  color := style.color <|> fallback.color
  opacity := style.opacity <|> fallback.opacity
  shape := style.shape <|> fallback.shape
  lineWidth := style.lineWidth <|> fallback.lineWidth
  shapeSize := style.shapeSize <|> fallback.shapeSize

open Json in
def fields : List (RecordField (SeriesStyle Float)) :=
  [ .optional "color" color fun value style => { style with color := value },
    .optional "opacity" opacity fun value style => { style with opacity := value },
    .optional "shape" shape fun value style => { style with shape := value },
    .optional "lineWidth" lineWidth fun value style => { style with lineWidth := value },
    .optional "shapeSize" shapeSize fun value style => { style with shapeSize := value } ]

def record : Json.Record (SeriesStyle Float) := .plain fields unset

instance : JsonCodec (SeriesStyle Float) := ⟨record.write, record.read?⟩

def isOption (name : String) : Bool := record.optionNames.contains name

/-- Sets an option by name. A shape that does not exist is told by its name. -/
def set (name : String) (value : Json) (style : SeriesStyle Float) :
    Except ChartError (SeriesStyle Float) :=
  if name = "shape" then
    (Shape.ofOption value).map fun shape => { style with shape := shape }
  else record.setOption name value style

def get (name : String) (style : SeriesStyle Float) : Except ChartError Json :=
  record.getOption name style

/-- The empty payloads of a shape name among the members of a plot or series. -/
def isEmptyPayload : Json → Bool
  | .null | .object [] => true
  | _ => false

def readInlineShape : Json → Option (Option Shape)
  | .null => some none
  | value => (Shape.decodeWith isEmptyPayload value).map some

/-- The fields of a style whose options stand among the members of another
record. There the name of a shape may also carry an empty object. -/
def inlineFields : List (Json.RecordField (SeriesStyle Float)) :=
  fields.map fun field =>
    if field.name = "shape" then
      { field with read := fun value style =>
          (readInlineShape value).map fun shape => { style with shape := shape } }
    else field

end SeriesStyle
end CanvasChart
