import CanvasChart.Binary64.Scalar
import CanvasChart.Label
import CanvasChart.Options.ByName
import CanvasChart.Palette

set_option autoImplicit false

/-! The options of an axis. -/

namespace CanvasChart

inductive Scale where
  | linear
  | log
  deriving DecidableEq, Repr

instance : JsonCodec Scale where
  encode
    | .linear => .string "linear"
    | .log => .string "log"
  decode := Json.decodeName Json.isNull [("linear", .linear), ("log", .log)]

/-- Where tick marks lie with respect to the axis line. -/
inductive TickSide where
  | outside
  | inside
  | middle
  deriving DecidableEq, Repr

instance : JsonCodec TickSide where
  encode
    | .outside => .string "outside"
    | .inside => .string "inside"
    | .middle => .string "middle"
  decode :=
    Json.decodeName Json.isNull [("outside", .outside), ("inside", .inside), ("middle", .middle)]

/-- Which values of a continuous axis get a tick. Without a policy the ticks are chosen. -/
inductive TickPolicy (α : Type) where
  /-- A tick every so many units from the least value on. -/
  | every (step : α)
  | explicit (values : List α)

instance : JsonCodec (TickPolicy Float) where
  encode
    | .every step => encode step
    | .explicit values => encode values
  decode
    | .array items => (decode (.array items)).map .explicit
    | value => (decode value).map .every

structure AxisOptions (α : Type) where
  title : Option String
  titleFont : String
  titleColor : String
  majorGrid : Bool
  minorGrid : Bool
  gridColor : String
  ticks : Option (TickPolicy α)
  tickLength : α
  tickSide : TickSide
  tickColor : String
  minorTicks : UInt32
  minorTickLength : α
  scale : Scale
  logBase : α
  showLabels : Bool
  labelFont : String
  labelColor : String
  labelFormat : LabelFormat

namespace AxisOptions

def standard {α : Type} [Scalar α] : AxisOptions α where
  title := none
  titleFont := "12px sans-serif"
  titleColor := Color.textPrimary
  majorGrid := true
  minorGrid := false
  gridColor := Color.grid
  ticks := none
  tickLength := 6
  tickSide := .outside
  tickColor := Color.border
  minorTicks := 0
  minorTickLength := 3
  scale := .linear
  logBase := 10
  showLabels := true
  labelFont := "10px sans-serif"
  labelColor := Color.textMuted
  labelFormat := .plain

open Json in
def fields : List (RecordField (AxisOptions Float)) :=
  [ .of "title" title fun value options => { options with title := value },
    .of "titleFont" titleFont fun value options => { options with titleFont := value },
    .of "titleColor" titleColor fun value options => { options with titleColor := value },
    .of "majorGrid" majorGrid fun value options => { options with majorGrid := value },
    .of "minorGrid" minorGrid fun value options => { options with minorGrid := value },
    .of "gridColor" gridColor fun value options => { options with gridColor := value },
    .of "ticks" ticks fun value options => { options with ticks := value },
    .of "tickLength" tickLength fun value options => { options with tickLength := value },
    .of "tickSide" tickSide fun value options => { options with tickSide := value },
    .of "tickColor" tickColor fun value options => { options with tickColor := value },
    .of "minorTicks" minorTicks fun value options => { options with minorTicks := value },
    .of "minorTickLength" minorTickLength fun value options =>
      { options with minorTickLength := value },
    .of "scale" scale fun value options => { options with scale := value },
    .of "logBase" logBase fun value options => { options with logBase := value },
    .of "showLabels" showLabels fun value options => { options with showLabels := value },
    .of "labelFont" labelFont fun value options => { options with labelFont := value },
    .of "labelColor" labelColor fun value options => { options with labelColor := value },
    .of "labelFormat" labelFormat fun value options => { options with labelFormat := value } ]

def record : Json.Record (AxisOptions Float) := .plain fields standard

instance : JsonCodec (AxisOptions Float) := ⟨record.write, record.read?⟩

end AxisOptions
end CanvasChart
