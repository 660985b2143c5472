import CanvasChart.Options.Axis
import CanvasChart.Options.FlatKey
import CanvasChart.Options.Legend

set_option autoImplicit false

/-! The options of a chart, its legend and its four axes. -/

namespace CanvasChart

structure ChartOptions (α : Type) where
  title : Option String
  titleFont : String
  titleColor : String
  borderWidth : α
  borderColor : String
  plotBorderWidth : α
  plotBorderColor : String
  width : Option α
  height : Option α
  /-- Pixels between neighbouring bars and at the edges of a category. -/
  barSpacer : α
  background : Option String
  legend : LegendOptions α
  bottomAxis : AxisOptions α
  leftAxis : AxisOptions α
  topAxis : AxisOptions α
  rightAxis : AxisOptions α

namespace ChartOptions

variable {α : Type}

def standard [Scalar α] : ChartOptions α where
  title := none
  titleFont := "16px sans-serif"
  titleColor := Color.textPrimary
  borderWidth := 0
  borderColor := Color.border
  plotBorderWidth := 1
  plotBorderColor := Color.border
  width := none
  height := none
  barSpacer := 4
  background := none
  legend := .standard
  bottomAxis := .standard
  leftAxis := .standard
  topAxis := .standard
  rightAxis := .standard

def axis (options : ChartOptions α) : Side → AxisOptions α
  | .bottom => options.bottomAxis
  | .left => options.leftAxis
  | .top => options.topAxis
  | .right => options.rightAxis

def withAxis (options : ChartOptions α) (side : Side) (axis : AxisOptions α) : ChartOptions α :=
  match side with
  | .bottom => { options with bottomAxis := axis }
  | .left => { options with leftAxis := axis }
  | .top => { options with topAxis := axis }
  | .right => { options with rightAxis := axis }

open Json in
def ownFields : List (RecordField (ChartOptions Float)) :=
  [ .of "title" title fun value options => { options with title := value },
    .of "titleFont" titleFont fun value options => { options with titleFont := value },
    .of "titleColor" titleColor fun value options => { options with titleColor := value },
    .of "borderWidth" borderWidth fun value options => { options with borderWidth := value },
    .of "borderColor" borderColor fun value options => { options with borderColor := value },
    .of "plotBorderWidth" plotBorderWidth fun value options =>
      { options with plotBorderWidth := value },
    .of "plotBorderColor" plotBorderColor fun value options =>
      { options with plotBorderColor := value },
    .of "width" width fun value options => { options with width := value },
    .of "height" height fun value options => { options with height := value },
    .of "barSpacer" barSpacer fun value options => { options with barSpacer := value },
    .of "background" background fun value options => { options with background := value } ]

open Json in
/-- The sections of a chart. In a document the bottom and left axes may also be
called the x and y axes. -/
def sectionFields : List (RecordField (ChartOptions Float)) :=
  [ .of "legend" legend fun value options => { options with legend := value },
    (RecordField.of "bottomAxis" bottomAxis fun value options =>
      { options with bottomAxis := value }).withAlias "xAxis",
    (RecordField.of "leftAxis" leftAxis fun value options =>
      { options with leftAxis := value }).withAlias "yAxis",
    .of "topAxis" topAxis fun value options => { options with topAxis := value },
    .of "rightAxis" rightAxis fun value options => { options with rightAxis := value } ]

def ownRecord : Json.Record (ChartOptions Float) := .plain ownFields standard

def record : Json.Record (ChartOptions Float) := .plain (ownFields ++ sectionFields) standard

instance : JsonCodec (ChartOptions Float) := ⟨record.write, record.read?⟩

/-- An unknown option is reported under the whole flat key. -/
def reportKey {β : Type} (name : String) : Except ChartError β → Except ChartError β
  | .error (.unknownOption _) => .error (.unknownOption name)
  | other => other

def set (name : String) (value : Json) (options : ChartOptions Float) :
    Except ChartError (ChartOptions Float) :=
  let key := FlatKey.parse name
  reportKey name <|
    match key.target with
    | .chart => ownRecord.setOption key.option value options
    | .legend =>
        (LegendOptions.record.setOption key.option value options.legend).map fun legend =>
          { options with legend := legend }
    | .axis side =>
        (AxisOptions.record.setOption key.option value (options.axis side)).map
          (options.withAxis side)

def get (name : String) (options : ChartOptions Float) : Except ChartError Json :=
  let key := FlatKey.parse name
  reportKey name <|
    match key.target with
    | .chart => ownRecord.getOption key.option options
    | .legend => LegendOptions.record.getOption key.option options.legend
    | .axis side => AxisOptions.record.getOption key.option (options.axis side)

end ChartOptions
end CanvasChart
