import CanvasChart.Chart.AxisResolution
import CanvasChart.Section.Basic

set_option autoImplicit false

/-! The layout of a chart. Every section says how thick a band it needs; the bands
of a side are stacked outward from the plot area, which takes what is left. -/

namespace CanvasChart

structure SectionBand (α : Type) where
  side : Side
  name : String
  rect : Rect α

structure Layout (α : Type) where
  width : α
  height : α
  inner : Rect α
  plotArea : Rect α
  /-- The thickness of all bands of each side. -/
  sizes : Insets α
  axes : AxisSet α
  axisLayout : AxisLayout
  bands : List (SectionBand α)

structure SizedSection (α : Type) where
  place : Section
  size : α

namespace Layout

variable {α : Type} [Scalar α]

def emptySideShare : α := 0.05

/-- The sections of a side with what they need, never less than nothing. -/
def sizedSections (scene : Scene α) (side : Side) : List (SizedSection α) :=
  (Section.onSide scene.options scene.axes side).map fun place =>
    ⟨place, Scalar.max (place.sizeRequired scene) 0⟩

/-- What a canvas is asked while the sections of all sides settle what they need. -/
def measure (scene : Scene α) : Drawing α :=
  .sequence (Side.all.map fun side =>
    .sequence ((Section.onSide scene.options scene.axes side).map (Section.measure scene)))

def sideSize (scene : Scene α) (inner : Rect α) (side : Side) : α :=
  let total := Scalar.sum ((sizedSections scene side).map SizedSection.size)
  if 0 < total then total else emptySideShare * inner.lengthAcross side

def sideSizes (scene : Scene α) (inner : Rect α) : Insets α where
  top := sideSize scene inner .top
  right := sideSize scene inner .right
  bottom := sideSize scene inner .bottom
  left := sideSize scene inner .left

def innerRect (border width height : α) : Rect α where
  x := border
  y := border
  width := Scalar.max (width - 2 * border) 0
  height := Scalar.max (height - 2 * border) 0

def sizeAxes (axes : AxisSet α) (plotArea : Rect α) : AxisSet α :=
  axes.map fun axis =>
    axis.withSizes (plotArea.lengthAlong axis.side) (plotArea.lengthAcross axis.side)

/-- The bands of the sections that need room, stacked outward from an offset. -/
def stackBands (plotArea : Rect α) (side : Side) :
    α → List (SizedSection α) → List (Section × Rect α)
  | _, [] => []
  | offset, first :: rest =>
      if first.size ≤ 0 then stackBands plotArea side offset rest
      else
        (first.place, plotArea.band side offset first.size) ::
          stackBands plotArea side (offset + first.size) rest

/-- The bands of all sides, in the order of the sides. -/
def sectionBands (scene : Scene α) (plotArea : Rect α) : List (Side × Section × Rect α) :=
  Side.all.flatMap fun side =>
    (stackBands plotArea side 0 (sizedSections scene side)).map fun band => (side, band)

end Layout
end CanvasChart
