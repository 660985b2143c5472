import CanvasChart.Section.Legend
import CanvasChart.Section.Ticks

set_option autoImplicit false

/-! The sections around the plot area. Each takes a band on one side; a band's
canvas origin is its upper left corner. -/

namespace CanvasChart

inductive Section where
  | ticks (side : Side)
  | axisTitle (side : Side)
  | legend (side : Side)
  /-- The chart title, always at the top. -/
  | chartTitle
  deriving DecidableEq, Repr

namespace Section

variable {α : Type} [Scalar α]

def name : Section → String
  | ticks _ => "ticks"
  | axisTitle _ => "axis-title"
  | legend _ => "legend"
  | chartTitle => "chart-title"

def sizeRequired (scene : Scene α) : Section → α
  | ticks side => Ticks.sizeRequired scene side
  | axisTitle side => Title.sizeRequired (Title.ofAxis scene side)
  | legend side => Legend.sizeRequired scene.options.legend scene.plots side
  | chartTitle => Title.sizeRequired (Title.ofChart scene)

def measure (scene : Scene α) : Section → Drawing α
  | ticks side => Ticks.measure scene side
  | legend side => Legend.measure scene.options.legend scene.plots side
  | axisTitle _ | chartTitle => .empty

def draw (scene : Scene α) (band plotArea : Rect α) : Section → Drawing α
  | ticks side => Ticks.draw scene side plotArea
  | axisTitle side => Title.draw (Title.ofAxis scene side) side band
  | legend side => Legend.draw scene.options.legend scene.plots side band
  | chartTitle => Title.draw (Title.ofChart scene) .top band

/-- The sections on a side, from the plot area outward. -/
def onSide (options : ChartOptions α) (axes : AxisSet α) (side : Side) : List Section :=
  (if (axes.get? side).isSome then [ticks side, axisTitle side] else []) ++
    (if options.legend.visible && decide (options.legend.side = side) then [legend side] else []) ++
    (if side = .top then [chartTitle] else [])

end Section
end CanvasChart
