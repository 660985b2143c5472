import CanvasChart.Json.Codec
import CanvasChart.Scalar

set_option autoImplicit false

/-! The four edges of a plot area, and the two roles an axis can play. -/

namespace CanvasChart

inductive Side where
  | bottom
  | left
  | top
  | right
  deriving DecidableEq, Repr

namespace Side

def all : List Side := [bottom, left, top, right]

def index : Side → Nat
  | bottom => 0
  | left => 1
  | top => 2
  | right => 3

def ofIndex? (index : Nat) : Option Side := all[index]?

def isHorizontal : Side → Bool
  | bottom | top => true
  | left | right => false

def opposite : Side → Side
  | bottom => top
  | left => right
  | top => bottom
  | right => left

def isPerpendicularTo (side other : Side) : Bool := side.isHorizontal != other.isHorizontal

def label : Side → String
  | bottom => "bottom"
  | left => "left"
  | top => "top"
  | right => "right"

/-- The unit vector that points away from the plot area; canvas rows grow downward. -/
def outwardNormal {α : Type} [Scalar α] : Side → α × α
  | bottom => (0, 1)
  | left => (-1, 0)
  | top => (0, -1)
  | right => (1, 0)

instance : ToString Side := ⟨label⟩

instance : JsonCodec Side where
  encode side := .string side.label
  decode := Json.decodeName Json.isNull (all.map fun side => (side.label, side))

end Side

/-- An axis maps either the keys or the values of its plots. -/
inductive AxisKind where
  | x
  | y
  deriving DecidableEq, Repr

end CanvasChart
