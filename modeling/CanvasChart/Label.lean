import CanvasChart.Json.Codec
import CanvasChart.Scalar

set_option autoImplicit false

/-! Label text of numbers. -/

namespace CanvasChart

inductive LabelFormat where
  /-- The shortest decimal of the number rounded to ten places. -/
  | plain
  /-- Thousands, millions and billions are abbreviated. -/
  | compact
  | fixed (places : UInt64)
  deriving DecidableEq, Repr

namespace LabelFormat

variable {α : Type} [Scalar α]

/-- Ten places hide the noise of binary fractions. Zero has no sign. -/
def plainText (value : α) : String :=
  let rounded := Scalar.round (value * 10000000000) / 10000000000
  Scalar.shortest (if rounded == 0 then 0 else rounded)

def compactText (value : α) : String :=
  let magnitude := Scalar.abs value
  let sign := if value < 0 then "-" else ""
  if (1000000000 : α) ≤ magnitude then sign ++ plainText (magnitude / 1000000000) ++ "B"
  else if (1000000 : α) ≤ magnitude then sign ++ plainText (magnitude / 1000000) ++ "M"
  else if (1000 : α) ≤ magnitude then sign ++ plainText (magnitude / 1000) ++ "K"
  else plainText value

def text (format : LabelFormat) (value : α) : String :=
  match format with
  | plain => plainText value
  | compact => compactText value
  | fixed places => Scalar.fixed places.toNat value

/-- Two places, when a fixed number of places is wanted but none is given. -/
def standardFixed : LabelFormat := .fixed 2

instance : JsonCodec LabelFormat where
  encode
    | plain => .string "plain"
    | compact => .string "compact"
    | fixed places => .object [("fixed", encode places)]
  decode
    | .object [("fixed", places)] => (decode places).map fixed
    | value => Json.decodeName Json.isNull [("plain", plain), ("compact", compact)] value

end LabelFormat
end CanvasChart
