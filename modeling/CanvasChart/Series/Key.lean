import CanvasChart.Label

set_option autoImplicit false

/-! Data points. A key is a number on a continuous axis and a category name on a
discrete one. -/

namespace CanvasChart

inductive Key (α : Type) where
  | number (value : α)
  | label (text : String)

namespace Key

variable {α : Type}

def number? : Key α → Option α
  | number value => some value
  | label _ => none

/-- The printed key. Points are matched to categories and stacked by it. -/
def text [Scalar α] : Key α → String
  | number value => LabelFormat.plainText value
  | label text => text

def position [Scalar α] (index : Nat) (key : Key α) : α := key.number?.getD (Scalar.ofNat index)

instance : JsonCodec (Key Float) where
  encode
    | number value => encode value
    | label text => .string text
  decode
    | .string text => some (label text)
    | value => (decode value).map number

end Key

structure DataPoint (α : Type) where
  key : Key α
  value : α

instance : JsonCodec (DataPoint Float) where
  encode point := .array [encode point.key, encode point.value]
  decode
    | .array [key, value] => do return { key := ← decode key, value := ← decode value }
    | _ => none

end CanvasChart
