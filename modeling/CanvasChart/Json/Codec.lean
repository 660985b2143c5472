import CanvasChart.Json.Value

set_option autoImplicit false

/-! Values with a JSON form. Decoding is strict about kinds: a whole number is
also a number, nothing else converts, and null stands only for an absent value. -/

namespace CanvasChart

class JsonCodec (α : Type) where
  encode : α → Json
  decode : Json → Option α

export JsonCodec (encode decode)

namespace Json

instance : JsonCodec Json where
  encode := id
  decode := some

instance : JsonCodec Bool where
  encode := .bool
  decode
    | .bool value => some value
    | _ => none

instance : JsonCodec String where
  encode := .string
  decode
    | .string text => some text
    | _ => none

/-- A number that is not finite has no JSON form and is written as null. -/
instance : JsonCodec Float where
  encode value := if value.isFinite then .real value else .null
  decode
    | .integer (.ofNat value) => some (Float.ofNat value)
    | .integer (.negSucc value) => some (-Float.ofNat (value + 1))
    | .real value => some value
    | _ => none

/-- A whole number from zero to below `bound`. -/
def decodeBelow (bound : Nat) : Json → Option Nat
  | .integer (.ofNat value) => if value < bound then some value else none
  | _ => none

instance : JsonCodec UInt32 where
  encode value := .integer value.toNat
  decode value := (decodeBelow UInt32.size value).map UInt32.ofNat

instance : JsonCodec UInt64 where
  encode value := .integer value.toNat
  decode value := (decodeBelow UInt64.size value).map UInt64.ofNat

instance {α : Type} [JsonCodec α] : JsonCodec (Option α) where
  encode
    | some value => encode value
    | none => .null
  decode
    | .null => some none
    | value => (decode value).map some

instance {α : Type} [JsonCodec α] : JsonCodec (List α) where
  encode values := .array (values.map encode)
  decode
    | .array items => items.mapM decode
    | _ => none

/-- What a named alternative may carry when it carries nothing. -/
def isNull : Json → Bool
  | .null => true
  | _ => false

/-- The alternative of a table that a value names: by its name alone, or by an
object of the name and an empty payload. -/
def decodeName {α : Type} (isEmpty : Json → Bool) (table : List (String × α)) : Json → Option α
  | .string name => table.lookup name
  | .object [(name, payload)] => if isEmpty payload then table.lookup name else none
  | _ => none

end Json
end CanvasChart
