import CanvasChart.Json.Codec

set_option autoImplicit false

/-! Records described by their fields. One description serves for reading a
record from an object or an array, for writing it, and for setting and getting
single fields by name. -/

namespace CanvasChart.Json

structure RecordField (ρ : Type) where
  name : String
  /-- Other names that an object may use for the field. -/
  aliases : List String
  required : Bool
  /-- The record with the decoded value in the field. -/
  read : Json → ρ → Option ρ
  write : ρ → Json
  /-- The field is left out when the record is written. -/
  omitted : ρ → Bool

/-- A field that keeps its default when it is absent and is always written. -/
def RecordField.of {ρ α : Type} [JsonCodec α] (name : String) (get : ρ → α) (put : α → ρ → ρ) :
    RecordField ρ where
  name := name
  aliases := []
  required := false
  read value record := (decode value).map fun content => put content record
  write record := encode (get record)
  omitted _ := false

def RecordField.withAlias {ρ : Type} (field : RecordField ρ) (other : String) : RecordField ρ :=
  { field with aliases := other :: field.aliases }

/-- The field must be present when the record is read. -/
def RecordField.mandatory {ρ : Type} (field : RecordField ρ) : RecordField ρ :=
  { field with required := true }

/-- The field is written only while it holds a value. -/
def RecordField.optional {ρ α : Type} [JsonCodec α] (name : String) (get : ρ → Option α)
    (put : Option α → ρ → ρ) : RecordField ρ :=
  { RecordField.of name get put with omitted := fun record => (get record).isNone }

def RecordField.within {ρ σ : Type} (field : RecordField σ) (get : ρ → σ) (put : σ → ρ → ρ) :
    RecordField ρ where
  name := field.name
  aliases := field.aliases
  required := field.required
  read value record := (field.read value (get record)).map fun part => put part record
  write record := field.write (get record)
  omitted record := field.omitted (get record)

/-- The fields of a record, the record that fields are read into, and the rule
for members that name no field. -/
structure Record (ρ : Type) where
  fields : List (RecordField ρ)
  start : ρ
  /-- An array gives the fields in order. -/
  acceptsArray : Bool
  /-- What a member that names no field may hold. -/
  accepts : Json → Bool

namespace Record

variable {ρ : Type} (record : Record ρ)

def field? (name : String) : Option (RecordField ρ) :=
  record.fields.find? fun field => field.name = name

def fieldOfMember? (name : String) : Option (RecordField ρ) :=
  record.fields.find? fun field => field.name = name || field.aliases.contains name

/-- Reads members into a record. `seen` holds the names of the fields already
read; a field must not be read twice. -/
def readMembers : List (String × Json) → List String → ρ → Option (ρ × List String)
  | [], seen, held => some (held, seen)
  | (name, value) :: rest, seen, held =>
      match record.fieldOfMember? name with
      | none => if record.accepts value then readMembers rest seen held else none
      | some field =>
          if seen.contains field.name then none
          else do
            let next ← field.read value held
            readMembers rest (field.name :: seen) next

/-- Reads items into the fields in order. More items than fields are refused;
fewer leave the rest as it was, unless it must be present. -/
def readItems : List (RecordField ρ) → List Json → ρ → Option ρ
  | fields, [], held => if fields.any RecordField.required then none else some held
  | [], _ :: _, _ => none
  | field :: fields, item :: rest, held => do
      let next ← field.read item held
      readItems fields rest next

def read? : Json → Option ρ
  | .object members => do
      let (held, seen) ← record.readMembers members [] record.start
      if record.fields.all fun field => !field.required || seen.contains field.name then some held
      else none
  | .array items => if record.acceptsArray then readItems record.fields items record.start else none
  | _ => none

def write (held : ρ) : Json :=
  .object ((record.fields.filter fun field => !field.omitted held).map fun field =>
    (field.name, field.write held))

end Record

/-- A record whose fields all have defaults, read from an object or an array. -/
def Record.plain {ρ : Type} (fields : List (RecordField ρ)) (start : ρ) : Record ρ where
  fields := fields
  start := start
  acceptsArray := true
  accepts _ := true

end CanvasChart.Json
