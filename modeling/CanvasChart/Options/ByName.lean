import CanvasChart.Error
import CanvasChart.Json.Record

set_option autoImplicit false

/-! Setting and getting the options of a section by name. A name outside the
section's list is unknown; a value that does not decode is invalid, and leaves
the section as it was. -/

namespace CanvasChart.Json.Record

variable {ρ : Type} (record : Record ρ)

def optionNames : List String := record.fields.map RecordField.name

def setOption (name : String) (value : Json) (held : ρ) : Except ChartError ρ :=
  match record.field? name with
  | none => .error (.unknownOption name)
  | some field =>
      match field.read value held with
      | none => .error (.invalidOptionValue name)
      | some next => .ok next

def getOption (name : String) (held : ρ) : Except ChartError Json :=
  match record.field? name with
  | none => .error (.unknownOption name)
  | some field => .ok (field.write held)

end CanvasChart.Json.Record
