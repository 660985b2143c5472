import CanvasChart.Proofs.Options.Access

set_option autoImplicit false

/-! Flat keys and nested documents set the same options: the flat key of an
option runs its section and its name together, a document nests them. -/

namespace CanvasChart

open Json Json.RecordField

/-! ### Flat keys -/

namespace FlatKey

end FlatKey

def OptionTarget.optionNames : OptionTarget → List String
  | .chart => ChartOptions.ownRecord.optionNames
  | .legend => LegendOptions.record.optionNames
  | .axis _ => AxisOptions.record.optionNames

namespace FlatKey

private theorem parse_own : ∀ option ∈ ChartOptions.ownRecord.optionNames,
    parse option = ⟨.chart, option⟩ := by
  decide

end FlatKey

/-! ### Documents with one option -/

private theorem exists_fieldNamed {ρ : Type} {record : Record ρ} {option : String}
    (member : option ∈ record.optionNames) :
    ∃ field, fieldNamed? record.fields option = some field := by
  refine Option.isSome_iff_exists.mp ?_
  rw [fieldNamed_isSome]
  exact List.contains_iff_mem.mpr member

private theorem read?_option {ρ : Type} {record : Record ρ} (wellNamed : record.WellNamed)
    (optional : ∀ field ∈ record.fields, field.required = false) {option : String}
    {field : RecordField ρ} (found : fieldNamed? record.fields option = some field) (value : Json) :
    record.read? (.object [(option, value)]) = field.read value record.start := by
  obtain ⟨member, rfl⟩ := mem_of_fieldNamed found
  exact Record.read?_member (wellNamed.fieldOfMember?_name member) optional value

private theorem toOption_setField {ρ : Type} (field : RecordField ρ) (name : String)
    (refusal : ChartError) (value : Json) (held : ρ) :
    (setField (some field) name refusal value held).toOption = field.read value held := by
  simp only [setField]
  cases field.read value held <;> rfl

namespace ChartOptions

private theorem set_own {option : String} (member : option ∈ ownRecord.optionNames) (value : Json) :
    (set option value standard).toOption = decode (.object [(option, value)]) := by
  obtain ⟨field, found⟩ := exists_fieldNamed member
  have place : optionAt (FlatKey.parse option) = some field := by
    rw [FlatKey.parse_own option member]
    exact found
  have foundIn : fieldNamed? record.fields option = some field := by
    change fieldNamed? (ownFields ++ sectionFields) option = some field
    rw [fieldNamed_append, show fieldNamed? ownFields option = some field from found, Option.some_or]
  rw [tabled.set_eq, place, toOption_setField]
  exact (read?_option record_wellNamed record_optional foundIn value).symm

end ChartOptions

end CanvasChart
