import CanvasChart.Json.Record
import CanvasChart.Proofs.Json.Restoring

set_option autoImplicit false

/-! The fields of a record as parts of it: reading one field sets its part and
leaves the parts of the other fields alone. -/

namespace CanvasChart.Json

variable {ρ σ τ : Type}

/-! ### Parts of a record -/

/-- What is put into the part is got from it, and nothing is left of what was put there before. -/
structure IsPart (get : ρ → σ) (put : σ → ρ → ρ) : Prop where
  get_put : ∀ part whole, get (put part whole) = part
  put_put : ∀ first second whole, put second (put first whole) = put second whole

/-- Two parts of a record that do not overlap. -/
structure Apart (get : ρ → σ) (put : σ → ρ → ρ) (otherGet : ρ → τ) (otherPut : τ → ρ → ρ) :
    Prop where
  get_put : ∀ other whole, get (otherPut other whole) = get whole
  other_put : ∀ part whole, otherGet (put part whole) = otherGet whole
  put_comm : ∀ part other whole,
    put part (otherPut other whole) = otherPut other (put part whole)

namespace RecordField

/-- Whether a value is read depends on the value only, the record that is read on the value and
the other fields only, and what a field is written as reads like the value it was read from. -/
structure Lawful (field : RecordField ρ) : Prop where
  everywhere : ∀ {value : Json} {held next : ρ}, field.read value held = some next →
    ∀ other, ∃ otherNext, field.read value other = some otherNext
  overwrites : ∀ {first second : Json} {held next : ρ},
    field.read first held = some next → field.read second next = field.read second held
  echoes : ∀ {value : Json} {held next : ρ}, value.genuine = true →
    field.read value held = some next →
      ∀ other, field.read (field.write next) other = field.read value other

/-- Reading one of the fields does not show in the other, and the order of reading is free. -/
structure Separate (field other : RecordField ρ) : Prop where
  other_write : ∀ {value : Json} {held next : ρ},
    field.read value held = some next → other.write next = other.write held
  write_other : ∀ {value : Json} {held next : ρ},
    other.read value held = some next → field.write next = field.write held
  comm : ∀ (value otherValue : Json) (held : ρ),
    (field.read value held).bind (other.read otherValue) =
      (other.read otherValue held).bind (field.read value)

theorem Separate.symm {field other : RecordField ρ} (separate : field.Separate other) :
    other.Separate field :=
  ⟨separate.write_other, separate.other_write, fun value otherValue held =>
    (separate.comm otherValue value held).symm⟩

/-- The field does not overlap with a part of the record. -/
structure Outside (field : RecordField ρ) (get : ρ → σ) (put : σ → ρ → ρ) : Prop where
  get_read : ∀ {value : Json} {held next : ρ},
    field.read value held = some next → get next = get held
  write_put : ∀ part held, field.write (put part held) = field.write held
  read_put : ∀ value part held,
    field.read value (put part held) = (field.read value held).map (put part)

/-! ### Fields of a part -/

structure Embeds (field : RecordField ρ) (inner : RecordField σ) (get : ρ → σ)
    (put : σ → ρ → ρ) : Prop where
  read : ∀ value held,
    field.read value held = (inner.read value (get held)).map fun part => put part held
  write : ∀ held, field.write held = inner.write (get held)

variable {field other : RecordField ρ} {inner otherInner : RecordField σ} {get : ρ → σ}
  {put : σ → ρ → ρ}

theorem within_embeds (inner : RecordField σ) (get : ρ → σ) (put : σ → ρ → ρ) :
    (inner.within get put).Embeds inner get put :=
  ⟨fun _ _ => rfl, fun _ => rfl⟩

theorem Embeds.exists_part (embeds : field.Embeds inner get put) {value : Json} {held next : ρ}
    (read : field.read value held = some next) :
    ∃ part, inner.read value (get held) = some part ∧ next = put part held := by
  rw [embeds.read] at read
  obtain ⟨part, readPart, same⟩ := Option.map_eq_some_iff.mp read
  exact ⟨part, readPart, same.symm⟩

theorem Embeds.lawful (embeds : field.Embeds inner get put) (lawful : inner.Lawful)
    (isPart : IsPart get put) : field.Lawful where
  everywhere {value held next} read other := by
    obtain ⟨part, readPart, rfl⟩ := embeds.exists_part read
    obtain ⟨otherPart, readOther⟩ := lawful.everywhere readPart (get other)
    exact ⟨_, by rw [embeds.read, readOther, Option.map_some]⟩
  overwrites {first second held next} read := by
    obtain ⟨part, readPart, rfl⟩ := embeds.exists_part read
    simp only [embeds.read, isPart.get_put, isPart.put_put, lawful.overwrites readPart]
  echoes {value held next} isGenuine read other := by
    obtain ⟨part, readPart, rfl⟩ := embeds.exists_part read
    rw [embeds.read, embeds.read, embeds.write, isPart.get_put, lawful.echoes isGenuine readPart]

theorem Embeds.separate (embeds : field.Embeds inner get put)
    (otherEmbeds : other.Embeds otherInner get put) (separate : inner.Separate otherInner)
    (isPart : IsPart get put) : field.Separate other where
  other_write {value held next} read := by
    obtain ⟨part, readPart, rfl⟩ := embeds.exists_part read
    rw [otherEmbeds.write, otherEmbeds.write, isPart.get_put, separate.other_write readPart]
  write_other {value held next} read := by
    obtain ⟨part, readPart, rfl⟩ := otherEmbeds.exists_part read
    rw [embeds.write, embeds.write, isPart.get_put, separate.write_other readPart]
  comm value otherValue held := by
    have comm := congrArg (Option.map fun part => put part held)
      (separate.comm value otherValue (get held))
    simpa only [embeds.read, otherEmbeds.read, Option.bind_map, Option.map_bind,
      Function.comp_def, isPart.get_put, isPart.put_put] using comm

theorem pairwise_within {fields : List (RecordField σ)} (separate : fields.Pairwise Separate)
    (isPart : IsPart get put) :
    (fields.map fun field => field.within get put).Pairwise Separate :=
  List.pairwise_map.mpr (separate.imp fun apart =>
    (within_embeds _ get put).separate (within_embeds _ get put) apart isPart)

theorem Embeds.outside {otherGet : ρ → τ} {otherPut : τ → ρ → ρ}
    (embeds : field.Embeds inner get put) (apart : Apart get put otherGet otherPut) :
    field.Outside otherGet otherPut where
  get_read read := by
    obtain ⟨part, _, rfl⟩ := embeds.exists_part read
    exact apart.other_put part _
  write_put part held := by
    rw [embeds.write, embeds.write, apart.get_put]
  read_put value part held := by
    simp only [embeds.read, apart.get_put, apart.put_comm, Option.map_map, Function.comp_def]

theorem Outside.separate (outside : field.Outside get put)
    (embeds : other.Embeds inner get put) : field.Separate other where
  other_write {value held next} read := by
    rw [embeds.write, embeds.write, outside.get_read read]
  write_other {value held next} read := by
    obtain ⟨part, _, rfl⟩ := embeds.exists_part read
    exact outside.write_put part held
  comm value otherValue held := by
    cases readPart : inner.read otherValue (get held) with
    | none =>
        cases read : field.read value held with
        | none => simp [embeds.read, readPart]
        | some next => simp [embeds.read, outside.get_read read, readPart]
    | some part =>
        cases read : field.read value held with
        | none => simp [embeds.read, readPart, outside.read_put, read]
        | some next => simp [embeds.read, outside.get_read read, outside.read_put, readPart, read]

/-! ### Fields that hold one value -/

section Holds

variable {α β : Type} [JsonCodec α] [JsonCodec β]

def self : RecordField α where
  name := ""
  aliases := []
  required := false
  read value _ := decode value
  write := encode
  omitted _ := false

private theorem self_lawful [Echoes α] : (self : RecordField α).Lawful where
  everywhere decoded _ := ⟨_, decoded⟩
  overwrites _ := rfl
  echoes isGenuine decoded _ :=
    (Echoes.restorable isGenuine decoded).decode_encode.trans decoded.symm

/-- The field is the value of the part that `get` gets and `put` puts. -/
abbrev Holds (field : RecordField ρ) (get : ρ → α) (put : α → ρ → ρ) : Prop :=
  field.Embeds self get put

theorem lawful_of_holds [Echoes α] {get : ρ → α} {put : α → ρ → ρ} (holds : field.Holds get put)
    (isPart : IsPart get put) : field.Lawful :=
  holds.lawful self_lawful isPart

theorem outside_of_holds {get : ρ → α} {put : α → ρ → ρ} {otherGet : ρ → τ}
    {otherPut : τ → ρ → ρ} (holds : field.Holds get put)
    (apart : Apart get put otherGet otherPut) : field.Outside otherGet otherPut :=
  holds.outside apart

theorem separate_of_holds {get : ρ → α} {put : α → ρ → ρ} {otherGet : ρ → β}
    {otherPut : β → ρ → ρ} (holds : field.Holds get put) (otherHolds : other.Holds otherGet otherPut)
    (apart : Apart get put otherGet otherPut) : field.Separate other :=
  (holds.outside apart).separate otherHolds

end Holds
end RecordField
end CanvasChart.Json
