import CanvasChart.Options.ByName
import CanvasChart.Proofs.Options.Types

set_option autoImplicit false

/-! The laws of options that are set and got by name. They hold of every setter
and getter that find the option in a table of lawful fields without overlap. -/

namespace CanvasChart

open Json Json.RecordField

variable {ρ σ κ : Type}

/-- The laws of options kept under names. Names with one key are names of one option, and
`types` has the types of the options. -/
structure AccessLaws (key : String → κ) (types : κ → Option OptionType)
    (refusal : String → Json → ChartError) (set : String → Json → ρ → Except ChartError ρ)
    (get : String → ρ → Except ChartError Json) : Prop where
  /-- The names that can be got are those of options. -/
  listed : ∀ name held,
    (∃ content, get name held = .ok content) ↔ ∃ type, types (key name) = some type
  /-- A value that fits the type of the option is set. Under each of its names the option is then
  got as the type says of that value. -/
  taken : ∀ {name type value content}, types (key name) = some type →
    type.readBack? value = some content → ∀ held, ∃ next, set name value held = .ok next ∧
      ∀ other, key other = key name → get other next = .ok content
  /-- A value that does not fit is refused. -/
  declined : ∀ {name type value}, types (key name) = some type → type.readBack? value = none →
    ∀ held, set name value held = .error (refusal name value)
  /-- An option that was set is got under each of its names. -/
  got : ∀ {name value held next}, set name value held = .ok next →
    ∃ content, ∀ other, key other = key name → get other next = .ok content
  /-- No other name notices. -/
  frame : ∀ {name value held next}, set name value held = .ok next →
    ∀ other, key other ≠ key name → get other next = get other held
  /-- What is got then stands for what was set: it sets every record the same. -/
  stands : ∀ {name value held next content}, value.genuine = true →
    set name value held = .ok next → get name next = .ok content →
      ∀ other, set name content other = set name value other
  /-- Setting it again changes nothing. -/
  again : ∀ {name value held next content}, value.genuine = true →
    set name value held = .ok next → get name next = .ok content →
      set name content next = .ok next
  /-- A refusal tells a name that cannot be got from a value that does not fit. It hands out no
  record, so that the one held stays as it is. -/
  refused : ∀ {name value held error}, set name value held = .error error →
    error = match get name held with
      | .ok _ => refusal name value
      | .error _ => .unknownOption name
  /-- A name that cannot be got is unknown, whatever is held, and cannot be set. -/
  unknown : ∀ {name held error}, get name held = .error error →
    error = .unknownOption name ∧
      ∀ value other, set name value other = .error (.unknownOption name)

/-! ### Tables of fields -/

def setField (field? : Option (RecordField ρ)) (name : String) (refusal : ChartError)
    (value : Json) (held : ρ) : Except ChartError ρ :=
  match field? with
  | none => .error (.unknownOption name)
  | some field =>
      match field.read value held with
      | none => .error refusal
      | some next => .ok next

def getField (field? : Option (RecordField ρ)) (name : String) (held : ρ) :
    Except ChartError Json :=
  match field? with
  | none => .error (.unknownOption name)
  | some field => .ok (field.write held)

theorem setField_within (field? : Option (RecordField σ)) (name : String) (refusal : ChartError)
    (get : ρ → σ) (put : σ → ρ → ρ) (value : Json) (held : ρ) :
    setField (field?.map fun field => field.within get put) name refusal value held =
      (setField field? name refusal value (get held)).map fun part => put part held := by
  cases field? with
  | none => rfl
  | some field =>
      simp only [setField, Option.map_some, RecordField.within]
      cases field.read value (get held) <;> rfl

theorem getField_within (field? : Option (RecordField σ)) (name : String)
    (get : ρ → σ) (put : σ → ρ → ρ) (held : ρ) :
    getField (field?.map fun field => field.within get put) name held =
      getField field? name (get held) := by
  cases field? <;> rfl

theorem setField_eq_ok {field? : Option (RecordField ρ)} {name : String} {refusal : ChartError}
    {value : Json} {held next : ρ} (done : setField field? name refusal value held = .ok next) :
    ∃ field, field? = some field ∧ field.read value held = some next := by
  cases field? with
  | none => cases done
  | some field =>
      simp only [setField] at done
      split at done
      · cases done
      · cases done
        exact ⟨field, rfl, by assumption⟩

/-- A setter and a getter that find the option in a table, under the key of its name. -/
structure Tabled (key : String → κ) (table : κ → Option (RecordField ρ))
    (refusal : String → Json → ChartError) (set : String → Json → ρ → Except ChartError ρ)
    (get : String → ρ → Except ChartError Json) : Prop where
  set_eq : ∀ name value held,
    set name value held = setField (table (key name)) name (refusal name value) value held
  get_eq : ∀ name held, get name held = getField (table (key name)) name held

section Tabled

variable {key : String → κ} {table : κ → Option (RecordField ρ)} {types : κ → Option OptionType}
  {refusal : String → Json → ChartError} {set : String → Json → ρ → Except ChartError ρ}
  {get : String → ρ → Except ChartError Json}

theorem Tabled.field_of_set (tabled : Tabled key table refusal set get) {name : String}
    {value : Json} {held next : ρ} (done : set name value held = .ok next) :
    ∃ field, table (key name) = some field ∧ field.read value held = some next := by
  rw [tabled.set_eq] at done
  exact setField_eq_ok done

private theorem exists_field_of_type {place : κ} {type : OptionType}
    (typed : Option.Rel HasType (table place) (types place)) (known : types place = some type) :
    ∃ field, table place = some field ∧ field.HasType type := by
  rw [known] at typed
  generalize table place = field? at typed
  cases typed with
  | some hasType => exact ⟨_, rfl, hasType⟩

theorem Tabled.accessLaws (tabled : Tabled key table refusal set get)
    (typed : ∀ place, Option.Rel HasType (table place) (types place))
    (lawful : ∀ {place field}, table place = some field → field.Lawful)
    (separate : ∀ {place other field otherField}, table place = some field →
      table other = some otherField → place ≠ other → field.Separate otherField) :
    AccessLaws key types refusal set get where
  listed name held := by
    rw [tabled.get_eq]
    have typedHere := typed (key name)
    generalize table (key name) = field?, types (key name) = type? at typedHere
    cases typedHere with
    | none => exact iff_of_false (fun ⟨_, got⟩ => nomatch got) (fun ⟨_, known⟩ => nomatch known)
    | some => exact iff_of_true ⟨_, rfl⟩ ⟨_, rfl⟩
  taken {name type value content} known fits held := by
    obtain ⟨field, found, hasType⟩ := exists_field_of_type (typed _) known
    obtain ⟨next, read, written⟩ := Option.map_eq_some_iff.mp ((hasType value held).trans fits)
    refine ⟨next, by rw [tabled.set_eq, found, setField, read], fun other same => ?_⟩
    rw [tabled.get_eq, same, found, getField, written]
  declined {name type value} known unfit held := by
    obtain ⟨field, found, hasType⟩ := exists_field_of_type (typed _) known
    have unread := Option.map_eq_none_iff.mp ((hasType value held).trans unfit)
    rw [tabled.set_eq, found, setField, unread]
  got {name value held next} done := by
    obtain ⟨field, found, _⟩ := tabled.field_of_set done
    refine ⟨field.write next, fun other same => ?_⟩
    rw [tabled.get_eq, same, found]
    rfl
  frame {name value held next} done other different := by
    obtain ⟨field, found, read⟩ := tabled.field_of_set done
    rw [tabled.get_eq, tabled.get_eq]
    cases otherFound : table (key other) with
    | none => rfl
    | some otherField =>
        exact congrArg Except.ok ((separate found otherFound (Ne.symm different)).other_write read)
  stands {name value held next content} isGenuine done gotten other := by
    obtain ⟨field, found, read⟩ := tabled.field_of_set done
    rw [tabled.get_eq, found] at gotten
    cases gotten
    obtain ⟨otherNext, readOther⟩ := (lawful found).everywhere read other
    simp only [tabled.set_eq, found, setField, (lawful found).echoes isGenuine read other,
      readOther]
  again {name value held next content} isGenuine done gotten := by
    obtain ⟨field, found, read⟩ := tabled.field_of_set done
    rw [tabled.get_eq, found] at gotten
    cases gotten
    simp only [tabled.set_eq, found, setField, (lawful found).echoes isGenuine read next,
      (lawful found).overwrites read, read]
  refused {name value held error} failed := by
    rw [tabled.set_eq] at failed
    rw [tabled.get_eq]
    cases found : table (key name) with
    | none =>
        rw [found] at failed
        cases failed
        rfl
    | some field =>
        simp only [found, setField] at failed
        split at failed
        · cases failed
          rfl
        · cases failed
  unknown {name held error} failed := by
    rw [tabled.get_eq] at failed
    cases found : table (key name) with
    | none =>
        rw [found] at failed
        cases failed
        exact ⟨rfl, fun value other => by rw [tabled.set_eq, found]; rfl⟩
    | some field =>
        rw [found] at failed
        cases failed

end Tabled

end CanvasChart
