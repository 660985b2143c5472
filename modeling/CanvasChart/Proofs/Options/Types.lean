import CanvasChart.Proofs.Options.Sections

set_option autoImplicit false

/-! Which values an option takes and what it is got as afterwards. Each option has a
type, and the type says so for every JSON value. -/

namespace CanvasChart

open Json Json.RecordField

/-! ### Types of options -/

inductive OptionType where
  | flag
  | text
  | number
  /-- A whole number that 32 bits hold. -/
  | count
  /-- One of the names, which an object may carry as its only member. -/
  | oneOf (names : List String)
  /-- One of the names, as a string only. -/
  | bareName (names : List String)
  /-- A number or an array of numbers. -/
  | ticks
  | labelFormat
  /-- Null leaves the option open. -/
  | orNull (type : OptionType)
  deriving DecidableEq, Repr

namespace OptionType

def number? : Json → Option Float
  | .integer whole => some (Float.ofInt whole)
  | .real value => some value
  | _ => none

/-- A number as it is got. One that is not finite is got as null. -/
def numberBack (value : Float) : Json :=
  if value.isFinite then .real value else .null

def numberBack? (value : Json) : Option Json := (number? value).map numberBack

def countBack? (bound : Nat) : Json → Option Json
  | .integer (.ofNat whole) => if whole < bound then some (.integer whole) else none
  | _ => none

def nameBack? (names : List String) (name : String) : Option Json :=
  if name ∈ names then some (.string name) else none

def namedBack? (names : List String) : Json → Option Json
  | .string name => nameBack? names name
  | .object [(name, .null)] => nameBack? names name
  | _ => none

def ticksBack? : Json → Option Json
  | .array items => (items.mapM numberBack?).map .array
  | value => numberBack? value

def labelFormatBack? : Json → Option Json
  | .object [("fixed", places)] =>
      (countBack? (2 ^ 64) places).map fun shown => .object [("fixed", shown)]
  | value => namedBack? ["plain", "compact"] value

/-- What an option of the type is got as after the value was set; nothing when the value does
not fit the type. -/
def readBack? : OptionType → Json → Option Json
  | flag, .bool value => some (.bool value)
  | flag, _ => none
  | text, .string value => some (.string value)
  | text, _ => none
  | number, value => numberBack? value
  | count, value => countBack? (2 ^ 32) value
  | oneOf names, value => namedBack? names value
  | bareName names, .string name => nameBack? names name
  | bareName _, _ => none
  | ticks, value => ticksBack? value
  | labelFormat, value => labelFormatBack? value
  | orNull _, .null => some .null
  | orNull type, value => type.readBack? value

end OptionType

/-! ### Values of a type -/

/-- Exactly the JSON values that fit the type are decoded, and they are encoded as they are to be
got. -/
class TypedAs (α : Type) [JsonCodec α] (type : outParam OptionType) : Prop where
  decode_encode : ∀ value, (decode value : Option α).map encode = type.readBack? value

section Values

open OptionType

instance : TypedAs Bool .flag := ⟨fun value => by cases value <;> rfl⟩

instance : TypedAs String .text := ⟨fun value => by cases value <;> rfl⟩

private theorem decode_number (value : Json) : (decode value : Option Float) = number? value := by
  cases value with
  | integer whole => cases whole <;> rfl
  | null | bool | real | string | array | object | unreadable => rfl

private theorem number_decode_encode (value : Json) :
    (decode value : Option Float).map encode = numberBack? value := by
  rw [decode_number]
  rfl

instance : TypedAs Float .number := ⟨number_decode_encode⟩

private theorem decodeBelow_encode {α : Type} {bound : Nat} {ofNat : Nat → α} {shown : α → Json}
    (same : ∀ whole < bound, shown (ofNat whole) = .integer whole) (value : Json) :
    ((decodeBelow bound value).map ofNat).map shown = countBack? bound value := by
  cases value with
  | integer whole =>
      cases whole with
      | ofNat whole =>
          by_cases below : whole < bound
          · simp only [decodeBelow, countBack?, if_pos below, Option.map_some, same whole below]
          · simp only [decodeBelow, countBack?, if_neg below, Option.map_none]
      | negSucc less => rfl
  | null | bool | real | string | array | object | unreadable => rfl

private theorem uint32_decode_encode (value : Json) :
    (decode value : Option UInt32).map encode = countBack? (2 ^ 32) value := by
  have same (whole : Nat) (below : whole < 2 ^ 32) :
      encode (UInt32.ofNat whole) = Json.integer whole :=
    congrArg (fun count : Nat => Json.integer count) (UInt32.toNat_ofNat_of_lt' below)
  exact decodeBelow_encode same value

private theorem uint64_decode_encode (value : Json) :
    (decode value : Option UInt64).map encode = countBack? (2 ^ 64) value := by
  have same (whole : Nat) (below : whole < 2 ^ 64) :
      encode (UInt64.ofNat whole) = Json.integer whole :=
    congrArg (fun count : Nat => Json.integer count) (UInt64.toNat_ofNat_of_lt' below)
  exact decodeBelow_encode same value

instance : TypedAs UInt32 .count := ⟨uint32_decode_encode⟩

private theorem lookup_encode {α : Type} [JsonCodec α] {table : List (String × α)}
    (shown : ∀ entry ∈ table, encode entry.2 = Json.string entry.1) (name : String) :
    (table.lookup name).map encode = nameBack? (table.map Prod.fst) name := by
  induction table with
  | nil => rfl
  | cons entry rest ih =>
      obtain ⟨entryName, content⟩ := entry
      obtain ⟨first, others⟩ := List.forall_mem_cons.mp shown
      by_cases same : name = entryName
      · subst same
        simp [nameBack?, first]
      · rw [List.lookup_cons, beq_false_of_ne same, ih others]
        simp only [nameBack?, List.map_cons, List.mem_cons, same, false_or]

private theorem decodeName_encode {α : Type} [JsonCodec α] (table : List (String × α))
    (shown : ∀ entry ∈ table, encode entry.2 = Json.string entry.1) (value : Json) :
    (decodeName isNull table value).map encode = namedBack? (table.map Prod.fst) value := by
  cases value with
  | string name => exact lookup_encode shown name
  | object members =>
      match members with
      | [] => rfl
      | (_, _) :: _ :: _ => simp only [decodeName, namedBack?, Option.map_none]
      | [(name, payload)] =>
          cases payload with
          | null => exact lookup_encode shown name
          | bool | integer | real | string | array | object | unreadable => rfl
  | null | bool | integer | real | array | unreadable => rfl

instance : TypedAs Scale (.oneOf ["linear", "log"]) :=
  ⟨decodeName_encode [("linear", Scale.linear), ("log", .log)] (by simp [encode])⟩

instance : TypedAs TickSide (.oneOf ["outside", "inside", "middle"]) :=
  ⟨decodeName_encode [("outside", TickSide.outside), ("inside", .inside), ("middle", .middle)]
    (by simp [encode])⟩

instance : TypedAs Side (.oneOf ["bottom", "left", "top", "right"]) :=
  ⟨decodeName_encode (Side.all.map fun side => (side.label, side))
    (List.forall_mem_map.mpr fun _ _ => rfl)⟩

private theorem mapM_decode_encode {α : Type} [JsonCodec α] {back? : Json → Option Json}
    (each : ∀ value, (decode value : Option α).map encode = back? value) (items : List Json) :
    (items.mapM (decode : Json → Option α)).map (List.map encode) = items.mapM back? := by
  induction items with
  | nil => rfl
  | cons item rest ih =>
      rw [List.mapM_cons, List.mapM_cons, ← each, ← ih]
      cases (decode item : Option α) with
      | none => rfl
      | some first => cases rest.mapM (decode : Json → Option α) <;> rfl

instance : TypedAs (TickPolicy Float) .ticks where
  decode_encode value := by
    cases value with
    | array items =>
        change ((items.mapM decode).map TickPolicy.explicit).map encode =
          (items.mapM numberBack?).map .array
        rw [← mapM_decode_encode number_decode_encode, Option.map_map, Option.map_map]
        rfl
    | null | bool | integer | real | string | object | unreadable =>
        change ((decode _ : Option Float).map TickPolicy.every).map encode = _
        rw [Option.map_map]
        exact number_decode_encode _

instance : TypedAs LabelFormat .labelFormat where
  decode_encode value := by
    change _ = labelFormatBack? value
    unfold labelFormatBack?
    split
    case h_1 places =>
      change ((decode places).map LabelFormat.fixed).map encode = _
      rw [← uint64_decode_encode, Option.map_map, Option.map_map]
      rfl
    case h_2 notFixed =>
      have read : (decode value : Option LabelFormat) =
          decodeName isNull [("plain", .plain), ("compact", .compact)] value := by
        change (match value with | .object [("fixed", places)] => _ | value => _) = _
        split
        · exact absurd rfl (notFixed _)
        · rfl
      rw [read]
      exact decodeName_encode [("plain", LabelFormat.plain), ("compact", .compact)]
        (by simp [encode]) value

instance {α : Type} [JsonCodec α] {type : OptionType} [TypedAs α type] :
    TypedAs (Option α) (.orNull type) where
  decode_encode value := by
    have inner := TypedAs.decode_encode (α := α) value
    cases value with
    | null => rfl
    | bool | integer | real | string | array | object | unreadable =>
        exact (Option.map_map _ _ _).trans inner

end Values

/-! ### Fields of a type -/

namespace Json.RecordField

variable {ρ σ : Type} {type : OptionType}

/-- Exactly the values that fit the type are read into the field. It is then written as they are
read back. -/
def HasType (field : RecordField ρ) (type : OptionType) : Prop :=
  ∀ value held, (field.read value held).map field.write = type.readBack? value

private theorem self_hasType {α : Type} [JsonCodec α] [TypedAs α type] :
    (self : RecordField α).HasType type :=
  fun value _ => TypedAs.decode_encode value

theorem Embeds.hasType {field : RecordField ρ} {inner : RecordField σ} {get : ρ → σ}
    {put : σ → ρ → ρ} (embeds : field.Embeds inner get put) (typed : inner.HasType type)
    (isPart : IsPart get put) : field.HasType type := by
  intro value held
  rw [← typed value (get held), embeds.read, Option.map_map]
  refine Option.map_congr fun part _ => ?_
  rw [Function.comp_apply, embeds.write, isPart.get_put]

private theorem hasType_of_holds {α : Type} [JsonCodec α] [TypedAs α type] {field : RecordField ρ}
    {get : ρ → α} {put : α → ρ → ρ} (holds : field.Holds get put) (isPart : IsPart get put) :
    field.HasType type :=
  holds.hasType self_hasType isPart

/-- The fields have the names and the types of the table. -/
def Typed (fields : List (RecordField ρ)) (types : List (String × OptionType)) : Prop :=
  List.Forall₂ (fun field entry => field.name = entry.1 ∧ field.HasType entry.2) fields types

theorem Typed.within {fields : List (RecordField σ)} {types : List (String × OptionType)}
    {get : ρ → σ} {put : σ → ρ → ρ} (typed : Typed fields types) (isPart : IsPart get put) :
    Typed (fields.map fun field => field.within get put) types :=
  List.forall₂_map_left_iff.mpr <| typed.imp fun _ _ named =>
    ⟨named.1, (within_embeds _ get put).hasType named.2 isPart⟩

end Json.RecordField

/-! ### The options of every section -/

namespace AxisOptions

def types : List (String × OptionType) :=
  [ ("title", .orNull .text),
    ("titleFont", .text),
    ("titleColor", .text),
    ("majorGrid", .flag),
    ("minorGrid", .flag),
    ("gridColor", .text),
    ("ticks", .orNull .ticks),
    ("tickLength", .number),
    ("tickSide", .oneOf ["outside", "inside", "middle"]),
    ("tickColor", .text),
    ("minorTicks", .count),
    ("minorTickLength", .number),
    ("scale", .oneOf ["linear", "log"]),
    ("logBase", .number),
    ("showLabels", .flag),
    ("labelFont", .text),
    ("labelColor", .text),
    ("labelFormat", .labelFormat) ]

theorem fields_typed : Typed fields types := by
  simp only [Typed, fields, types, List.forall₂_cons, List.forall₂_nil_left_iff, and_true]
  repeat' apply And.intro
  all_goals
    first
    | rfl
    | exact hasType_of_holds ⟨fun _ _ => rfl, fun _ => rfl⟩ ⟨fun _ _ => rfl, fun _ _ _ => rfl⟩

end AxisOptions

namespace LegendOptions

def types : List (String × OptionType) :=
  [ ("show", .flag),
    ("side", .oneOf ["bottom", "left", "top", "right"]),
    ("title", .orNull .text),
    ("font", .text),
    ("color", .text),
    ("titleFont", .text),
    ("titleColor", .text),
    ("swatchSize", .number) ]

theorem fields_typed : Typed fields types := by
  simp only [Typed, fields, types, List.forall₂_cons, List.forall₂_nil_left_iff, and_true]
  repeat' apply And.intro
  all_goals
    first
    | rfl
    | exact hasType_of_holds ⟨fun _ _ => rfl, fun _ => rfl⟩ ⟨fun _ _ => rfl, fun _ _ _ => rfl⟩

end LegendOptions

namespace ChartOptions

def ownTypes : List (String × OptionType) :=
  [ ("title", .orNull .text),
    ("titleFont", .text),
    ("titleColor", .text),
    ("borderWidth", .number),
    ("borderColor", .text),
    ("plotBorderWidth", .number),
    ("plotBorderColor", .text),
    ("width", .orNull .number),
    ("height", .orNull .number),
    ("barSpacer", .number),
    ("background", .orNull .text) ]

theorem ownFields_typed : Typed ownFields ownTypes := by
  simp only [Typed, ownFields, ownTypes, List.forall₂_cons, List.forall₂_nil_left_iff, and_true]
  repeat' apply And.intro
  all_goals
    first
    | rfl
    | exact hasType_of_holds ⟨fun _ _ => rfl, fun _ => rfl⟩ ⟨fun _ _ => rfl, fun _ _ _ => rfl⟩

def typeOf? (key : FlatKey) : Option OptionType :=
  match key.target with
  | .chart => ownTypes.lookup key.option
  | .legend => LegendOptions.types.lookup key.option
  | .axis _ => AxisOptions.types.lookup key.option

end ChartOptions

namespace SeriesStyle

def shapeType : OptionType :=
  .orNull (.bareName ["circle", "square", "diamond", "triangle", "cross"])

def types : List (String × OptionType) :=
  [ ("color", .orNull .text),
    ("opacity", .orNull .number),
    ("shape", shapeType),
    ("lineWidth", .orNull .number),
    ("shapeSize", .orNull .number) ]

theorem fieldsWith_typed {read : Json → Option (Option Shape)}
    (reads : ∀ value, (read value).map encode = shapeType.readBack? value) :
    Typed (fieldsWith read) types := by
  have shapeTyped : (shapeField read).HasType shapeType :=
    (shapeField_embeds read).hasType (fun value _ => reads value) ⟨fun _ _ => rfl, fun _ _ _ => rfl⟩
  simp only [Typed, fieldsWith, types, List.forall₂_cons, List.forall₂_nil_left_iff, and_true]
  repeat' apply And.intro
  all_goals
    first
    | rfl
    | exact shapeTyped
    | exact hasType_of_holds ⟨fun _ _ => rfl, fun _ => rfl⟩ ⟨fun _ _ => rfl, fun _ _ _ => rfl⟩

end SeriesStyle

namespace PlotOptions

def ownTypes : List (String × OptionType) :=
  [ ("visible", .flag),
    ("stacked", .orNull .flag),
    ("discrete", .orNull .flag),
    ("xSide", .oneOf ["bottom", "left", "top", "right"]),
    ("ySide", .oneOf ["bottom", "left", "top", "right"]),
    ("fill", .flag) ]

def types : List (String × OptionType) := SeriesStyle.types ++ ownTypes

private theorem ownFields_typed : Typed ownFields ownTypes := by
  simp only [Typed, ownFields, ownTypes, List.forall₂_cons, List.forall₂_nil_left_iff, and_true]
  repeat' apply And.intro
  all_goals
    first
    | rfl
    | exact hasType_of_holds ⟨fun _ _ => rfl, fun _ => rfl⟩ ⟨fun _ _ => rfl, fun _ _ _ => rfl⟩

theorem fieldsWith_typed {read : Json → Option (Option Shape)}
    (reads : ∀ value, (read value).map encode = SeriesStyle.shapeType.readBack? value) :
    Typed (fieldsWith read) types :=
  List.rel_append ((SeriesStyle.fieldsWith_typed reads).within style_isPart) ownFields_typed

end PlotOptions

namespace Series

/-- The options of a series. Its data is none of them. -/
def types : List (String × OptionType) := ("name", .orNull .text) :: SeriesStyle.types

theorem nameField_typed : nameField.HasType (.orNull .text) :=
  hasType_of_holds ⟨fun _ _ => rfl, fun _ => rfl⟩ ⟨fun _ _ => rfl, fun _ _ _ => rfl⟩

end Series

end CanvasChart
