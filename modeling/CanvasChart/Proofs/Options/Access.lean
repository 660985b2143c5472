import CanvasChart.Proofs.Options.ByName
import CanvasChart.Proofs.Options.Sections
import Mathlib.Data.List.Pairwise

set_option autoImplicit false

/-! What setting and getting options of a chart, a plot and a series does: the
option that the key names is read back, and every other option stays. -/

namespace CanvasChart

open Json Json.RecordField

/-! ### Fields by name -/

section Named

variable {ρ σ : Type}

def fieldNamed? (fields : List (RecordField ρ)) (name : String) : Option (RecordField ρ) :=
  fields.find? fun field => field.name = name

theorem mem_of_fieldNamed {fields : List (RecordField ρ)} {name : String} {field : RecordField ρ}
    (found : fieldNamed? fields name = some field) : field ∈ fields ∧ field.name = name :=
  ⟨List.mem_of_find?_eq_some found, by simpa using List.find?_some found⟩

private theorem separate_of_fieldNamed {fields : List (RecordField ρ)}
    (separate : fields.Pairwise Separate) {name other : String} {field otherField : RecordField ρ}
    (found : fieldNamed? fields name = some field)
    (otherFound : fieldNamed? fields other = some otherField) (different : name ≠ other) :
    field.Separate otherField := by
  have symmetric : Std.Symm (α := RecordField ρ) Separate := ⟨fun _ _ => Separate.symm⟩
  obtain ⟨member, named⟩ := mem_of_fieldNamed found
  obtain ⟨otherMember, otherNamed⟩ := mem_of_fieldNamed otherFound
  refine separate.forall member otherMember fun same => different ?_
  rw [← named, ← otherNamed, same]

theorem fieldNamed_isSome (fields : List (RecordField ρ)) (name : String) :
    (fieldNamed? fields name).isSome = (fields.map RecordField.name).contains name := by
  apply Bool.eq_iff_iff.mpr
  simp only [fieldNamed?, List.find?_isSome, List.contains_iff_mem, List.mem_map, decide_eq_true_iff]

theorem fieldNamed_append (fields others : List (RecordField ρ)) (name : String) :
    fieldNamed? (fields ++ others) name = (fieldNamed? fields name).or (fieldNamed? others name) :=
  List.find?_append

private theorem fieldNamed_within (fields : List (RecordField σ)) (get : ρ → σ) (put : σ → ρ → ρ)
    (name : String) :
    fieldNamed? (fields.map fun field => field.within get put) name =
      (fieldNamed? fields name).map fun field => field.within get put :=
  List.find?_map

private theorem fieldNamed_typed {fields : List (RecordField ρ)}
    {types : List (String × OptionType)} (typed : Typed fields types) (name : String) :
    Option.Rel HasType (fieldNamed? fields name) (types.lookup name) := by
  induction typed with
  | nil => exact .none
  | @cons field entry fields types named _ ih =>
      obtain ⟨entryName, type⟩ := entry
      obtain ⟨rfl, hasType⟩ := named
      by_cases same : field.name = name
      · subst same
        simpa [fieldNamed?] using Option.Rel.some hasType
      · rw [List.lookup_cons, beq_false_of_ne (Ne.symm same)]
        simpa [fieldNamed?, same] using ih

end Named

/-! ### Charts -/

namespace ChartOptions

/-- The option that a flat key names, as a field of the chart. -/
def optionAt (key : FlatKey) : Option (RecordField (ChartOptions Float)) :=
  match key.target with
  | .chart => fieldNamed? ownFields key.option
  | .legend =>
      (fieldNamed? LegendOptions.fields key.option).map fun field => field.within legend putLegend
  | .axis side =>
      (fieldNamed? AxisOptions.fields key.option).map fun field =>
        field.within (fun options => options.axis side) (putAxis side)

/-- A value that does not fit is told by the option's name inside its section. -/
def refusal (name : String) (_ : Json) : ChartError :=
  .invalidOptionValue (FlatKey.parse name).option

private theorem reportKey_setField {ρ : Type} (field? : Option (RecordField ρ))
    (option name : String) (value : Json) (held : ρ) :
    reportKey name (setField field? option (.invalidOptionValue option) value held) =
      setField field? name (.invalidOptionValue option) value held := by
  cases field? with
  | none => rfl
  | some field =>
      simp only [setField]
      cases field.read value held <;> rfl

private theorem reportKey_getField {ρ : Type} (field? : Option (RecordField ρ))
    (option name : String) (held : ρ) :
    reportKey name (getField field? option held) = getField field? name held := by
  cases field? <;> rfl

private theorem reportKey_map {ρ σ : Type} (name : String) (change : ρ → σ)
    (result : Except ChartError ρ) :
    reportKey name (result.map change) = (reportKey name result).map change := by
  cases result with
  | ok part => rfl
  | error error => cases error <;> rfl

theorem tabled : Tabled FlatKey.parse optionAt refusal set get where
  set_eq name value held := by
    unfold set refusal
    generalize FlatKey.parse name = key
    obtain ⟨target, option⟩ := key
    cases target with
    | chart => exact reportKey_setField _ option name value held
    | legend =>
        refine (reportKey_map _ _ _).trans (.trans ?_ (setField_within _ _ _ _ _ _ _).symm)
        exact congrArg _ (reportKey_setField _ option name value held.legend)
    | axis side =>
        refine (reportKey_map _ _ _).trans (.trans ?_ (setField_within _ _ _ _ _ _ _).symm)
        exact congrArg _ (reportKey_setField _ option name value (held.axis side))
  get_eq name held := by
    unfold get
    generalize FlatKey.parse name = key
    obtain ⟨target, option⟩ := key
    cases target with
    | chart => exact reportKey_getField _ option name held
    | legend =>
        exact (reportKey_getField _ option name held.legend).trans (getField_within _ _ _ _ _).symm
    | axis side =>
        exact (reportKey_getField _ option name (held.axis side)).trans
          (getField_within _ _ (fun options => options.axis side) (putAxis side) _).symm

private theorem optionAt_cases {key : FlatKey} {field : RecordField (ChartOptions Float)}
    (found : optionAt key = some field) :
    (key.target = .chart ∧ fieldNamed? ownFields key.option = some field) ∨
    (∃ inner, key.target = .legend ∧ fieldNamed? LegendOptions.fields key.option = some inner ∧
      field.Embeds inner legend putLegend) ∨
    (∃ side inner, key.target = .axis side ∧
      fieldNamed? AxisOptions.fields key.option = some inner ∧
      field.Embeds inner (fun options => options.axis side) (putAxis side)) := by
  obtain ⟨target, option⟩ := key
  cases target with
  | chart => exact .inl ⟨rfl, found⟩
  | legend =>
      obtain ⟨inner, named, rfl⟩ := Option.map_eq_some_iff.mp found
      exact .inr (.inl ⟨inner, rfl, named, within_embeds _ _ _⟩)
  | axis side =>
      obtain ⟨inner, named, rfl⟩ := Option.map_eq_some_iff.mp found
      exact .inr (.inr ⟨side, inner, rfl, named, within_embeds _ _ _⟩)

private theorem optionAt_lawful {key : FlatKey} {field : RecordField (ChartOptions Float)}
    (found : optionAt key = some field) : field.Lawful := by
  obtain ⟨-, named⟩ | ⟨inner, -, named, embeds⟩ | ⟨side, inner, -, named, embeds⟩ :=
    optionAt_cases found
  · exact ownFields_lawful field (mem_of_fieldNamed named).1
  · exact embeds.lawful (LegendOptions.fields_lawful inner (mem_of_fieldNamed named).1)
      legend_isPart
  · exact embeds.lawful (AxisOptions.fields_lawful inner (mem_of_fieldNamed named).1)
      (axis_isPart side)

private theorem optionAt_separate {key other : FlatKey}
    {field otherField : RecordField (ChartOptions Float)}
    (found : optionAt key = some field) (otherFound : optionAt other = some otherField)
    (different : key ≠ other) : field.Separate otherField := by
  obtain ⟨target, option⟩ := key
  obtain ⟨otherTarget, otherOption⟩ := other
  have renamed : target = otherTarget → option ≠ otherOption := fun sameTarget sameOption =>
    different (by rw [sameTarget, sameOption])
  obtain ⟨rfl, named⟩ | ⟨inner, rfl, named, embeds⟩ | ⟨side, inner, rfl, named, embeds⟩ :=
      optionAt_cases found <;>
    obtain ⟨rfl, otherNamed⟩ | ⟨otherInner, rfl, otherNamed, otherEmbeds⟩ |
      ⟨otherSide, otherInner, rfl, otherNamed, otherEmbeds⟩ := optionAt_cases otherFound
  case inl.inl =>
    exact separate_of_fieldNamed (List.pairwise_append.mp fields_separate).1 named otherNamed
      (renamed rfl)
  case inl.inr.inl =>
    exact (ownFields_outside_legend field (mem_of_fieldNamed named).1).separate otherEmbeds
  case inl.inr.inr =>
    exact (ownFields_outside_axis otherSide field (mem_of_fieldNamed named).1).separate otherEmbeds
  case inr.inl.inl =>
    exact ((ownFields_outside_legend otherField (mem_of_fieldNamed otherNamed).1).separate
      embeds).symm
  case inr.inl.inr.inl =>
    exact embeds.separate otherEmbeds
      (separate_of_fieldNamed LegendOptions.fields_separate named otherNamed (renamed rfl))
      legend_isPart
  case inr.inl.inr.inr => exact (embeds.outside (legend_apart otherSide)).separate otherEmbeds
  case inr.inr.inl =>
    exact ((ownFields_outside_axis side otherField (mem_of_fieldNamed otherNamed).1).separate
      embeds).symm
  case inr.inr.inr.inl => exact ((otherEmbeds.outside (legend_apart side)).separate embeds).symm
  case inr.inr.inr.inr =>
    by_cases sameSide : side = otherSide
    · subst sameSide
      exact embeds.separate otherEmbeds
        (separate_of_fieldNamed AxisOptions.fields_separate named otherNamed (renamed rfl))
        (axis_isPart side)
    · exact (embeds.outside (axes_apart sameSide)).separate otherEmbeds

private theorem optionAt_typed (key : FlatKey) :
    Option.Rel HasType (optionAt key) (typeOf? key) := by
  obtain ⟨target, option⟩ := key
  cases target with
  | chart => exact fieldNamed_typed ownFields_typed option
  | legend =>
      have typed := fieldNamed_typed (LegendOptions.fields_typed.within legend_isPart) option
      rw [fieldNamed_within] at typed
      exact typed
  | axis side =>
      have typed := fieldNamed_typed (AxisOptions.fields_typed.within (axis_isPart side)) option
      rw [fieldNamed_within] at typed
      exact typed

private theorem accessLaws : AccessLaws FlatKey.parse typeOf? refusal set get :=
  tabled.accessLaws optionAt_typed optionAt_lawful optionAt_separate

end ChartOptions

/-! ### Styles -/

namespace SeriesStyle

def readShapeOption (value : Json) : Option (Option Shape) := (Shape.ofOption value).toOption

def shapeText : Json → String
  | .string text => text
  | value => value.text

/-- A value that is no shape is told by its text, any other that does not fit by the option. -/
def refusal (name : String) (value : Json) : ChartError :=
  if name = "shape" then .unknownShape (shapeText value) else .invalidOptionValue name

private theorem readShapeOption_encode (shape : Option Shape) :
    readShapeOption (encode shape) = some shape := by
  cases shape with
  | none => rfl
  | some shape => cases shape <;> rfl

private theorem readShapeOption_readBack (value : Json) :
    (readShapeOption value).map encode = shapeType.readBack? value := by
  cases value with
  | string name =>
      simp only [readShapeOption, Shape.ofOption, Shape.ofName]
      cases found : Shape.all.find? fun shape => shape.name = name with
      | some shape =>
          obtain rfl : shape.name = name := by simpa using List.find?_some found
          cases shape <;> rfl
      | none =>
          have absent : name ∉ Shape.all.map Shape.name := by
            intro member
            obtain ⟨shape, known, named⟩ := List.mem_map.mp member
            exact List.find?_eq_none.mp found shape known (decide_eq_true named)
          exact (if_neg absent).symm
  | null | bool | integer | real | array | object | unreadable => rfl

private theorem ofOption_error {value : Json} {error : ChartError}
    (failed : Shape.ofOption value = .error error) : error = refusal "shape" value := by
  cases value with
  | string text =>
      simp only [Shape.ofOption, Shape.ofName] at failed
      split at failed
      · cases failed
      · cases failed
        rfl
  | null => cases failed
  | bool | integer | real | array | object | unreadable =>
      cases failed
      rfl

private theorem fieldNamed_of_ne (read other : Json → Option (Option Shape)) {name : String}
    (different : name ≠ "shape") :
    fieldNamed? (fieldsWith read) name = fieldNamed? (fieldsWith other) name := by
  have unequal : ¬ "shape" = name := Ne.symm different
  simp only [fieldNamed?, fieldsWith, List.find?_cons, shapeField, RecordField.optional,
    RecordField.of, unequal, decide_false]

private theorem tabled : Tabled id (fieldNamed? (fieldsWith readShapeOption)) refusal set get where
  set_eq name value held := by
    by_cases isShape : name = "shape"
    · subst isShape
      change (Shape.ofOption value).map _ =
        setField (some (shapeField readShapeOption)) "shape" (refusal "shape" value) value held
      cases read : Shape.ofOption value with
      | ok shape => simp only [setField, shapeField, readShapeOption, read]; rfl
      | error error =>
          simp only [setField, shapeField, readShapeOption, read]
          exact congrArg Except.error (ofOption_error read)
    · rw [set, if_neg isShape, id, fieldNamed_of_ne readShapeOption decode isShape, refusal,
        if_neg isShape]
      rfl
  get_eq name held := by
    by_cases isShape : name = "shape"
    · subst isShape
      rfl
    · rw [id, fieldNamed_of_ne readShapeOption decode isShape]
      rfl

private theorem isOption_iff (read : Json → Option (Option Shape)) (name : String) :
    isOption name = (fieldNamed? (fieldsWith read) name).isSome :=
  (fieldNamed_isSome (fieldsWith read) name).symm

end SeriesStyle

/-! ### Plots -/

namespace PlotOptions

def settableFields : List (RecordField (PlotOptions Float)) :=
  fieldsWith SeriesStyle.readShapeOption

private theorem tabled : Tabled id (fieldNamed? settableFields) SeriesStyle.refusal set get where
  set_eq name value held := by
    simp only [settableFields, fieldsWith, fieldNamed_append, fieldNamed_within, id]
    have isOption := SeriesStyle.isOption_iff SeriesStyle.readShapeOption name
    cases found : fieldNamed? (SeriesStyle.fieldsWith SeriesStyle.readShapeOption) name with
    | none =>
        rw [found] at isOption
        have notShape : name ≠ "shape" := by
          rintro rfl
          cases found
        rw [set, isOption, Option.isSome_none, if_neg Bool.false_ne_true, SeriesStyle.refusal,
          if_neg notShape]
        change setField (fieldNamed? (fieldsWith SeriesStyle.readInlineShape) name) _ _ _ _ = _
        rw [fieldsWith, fieldNamed_append, fieldNamed_within,
          SeriesStyle.fieldNamed_of_ne _ SeriesStyle.readShapeOption notShape, found]
    | some field =>
        rw [found] at isOption
        rw [set, isOption, Option.isSome_some, if_pos rfl, Option.map_some, Option.some_or,
          SeriesStyle.tabled.set_eq, id, found]
        exact (setField_within (some field) name _ style putStyle value held).symm
  get_eq name held := by
    change getField (fieldNamed? (fieldsWith SeriesStyle.readInlineShape) name) _ _ = _
    by_cases isShape : name = "shape"
    · subst isShape
      rfl
    · simp only [settableFields, fieldsWith, fieldNamed_append, fieldNamed_within, id,
        SeriesStyle.fieldNamed_of_ne _ SeriesStyle.readShapeOption isShape]

private theorem accessLaws :
    AccessLaws id (fun name => types.lookup name) SeriesStyle.refusal set get :=
  tabled.accessLaws (fieldNamed_typed (fieldsWith_typed SeriesStyle.readShapeOption_readBack))
    (fun found => fieldsWith_lawful SeriesStyle.readShapeOption_encode _
      (mem_of_fieldNamed found).1)
    (separate_of_fieldNamed (fieldsWith_separate _))

end PlotOptions

/-! ### Series -/

namespace Series

def settableFields : List (RecordField (Series Float)) :=
  nameField :: (SeriesStyle.fieldsWith SeriesStyle.readShapeOption).map fun field =>
    field.within style putStyle

private theorem settableFields_sublist :
    settableFields.Sublist (fieldsWith SeriesStyle.readShapeOption) :=
  .cons_cons _ (.cons _ (.refl _))

private theorem settableFields_lawful : ∀ field ∈ settableFields, field.Lawful := by
  refine List.forall_mem_cons.mpr ⟨nameField_lawful, List.forall_mem_map.mpr fun inner member => ?_⟩
  exact (within_embeds inner _ _).lawful
    (SeriesStyle.fieldsWith_lawful _ SeriesStyle.readShapeOption_encode inner member) style_isPart

private theorem fieldNamed_settable {name : String} (different : name ≠ "name") :
    fieldNamed? settableFields name =
      (fieldNamed? (SeriesStyle.fieldsWith SeriesStyle.readShapeOption) name).map fun field =>
        field.within style putStyle := by
  rw [← fieldNamed_within]
  have unequal : ¬ "name" = name := Ne.symm different
  exact List.find?_cons_of_neg (by simp [nameField, RecordField.optional, RecordField.of, unequal])

private theorem tabled : Tabled id (fieldNamed? settableFields) SeriesStyle.refusal set get where
  set_eq name value held := by
    by_cases isName : name = "name"
    · subst isName
      rfl
    · rw [set, if_neg isName, id, fieldNamed_settable isName, SeriesStyle.tabled.set_eq]
      exact (setField_within _ name _ style putStyle value held).symm
  get_eq name held := by
    by_cases isName : name = "name"
    · subst isName
      rfl
    · rw [get, if_neg isName, id, fieldNamed_settable isName, SeriesStyle.tabled.get_eq]
      exact (getField_within _ name style putStyle held).symm

private theorem settableFields_typed : Typed settableFields types :=
  .cons ⟨rfl, nameField_typed⟩
    ((SeriesStyle.fieldsWith_typed SeriesStyle.readShapeOption_readBack).within style_isPart)

private theorem accessLaws :
    AccessLaws id (fun name => types.lookup name) SeriesStyle.refusal set get :=
  tabled.accessLaws (fieldNamed_typed settableFields_typed)
    (fun found => settableFields_lawful _ (mem_of_fieldNamed found).1)
    (separate_of_fieldNamed ((fieldsWith_separate _).sublist settableFields_sublist))

/-- No option reaches the data of a series or the color that the chart handed out. -/
private theorem set_keeps {name : String} {value : Json} {series next : Series Float}
    (done : series.set name value = .ok next) :
    next.data = series.data ∧ next.assignedColor = series.assignedColor := by
  by_cases isName : name = "name"
  · subst isName
    change setField (some nameField) "name" (.invalidOptionValue "name") value series = .ok next
      at done
    obtain ⟨_, found, read⟩ := setField_eq_ok done
    cases found
    obtain ⟨content, _, rfl⟩ := Option.map_eq_some_iff.mp read
    exact ⟨rfl, rfl⟩
  · rw [set, if_neg isName] at done
    cases changed : series.style.set name value with
    | error error =>
        rw [changed] at done
        cases done
    | ok style =>
        rw [changed] at done
        cases done
        exact ⟨rfl, rfl⟩

end Series

/-- Setting and getting options by name, of charts, of plots and of series. A value that fits the
type of the option is set and is got, as the type says, under every name of the option and under no
other; any other value is refused, and the refusal tells why. -/
theorem options_set_get :
    AccessLaws FlatKey.parse ChartOptions.typeOf? ChartOptions.refusal ChartOptions.set
        ChartOptions.get ∧
      AccessLaws id (fun name => PlotOptions.types.lookup name) SeriesStyle.refusal PlotOptions.set
        PlotOptions.get ∧
      AccessLaws id (fun name => Series.types.lookup name) SeriesStyle.refusal Series.set
        Series.get ∧
      ∀ {name value} {series next : Series Float}, series.set name value = .ok next →
        next.data = series.data ∧ next.assignedColor = series.assignedColor :=
  ⟨ChartOptions.accessLaws, PlotOptions.accessLaws, Series.accessLaws, Series.set_keeps⟩

/-- The ticks of the bottom axis are set under one of its two names and got under the other. A text
does not tell whether the legend is shown, and a star is no shape. -/
theorem options_set_get_ticks :
    (∃ next, ChartOptions.set "xAxisTicks" (.integer 5) .standard = .ok next ∧
      ChartOptions.get "bottomAxisTicks" next = .ok (.real 5) ∧
      ChartOptions.set "xAxisTicks" (.real 5) next = .ok next ∧
      ChartOptions.get "legendTitle" next = ChartOptions.get "legendTitle" .standard) ∧
      ChartOptions.set "legendShow" (.string "no") .standard =
        .error (.invalidOptionValue "show") ∧
      PlotOptions.set "shape" (.string "star") .standard = .error (.unknownShape "star") ∧
      Series.set "size" (.integer 3) .empty = .error (.unknownOption "size") := by
  obtain ⟨chartLaws, plotLaws, seriesLaws, -⟩ := options_set_get
  have back : (OptionType.orNull .ticks).readBack? (.integer 5) = some (.real 5) := by
    have five : Float.ofInt 5 = 5 := by decide +kernel
    change some (OptionType.numberBack (Float.ofInt 5)) = _
    rw [five]
    exact congrArg some (if_pos (by decide))
  have ticksType : ChartOptions.typeOf? (FlatKey.parse "xAxisTicks") = some (.orNull .ticks) := by
    decide
  obtain ⟨next, done, got⟩ := chartLaws.taken ticksType back .standard
  refine ⟨⟨next, done, got "bottomAxisTicks" (by decide), ?_, ?_⟩, ?_, ?_, ?_⟩
  · exact chartLaws.again (by decide) done (got "xAxisTicks" rfl)
  · exact chartLaws.frame done "legendTitle" (by decide)
  · exact chartLaws.declined (by rfl) (by rfl) .standard
  · exact plotLaws.declined (by rfl) (by rfl) .standard
  · have unlisted : Series.get "size" .empty = .error (.unknownOption "size") := rfl
    exact (seriesLaws.unknown unlisted).2 (.integer 3) .empty

end CanvasChart
