import CanvasChart.Options.Chart
import CanvasChart.Proofs.Json.Records
import CanvasChart.Proofs.Options.Codecs
import CanvasChart.Series.Basic

set_option autoImplicit false

/-! The options of every section are lawful fields of it that do not overlap, each
under a name of its own. -/

namespace CanvasChart

open Json Json.RecordField

/-! ### Axes and the legend -/

namespace AxisOptions

theorem record_wellNamed : record.WellNamed := by decide

theorem record_optional : ∀ field ∈ record.fields, field.required = false := by decide

theorem fields_lawful : ∀ field ∈ fields, field.Lawful := by
  simp only [fields, List.forall_mem_cons, List.not_mem_nil, false_implies, implies_true, and_true]
  repeat' apply And.intro
  all_goals exact lawful_of_holds ⟨fun _ _ => rfl, fun _ => rfl⟩ ⟨fun _ _ => rfl, fun _ _ _ => rfl⟩

theorem fields_separate : fields.Pairwise Separate := by
  simp only [fields, List.pairwise_cons, List.forall_mem_cons, List.not_mem_nil, false_implies,
    implies_true, and_true, List.Pairwise.nil]
  repeat' apply And.intro
  all_goals
    refine separate_of_holds ⟨fun _ _ => rfl, fun _ => rfl⟩ ⟨fun _ _ => rfl, fun _ => rfl⟩ ?_
    exact ⟨fun _ _ => rfl, fun _ _ => rfl, fun _ _ _ => rfl⟩

end AxisOptions

namespace LegendOptions

theorem record_wellNamed : record.WellNamed := by decide

theorem record_optional : ∀ field ∈ record.fields, field.required = false := by decide

theorem fields_lawful : ∀ field ∈ fields, field.Lawful := by
  simp only [fields, List.forall_mem_cons, List.not_mem_nil, false_implies, implies_true, and_true]
  repeat' apply And.intro
  all_goals exact lawful_of_holds ⟨fun _ _ => rfl, fun _ => rfl⟩ ⟨fun _ _ => rfl, fun _ _ _ => rfl⟩

theorem fields_separate : fields.Pairwise Separate := by
  simp only [fields, List.pairwise_cons, List.forall_mem_cons, List.not_mem_nil, false_implies,
    implies_true, and_true, List.Pairwise.nil]
  repeat' apply And.intro
  all_goals
    refine separate_of_holds ⟨fun _ _ => rfl, fun _ => rfl⟩ ⟨fun _ _ => rfl, fun _ => rfl⟩ ?_
    exact ⟨fun _ _ => rfl, fun _ _ => rfl, fun _ _ _ => rfl⟩

end LegendOptions

/-! ### The chart -/

namespace ChartOptions

theorem record_wellNamed : record.WellNamed := by decide

theorem record_optional : ∀ field ∈ record.fields, field.required = false := by decide

def putLegend (legend : LegendOptions Float) (options : ChartOptions Float) : ChartOptions Float :=
  { options with legend := legend }

def putAxis (side : Side) (axis : AxisOptions Float) (options : ChartOptions Float) :
    ChartOptions Float :=
  options.withAxis side axis

theorem legend_isPart : IsPart legend putLegend := ⟨fun _ _ => rfl, fun _ _ _ => rfl⟩

theorem axis_isPart (side : Side) :
    IsPart (fun options : ChartOptions Float => options.axis side) (putAxis side) := by
  cases side <;> exact ⟨fun _ _ => rfl, fun _ _ _ => rfl⟩

theorem legend_apart (side : Side) : Apart legend putLegend
    (fun options : ChartOptions Float => options.axis side) (putAxis side) := by
  cases side <;> exact ⟨fun _ _ => rfl, fun _ _ => rfl, fun _ _ _ => rfl⟩

theorem axes_apart {side other : Side} (different : side ≠ other) :
    Apart (fun options : ChartOptions Float => options.axis side) (putAxis side)
      (fun options : ChartOptions Float => options.axis other) (putAxis other) := by
  cases side <;> cases other <;>
    first
      | exact absurd rfl different
      | exact ⟨fun _ _ => rfl, fun _ _ => rfl, fun _ _ _ => rfl⟩

theorem ownFields_lawful : ∀ field ∈ ownFields, field.Lawful := by
  simp only [ownFields, List.forall_mem_cons, List.not_mem_nil, false_implies, implies_true,
    and_true]
  repeat' apply And.intro
  all_goals exact lawful_of_holds ⟨fun _ _ => rfl, fun _ => rfl⟩ ⟨fun _ _ => rfl, fun _ _ _ => rfl⟩

theorem ownFields_outside_legend : ∀ field ∈ ownFields, field.Outside legend putLegend := by
  simp only [ownFields, List.forall_mem_cons, List.not_mem_nil, false_implies, implies_true,
    and_true]
  repeat' apply And.intro
  all_goals
    refine outside_of_holds ⟨fun _ _ => rfl, fun _ => rfl⟩ ?_
    exact ⟨fun _ _ => rfl, fun _ _ => rfl, fun _ _ _ => rfl⟩

theorem ownFields_outside_axis (side : Side) : ∀ field ∈ ownFields,
    field.Outside (fun options : ChartOptions Float => options.axis side) (putAxis side) := by
  simp only [ownFields, List.forall_mem_cons, List.not_mem_nil, false_implies, implies_true,
    and_true]
  repeat' apply And.intro
  all_goals
    refine outside_of_holds ⟨fun _ _ => rfl, fun _ => rfl⟩ ?_
    cases side <;> exact ⟨fun _ _ => rfl, fun _ _ => rfl, fun _ _ _ => rfl⟩

theorem fields_separate : record.fields.Pairwise Separate := by
  simp only [record, Record.plain, ownFields, sectionFields, List.cons_append, List.nil_append,
    List.pairwise_cons, List.forall_mem_cons, List.not_mem_nil, false_implies, implies_true,
    and_true, List.Pairwise.nil]
  repeat' apply And.intro
  all_goals
    refine separate_of_holds ⟨fun _ _ => rfl, fun _ => rfl⟩ ⟨fun _ _ => rfl, fun _ => rfl⟩ ?_
    exact ⟨fun _ _ => rfl, fun _ _ => rfl, fun _ _ _ => rfl⟩

end ChartOptions

/-! ### Styles -/

namespace SeriesStyle

def putShape (shape : Option Shape) (style : SeriesStyle Float) : SeriesStyle Float :=
  { style with shape := shape }

def shapeField (read : Json → Option (Option Shape)) : RecordField (SeriesStyle Float) :=
  { RecordField.optional "shape" shape putShape with
    read := fun value style => (read value).map fun shape => putShape shape style }

/-- The options of a style with one of the ways of reading the shape. Among the members of a plot
or series it is read in another way than when it is set by name. -/
def fieldsWith (read : Json → Option (Option Shape)) : List (RecordField (SeriesStyle Float)) :=
  [ .optional "color" color fun value style => { style with color := value },
    .optional "opacity" opacity fun value style => { style with opacity := value },
    shapeField read,
    .optional "lineWidth" lineWidth fun value style => { style with lineWidth := value },
    .optional "shapeSize" shapeSize fun value style => { style with shapeSize := value } ]

variable (read : Json → Option (Option Shape))

theorem shapeField_embeds : (shapeField read).Embeds
    { (self : RecordField (Option Shape)) with read := fun value _ => read value }
    shape putShape :=
  ⟨fun _ _ => rfl, fun _ => rfl⟩

private theorem fieldsWith_separate : (fieldsWith read).Pairwise Separate := by
  simp only [fieldsWith, List.pairwise_cons, List.forall_mem_cons, List.not_mem_nil, false_implies,
    implies_true, and_true, List.Pairwise.nil]
  repeat' apply And.intro
  all_goals
    -- Two fields that hold values, or the shape after or before one that does.
    first
    | refine separate_of_holds ⟨fun _ _ => rfl, fun _ => rfl⟩ ⟨fun _ _ => rfl, fun _ => rfl⟩ ?_
    | refine Outside.separate (outside_of_holds ⟨fun _ _ => rfl, fun _ => rfl⟩ ?_)
        (shapeField_embeds read)
    | apply Separate.symm
      refine Outside.separate (outside_of_holds ⟨fun _ _ => rfl, fun _ => rfl⟩ ?_)
        (shapeField_embeds read)
    exact ⟨fun _ _ => rfl, fun _ _ => rfl, fun _ _ _ => rfl⟩

theorem fieldsWith_lawful (reads : ∀ shape : Option Shape, read (encode shape) = some shape) :
    ∀ field ∈ fieldsWith read, field.Lawful := by
  have shapeLawful : (shapeField read).Lawful := by
    refine (shapeField_embeds read).lawful
      ⟨fun decoded _ => ⟨_, decoded⟩, fun _ => rfl, fun _ decoded _ => ?_⟩
      ⟨fun _ _ => rfl, fun _ _ _ => rfl⟩
    exact (reads _).trans decoded.symm
  simp only [fieldsWith, List.forall_mem_cons, List.not_mem_nil, false_implies, implies_true,
    and_true]
  repeat' apply And.intro
  all_goals
    first
    | exact shapeLawful
    | exact lawful_of_holds ⟨fun _ _ => rfl, fun _ => rfl⟩ ⟨fun _ _ => rfl, fun _ _ _ => rfl⟩

end SeriesStyle

/-! ### Plots and series -/

namespace PlotOptions

theorem record_wellNamed : record.WellNamed := by decide

def putStyle (style : SeriesStyle Float) (options : PlotOptions Float) : PlotOptions Float :=
  { options with style := style }

theorem style_isPart : IsPart style putStyle := ⟨fun _ _ => rfl, fun _ _ _ => rfl⟩

private theorem ownFields_lawful : ∀ field ∈ ownFields, field.Lawful := by
  simp only [ownFields, List.forall_mem_cons, List.not_mem_nil, false_implies, implies_true,
    and_true]
  repeat' apply And.intro
  all_goals exact lawful_of_holds ⟨fun _ _ => rfl, fun _ => rfl⟩ ⟨fun _ _ => rfl, fun _ _ _ => rfl⟩

private theorem ownFields_outside_style : ∀ field ∈ ownFields, field.Outside style putStyle := by
  simp only [ownFields, List.forall_mem_cons, List.not_mem_nil, false_implies, implies_true,
    and_true]
  repeat' apply And.intro
  all_goals
    refine outside_of_holds ⟨fun _ _ => rfl, fun _ => rfl⟩ ?_
    exact ⟨fun _ _ => rfl, fun _ _ => rfl, fun _ _ _ => rfl⟩

private theorem ownFields_separate : ownFields.Pairwise Separate := by
  simp only [ownFields, List.pairwise_cons, List.forall_mem_cons, List.not_mem_nil, false_implies,
    implies_true, and_true, List.Pairwise.nil]
  repeat' apply And.intro
  all_goals
    refine separate_of_holds ⟨fun _ _ => rfl, fun _ => rfl⟩ ⟨fun _ _ => rfl, fun _ => rfl⟩ ?_
    exact ⟨fun _ _ => rfl, fun _ _ => rfl, fun _ _ _ => rfl⟩

/-- The members of plot options with one of the ways of reading the shape. -/
def fieldsWith (read : Json → Option (Option Shape)) : List (RecordField (PlotOptions Float)) :=
  ((SeriesStyle.fieldsWith read).map fun field => field.within style putStyle) ++ ownFields

theorem fieldsWith_separate (read : Json → Option (Option Shape)) :
    (fieldsWith read).Pairwise Separate := by
  refine List.pairwise_append.mpr ⟨pairwise_within (SeriesStyle.fieldsWith_separate read)
    style_isPart, ownFields_separate, ?_⟩
  rintro _ styled own member
  obtain ⟨inner, _, rfl⟩ := List.mem_map.mp styled
  exact ((ownFields_outside_style own member).separate (within_embeds inner _ _)).symm

theorem fields_separate : record.fields.Pairwise Separate :=
  fieldsWith_separate SeriesStyle.readInlineShape

theorem fieldsWith_lawful {read : Json → Option (Option Shape)}
    (reads : ∀ shape : Option Shape, read (encode shape) = some shape) :
    ∀ field ∈ fieldsWith read, field.Lawful := by
  refine List.forall_mem_append.mpr ⟨List.forall_mem_map.mpr fun inner member => ?_,
    ownFields_lawful⟩
  exact (within_embeds inner _ _).lawful (SeriesStyle.fieldsWith_lawful read reads inner member)
    style_isPart

end PlotOptions

namespace Series

theorem record_wellNamed : record.WellNamed := by decide

def putStyle (style : SeriesStyle Float) (series : Series Float) : Series Float :=
  { series with style := style }

theorem style_isPart : IsPart style putStyle := ⟨fun _ _ => rfl, fun _ _ _ => rfl⟩

def nameField : RecordField (Series Float) :=
  .optional "name" name fun value series => { series with name := value }

def dataField : RecordField (Series Float) :=
  .of "data" data fun value series => { series with data := value }

theorem nameField_lawful : nameField.Lawful :=
  lawful_of_holds ⟨fun _ _ => rfl, fun _ => rfl⟩ ⟨fun _ _ => rfl, fun _ _ _ => rfl⟩

private theorem ownFields_outside_style :
    ∀ field ∈ [nameField, dataField], field.Outside style putStyle := by
  simp only [nameField, dataField, List.forall_mem_cons, List.not_mem_nil, false_implies,
    implies_true, and_true]
  repeat' apply And.intro
  all_goals
    refine outside_of_holds ⟨fun _ _ => rfl, fun _ => rfl⟩ ?_
    exact ⟨fun _ _ => rfl, fun _ _ => rfl, fun _ _ _ => rfl⟩

/-- The members of a series with one of the ways of reading the shape. -/
def fieldsWith (read : Json → Option (Option Shape)) : List (RecordField (Series Float)) :=
  [nameField, dataField] ++
    (SeriesStyle.fieldsWith read).map fun field => field.within style putStyle

theorem fieldsWith_separate (read : Json → Option (Option Shape)) :
    (fieldsWith read).Pairwise Separate := by
  have ownSeparate : [nameField, dataField].Pairwise Separate := by
    refine List.pairwise_pair.mpr ?_
    refine separate_of_holds ⟨fun _ _ => rfl, fun _ => rfl⟩ ⟨fun _ _ => rfl, fun _ => rfl⟩ ?_
    exact ⟨fun _ _ => rfl, fun _ _ => rfl, fun _ _ _ => rfl⟩
  refine List.pairwise_append.mpr ⟨ownSeparate,
    pairwise_within (SeriesStyle.fieldsWith_separate read) style_isPart, ?_⟩
  rintro own member _ styled
  obtain ⟨inner, _, rfl⟩ := List.mem_map.mp styled
  exact (ownFields_outside_style own member).separate (within_embeds inner _ _)

theorem fields_separate : record.fields.Pairwise Separate :=
  fieldsWith_separate SeriesStyle.readInlineShape

end Series

end CanvasChart
