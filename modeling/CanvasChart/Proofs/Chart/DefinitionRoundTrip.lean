import CanvasChart.Chart.Definition
import CanvasChart.Proofs.Options.Restoring

set_option autoImplicit false

/-! A chart definition is read back from the value it is written as, when its
numbers are finite and no series holds a color handed out by a chart: numbers
that are not finite are written as null, and handed out colors are left out. -/

namespace CanvasChart

open Json Json.RecordField

/-! ### Series -/

def Key.AllFinite : Key Float → Prop
  | .number value => value.isFinite = true
  | .label _ => True

private theorem key_restorable {key : Key Float} (finite : key.AllFinite) : Restorable key := by
  cases key with
  | number value =>
      refine restorable_of_isAtom ?_ ?_
      · change (encode value).isAtom = true
        rw [encode_of_isFinite finite]
        rfl
      · change (decode (encode value) : Option (Key Float)) = _
        rw [encode_of_isFinite finite]
        rfl
  | label text => exact restorable_of_isAtom rfl rfl

structure DataPoint.AllFinite (point : DataPoint Float) : Prop where
  key : point.key.AllFinite
  value : point.value.isFinite = true

private theorem dataPoint_restorable {point : DataPoint Float} (finite : point.AllFinite) :
    Restorable point := by
  intro value reordered
  obtain ⟨others, rfl, each⟩ := reordered.exists_items
  obtain _ | ⟨keyChanged, _ | ⟨valueChanged, _ | _⟩⟩ := each
  change (decode _).bind (fun key => (decode _).bind fun value => some (DataPoint.mk key value)) = _
  rw [key_restorable finite.key _ keyChanged, Option.bind_some,
    float_restorable finite.value _ valueChanged, Option.bind_some]

namespace Series

structure AllFinite (series : Series Float) : Prop where
  data : ∀ point ∈ series.data, point.AllFinite
  style : series.style.AllFinite

private theorem restorable {series : Series Float} (finite : series.AllFinite)
    (unassigned : series.assignedColor = none) : Restorable series := by
  intro value reordered
  have whole : ({ series with assignedColor := none } : Series Float) = series := by
    rw [← unassigned]
  refine Record.read?_write record_wellNamed fields_separate
    (.cons (optional_restores _ _ (texts_restorable _) rfl) <|
      .cons (of_restores _ _ (list_restorable fun point held =>
        dataPoint_restorable (finite.data point held))) <|
      .cons (Restores.within (optional_restores _ _ (texts_restorable _) rfl) rfl) <|
      .cons (Restores.within
        (optional_restores _ _ (numbers_restorable finite.style.opacity) rfl) rfl) <|
      .cons (Restores.within (SeriesStyle.shapeField_restores rfl) rfl) <|
      .cons (Restores.within
        (optional_restores _ _ (numbers_restorable finite.style.lineWidth) rfl) rfl) <|
      .cons (Restores.within
        (optional_restores _ _ (numbers_restorable finite.style.shapeSize) rfl) rfl) .nil)
    whole reordered

end Series

/-! ### Definitions -/

namespace PlotDefinition

structure AllFinite (plot : PlotDefinition Float) : Prop where
  options : plot.options.style.AllFinite
  series : ∀ series ∈ plot.series, series.AllFinite

private theorem record_wellNamed : record.WellNamed := by decide

private theorem fields_separate : record.fields.Pairwise Separate := by
  simp only [record, Record.plain, List.pairwise_cons, List.forall_mem_cons, List.not_mem_nil,
    false_implies, implies_true, and_true, List.Pairwise.nil]
  repeat' apply And.intro
  all_goals
    refine separate_of_holds ⟨fun _ _ => rfl, fun _ => rfl⟩ ⟨fun _ _ => rfl, fun _ => rfl⟩ ?_
    exact ⟨fun _ _ => rfl, fun _ _ => rfl, fun _ _ _ => rfl⟩

private theorem restorable {plot : PlotDefinition Float} (finite : plot.AllFinite)
    (unassigned : ∀ series ∈ plot.series, series.assignedColor = none) : Restorable plot := by
  intro value reordered
  refine Record.read?_write record_wellNamed fields_separate
    (.cons (mandatory_restores _ _ (plotKind_restorable _)) <|
      .cons (of_restores _ _ (PlotOptions.restorable finite.options)) <|
      .cons (of_restores _ _ (list_restorable fun series held =>
        Series.restorable (finite.series series held) (unassigned series held))) .nil) rfl reordered

end PlotDefinition

namespace ChartDefinition

structure AllFinite (definition : ChartDefinition Float) : Prop where
  options : definition.options.AllFinite
  plots : ∀ plot ∈ definition.plots, plot.AllFinite

private theorem record_wellNamed : record.WellNamed := by decide

private theorem fields_separate : record.fields.Pairwise Separate := by
  refine List.pairwise_pair.mpr ?_
  refine separate_of_holds ⟨fun _ _ => rfl, fun _ => rfl⟩ ⟨fun _ _ => rfl, fun _ => rfl⟩ ?_
  exact ⟨fun _ _ => rfl, fun _ _ => rfl, fun _ _ _ => rfl⟩

end ChartDefinition

/-- A definition is read back from what it is written as, in whatever order the members of its
objects come back. -/
theorem definition_round_trip {definition : ChartDefinition Float} (finite : definition.AllFinite)
    (unassigned : ∀ plot ∈ definition.plots, ∀ series ∈ plot.series,
      series.assignedColor = none) :
    decode (encode definition) = some definition ∧
      ∀ value, Reordered (encode definition) value → decode value = some definition := by
  have options := ChartOptions.restorable finite.options
  have plots : Restorable definition.plots := list_restorable fun plot held =>
    PlotDefinition.restorable (finite.plots plot held) (unassigned plot held)
  have restored : Restorable definition := fun value reordered =>
    Record.read?_write ChartDefinition.record_wellNamed ChartDefinition.fields_separate
      (.cons (of_restores _ _ options) <| .cons (of_restores _ _ plots) .nil) rfl reordered
  exact ⟨restored.decode_encode, restored⟩

def twoBars : ChartDefinition Float :=
  ⟨.standard, [⟨.bar, .standard,
    [⟨some "North", [⟨.label "Jan", 4⟩, ⟨.number 2, 7⟩], .unset, none⟩]⟩]⟩

theorem definition_round_trip_twoBars :
    twoBars.AllFinite ∧ decode (encode twoBars) = some twoBars := by
  have finite : twoBars.AllFinite := by
    have style := SeriesStyle.unset_allFinite
    refine ⟨ChartOptions.standard_allFinite, List.forall_mem_singleton.mpr ⟨style,
      List.forall_mem_singleton.mpr ⟨List.forall_mem_cons.mpr ⟨⟨trivial, ?_⟩,
        List.forall_mem_singleton.mpr ⟨?_, ?_⟩⟩, style⟩⟩⟩
    all_goals exact Binary64.isFinite_ofNat (by decide)
  have unassigned : ∀ plot ∈ twoBars.plots, ∀ series ∈ plot.series,
      series.assignedColor = none :=
    List.forall_mem_singleton.mpr (List.forall_mem_singleton.mpr rfl)
  exact ⟨finite, (definition_round_trip finite unassigned).1⟩

end CanvasChart
