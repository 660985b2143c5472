import CanvasChart.Proofs.Options.Sections

set_option autoImplicit false

/-! Options of a chart whose numbers are finite are read back from what they are
written as. -/

namespace CanvasChart

open Json Json.RecordField

theorem texts_restorable (text : Option String) : Restorable text :=
  option_restorable rfl fun _ _ => string_restorable _

private theorem flags_restorable (flag : Option Bool) : Restorable flag :=
  option_restorable rfl fun _ _ => bool_restorable _

theorem numbers_restorable {number : Option Float}
    (finite : ∀ value ∈ number, value.isFinite = true) : Restorable number :=
  option_restorable rfl fun value held => float_restorable (finite value held)

/-! ### Axes -/

def TickPolicy.AllFinite : TickPolicy Float → Prop
  | .every step => step.isFinite = true
  | .explicit values => ∀ value ∈ values, value.isFinite = true

private theorem tickPolicy_restorable {policy : TickPolicy Float} (finite : policy.AllFinite) :
    Restorable policy := by
  cases policy with
  | every step => exact every_restorable finite
  | explicit values =>
      exact explicit_restorable (list_restorable fun part held => float_restorable (finite part held))

namespace AxisOptions

structure AllFinite (axis : AxisOptions Float) : Prop where
  ticks : ∀ policy ∈ axis.ticks, policy.AllFinite
  tickLength : axis.tickLength.isFinite = true
  minorTickLength : axis.minorTickLength.isFinite = true
  logBase : axis.logBase.isFinite = true

private theorem standard_allFinite : AllFinite standard where
  ticks _ held := nomatch held
  tickLength := Binary64.isFinite_ofNat (by decide)
  minorTickLength := Binary64.isFinite_ofNat (by decide)
  logBase := Binary64.isFinite_ofNat (by decide)

private theorem restorable {axis : AxisOptions Float} (finite : axis.AllFinite) :
    Restorable axis := by
  intro value reordered
  refine Record.read?_write record_wellNamed fields_separate
    (.cons (of_restores _ _ (texts_restorable _)) <|
      .cons (of_restores _ _ (string_restorable _)) <|
      .cons (of_restores _ _ (string_restorable _)) <|
      .cons (of_restores _ _ (bool_restorable _)) <|
      .cons (of_restores _ _ (bool_restorable _)) <|
      .cons (of_restores _ _ (string_restorable _)) <|
      .cons (of_restores _ _ (option_restorable rfl fun policy held =>
        tickPolicy_restorable (finite.ticks policy held))) <|
      .cons (of_restores _ _ (float_restorable finite.tickLength)) <|
      .cons (of_restores _ _ (tickSide_restorable _)) <|
      .cons (of_restores _ _ (string_restorable _)) <|
      .cons (of_restores _ _ (uint32_restorable _)) <|
      .cons (of_restores _ _ (float_restorable finite.minorTickLength)) <|
      .cons (of_restores _ _ (scale_restorable _)) <|
      .cons (of_restores _ _ (float_restorable finite.logBase)) <|
      .cons (of_restores _ _ (bool_restorable _)) <|
      .cons (of_restores _ _ (string_restorable _)) <|
      .cons (of_restores _ _ (string_restorable _)) <|
      .cons (of_restores _ _ (labelFormat_restorable _)) .nil) rfl reordered

end AxisOptions

/-! ### The legend and the chart -/

namespace LegendOptions

private theorem restorable {legend : LegendOptions Float}
    (finite : legend.swatchSize.isFinite = true) : Restorable legend := by
  intro value reordered
  refine Record.read?_write record_wellNamed fields_separate
    (.cons (of_restores _ _ (bool_restorable _)) <|
      .cons (of_restores _ _ (side_restorable _)) <|
      .cons (of_restores _ _ (texts_restorable _)) <|
      .cons (of_restores _ _ (string_restorable _)) <|
      .cons (of_restores _ _ (string_restorable _)) <|
      .cons (of_restores _ _ (string_restorable _)) <|
      .cons (of_restores _ _ (string_restorable _)) <|
      .cons (of_restores _ _ (float_restorable finite)) .nil) rfl reordered

end LegendOptions

namespace ChartOptions

structure AllFinite (options : ChartOptions Float) : Prop where
  borderWidth : options.borderWidth.isFinite = true
  plotBorderWidth : options.plotBorderWidth.isFinite = true
  width : ∀ value ∈ options.width, value.isFinite = true
  height : ∀ value ∈ options.height, value.isFinite = true
  barSpacer : options.barSpacer.isFinite = true
  swatchSize : options.legend.swatchSize.isFinite = true
  axes : ∀ side, (options.axis side).AllFinite

theorem standard_allFinite : AllFinite standard where
  borderWidth := Binary64.isFinite_ofNat (by decide)
  plotBorderWidth := Binary64.isFinite_ofNat (by decide)
  width _ held := nomatch held
  height _ held := nomatch held
  barSpacer := Binary64.isFinite_ofNat (by decide)
  swatchSize := Binary64.isFinite_ofNat (by decide)
  axes side := by cases side <;> exact AxisOptions.standard_allFinite

theorem restorable {options : ChartOptions Float} (finite : options.AllFinite) :
    Restorable options := by
  intro value reordered
  refine Record.read?_write record_wellNamed fields_separate
    (.cons (of_restores _ _ (texts_restorable _)) <|
      .cons (of_restores _ _ (string_restorable _)) <|
      .cons (of_restores _ _ (string_restorable _)) <|
      .cons (of_restores _ _ (float_restorable finite.borderWidth)) <|
      .cons (of_restores _ _ (string_restorable _)) <|
      .cons (of_restores _ _ (float_restorable finite.plotBorderWidth)) <|
      .cons (of_restores _ _ (string_restorable _)) <|
      .cons (of_restores _ _ (numbers_restorable finite.width)) <|
      .cons (of_restores _ _ (numbers_restorable finite.height)) <|
      .cons (of_restores _ _ (float_restorable finite.barSpacer)) <|
      .cons (of_restores _ _ (texts_restorable _)) <|
      .cons (of_restores _ _ (LegendOptions.restorable finite.swatchSize)) <|
      .cons (alias_restores _ _ _ (AxisOptions.restorable (finite.axes .bottom))) <|
      .cons (alias_restores _ _ _ (AxisOptions.restorable (finite.axes .left))) <|
      .cons (of_restores _ _ (AxisOptions.restorable (finite.axes .top))) <|
      .cons (of_restores _ _ (AxisOptions.restorable (finite.axes .right))) .nil) rfl reordered

end ChartOptions

/-! ### Styles and plots -/

namespace SeriesStyle

structure AllFinite (style : SeriesStyle Float) : Prop where
  opacity : ∀ value ∈ style.opacity, value.isFinite = true
  lineWidth : ∀ value ∈ style.lineWidth, value.isFinite = true
  shapeSize : ∀ value ∈ style.shapeSize, value.isFinite = true

theorem unset_allFinite : AllFinite unset where
  opacity _ held := nomatch held
  lineWidth _ held := nomatch held
  shapeSize _ held := nomatch held

private theorem readInlineShape_encode (shape : Option Shape) {value : Json}
    (reordered : Reordered (encode shape) value) : readInlineShape value = some shape := by
  cases shape with
  | none =>
      rw [reordered.eq_of_isAtom rfl]
      rfl
  | some shape =>
      rw [reordered.eq_of_isAtom (by cases shape <;> rfl)]
      cases shape <;> rfl

theorem shapeField_restores {start held : SeriesStyle Float} (absent : start.shape = none) :
    Restores start held (shapeField readInlineShape) (putShape held.shape) where
  read_write value reordered style := by
    change (readInlineShape value).map _ = _
    rw [readInlineShape_encode held.shape reordered]
    rfl
  omitted left := by
    refine ⟨rfl, ?_⟩
    rw [show held.shape = none from Option.isNone_iff_eq_none.mp left, putShape, ← absent]

end SeriesStyle

namespace PlotOptions

theorem restorable {options : PlotOptions Float} (finite : options.style.AllFinite) :
    Restorable options := by
  intro value reordered
  refine Record.read?_write record_wellNamed fields_separate
    (.cons (Restores.within (optional_restores _ _ (texts_restorable _) rfl) rfl) <|
      .cons (Restores.within (optional_restores _ _ (numbers_restorable finite.opacity) rfl) rfl) <|
      .cons (Restores.within (SeriesStyle.shapeField_restores rfl) rfl) <|
      .cons (Restores.within (optional_restores _ _ (numbers_restorable finite.lineWidth) rfl) rfl) <|
      .cons (Restores.within (optional_restores _ _ (numbers_restorable finite.shapeSize) rfl) rfl) <|
      .cons (of_restores _ _ (bool_restorable _)) <|
      .cons (of_restores _ _ (flags_restorable _)) <|
      .cons (of_restores _ _ (flags_restorable _)) <|
      .cons (of_restores _ _ (side_restorable _)) <|
      .cons (of_restores _ _ (side_restorable _)) <|
      .cons (of_restores _ _ (bool_restorable _)) .nil) rfl reordered

end PlotOptions

end CanvasChart
