import CanvasChart.Options.Axis
import CanvasChart.Plot.Basic
import CanvasChart.Proofs.Json.Restoring

set_option autoImplicit false

/-! What is read back of the values that options and series hold. Names of
alternatives are; numbers are while they are finite. -/

namespace CanvasChart

open Json

/-! ### Named alternatives -/

theorem side_restorable (side : Side) : Restorable side := by
  cases side <;> exact restorable_of_isAtom rfl rfl

instance : Echoes Side := ⟨fun _ _ => side_restorable _⟩

theorem scale_restorable (scale : Scale) : Restorable scale := by
  cases scale <;> exact restorable_of_isAtom rfl rfl

instance : Echoes Scale := ⟨fun _ _ => scale_restorable _⟩

theorem tickSide_restorable (side : TickSide) : Restorable side := by
  cases side <;> exact restorable_of_isAtom rfl rfl

instance : Echoes TickSide := ⟨fun _ _ => tickSide_restorable _⟩

theorem plotKind_restorable (kind : PlotKind) : Restorable kind := by
  cases kind <;> exact restorable_of_isAtom rfl rfl

theorem labelFormat_restorable (format : LabelFormat) : Restorable format := by
  cases format with
  | plain => exact restorable_of_isAtom rfl rfl
  | compact => exact restorable_of_isAtom rfl rfl
  | fixed places =>
      intro value reordered
      obtain ⟨changed, rfl, inner⟩ := reordered.exists_member
      exact congrArg (Option.map LabelFormat.fixed) (uint64_restorable places changed inner)

instance : Echoes LabelFormat := ⟨fun _ _ => labelFormat_restorable _⟩

/-! ### Ticks -/

theorem every_restorable {step : Float} (finite : step.isFinite = true) :
    Restorable (TickPolicy.every step) := by
  refine restorable_of_isAtom ?_ ?_
  · change (encode step).isAtom = true
    rw [encode_of_isFinite finite]
    rfl
  · change (decode (encode step) : Option (TickPolicy Float)) = _
    rw [encode_of_isFinite finite]
    rfl

theorem explicit_restorable {values : List Float} (restorable : Restorable values) :
    Restorable (TickPolicy.explicit values) := by
  intro value reordered
  have read := restorable value reordered
  obtain ⟨others, rfl, _⟩ := reordered.exists_items
  exact congrArg (Option.map TickPolicy.explicit) read

instance : Echoes (TickPolicy Float) where
  restorable {value policy} isGenuine decoded := by
    cases value with
    | null | bool | string | object | unreadable => cases decoded
    | integer | real =>
        obtain ⟨step, read, rfl⟩ := Option.map_eq_some_iff.mp decoded
        exact every_restorable (isFinite_of_decode isGenuine read)
    | array items =>
        obtain ⟨values, read, rfl⟩ := Option.map_eq_some_iff.mp decoded
        exact explicit_restorable (Echoes.restorable isGenuine read)

/-! ### Options that may be left open -/

instance : Echoes (Option String) := option_echoes rfl

instance : Echoes (Option Float) := option_echoes rfl

instance : Echoes (Option Bool) := option_echoes rfl

instance : Echoes (Option (TickPolicy Float)) := option_echoes rfl

end CanvasChart
