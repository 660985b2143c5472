import CanvasChart.Proofs.Geometry.TickFrames

set_option autoImplicit false

/-! Points inside a plot area. Offsets that fit on a finite side stay between the ends of the
side, from whichever end they are measured, so that a plot frame maps them into the area. -/

namespace CanvasChart

namespace Exact

variable [NumberTexts]

theorem nonneg_max_zero (value : EReal) : 0 ≤ Scalar.max value (Scalar.ofNat 0) := by
  simp [max_eq]

theorem max_zero_ne_top {value : EReal} (finite : value ≠ ⊤) :
    Scalar.max value (Scalar.ofNat 0) ≠ ⊤ := by
  simpa [max_eq] using finite

end Exact

namespace Rect

section Containment

variable {α : Type} [Scalar α]

/-- A coordinate lies between the ends of a side. -/
def Spans (area : Rect α) (side : Side) (coordinate : α) : Prop :=
  area.near side ≤ coordinate ∧ coordinate ≤ area.far side

def Contains (area : Rect α) (point : Point α) : Prop :=
  (area.x ≤ point.x ∧ point.x ≤ area.right) ∧ area.y ≤ point.y ∧ point.y ≤ area.bottom

private theorem contains_of_spans {area : Rect α} {point : Point α} {side across : Side}
    (perpendicular : side.isPerpendicularTo across = true)
    (along : area.Spans side (point.coordinate side))
    (beside : area.Spans across (point.coordinate across)) : area.Contains point := by
  revert perpendicular along beside
  cases side <;> cases across <;> intro perpendicular along beside <;>
    first
    | exact ⟨along, beside⟩
    | exact ⟨beside, along⟩
    | cases perpendicular

private theorem far_eq (area : Rect α) (side : Side) :
    area.far side = area.near side + area.lengthAlong side := by
  cases side <;> rfl

end Containment

variable [NumberTexts]

/-- An offset that is no longer than a side. -/
def Fits (area : Rect EReal) (side : Side) (offset : EReal) : Prop :=
  0 ≤ offset ∧ offset ≤ area.lengthAlong side

def Bounded (area : Rect EReal) : Prop := ∀ side, area.lengthAlong side ≠ ⊤

namespace Fits

variable {area : Rect EReal} {side : Side} {offset : EReal}

theorem exists_real (fits : area.Fits side offset) (bounded : area.Bounded) :
    ∃ number : ℝ, offset = number :=
  Exact.Finite.exists_real ⟨ne_top_of_le_ne_top (bounded side) fits.2,
    ne_bot_of_le_ne_bot EReal.zero_ne_bot fits.1⟩

private theorem remainder (fits : area.Fits side offset) (bounded : area.Bounded) :
    area.Fits side (area.lengthAlong side - offset) := by
  have wholeFits : area.Fits side (area.lengthAlong side) := ⟨fits.1.trans fits.2, le_rfl⟩
  obtain ⟨number, real⟩ := fits.exists_real bounded
  obtain ⟨whole, wholeReal⟩ := wholeFits.exists_real bounded
  unfold Fits at fits ⊢
  rw [real, wholeReal] at fits ⊢
  rw [← EReal.coe_sub]
  have positive : 0 ≤ number := EReal.coe_nonneg.mp fits.1
  have short : number ≤ whole := EReal.coe_le_coe_iff.mp fits.2
  exact ⟨EReal.coe_nonneg.mpr (sub_nonneg.mpr short),
    EReal.coe_le_coe_iff.mpr (sub_le_self whole positive)⟩

private theorem spans_near_add (fits : area.Fits side offset) :
    area.Spans side (area.near side + offset) := by
  refine ⟨?_, area.far_eq side ▸ add_le_add le_rfl fits.2⟩
  calc area.near side = area.near side + 0 := (add_zero _).symm
    _ ≤ area.near side + offset := add_le_add le_rfl fits.1

theorem spans_measured (fits : area.Fits side offset) (bounded : area.Bounded)
    (companion : Side) : area.Spans side (area.measured side companion offset) := by
  unfold measured
  split
  case isTrue => exact fits.spans_near_add
  case isFalse =>
    rw [far_eq, sub_eq_add_neg, add_assoc, ← sub_eq_add_neg]
    exact (fits.remainder bounded).spans_near_add

end Fits

theorem inset_lengths_nonneg (outer : Rect EReal) (insets : Insets EReal) (side : Side) :
    0 ≤ (outer.inset insets).lengthAlong side := by
  cases side <;> exact Exact.nonneg_max_zero _

end Rect

namespace Frame

variable [NumberTexts] {area : Rect EReal} {xSide ySide : Side} {x y : EReal}

theorem forPlot_spans_ySide (bounded : area.Bounded)
    (perpendicular : xSide.isPerpendicularTo ySide = true) (companion : Side)
    (fits : area.Fits ySide y) :
    area.Spans ySide (((forPlot xSide companion area).toCanvas x y).coordinate ySide) := by
  rw [forPlot_toCanvas_ySide perpendicular]
  exact fits.spans_measured bounded xSide

theorem forPlot_contains (bounded : area.Bounded)
    (perpendicular : xSide.isPerpendicularTo ySide = true) (companion : Side)
    (fitsX : area.Fits xSide x) (fitsY : area.Fits ySide y) :
    area.Contains ((forPlot xSide companion area).toCanvas x y) := by
  refine Rect.contains_of_spans perpendicular ?_
    (forPlot_spans_ySide bounded perpendicular companion fitsY)
  rw [forPlot_toCanvas_xSide]
  exact fitsX.spans_measured bounded companion

end Frame
end CanvasChart
