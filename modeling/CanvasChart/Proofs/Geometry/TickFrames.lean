import CanvasChart.Proofs.Exact.Scalar
import CanvasChart.Geometry.Frame

set_option autoImplicit false

/-! Where the frames of axes and of plots put an offset along a side. An axis measures
offsets away from its companion, and a plot measures values away from its X side. -/

namespace CanvasChart

section Coordinates

variable {α : Type}

def Point.coordinate (point : Point α) (side : Side) : α :=
  if side.isHorizontal then point.x else point.y

/-- Away from the companion coordinates grow along the side. -/
def Side.growsFrom (side companion : Side) : Bool :=
  if side.isHorizontal then companion ≠ .right else companion = .top

variable [Scalar α]

def Side.direction (side companion : Side) : α := if side.growsFrom companion then 1 else -1

namespace Rect

def near (area : Rect α) (side : Side) : α := if side.isHorizontal then area.x else area.y

def far (area : Rect α) (side : Side) : α :=
  if side.isHorizontal then area.right else area.bottom

/-- The coordinate at which a side meets a companion. -/
def meets (area : Rect α) (side companion : Side) : α :=
  if side.growsFrom companion then area.near side else area.far side

/-- The coordinate of an offset along a side, measured away from a companion. -/
def measured (area : Rect α) (side companion : Side) (offset : α) : α :=
  if side.growsFrom companion then area.near side + offset else area.far side - offset

private theorem corner_coordinate (area : Rect α) (side companion : Side) :
    (area.corner side companion).coordinate side = area.meets side companion := by
  cases side <;> cases companion <;> rfl

private theorem corner_coordinate_across {side across : Side}
    (perpendicular : side.isPerpendicularTo across = true) (area : Rect α) (companion : Side) :
    (area.corner side companion).coordinate across = area.meets across side := by
  revert perpendicular
  cases side <;> cases across <;> intro perpendicular <;> first | rfl | cases perpendicular

/-- Measured away from two sides an offset comes out alike only if they are one side, or
else where the offsets from both ends meet. -/
private theorem measured_eq_iff {side first second : Side}
    (firstAcross : first.isPerpendicularTo side = true)
    (secondAcross : second.isPerpendicularTo side = true) (area : Rect α) (offset : α) :
    area.measured side first offset = area.measured side second offset ↔
      second = first ∨ area.near side + offset = area.far side - offset := by
  by_cases same : second = first
  · rw [same]
    simp
  · -- of two different sides across, one starts at either end
    have opposite : side.growsFrom second = !side.growsFrom first := by
      revert firstAcross secondAcross same
      cases side <;> cases first <;> cases second <;> decide
    cases grows : side.growsFrom first <;>
      simp [measured, opposite, grows, same, eq_comm]

end Rect

namespace Frame

private theorem along_coordinate (side companion : Side) :
    (along side companion : Point α).coordinate side = side.direction companion := by
  cases side <;> cases companion <;> rfl

private theorem along_coordinate_across {side across : Side}
    (perpendicular : side.isPerpendicularTo across = true) (companion : Side) :
    (along side companion : Point α).coordinate across = 0 := by
  revert perpendicular
  cases side <;> cases across <;> cases companion <;> intro perpendicular <;>
    first | rfl | cases perpendicular

private theorem toCanvas_coordinate (frame : Frame α) (x y : α) (side : Side) :
    (frame.toCanvas x y).coordinate side =
      frame.ux.coordinate side * x + frame.uy.coordinate side * y +
        frame.origin.coordinate side := by
  cases side <;> rfl

end Frame

/-- Along a side the point has the coordinate of every tick at an offset from a companion. -/
def Point.LevelWith (point : Point α) (side companion : Side) (area : Rect α) (offset : α) :
    Prop :=
  ∀ distance, point.coordinate side =
    ((Frame.forAxis side companion area).toCanvas offset distance).coordinate side

end Coordinates

namespace Frame

variable [NumberTexts]

private theorem measured_eq (area : Rect EReal) (side companion : Side) (offset : EReal) :
    side.direction companion * offset + area.meets side companion =
      area.measured side companion offset := by
  unfold Side.direction Rect.meets Rect.measured
  split <;> simp [sub_eq_add_neg, add_comm]

theorem forAxis_toCanvas (side companion : Side) (area : Rect EReal) (offset distance : EReal) :
    ((forAxis side companion area).toCanvas offset distance).coordinate side =
      area.measured side companion offset := by
  have outward : (forAxis side companion area).uy.coordinate side = 0 := by
    cases side <;> simp [forAxis, Point.coordinate, Side.isHorizontal, Side.outwardNormal]
  rw [toCanvas_coordinate, outward, zero_mul, add_zero, ← measured_eq]
  exact congrArg₂ (fun direction start => direction * offset + start)
    (along_coordinate side companion) (area.corner_coordinate side companion)

theorem forPlot_toCanvas_xSide (xSide companion : Side) (area : Rect EReal) (x y : EReal) :
    ((forPlot xSide companion area).toCanvas x y).coordinate xSide =
      area.measured xSide companion x := by
  have inward : (forPlot xSide companion area).uy.coordinate xSide = 0 := by
    cases xSide <;> simp [forPlot, Point.coordinate, Side.isHorizontal, Side.outwardNormal]
  rw [toCanvas_coordinate, inward, zero_mul, add_zero, ← measured_eq]
  exact congrArg₂ (fun direction start => direction * x + start)
    (along_coordinate xSide companion) (area.corner_coordinate xSide companion)

theorem forPlot_toCanvas_ySide {xSide ySide : Side}
    (perpendicular : xSide.isPerpendicularTo ySide = true) (companion : Side)
    (area : Rect EReal) (x y : EReal) :
    ((forPlot xSide companion area).toCanvas x y).coordinate ySide =
      area.measured ySide xSide y := by
  have inward : (forPlot xSide companion area).uy.coordinate ySide =
      ySide.direction xSide := by
    revert perpendicular
    cases xSide <;> cases ySide <;> intro perpendicular <;>
      first
      | cases perpendicular; done
      | simp [forPlot, Point.coordinate, Side.isHorizontal, Side.outwardNormal,
          Side.direction, Side.growsFrom]
  have start : (forPlot xSide companion area).origin.coordinate ySide =
      area.meets ySide xSide := area.corner_coordinate_across perpendicular companion
  have level : (forPlot xSide companion area).ux.coordinate ySide = 0 :=
    (along_coordinate_across perpendicular companion).trans (by simp)
  rw [toCanvas_coordinate, level, inward, start, zero_mul, zero_add, measured_eq]

theorem forPlot_level_xSide (xSide companion : Side) (area : Rect EReal) (x y : EReal) :
    ((forPlot xSide companion area).toCanvas x y).LevelWith xSide companion area x := by
  intro distance
  rw [forPlot_toCanvas_xSide, forAxis_toCanvas]

/-- A point of a plot is level with the ticks of a Y axis if the X side of the plot is the
companion of the axis, and else only where the offsets from both ends meet. -/
theorem forPlot_level_ySide {xSide ySide yCompanion : Side}
    (perpendicular : xSide.isPerpendicularTo ySide = true)
    (companionAcross : yCompanion.isPerpendicularTo ySide = true) (companion : Side)
    (area : Rect EReal) (x y : EReal) :
    ((forPlot xSide companion area).toCanvas x y).LevelWith ySide yCompanion area y ↔
      yCompanion = xSide ∨ area.near ySide + y = area.far ySide - y := by
  rw [← area.measured_eq_iff perpendicular companionAcross]
  simp only [Point.LevelWith, forAxis_toCanvas, forPlot_toCanvas_ySide perpendicular]
  exact ⟨fun level => level 0, fun level _distance => level⟩

end Frame
end CanvasChart
