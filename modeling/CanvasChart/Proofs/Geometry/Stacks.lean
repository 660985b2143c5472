import CanvasChart.Proofs.Geometry.PlotArea

set_option autoImplicit false

/-! Rectangles stacked outward from a side of an area. What is known of a stack by its ends
holds of each rectangle in it: it lies between them, and beside all others. -/

namespace CanvasChart

section Edges

variable {α : Type} [Scalar α]

namespace Side

/-- The second coordinate lies at least as far out on the side as the first. -/
def Outward (side : Side) (first second : α) : Prop :=
  match side with
  | .bottom | .right => first ≤ second
  | .top | .left => second ≤ first

def advance (side : Side) (coordinate distance : α) : α :=
  match side with
  | .bottom | .right => coordinate + distance
  | .top | .left => coordinate - distance

private theorem outward_opposite (side : Side) (first second : α) :
    side.opposite.Outward first second ↔ side.Outward second first := by
  cases side <;> exact Iff.rfl

private theorem eq_or_opposite_or_perpendicular (side other : Side) :
    other = side ∨ other = side.opposite ∨ side.isPerpendicularTo other = true := by
  cases side <;> cases other <;> decide

end Side

namespace Rect

def edge (rect : Rect α) : Side → α
  | .bottom => rect.bottom
  | .left => rect.x
  | .top => rect.y
  | .right => rect.right

/-- No edge lies further out than that of the outer rectangle. -/
def Within (rect outer : Rect α) : Prop :=
  ∀ side : Side, side.Outward (rect.edge side) (outer.edge side)

/-- One lies beyond an edge of the other, so that they have at most a border in common. -/
def Apart (first second : Rect α) : Prop :=
  ∃ side : Side, side.Outward (first.edge side) (second.edge side.opposite)

def Interior (rect : Rect α) (point : Point α) : Prop :=
  (rect.x < point.x ∧ point.x < rect.right) ∧ rect.y < point.y ∧ point.y < rect.bottom

/-- Out on a side the rectangles begin at a coordinate, each where the one before it ends, and
they end at another coordinate. -/
def Stacked (side : Side) : α → List (Rect α) → α → Prop
  | start, [], stop => start = stop
  | start, rect :: rest, stop =>
      rect.edge side.opposite = start ∧ Stacked side (rect.edge side) rest stop

theorem band_outer_edge (area : Rect α) (side : Side) (offset size : α) :
    (area.band side offset size).edge side =
      side.advance (side.advance (area.edge side) offset) size := by
  cases side <;> rfl

theorem band_edge_across {side across : Side}
    (perpendicular : side.isPerpendicularTo across = true) (area : Rect α) (offset size : α) :
    (area.band side offset size).edge across = area.edge across := by
  revert perpendicular
  cases side <;> cases across <;> intro perpendicular <;> first | rfl | cases perpendicular

theorem band_lengthAcross (area : Rect α) (side : Side) (offset size : α) :
    (area.band side offset size).lengthAcross side = size := by
  cases side <;> rfl

theorem band_near (area : Rect α) (side : Side) (offset size : α) :
    (area.band side offset size).near side = area.near side := by
  cases side <;> rfl

theorem band_lengthAlong (area : Rect α) (side : Side) (offset size : α) :
    (area.band side offset size).lengthAlong side = area.lengthAlong side := by
  cases side <;> rfl

end Rect
end Edges

variable [NumberTexts]

namespace Side

variable {side : Side}

theorem Outward.refl (coordinate : EReal) : side.Outward coordinate coordinate := by
  cases side <;> exact le_refl coordinate

theorem Outward.trans {first second third : EReal} (inner : side.Outward first second)
    (outer : side.Outward second third) : side.Outward first third := by
  cases side
  case bottom | right => exact le_trans inner outer
  case top | left => exact le_trans outer inner

theorem advance_advance (coordinate : EReal) (first second : ℝ) :
    side.advance (side.advance coordinate first) second =
      side.advance coordinate ↑(first + second) := by
  cases side
  case bottom | right =>
    change coordinate + first + second = coordinate + ↑(first + second)
    rw [add_assoc, EReal.coe_add]
  case top | left =>
    change coordinate - first - second = coordinate - ↑(first + second)
    simp only [sub_eq_add_neg, ← EReal.coe_neg]
    rw [add_assoc, ← EReal.coe_add, neg_add]

theorem outward_advance (coordinate : EReal) {distance : EReal} (positive : 0 ≤ distance) :
    side.Outward coordinate (side.advance coordinate distance) := by
  cases side
  case bottom | right => exact le_add_of_nonneg_right positive
  case top | left => exact Exact.sub_le positive

end Side

namespace Rect

theorem band_inner_edge (area : Rect EReal) (side : Side) (offset : EReal) (size : ℝ) :
    (area.band side offset size).edge side.opposite = side.advance (area.edge side) offset := by
  cases side
  case bottom | right => rfl
  case top | left => exact EReal.sub_add_cancel

private theorem outward_edges {area : Rect EReal} (positive : ∀ side, 0 ≤ area.lengthAlong side)
    (side : Side) : side.Outward (area.edge side.opposite) (area.edge side) := by
  have wide : area.x ≤ area.right := le_add_of_nonneg_right (positive .bottom)
  have high : area.y ≤ area.bottom := le_add_of_nonneg_right (positive .left)
  cases side <;> assumption

namespace Stacked

variable {side : Side} {start stop : EReal} {rects : List (Rect EReal)}

theorem between (stacked : Stacked side start rects stop)
    (thick : ∀ rect ∈ rects, side.Outward (rect.edge side.opposite) (rect.edge side)) :
    side.Outward start stop ∧ ∀ rect ∈ rects,
      side.Outward start (rect.edge side.opposite) ∧ side.Outward (rect.edge side) stop := by
  induction rects generalizing start with
  | nil => exact ⟨stacked ▸ Side.Outward.refl start, List.forall_mem_nil _⟩
  | cons rect rest ih =>
      obtain ⟨touches, later⟩ := stacked
      rw [List.forall_mem_cons] at thick
      obtain ⟨whole, each⟩ := ih later thick.2
      have own : side.Outward start (rect.edge side) := touches ▸ thick.1
      refine ⟨own.trans whole, List.forall_mem_cons.mpr ⟨⟨?_, whole⟩, fun next member => ?_⟩⟩
      · exact touches ▸ Side.Outward.refl _
      · exact ⟨own.trans (each next member).1, (each next member).2⟩

theorem pairwise_beyond (stacked : Stacked side start rects stop)
    (thick : ∀ rect ∈ rects, side.Outward (rect.edge side.opposite) (rect.edge side)) :
    rects.Pairwise fun first second =>
      side.Outward (first.edge side) (second.edge side.opposite) := by
  induction rects generalizing start with
  | nil => exact .nil
  | cons rect rest ih =>
      obtain ⟨_touches, later⟩ := stacked
      rw [List.forall_mem_cons] at thick
      refine .cons (fun next member => ?_) (ih later thick.2)
      exact ((later.between thick.2).2 next member).1

end Stacked

/-- A rectangle beyond a side of an area, as far as the edge of an outer one and no wider than
the area, lies within the outer one. -/
theorem within_of_beyond {area outer rect : Rect EReal} {side : Side}
    (positive : ∀ side, 0 ≤ area.lengthAlong side) (areaWithin : area.Within outer)
    (beyond : side.Outward (area.edge side) (rect.edge side.opposite))
    (reaches : side.Outward (rect.edge side) (outer.edge side))
    (spans : ∀ across, side.isPerpendicularTo across = true →
      rect.edge across = area.edge across) : rect.Within outer := by
  intro other
  rcases side.eq_or_opposite_or_perpendicular other with same | opposite | perpendicular
  · exact same ▸ reaches
  · subst opposite
    have inner := (side.outward_opposite _ _).mpr beyond
    have through := (side.outward_opposite _ _).mpr (outward_edges positive side)
    exact (inner.trans through).trans (areaWithin side.opposite)
  · rw [spans other perpendicular]
    exact areaWithin other

/-- Rectangles beyond different sides of an area, no wider than it, lie apart. -/
theorem apart_of_beyond {area first second : Rect EReal} {side other : Side}
    (positive : ∀ side, 0 ≤ area.lengthAlong side) (different : other ≠ side)
    (firstBeyond : side.Outward (area.edge side) (first.edge side.opposite))
    (firstSpans : ∀ across, side.isPerpendicularTo across = true →
      first.edge across = area.edge across)
    (secondBeyond : other.Outward (area.edge other) (second.edge other.opposite)) :
    first.Apart second := by
  refine ⟨other, Side.Outward.trans ?_ secondBeyond⟩
  rcases side.eq_or_opposite_or_perpendicular other with same | opposite | perpendicular
  · exact absurd same different
  · subst opposite
    have inner := (side.outward_opposite _ _).mpr firstBeyond
    exact inner.trans ((side.outward_opposite _ _).mpr (outward_edges positive side))
  · rw [firstSpans other perpendicular]
    exact Side.Outward.refl _

theorem Apart.not_interior {first second : Rect EReal} (apart : first.Apart second)
    {point : Point EReal} (inFirst : first.Interior point) : ¬ second.Interior point := by
  intro inSecond
  obtain ⟨side, beyond⟩ := apart
  cases side with
  | bottom => exact (inFirst.2.2.trans_le beyond).asymm inSecond.2.1
  | left => exact (inSecond.1.2.trans_le beyond).asymm inFirst.1.1
  | top => exact (inSecond.2.2.trans_le beyond).asymm inFirst.2.1
  | right => exact (inFirst.1.2.trans_le beyond).asymm inSecond.1.1

theorem apart_of_beyond_self {area rect : Rect EReal} {side : Side}
    (beyond : side.Outward (area.edge side) (rect.edge side.opposite)) : rect.Apart area := by
  refine ⟨side.opposite, ?_⟩
  have same : side.opposite.opposite = side := by cases side <;> rfl
  rw [same]
  exact (side.outward_opposite _ _).mpr beyond

end Rect

/-! ### Margins -/

def Insets.FitIn (insets : Insets EReal) (outer : Rect EReal) : Prop :=
  insets.left + insets.right ≤ outer.width ∧ insets.top + insets.bottom ≤ outer.height

theorem Exact.regain {start length near far : EReal} (started : start ≠ ⊥) (nearPositive : 0 ≤ near)
    (farPositive : 0 ≤ far) (fits : near + far ≤ length) (farFinite : far ≠ ⊤) :
    start + near + Scalar.max (length - near - far) (Scalar.ofNat 0) + far = start + length := by
  rw [Exact.max_eq, Exact.ofNat_eq, Nat.cast_zero]
  have rest : max (length - near - far) 0 ≠ ⊥ := by simp
  have farNotBot : far ≠ ⊥ := ne_bot_of_le_ne_bot EReal.zero_ne_bot farPositive
  by_cases nearEndless : near = ⊤
  · have endless : length = ⊤ := by
      rw [nearEndless, EReal.top_add_of_ne_bot farNotBot, top_le_iff] at fits
      exact fits
    subst nearEndless
    rw [EReal.add_top_of_ne_bot started, EReal.top_add_of_ne_bot rest,
      EReal.top_add_of_ne_bot farNotBot, endless, EReal.add_top_of_ne_bot started]
  obtain ⟨first, rfl⟩ := Exact.Finite.exists_real
    ⟨nearEndless, ne_bot_of_le_ne_bot EReal.zero_ne_bot nearPositive⟩
  obtain ⟨second, rfl⟩ := Exact.Finite.exists_real ⟨farFinite, farNotBot⟩
  by_cases endless : length = ⊤
  · subst endless
    rw [EReal.top_sub_coe, EReal.top_sub_coe, max_eq_left le_top, add_assoc, add_assoc,
      EReal.top_add_coe, EReal.coe_add_top]
  obtain ⟨whole, rfl⟩ : ∃ whole : ℝ, length = whole := by
    refine Exact.Finite.exists_real ⟨endless, ne_bot_of_le_ne_bot EReal.zero_ne_bot ?_⟩
    exact (add_nonneg nearPositive farPositive).trans fits
  have short : first + second ≤ whole := EReal.coe_le_coe_iff.mp fits
  have left : max ((whole : EReal) - first - second) 0 = ↑(whole - first - second) := by
    rw [← EReal.coe_sub, ← EReal.coe_sub]
    exact max_eq_left (EReal.coe_nonneg.mpr (by linarith))
  rw [left, add_assoc, add_assoc, ← EReal.coe_add, ← EReal.coe_add]
  congr 2
  ring

theorem Exact.remains_within {start length near far : EReal} (started : start ≠ ⊥)
    (nearPositive : 0 ≤ near) (farPositive : 0 ≤ far) (fits : near + far ≤ length) :
    start + near + Scalar.max (length - near - far) (Scalar.ofNat 0) ≤ start + length := by
  by_cases endless : far = ⊤
  · rw [endless, EReal.add_top_of_ne_bot (ne_bot_of_le_ne_bot EReal.zero_ne_bot nearPositive),
      top_le_iff] at fits
    rw [fits, EReal.add_top_of_ne_bot started]
    exact le_top
  · rw [← Exact.regain started nearPositive farPositive fits endless]
    exact le_add_of_nonneg_right farPositive

namespace Rect

variable {outer : Rect EReal} {insets : Insets EReal}

theorem advance_inset_edge (startX : outer.x ≠ ⊥) (startY : outer.y ≠ ⊥)
    (positive : ∀ side, 0 ≤ insets.get side) (fits : insets.FitIn outer) {side : Side}
    (finite : insets.get side ≠ ⊤) :
    side.advance ((outer.inset insets).edge side) (insets.get side) = outer.edge side := by
  have back {start taken : EReal} (takenPositive : 0 ≤ taken) (takenFinite : taken ≠ ⊤) :
      start + taken - taken = start := by
    obtain ⟨number, rfl⟩ := Exact.Finite.exists_real
      ⟨takenFinite, ne_bot_of_le_ne_bot EReal.zero_ne_bot takenPositive⟩
    exact EReal.add_sub_cancel_right
  cases side with
  | bottom => exact Exact.regain startY (positive .top) (positive .bottom) fits.2 finite
  | left => exact back (positive .left) finite
  | top => exact back (positive .top) finite
  | right => exact Exact.regain startX (positive .left) (positive .right) fits.1 finite

theorem inset_within (startX : outer.x ≠ ⊥) (startY : outer.y ≠ ⊥)
    (positive : ∀ side, 0 ≤ insets.get side) (fits : insets.FitIn outer) :
    (outer.inset insets).Within outer := by
  intro side
  cases side with
  | bottom => exact Exact.remains_within startY (positive .top) (positive .bottom) fits.2
  | left => exact le_add_of_nonneg_right (positive .left)
  | top => exact le_add_of_nonneg_right (positive .top)
  | right => exact Exact.remains_within startX (positive .left) (positive .right) fits.1

end Rect
end CanvasChart
