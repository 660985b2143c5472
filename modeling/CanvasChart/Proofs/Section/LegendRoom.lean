import CanvasChart.Proofs.Exact.Lengths
import CanvasChart.Proofs.Section.LegendBlocks
import CanvasChart.Proofs.Section.TickRoom

set_option autoImplicit false

/-! The room of a legend. In a band as thick as it asks for, nothing that a legend draws comes
closer to the edges than the padding, and its blocks lie beside each other, however many. -/

namespace CanvasChart

/-! ### Inside a band -/

section Padding

variable {α : Type} [Scalar α]

/-- Where a rectangle starts and ends at a right angle to a side. -/
def Rect.ends (area : Rect α) (side : Side) : α × α :=
  if side.isHorizontal then (area.y, area.bottom) else (area.x, area.right)

/-- At a right angle to a side it stays a distance away from both ends of an area. -/
def DrawOp.KeepsOff (op : DrawOp α) (area : Rect α) (side : Side) (distance : α) : Prop :=
  ∀ point ∈ op.outline, (area.ends side).1 + distance ≤ point.across side ∧
    point.across side + distance ≤ (area.ends side).2

def DrawOp.LiesIn (op : DrawOp α) (box : Rect α) : Prop :=
  ∀ point ∈ op.outline, box.Contains point

theorem DrawOp.fillRect_liesIn {rect box : Rect α} (color : String) (alpha : α) :
    (fillRect rect color alpha).LiesIn box ↔
      box.Contains ⟨rect.x, rect.y⟩ ∧ box.Contains ⟨rect.right, rect.bottom⟩ := by
  simp [LiesIn, outline]

theorem DrawOp.text_liesIn {mark : TextMark α} {box : Rect α} :
    (text mark).LiesIn box ↔ box.Contains ⟨mark.columns.1, mark.rows.1⟩ ∧
      box.Contains ⟨mark.columns.2, mark.rows.2⟩ := by
  simp [LiesIn, outline]

theorem Rect.Contains.between {box : Rect α} {point : Point α} (contains : box.Contains point)
    (side : Side) :
    (box.ends side).1 ≤ point.across side ∧ point.across side ≤ (box.ends side).2 := by
  cases side
  case bottom | top => exact contains.2
  case left | right => exact contains.1

end Padding

variable [NumberTexts]

open Exact

theorem Font.textWidth_isLength {font : String} (sized : IsLength (height font)) (text : String) :
    IsLength (textWidth font text) :=
  ((isLength_natCast text.length).mul sized).mul (isLength_coe (by norm_num))

theorem Font.isLength_of_unnamed {font : String} (unnamed : (size? font : Option EReal) = none) :
    IsLength (height font : EReal) := by
  unfold height
  rw [unnamed]
  exact isLength_natCast 10

theorem Matrix.shift_boundsOf (dx dy x y : ℝ) {width height : ℝ} (wide : 0 ≤ width)
    (high : 0 ≤ height) :
    (shift (dx : EReal) dy).boundsOf ⟨x, y, width, height⟩ =
      ⟨((x + dx : ℝ) : EReal), ((y + dy : ℝ) : EReal), width, height⟩ := by
  have right : ((x + dx : ℝ) : EReal) ≤ ((x + width + dx : ℝ) : EReal) :=
    EReal.coe_le_coe_iff.mpr (by linarith)
  have below : ((y + dy : ℝ) : EReal) ≤ ((y + height + dy : ℝ) : EReal) :=
    EReal.coe_le_coe_iff.mpr (by linarith)
  simp only [boundsOf, shift_apply, List.map_cons, List.map_nil, ← EReal.coe_add,
    (least_corners right).1, (least_corners below).2, (greatest_corners right).1,
    (greatest_corners below).2, ← EReal.coe_sub]
  congr 2 <;> ring

namespace Rect

private theorem moved_ends_within {rect band : Rect EReal} {side : Side} {distance : EReal}
    (dx dy : EReal) (near : distance ≤ (rect.ends side).1)
    (far : (rect.ends side).2 + distance ≤ band.lengthAcross side) :
    let area : Rect EReal := ⟨dx, dy, band.width, band.height⟩
    (area.ends side).1 + distance ≤ ((rect.moved dx dy).ends side).1 ∧
      ((rect.moved dx dy).ends side).2 + distance ≤ (area.ends side).2 := by
  have moves {first second shift : EReal} (less : first + distance ≤ second) :
      first + shift + distance ≤ shift + second := by
    rw [add_right_comm, add_comm]
    exact add_le_add le_rfl less
  intro area
  cases side
  case bottom | top =>
    refine ⟨(add_comm dy distance).trans_le (add_le_add near le_rfl), ?_⟩
    change rect.y + dy + rect.height + distance ≤ dy + band.height
    rw [add_right_comm rect.y]
    exact moves far
  case left | right =>
    refine ⟨(add_comm dx distance).trans_le (add_le_add near le_rfl), ?_⟩
    change rect.x + dx + rect.width + distance ≤ dx + band.width
    rw [add_right_comm rect.x]
    exact moves far

private theorem contains_corners {x y width height left above right below : ℝ} (starts : x ≤ left)
    (wide : left ≤ right) (stops : right ≤ x + width) (begins : y ≤ above) (high : above ≤ below)
    (ends : below ≤ y + height) :
    (⟨x, y, width, height⟩ : Rect EReal).Contains ⟨left, above⟩ ∧
      (⟨x, y, width, height⟩ : Rect EReal).Contains ⟨right, below⟩ := by
  simp only [Contains, Rect.right, bottom, ← EReal.coe_add, EReal.coe_le_coe_iff]
  exact ⟨⟨⟨starts, wide.trans stops⟩, begins, high.trans ends⟩,
    ⟨starts.trans wide, stops⟩, begins.trans high, ends⟩

end Rect

namespace Legend

variable {options : LegendOptions EReal} {state : GraphicsState EReal}

/-- The sizes of fonts and swatches are neither negative nor infinite. -/
structure Sized (options : LegendOptions EReal) : Prop where
  label : IsLength (Font.height options.font)
  title : IsLength (Font.height options.titleFont)
  swatch : IsLength options.swatchSize

namespace Sized

private theorem textWidth (sized : Sized options) (text : String) :
    IsLength ((labelStyle options).width text) :=
  Font.textWidth_isLength sized.label text

private theorem lineHeight (sized : Sized options) : IsLength (lineHeight options) :=
  sized.label.scalarMax sized.swatch

private theorem entryWidth (sized : Sized options) (content : LegendEntry) :
    IsLength (entryWidth options content) :=
  (sized.swatch.add (isLength_natCast 4)).add (sized.textWidth content.name)

end Sized

theorem Sized.exists_reals (sized : Sized options) (content : LegendEntry) :
    ∃ size label name line : ℝ, options.swatchSize = size ∧
      Font.height options.font = (label : EReal) ∧
      (labelStyle options).width content.name = (name : EReal) ∧
      Legend.lineHeight options = line ∧
      0 ≤ size ∧ 0 ≤ label ∧ 0 ≤ name ∧ size ≤ line ∧ label ≤ line := by
  obtain ⟨size, sizeReal, sizePositive⟩ := sized.swatch.exists_real
  obtain ⟨label, labelReal, labelPositive⟩ := sized.label.exists_real
  obtain ⟨name, nameReal, namePositive⟩ := (sized.textWidth content.name).exists_real
  refine ⟨size, label, name, max label size, sizeReal, labelReal, nameReal, ?_, sizePositive,
    labelPositive, namePositive, le_max_right _ _, le_max_left _ _⟩
  rw [EReal.coe_strictMono.monotone.map_max, ← labelReal, ← sizeReal]
  exact max_eq _ _

private theorem swatchGap_eq : (swatchGap : EReal) = ((4 : ℝ) : EReal) := by
  rw [← Nat.cast_ofNat, EReal.coe_natCast]
  rfl

theorem Block.entry_liesIn (sized : Sized options) (content : LegendEntry) {corner : Point EReal}
    (column : Finite corner.x) (row : Finite corner.y) {dx dy : ℝ}
    (moved : state.matrix = .shift dx dy) :
    let block : Block EReal := .entry content corner
    ∀ op ∈ block.ops options state, op.LiesIn ((block.box options).moved dx dy) := by
  obtain ⟨_, _⟩ := corner
  obtain ⟨x, rfl⟩ := column.exists_real
  obtain ⟨y, rfl⟩ := row.exists_real
  intro block
  obtain ⟨size, label, name, line, sizeReal, labelReal, nameReal, lineReal, sizePositive,
    labelPositive, namePositive, high, higher⟩ := sized.exists_reals content
  have box : (block.box options).moved dx dy =
      ⟨((x + dx : ℝ) : EReal), ((y + dy : ℝ) : EReal), ((size + 4 + name : ℝ) : EReal),
        line⟩ := by
    simp only [block, Block.box, Rect.moved, Legend.entryWidth, lineReal, sizeReal, swatchGap_eq,
      nameReal, ← EReal.coe_add]
  have filled : state.matrix.boundsOf (Legend.swatch options ⟨x, y⟩) =
      ⟨((x + dx : ℝ) : EReal), ((y + (line - size) / 2 + dy : ℝ) : EReal), size, size⟩ := by
    rw [moved, ← Matrix.shift_boundsOf dx dy x _ sizePositive sizePositive]
    simp only [Legend.swatch, lineReal, sizeReal, ← EReal.coe_sub, half_coe, ← EReal.coe_add]
  have written : state.matrix.apply (nameAnchor options ⟨x, y⟩) =
      ⟨((x + size + 4 + dx : ℝ) : EReal), ((y + line / 2 + dy : ℝ) : EReal)⟩ := by
    rw [moved, Matrix.shift_apply]
    simp only [nameAnchor, lineReal, sizeReal, swatchGap_eq, half_coe, ← EReal.coe_add]
  have named : Font.textWidth options.font content.name = (name : EReal) := nameReal
  rw [box]
  refine List.forall_mem_cons.mpr ⟨?swatch, List.forall_mem_singleton.mpr ?name⟩
  case swatch =>
    rw [filled, DrawOp.fillRect_liesIn]
    simp only [Rect.right, Rect.bottom, ← EReal.coe_add]
    apply Rect.contains_corners <;> linarith
  case name =>
    rw [textOp, written, DrawOp.text_liesIn]
    simp only [TextMark.columns, TextMark.rows, labelStyle, named, labelReal, half_coe,
      ← EReal.coe_add, ← EReal.coe_sub]
    apply Rect.contains_corners <;> linarith

theorem Block.title_liesIn {style : TextStyle} (sized : IsLength (Font.height style.font))
    (text : String) {anchor : Point EReal} (column : Finite anchor.x) (row : Finite anchor.y)
    (align : TextAlign) {dx dy : ℝ} (moved : state.matrix = .shift dx dy) :
    let block : Block EReal := .title text style anchor align
    ∀ op ∈ block.ops options state, op.LiesIn ((block.box options).moved dx dy) := by
  obtain ⟨_, _⟩ := anchor
  obtain ⟨x, rfl⟩ := column.exists_real
  obtain ⟨y, rfl⟩ := row.exists_real
  intro block
  obtain ⟨height, heightReal, positive⟩ := sized.exists_real
  obtain ⟨width, widthReal, wide⟩ := (Font.textWidth_isLength sized text).exists_real
  refine List.forall_mem_singleton.mpr ?_
  rw [textOp, moved, Matrix.shift_apply, DrawOp.text_liesIn]
  cases align <;>
    simp only [block, box, Rect.moved, TextStyle.width, TextStyle.height, TextMark.columns,
      TextMark.rows, widthReal, heightReal, half_coe, ← EReal.coe_add, ← EReal.coe_sub] <;>
    apply Rect.contains_corners <;> linarith

/-! ### Entries one after the other -/

section Placed

variable {taken : LegendEntry → EReal} {corner : EReal → Point EReal} {listed : List LegendEntry}

private theorem mem_placed (lengths : ∀ content ∈ listed, IsLength (taken content)) {start : EReal}
    (finite : Finite start) {block : Block EReal}
    (member : block ∈ placed taken corner listed start) :
    ∃ content ∈ listed, ∃ offset, start ≤ offset ∧ Finite offset ∧
      block = .entry content (corner offset) := by
  induction listed generalizing start with
  | nil => cases member
  | cons first rest ih =>
      rw [List.forall_mem_cons] at lengths
      rcases List.mem_cons.mp member with rfl | later
      · exact ⟨first, List.mem_cons_self, start, le_rfl, finite, rfl⟩
      · obtain ⟨content, among, offset, after, bounded, same⟩ :=
          ih lengths.2 (finite.add lengths.1.2) later
        exact ⟨content, List.mem_cons_of_mem _ among, offset,
          (le_add_of_nonneg_right lengths.1.1).trans after, bounded, same⟩

/-- What holds of an entry and any that comes further on than the entry takes. -/
private theorem placed_pairwise {holds : Block EReal → Block EReal → Prop}
    (lengths : ∀ content ∈ listed, IsLength (taken content)) {start : EReal} (finite : Finite start)
    (beyond : ∀ content other offset next, offset + taken content ≤ next →
      holds (.entry content (corner offset)) (.entry other (corner next))) :
    (placed taken corner listed start).Pairwise holds := by
  induction listed generalizing start with
  | nil => exact .nil
  | cons first rest ih =>
      rw [List.forall_mem_cons] at lengths
      have further : Finite (start + taken first) := finite.add lengths.1.2
      refine .cons (fun block later => ?_) (ih lengths.2 further)
      obtain ⟨content, _among, offset, after, _bounded, rfl⟩ := mem_placed lengths.2 further later
      exact beyond first content start offset after

private theorem line_step (sized : Sized options) :
    IsLength (Legend.lineHeight options + entryGap) :=
  sized.lineHeight.add (isLength_natCast 4)

private theorem entry_step (sized : Sized options) (content : LegendEntry) :
    IsLength (Legend.entryWidth options content + Scalar.ofNat 2 * entryGap) :=
  (sized.entryWidth content).add ((isLength_natCast 2).mul (isLength_natCast 4))

private theorem mem_columnBlocks (sized : Sized options) {start : EReal} (finite : Finite start)
    {block : Block EReal} (member : block ∈ columnBlocks options listed start) :
    ∃ content ∈ listed, ∃ y, start ≤ y ∧ Finite y ∧ block = .entry content ⟨padding, y⟩ :=
  mem_placed (fun _content _listed => line_step sized) finite member

private theorem mem_rowBlocks (sized : Sized options) (y : EReal) {start : EReal}
    (finite : Finite start)
    {block : Block EReal} (member : block ∈ rowBlocks options y listed start) :
    ∃ content ∈ listed, ∃ x, start ≤ x ∧ Finite x ∧ block = .entry content ⟨x, y⟩ :=
  mem_placed (fun content _listed => entry_step sized content) finite member

private theorem columnBlocks_pairwise (sized : Sized options) {start : EReal}
    (finite : Finite start) :
    (columnBlocks options listed start).Pairwise fun first second =>
      (first.box options).Apart (second.box options) := by
  refine placed_pairwise (fun _content _listed => line_step sized) finite
    fun content other offset next after => ⟨.bottom, ?_⟩
  exact IsLength.le_of_beyond (isLength_natCast 4) after

private theorem rowBlocks_pairwise (sized : Sized options) (y : EReal) {start : EReal}
    (finite : Finite start) :
    (rowBlocks options y listed start).Pairwise fun first second =>
      (first.box options).Apart (second.box options) := by
  refine placed_pairwise (fun content _listed => entry_step sized content) finite
    fun content other offset next after => ⟨.right, ?_⟩
  exact IsLength.le_of_beyond ((isLength_natCast 2).mul (isLength_natCast 4)) after

end Placed

/-! ### Room for the blocks -/

section Room

variable {plots : List (Plot EReal)} {side : Side} {band : Rect EReal}

private theorem belowTitle_eq (start : EReal) :
    belowTitle options start = start + titleHeight options := by
  unfold belowTitle titleHeight
  cases title options with
  | none =>
      change start = start + ((0 : ℕ) : EReal)
      rw [Nat.cast_zero, add_zero]
  | some titled => rfl

private theorem titleHeight_isLength (sized : Sized options) : IsLength (titleHeight options) := by
  unfold titleHeight
  cases titled : title options with
  | none => exact isLength_natCast 0
  | some heading =>
      have font : heading.2.font = options.titleFont := congrArg TextStyle.font (title_style titled)
      exact (font ▸ sized.title : IsLength (Font.height heading.2.font)).add (isLength_natCast 4)

private theorem belowTitle_finite (sized : Sized options) {start : EReal} (finite : Finite start) :
    Finite (belowTitle options start) := by
  rw [belowTitle_eq]
  exact finite.add (titleHeight_isLength sized).2

private theorem columnStart_finite (sized : Sized options) (listed : List LegendEntry)
    (long : Finite band.height) : Finite (columnStart options listed band) := by
  have lines : IsLength (Scalar.ofNat listed.length * (Legend.lineHeight options + entryGap)) :=
    (isLength_natCast _).mul (line_step sized)
  have content := ((titleHeight_isLength sized).add lines).2.sub (finite_natCast 4)
  exact (long.sub content).half.scalarMax (finite_natCast 6)

private theorem rowStart_finite (sized : Sized options) (listed : List LegendEntry)
    (long : Finite band.width) : Finite (rowStart options listed band) := by
  have widths : Finite (Scalar.sum (listed.map (Legend.entryWidth options))) := by
    rw [sum_eq]
    exact Finite.sum (List.forall_mem_map.mpr fun content _listed => (sized.entryWidth content).2)
  have gaps := ((isLength_natCast 2).mul (isLength_natCast 4)).2.mul
    ((finite_natCast (listed.map (Legend.entryWidth options)).length).sub (finite_natCast 1))
  exact (long.sub (widths.add gaps)).half.scalarMax (finite_natCast 0)

private theorem blocks_liesIn (sized : Sized options) (listed : List LegendEntry)
    (long : Finite (band.lengthAlong side)) {dx dy : ℝ} (moved : state.matrix = .shift dx dy) :
    ∀ block ∈ blocks options listed side band, ∀ op ∈ block.ops options state,
      op.LiesIn ((block.box options).moved dx dy) := by
  have titles {anchor : Point EReal} (column : Finite anchor.x) (row : Finite anchor.y)
      (align : TextAlign) : ∀ block ∈ titleBlocks options anchor align,
        ∀ op ∈ block.ops options state, op.LiesIn ((block.box options).moved dx dy) := by
    intro block member
    obtain ⟨text, style, titled, rfl⟩ := title_of_mem member
    have font : IsLength (Font.height style.font) := title_style titled ▸ sized.title
    exact Block.title_liesIn font text column row align moved
  have padded : Finite (padding : EReal) := finite_natCast 6
  unfold blocks
  unfold Rect.lengthAlong at long
  cases horizontal : side.isHorizontal with
  | true =>
      rw [horizontal, if_pos rfl] at long
      rw [if_pos rfl, List.forall_mem_append]
      refine ⟨titles long.half padded .center, fun block member => ?_⟩
      obtain ⟨content, _among, x, _after, bounded, rfl⟩ :=
        mem_rowBlocks sized _ (rowStart_finite sized listed long) member
      exact Block.entry_liesIn sized content bounded (belowTitle_finite sized padded) moved
  | false =>
      rw [horizontal, if_neg Bool.false_ne_true] at long
      rw [if_neg Bool.false_ne_true, List.forall_mem_append]
      have start := columnStart_finite sized listed long
      refine ⟨titles padded start .left, fun block member => ?_⟩
      obtain ⟨content, _among, y, _after, bounded, rfl⟩ :=
        mem_columnBlocks sized (belowTitle_finite sized start) member
      exact Block.entry_liesIn sized content padded bounded moved

private theorem padded_eq (extent : EReal) :
    padding + extent + padding = extent + Scalar.ofNat 2 * padding := by
  have twice : (padding : EReal) + padding = Scalar.ofNat 2 * padding :=
    (Nat.cast_add 6 6).symm.trans (EReal.natCast_mul 2 6)
  rw [add_right_comm, add_comm, twice]

private theorem sizeRequired_horizontal (shown : options.visible = true)
    (listed : entries plots ≠ []) (horizontal : side.isHorizontal = true) :
    sizeRequired options plots side =
      padding + (titleHeight options + Legend.lineHeight options) + padding := by
  rw [padded_eq, add_comm (titleHeight options)]
  unfold sizeRequired
  dsimp only
  rw [not_blank shown listed, if_neg Bool.false_ne_true, if_pos horizontal]
  rfl

private theorem sizeRequired_vertical (shown : options.visible = true) (listed : entries plots ≠ [])
    (vertical : side.isHorizontal = false) :
    ∃ extent, sizeRequired options plots side = padding + extent + padding ∧
      (∀ content ∈ entries plots, Legend.entryWidth options content ≤ extent) ∧
      ∀ text style, title options = some (text, style) → style.width text ≤ extent := by
  let widths := (entries plots).map (Legend.entryWidth options)
  have widest := foldl_max_bounds widths (Scalar.ofNat 0)
  obtain ⟨titleWidth, required, headed⟩ : ∃ titleWidth : EReal,
      sizeRequired options plots side =
        Scalar.max (widths.foldl Scalar.max (Scalar.ofNat 0)) titleWidth + Scalar.ofNat 2 * padding ∧
      ∀ text style, title options = some (text, style) → titleWidth = style.width text := by
    unfold sizeRequired
    dsimp only
    rw [not_blank shown listed, if_neg Bool.false_ne_true, vertical, if_neg Bool.false_ne_true]
    exact ⟨_, rfl, fun text style titled => by rw [titled]⟩
  rw [max_eq, ← padded_eq] at required
  refine ⟨_, required, ?_, ?_⟩
  · intro content among
    exact (widest.2 _ (List.mem_map_of_mem among)).trans (le_max_left _ _)
  · intro text style titled
    rw [← headed text style titled]
    exact le_max_right _ _

private theorem titleHeight_of_title {text : String} {style : TextStyle}
    (titled : title options = some (text, style)) :
    titleHeight options = style.height + entryGap := by
  unfold titleHeight
  rw [titled]

/-- Across the side every box leaves the padding free at both ends of the band. -/
private theorem blocks_padded (sized : Sized options) (shown : options.visible = true)
    (listed : entries plots ≠ []) (long : Finite (band.lengthAlong side)) :
    ∀ block ∈ blocks options (entries plots) side band,
      padding ≤ ((block.box options).ends side).1 ∧
        ((block.box options).ends side).2 + padding ≤ sizeRequired options plots side := by
  unfold blocks Rect.ends
  unfold Rect.lengthAlong at long
  cases horizontal : side.isHorizontal with
  | true =>
      rw [horizontal, if_pos rfl] at long
      rw [sizeRequired_horizontal shown listed horizontal, if_pos rfl]
      simp only [if_true]
      refine List.forall_mem_append.mpr ⟨fun block member => ?_, fun block member => ?_⟩
      · obtain ⟨text, style, titled, rfl⟩ := title_of_mem member
        refine ⟨le_rfl, add_le_add (add_le_add le_rfl ?_) le_rfl⟩
        rw [titleHeight_of_title titled, add_assoc]
        exact le_add_of_nonneg_right (add_nonneg (Nat.cast_nonneg' 4) sized.lineHeight.1)
      · obtain ⟨content, _among, x, _after, _bounded, rfl⟩ :=
          mem_rowBlocks sized _ (rowStart_finite sized _ long) member
        rw [belowTitle_eq]
        exact ⟨le_add_of_nonneg_right (titleHeight_isLength sized).1,
          add_le_add (add_assoc _ _ _).le le_rfl⟩
  | false =>
      obtain ⟨extent, required, widest, titleFits⟩ := sizeRequired_vertical shown listed horizontal
      rw [horizontal, if_neg Bool.false_ne_true] at long
      rw [required, if_neg Bool.false_ne_true]
      simp only [Bool.false_eq_true, if_false]
      have below := belowTitle_finite sized (columnStart_finite sized (entries plots) long)
      refine List.forall_mem_append.mpr ⟨fun block member => ?_, fun block member => ?_⟩
      · obtain ⟨text, style, titled, rfl⟩ := title_of_mem member
        exact ⟨le_rfl, add_le_add (add_le_add le_rfl (titleFits text style titled)) le_rfl⟩
      · obtain ⟨content, among, y, _after, _bounded, rfl⟩ := mem_columnBlocks sized below member
        exact ⟨le_rfl, add_le_add (add_le_add le_rfl (widest content among)) le_rfl⟩

/-- A title lies above blocks that begin below it. -/
private theorem titled_pairwise {anchor : Point EReal} (align : TextAlign)
    {rest : List (Block EReal)}
    (apart : rest.Pairwise fun first second => (first.box options).Apart (second.box options))
    (below : ∀ block ∈ rest, belowTitle options anchor.y ≤ (block.box options).y) :
    (titleBlocks options anchor align ++ rest).Pairwise fun first second =>
      (first.box options).Apart (second.box options) := by
  cases titled : title options with
  | none =>
      unfold titleBlocks
      rw [titled]
      exact apart
  | some heading =>
      obtain ⟨text, style⟩ := heading
      unfold titleBlocks
      rw [titled]
      refine List.pairwise_cons.mpr ⟨fun block later => ⟨.bottom, ?_⟩, apart⟩
      have first := below block later
      rw [belowTitle_eq, titleHeight_of_title titled] at first
      exact IsLength.le_of_beyond (isLength_natCast 4) first

private theorem blocks_pairwise (sized : Sized options) (listed : List LegendEntry)
    (long : Finite (band.lengthAlong side)) :
    (blocks options listed side band).Pairwise fun first second =>
      (first.box options).Apart (second.box options) := by
  unfold blocks
  unfold Rect.lengthAlong at long
  cases horizontal : side.isHorizontal with
  | true =>
      rw [horizontal, if_pos rfl] at long
      rw [if_pos rfl]
      have start := rowStart_finite sized listed long
      refine titled_pairwise .center (rowBlocks_pairwise sized _ start) fun block member => ?_
      obtain ⟨content, _among, x, _after, _bounded, rfl⟩ := mem_rowBlocks sized _ start member
      exact le_rfl
  | false =>
      rw [horizontal, if_neg Bool.false_ne_true] at long
      rw [if_neg Bool.false_ne_true]
      have start := belowTitle_finite sized (columnStart_finite sized listed long)
      refine titled_pairwise .left (columnBlocks_pairwise sized start) fun block member => ?_
      obtain ⟨content, _among, y, after, _bounded, rfl⟩ := mem_columnBlocks sized start member
      exact after

/-- In a band as thick as it asks for, a legend records its blocks, the title first and then one
for every entry. Nothing of them comes closer to the edges of the band than the padding. Each
stays in its box, and no two boxes overlap. -/
theorem draw_keepsPadding (sized : Sized options) (shown : options.visible = true)
    (listed : entries plots ≠ [])
    (thick : band.lengthAcross side = sizeRequired options plots side)
    (long : Finite (band.lengthAlong side)) {dx dy : ℝ} (moved : state.matrix = .shift dx dy) :
    let parts := blocks options (entries plots) side band
    let area : Rect EReal := ⟨dx, dy, band.width, band.height⟩
    (draw options plots side band).Draws state state (parts.flatMap (Block.ops options state)) ∧
      parts.filterMap Block.entry? = entries plots ∧
      (∀ op ∈ parts.flatMap (Block.ops options state), op.KeepsOff area side padding) ∧
      (∀ block ∈ parts, ∀ op ∈ block.ops options state,
        op.LiesIn ((block.box options).moved dx dy)) ∧
      parts.Pairwise fun first second => (first.box options).Apart (second.box options) := by
  intro parts area
  have inBoxes := blocks_liesIn sized (entries plots) long moved
  refine ⟨draw_draws options state shown listed side band, blocks_entries options _ side band, ?_,
    inBoxes, blocks_pairwise sized _ long⟩
  -- A corner lies in the box of its block, and the box leaves the padding free.
  intro op member point corner
  obtain ⟨block, among, ofBlock⟩ := List.mem_flatMap.mp member
  obtain ⟨near, far⟩ := (inBoxes block among op ofBlock point corner).between side
  obtain ⟨start, stop⟩ := blocks_padded sized shown listed long block among
  rw [← thick] at stop
  obtain ⟨after, before⟩ := Rect.moved_ends_within dx dy start stop
  exact ⟨after.trans near, (add_le_add far le_rfl).trans before⟩

end Room

/-! ### A titled legend -/

noncomputable def headed : LegendOptions EReal :=
  { LegendOptions.standard with title := some "Key", font := "sans-serif", titleFont := "serif" }

noncomputable def twoSeries : List (Plot EReal) :=
  [⟨.scatter, PlotOptions.standard, [.ofValues [0], .ofValues [1]]⟩]

private theorem headed_sized : Sized headed where
  label :=
    have unnamed : (Font.size? "sans-serif" : Option EReal) = none := by rfl
    Font.isLength_of_unnamed unnamed
  title :=
    have unnamed : (Font.size? "serif" : Option EReal) = none := by rfl
    Font.isLength_of_unnamed unnamed
  swatch := isLength_natCast 10

omit [NumberTexts] in
/-- Three blocks in a vertical band. -/
theorem draw_keepsPadding_headed :
    letI := Exact.wholeTexts
    let state : GraphicsState EReal :=
      { GraphicsState.initial with matrix := .shift (20 : ℝ) (30 : ℝ) }
    let band : Rect EReal :=
      ⟨Scalar.ofNat 0, Scalar.ofNat 0, sizeRequired headed twoSeries .right, (200 : ℝ)⟩
    let parts := blocks headed (entries twoSeries) .right band
    let area : Rect EReal := ⟨(20 : ℝ), (30 : ℝ), band.width, band.height⟩
    Sized headed ∧ headed.visible = true ∧ entries twoSeries ≠ [] ∧
      Finite (band.lengthAlong .right) ∧ parts.length = 3 ∧
      (draw headed twoSeries .right band).Draws state state
        (parts.flatMap (Block.ops headed state)) ∧
      (∀ op ∈ parts.flatMap (Block.ops headed state), op.KeepsOff area .right padding) ∧
      parts.Pairwise fun first second => (first.box headed).Apart (second.box headed) := by
  let _texts := Exact.wholeTexts
  intro state band parts area
  have listed : entries twoSeries ≠ [] := List.cons_ne_nil _ _
  have long : Finite (band.lengthAlong .right) := finite_coe 200
  have thick : band.lengthAcross .right = sizeRequired headed twoSeries .right := rfl
  have moved : state.matrix = .shift ((20 : ℝ) : EReal) ((30 : ℝ) : EReal) := rfl
  obtain ⟨drawn, _entries, keepsOff, _inBoxes, apart⟩ :=
    draw_keepsPadding headed_sized rfl listed thick long moved
  exact ⟨headed_sized, rfl, listed, long, rfl, drawn, keepsOff, apart⟩

end Legend
end CanvasChart
