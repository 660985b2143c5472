import CanvasChart.Proofs.Section.TickParts
import CanvasChart.Section.Legend

set_option autoImplicit false

/-! The blocks of a legend: its title, and one for every entry. Each has a corner in the band of
the legend, and a legend records the operations of its blocks one after the other. -/

namespace CanvasChart.Legend

open Drawing

variable {α : Type}

/-! ### Blocks -/

inductive Block (α : Type) where
  /-- A text below a point on its upper edge. -/
  | title (text : String) (style : TextStyle) (anchor : Point α) (align : TextAlign)
  /-- An entry with its upper left corner. -/
  | entry (content : LegendEntry) (corner : Point α)

def Block.entry? : Block α → Option LegendEntry
  | title .. => none
  | entry content _ => some content

variable [Scalar α]

/-- One entry after the other. What an entry takes is the distance to the next one. -/
def placed (taken : LegendEntry → α) (corner : α → Point α) :
    List LegendEntry → α → List (Block α)
  | [], _ => []
  | content :: rest, offset =>
      .entry content (corner offset) :: placed taken corner rest (offset + taken content)

private theorem placed_entries (taken : LegendEntry → α) (corner : α → Point α)
    (listed : List LegendEntry) (start : α) :
    (placed taken corner listed start).filterMap Block.entry? = listed := by
  induction listed generalizing start with
  | nil => rfl
  | cons content rest ih => exact congrArg (List.cons content) (ih _)

variable (options : LegendOptions α) (state : GraphicsState α)

def swatch (corner : Point α) : Rect α :=
  ⟨corner.x, corner.y + (lineHeight options - options.swatchSize) / 2, options.swatchSize,
    options.swatchSize⟩

def nameAnchor (corner : Point α) : Point α :=
  ⟨corner.x + options.swatchSize + swatchGap, corner.y + lineHeight options / 2⟩

def textOp (style : TextStyle) (text : String) (anchor : Point α) (align : TextAlign)
    (baseline : TextBaseline) : DrawOp α :=
  .text ⟨text, state.matrix.apply anchor, style.font, style.color, align, baseline,
    state.matrix.angle⟩

namespace Block

/-- The box that a block fills. -/
def box : Block α → Rect α
  | title text style anchor align =>
      let width := style.width text
      let left :=
        match align with
        | .left => anchor.x
        | .center => anchor.x - width / 2
        | .right => anchor.x - width
      ⟨left, anchor.y, width, style.height⟩
  | entry content corner => ⟨corner.x, corner.y, entryWidth options content, lineHeight options⟩

def draw : Block α → Drawing α
  | title text style anchor align => style.draw text anchor align .top
  | entry content corner => drawEntry options content corner

/-- What a block records. -/
def ops : Block α → List (DrawOp α)
  | title text style anchor align => [textOp state style text anchor align .top]
  | entry content corner =>
      [ .fillRect (state.matrix.boundsOf (swatch options corner)) content.color state.alpha,
        textOp state (labelStyle options) content.name (nameAnchor options corner) .left .middle ]

private theorem draw_draws (block : Block α) :
    (block.draw options).Draws state state (block.ops options state) := by
  cases block with
  | title text style anchor align => exact style.draw_draws text anchor align .top state
  | entry content corner =>
      have filled : (scope (.calls [.setFillStyle content.color,
          .fillRect (swatch options corner)])).Draws state state
            [.fillRect (state.matrix.boundsOf (swatch options corner)) content.color
              state.alpha] := ⟨none, fun _saved _path _ops => rfl⟩
      exact filled.append ((labelStyle options).draw_draws content.name
        (nameAnchor options corner) .left .middle state)

end Block

/-! ### The blocks of a band -/

def titleBlocks (anchor : Point α) (align : TextAlign) : List (Block α) :=
  match title options with
  | some (text, style) => [.title text style anchor align]
  | none => []

omit [Scalar α] in
theorem title_style {options : LegendOptions α} {text : String} {style : TextStyle}
    (titled : title options = some (text, style)) :
    style = ⟨options.titleFont, options.titleColor⟩ := by
  unfold title Title.nonempty at titled
  split at titled
  case h_1 =>
    split at titled
    case isTrue => cases titled
    case isFalse =>
      cases titled
      rfl
  case h_2 => cases titled

omit [Scalar α] in
theorem title_of_mem {options : LegendOptions α} {anchor : Point α} {align : TextAlign}
    {block : Block α} (member : block ∈ titleBlocks options anchor align) :
    ∃ text style, title options = some (text, style) ∧ block = .title text style anchor align := by
  unfold titleBlocks at member
  split at member
  case h_1 text style titled => exact ⟨text, style, titled, List.mem_singleton.mp member⟩
  case h_2 => cases member

def belowTitle (start : α) : α :=
  match title options with
  | some (_, style) => start + (style.height + entryGap)
  | none => start

def columnStart (listed : List LegendEntry) (band : Rect α) : α :=
  let content :=
    titleHeight options + Scalar.ofNat listed.length * (lineHeight options + entryGap) - entryGap
  Scalar.max ((band.height - content) / 2) padding

def rowStart (listed : List LegendEntry) (band : Rect α) : α :=
  let widths := listed.map (entryWidth options)
  let total := Scalar.sum widths + 2 * entryGap * (Scalar.ofNat widths.length - 1)
  Scalar.max ((band.width - total) / 2) 0

def columnBlocks (listed : List LegendEntry) (start : α) : List (Block α) :=
  placed (fun _ => lineHeight options + entryGap) (fun y => ⟨padding, y⟩) listed start

def rowBlocks (y : α) (listed : List LegendEntry) (start : α) : List (Block α) :=
  placed (fun content => entryWidth options content + 2 * entryGap) (fun x => ⟨x, y⟩) listed start

def blocks (listed : List LegendEntry) (side : Side) (band : Rect α) : List (Block α) :=
  if side.isHorizontal then
    titleBlocks options ⟨band.width / 2, padding⟩ .center ++
      rowBlocks options (belowTitle options padding) listed (rowStart options listed band)
  else
    titleBlocks options ⟨padding, columnStart options listed band⟩ .left ++
      columnBlocks options listed (belowTitle options (columnStart options listed band))

theorem blocks_entries (listed : List LegendEntry) (side : Side) (band : Rect α) :
    (blocks options listed side band).filterMap Block.entry? = listed := by
  have untitled (anchor : Point α) (align : TextAlign) :
      (titleBlocks options anchor align).filterMap Block.entry? = [] := by
    unfold titleBlocks
    split <;> rfl
  unfold blocks
  split <;> rw [List.filterMap_append, untitled, List.nil_append] <;> exact placed_entries _ _ _ _

/-! ### Drawing -/

private theorem drawColumn_eq (listed : List LegendEntry) (start : α) :
    drawColumn options listed start =
      sequence ((columnBlocks options listed start).map (Block.draw options)) := by
  induction listed generalizing start with
  | nil => rfl
  | cons content rest ih => exact congrArg (andThen _) (ih _)

private theorem drawRow_eq (y : α) (listed : List LegendEntry) (start : α) :
    drawRow options y listed start =
      sequence ((rowBlocks options y listed start).map (Block.draw options)) := by
  induction listed generalizing start with
  | nil => rfl
  | cons content rest ih => exact congrArg (andThen _) (ih _)

private theorem measureEntries_draws (listed : List LegendEntry) :
    (measureEntries options listed).Draws state state [] := by
  have measured : (labelStyle options).measure.Draws state state [] :=
    draws_of_silent fun saved path ops => TextStyle.run_measure _ _
  have silent := draws_sequence listed (fun _ => (labelStyle options).measure) (fun _ => [])
    fun _content _member => measured
  rwa [List.flatMap_eq_nil_iff.mpr fun _content _member => rfl] at silent

private theorem blocks_draws (list : List (Block α)) :
    (sequence (list.map (Block.draw options))).Draws state state
      (list.flatMap (Block.ops options state)) :=
  draws_sequence list _ _ fun block _member => block.draw_draws options state

private theorem drawVertical_draws (listed : List LegendEntry) (band : Rect α) :
    (drawVertical options listed band).Draws state state
      ((titleBlocks options ⟨padding, columnStart options listed band⟩ .left ++
        columnBlocks options listed (belowTitle options (columnStart options listed band))).flatMap
          (Block.ops options state)) := by
  rw [List.flatMap_append]
  unfold drawVertical titleBlocks belowTitle columnStart titleHeight
  dsimp only
  simp only [drawColumn_eq]
  cases title options with
  | none => exact blocks_draws options state _
  | some titled =>
      exact (titled.2.draw_draws titled.1 _ .left .top state).append (blocks_draws options state _)

private theorem drawHorizontal_draws (listed : List LegendEntry) (band : Rect α) :
    (drawHorizontal options listed band).Draws state state
      ((titleBlocks options ⟨band.width / 2, padding⟩ .center ++
        rowBlocks options (belowTitle options padding) listed
          (rowStart options listed band)).flatMap (Block.ops options state)) := by
  rw [List.flatMap_append]
  unfold drawHorizontal titleBlocks belowTitle rowStart
  dsimp only
  simp only [drawRow_eq]
  have measured := measureEntries_draws options state listed
  cases title options with
  | none => exact measured.append (blocks_draws options state _)
  | some titled =>
      exact ((titled.2.draw_draws titled.1 _ .center .top state).append measured).append
        (blocks_draws options state _)

omit [Scalar α] in
theorem not_blank {options : LegendOptions α} {plots : List (Plot α)}
    (shown : options.visible = true) (listed : entries plots ≠ []) :
    (!options.visible || (entries plots).isEmpty) = false := by
  simp [shown, listed]

/-- A legend that is shown and has entries records its blocks. -/
theorem draw_draws {plots : List (Plot α)} (shown : options.visible = true)
    (listed : entries plots ≠ []) (side : Side) (band : Rect α) :
    (draw options plots side band).Draws state state
      ((blocks options (entries plots) side band).flatMap (Block.ops options state)) := by
  unfold draw blocks
  dsimp only
  rw [not_blank shown listed, if_neg Bool.false_ne_true]
  split
  case isTrue => exact drawHorizontal_draws options state _ band
  case isFalse => exact drawVertical_draws options state _ band

end CanvasChart.Legend
