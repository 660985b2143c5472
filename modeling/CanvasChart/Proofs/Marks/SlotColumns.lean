import CanvasChart.Proofs.Axis.Cells
import CanvasChart.Proofs.Marks.BarColumns

set_option autoImplicit false

/-! The columns of a group of bar plots. Counted plot by plot they belong to one plot each, and to
one series of it unless it is stacked. They divide a slot evenly, so that the bars in different
columns of a slot lie apart. -/

namespace CanvasChart.Bar

/-! ### Columns of plots -/

section Placed

variable {α : Type} {group : List (Plot α)} {start : Nat}

private theorem le_first {place first : Nat} {plot : Plot α}
    (found : (placed start group)[place]? = some (first, plot)) : start ≤ first := by
  induction group generalizing start place with
  | nil => cases found
  | cons next rest ih =>
      cases place with
      | zero =>
          cases found
          exact Nat.le_refl _
      | succ place => exact (Nat.le_add_right _ _).trans (ih found)

private theorem columns_before {place later first second : Nat} {plot other : Plot α}
    (left : (placed start group)[place]? = some (first, plot))
    (right : (placed start group)[later]? = some (second, other)) (before : place < later) :
    first + columns plot ≤ second := by
  induction group generalizing start place later with
  | nil => cases left
  | cons next rest ih =>
      obtain ⟨later, rfl⟩ := Nat.exists_eq_succ_of_ne_zero (Nat.ne_zero_of_lt before)
      cases place with
      | zero =>
          cases left
          exact le_first right
      | succ place => exact ih left right (Nat.lt_of_succ_lt_succ before)

private theorem exists_placed {column : Nat} (above : start ≤ column)
    (below : column < group.foldl (fun total plot => total + columns plot) start) :
    ∃ (place first : Nat) (plot : Plot α), (placed start group)[place]? = some (first, plot) ∧
      first ≤ column ∧ column < first + columns plot := by
  induction group generalizing start with
  | nil => exact absurd below (Nat.not_lt.mpr above)
  | cons next rest ih =>
      by_cases own : column < start + columns next
      · exact ⟨0, start, next, rfl, above, own⟩
      · obtain ⟨place, found⟩ := ih (Nat.not_lt.mp own) below
        exact ⟨place + 1, found⟩

end Placed

/-- The column is that of an index among the columns of the plot at a place of the group. -/
def Takes {α : Type} (group : List (Plot α)) (place index column : Nat) : Prop :=
  ∃ first plot, (placed 0 group)[place]? = some (first, plot) ∧ index < columns plot ∧
    column = first + index

section Columns

variable {α : Type} {group : List (Plot α)}

/-- Each of the columns belongs to one plot of the group and has one index there. -/
structure OwnColumns (group : List (Plot α)) : Prop where
  below : ∀ {place index column}, Takes group place index column → column < total group
  own : ∀ {place index place' index' column}, Takes group place index column →
    Takes group place' index' column → place = place' ∧ index = index'
  all : ∀ column < total group, ∃ place index, Takes group place index column
  each : ∀ {place index plot}, group[place]? = some plot → index < columns plot →
    ∃! column, Takes group place index column

private theorem ownColumns (group : List (Plot α)) : OwnColumns group where
  below := by
    rintro place index column ⟨first, plot, found, bound, rfl⟩
    exact Nat.lt_of_lt_of_le (Nat.add_lt_add_left bound first)
      (placed_le (List.mem_of_getElem? found))
  own := by
    rintro place index place' index' column ⟨first, plot, found, bound, rfl⟩
      ⟨first', plot', found', bound', same⟩
    rcases Nat.lt_trichotomy place place' with before | rfl | after
    · have apart := columns_before found found' before
      omega
    · cases found.symm.trans found'
      exact ⟨rfl, Nat.add_left_cancel same⟩
    · have apart := columns_before found' found after
      omega
  all := by
    intro column below
    obtain ⟨place, first, plot, found, above, within⟩ := exists_placed (Nat.zero_le column) below
    exact ⟨place, column - first, first, plot, found, by omega, by omega⟩
  each := by
    intro place index plot listed bound
    rw [← placed_snd 0 group, List.getElem?_map] at listed
    obtain ⟨⟨first, _plot⟩, found, rfl⟩ := Option.map_eq_some_iff.mp listed
    refine ⟨first + index, ⟨first, _, found, bound, rfl⟩, ?_⟩
    rintro column ⟨first', _plot', found', _bound', rfl⟩
    cases found.symm.trans found'
    rfl

end Columns

/-! ### Columns of a slot -/

variable [NumberTexts]

/-- Columns of one width, of a pixel at least, with a spacer before, between and after them. -/
structure Spaced (width spacer : EReal) (total : ℕ) : Prop where
  equal : ∀ column, (columnGeometry width spacer column total).2 =
    (columnGeometry width spacer 0 total).2
  wide : 1 ≤ (columnGeometry width spacer 0 total).2
  first : (columnGeometry width spacer 0 total).1 = spacer
  next : ∀ column, (columnGeometry width spacer (column + 1) total).1 =
    (columnGeometry width spacer column total).1 +
      (columnGeometry width spacer column total).2 + spacer
  last : ∀ column, column + 1 = total →
    (columnGeometry width spacer column total).1 +
      (columnGeometry width spacer column total).2 + spacer = width

theorem Roomy.spaced {width spacer : EReal} {total : ℕ} (roomy : Roomy spacer width total) :
    Spaced width spacer total where
  equal _column := rfl
  wide := one_le_width width spacer 0 total
  first := offset_zero
  next := offset_succ
  last column same := by
    rw [← offset_succ, same]
    exact columns_fill roomy (same ▸ Nat.succ_pos column)

private theorem columns_apart {width spacer : EReal} {total : ℕ} (nonneg : 0 ≤ spacer)
    {column later : ℕ} (before : column < later) :
    (columnGeometry width spacer column total).1 +
      (columnGeometry width spacer column total).2 + spacer ≤
        (columnGeometry width spacer later total).1 := by
  have step : 0 ≤ (columnGeometry width spacer column total).2 + spacer :=
    add_nonneg (columnGeometry_nonneg width spacer column total) nonneg
  rw [← offset_succ, offset_eq, offset_eq]
  exact add_le_add_right (mul_le_mul_of_nonneg_right (Nat.cast_le.mpr before) step) spacer

/-! ### Bars -/

/-- A bar of the series at an index of the plot at a place of the group, with its slot and its
column in the slot. -/
structure DrawnIn (context : MarkContext EReal) (group : List (Plot EReal))
    (place index column : ℕ) (slot : EReal × EReal) (bar : Rect EReal) : Prop where
  drawn : ∃ first plot series extents position point extent yAxis,
    (placed 0 group)[place]? = some (first, plot) ∧ context.yAxis plot = .ok yAxis ∧
    plot.stackedSeries[index]? = some (series, extents) ∧
    (series.data.zip extents)[position]? = some (point, extent) ∧
    column = columnOf first ⟨plot, index, series⟩ ∧
    slot = context.xAxis.slot position point.key plot.keyCount ∧
    bar = rect context yAxis plot.keyCount column (total group) position point extent

section Group

variable {context : MarkContext EReal} {group : List (Plot EReal)} {place index column : ℕ}
  {slot : EReal × EReal} {bar : Rect EReal}

theorem Drawn.exists_drawnIn {plot : Plot EReal} {position : ℕ} {point : DataPoint EReal}
    (drawn : Drawn context group plot position point bar) :
    ∃ place index column slot, DrawnIn context group place index column slot bar := by
  obtain ⟨first, index, series, extents, extent, yAxis, member, held, stacked, paired, rfl⟩ :=
    drawn.drawn
  obtain ⟨place, found⟩ := List.getElem?_of_mem member
  exact ⟨place, index, _, _, ⟨first, plot, series, extents, position, point, extent, yAxis, found,
    held, stacked, paired, rfl, rfl, rfl⟩⟩

/-- A bar stands in a column of its plot, the series of a stacked plot in the same one. -/
theorem DrawnIn.takes (drawn : DrawnIn context group place index column slot bar) :
    ∃ plot, group[place]? = some plot ∧ index < plot.series.length ∧
      Takes group place (if plot.isStacked then 0 else index) column := by
  obtain ⟨first, plot, series, extents, _position, _point, _extent, _yAxis, found, _held, stacked,
    _paired, rfl, _slot, _bar⟩ := drawn.drawn
  have listed : group[place]? = some plot := by
    rw [← placed_snd 0 group, List.getElem?_map, found]
    rfl
  have bound : index < plot.series.length := by
    obtain ⟨within, _found⟩ := List.getElem?_eq_some_iff.mp stacked
    rwa [← plot.stackedSeries_fst, List.length_map]
  refine ⟨plot, listed, bound, first, plot, found, ?_, ?_⟩
  · unfold columns
    split
    · exact Nat.one_pos
    · exact bound.trans_le (Nat.le_max_left _ _)
  · unfold columnOf
    split <;> rfl

theorem DrawnIn.stands (drawn : DrawnIn context group place index column slot bar) :
    bar.x = slot.1 + (columnGeometry slot.2 context.barSpacer column (total group)).1 ∧
      bar.width = (columnGeometry slot.2 context.barSpacer column (total group)).2 := by
  obtain ⟨_first, _plot, _series, _extents, _position, _point, _extent, _yAxis, _found, _held,
    _stacked, _paired, _column, rfl, rfl⟩ := drawn.drawn
  exact ⟨rfl, rfl⟩

theorem DrawnIn.spans (drawn : DrawnIn context group place index column slot bar) :
    let geometry := columnGeometry slot.2 context.barSpacer column (total group)
    bar.x + bar.width + context.barSpacer =
      slot.1 + (geometry.1 + geometry.2 + context.barSpacer) := by
  obtain ⟨left, width⟩ := drawn.stands
  simp only [left, width, add_assoc]

theorem DrawnIn.recorded (drawn : DrawnIn context group place index column slot bar)
    (bars : ∀ plot ∈ group, plot.kind = .bar) (state : GraphicsState EReal) :
    ∃ color alpha, .fillRect (state.matrix.boundsOf bar) color alpha ∈
      Plot.groupMarks context state group := by
  obtain ⟨first, plot, series, extents, position, point, extent, yAxis, found, held, stacked,
    paired, rfl, _slot, rfl⟩ := drawn.drawn
  have member := List.mem_of_getElem? found
  have kind := bars plot (mem_of_placed member)
  let style := plot.styleOf series
  refine ⟨style.color.getD Color.firstSeries, style.opacity.getD (Scalar.ofNat 1),
    List.mem_flatMap.mpr ⟨(first, plot), member, ?_⟩⟩
  simp only [Plot.marks, held, kind]
  refine List.mem_flatMap.mpr ⟨((series, extents), index),
    List.mk_mem_zipIdx_iff_getElem?.mpr stacked, ?_⟩
  exact List.mem_map_of_mem (Plot.mem_mapIdx_zip.mpr ⟨position, point, extent, paired, rfl⟩)

end Group

/-- How the bars of a group share the slots of an axis. -/
structure SharesSlots (context : MarkContext EReal) (group : List (Plot EReal)) : Prop where
  columns : OwnColumns group
  spaced : ∀ width, Roomy context.barSpacer width (total group) →
    Spaced width context.barSpacer (total group)
  /-- A bar has the place and the width of its column. -/
  stands : ∀ {place index column slot bar}, DrawnIn context group place index column slot bar →
    bar.x = slot.1 + (columnGeometry slot.2 context.barSpacer column (total group)).1 ∧
      bar.width = (columnGeometry slot.2 context.barSpacer column (total group)).2
  wide : ∀ {place index column slot bar}, DrawnIn context group place index column slot bar →
    1 ≤ bar.width
  equal : ∀ {place index column slot bar place' index' column' bar'},
    DrawnIn context group place index column slot bar →
    DrawnIn context group place' index' column' slot bar' → bar.width = bar'.width
  first : ∀ {place index slot bar}, DrawnIn context group place index 0 slot bar →
    bar.x = slot.1 + context.barSpacer
  next : ∀ {place index column slot bar place' index' bar'},
    DrawnIn context group place index column slot bar →
    DrawnIn context group place' index' (column + 1) slot bar' →
      bar'.x = bar.x + bar.width + context.barSpacer
  last : ∀ {place index column slot bar}, DrawnIn context group place index column slot bar →
    Roomy context.barSpacer slot.2 (total group) → column + 1 = total group →
      bar.x + bar.width + context.barSpacer = slot.1 + slot.2
  below : ∀ {place index column slot bar}, DrawnIn context group place index column slot bar →
    column < total group
  /-- Bars have one column just if they are of one series, or of one stacked plot. -/
  same_iff : ∀ {place index column slot bar place' index' column' slot' bar'},
    DrawnIn context group place index column slot bar →
    DrawnIn context group place' index' column' slot' bar' →
      (column = column' ↔ place = place' ∧ ∃ plot, group[place]? = some plot ∧
        (plot.isStacked = true ∨ index = index'))
  within : ∀ {place index column slot bar}, DrawnIn context group place index column slot bar →
    Roomy context.barSpacer slot.2 (total group) →
      slot.1 + context.barSpacer ≤ bar.x ∧
        bar.x + bar.width + context.barSpacer ≤ slot.1 + slot.2
  apart : ∀ {place index column slot bar place' index' column' bar'},
    DrawnIn context group place index column slot bar →
    DrawnIn context group place' index' column' slot bar' → 0 ≤ context.barSpacer →
      column < column' → bar.x + bar.width + context.barSpacer ≤ bar'.x

private theorem sharesSlots (context : MarkContext EReal) (group : List (Plot EReal)) :
    SharesSlots context group where
  columns := ownColumns group
  spaced _width roomy := roomy.spaced
  stands drawn := drawn.stands
  wide drawn := by
    rw [drawn.stands.2]
    exact one_le_width _ _ _ _
  equal one other := by
    rw [one.stands.2, other.stands.2]
    rfl
  first drawn := by
    rw [drawn.stands.1, offset_zero]
  next one other := by
    rw [other.stands.1, offset_succ, one.spans]
  last drawn roomy isLast := by
    rw [drawn.spans, roomy.spaced.last _ isLast]
  below drawn := by
    obtain ⟨_plot, _listed, _bound, takes⟩ := drawn.takes
    exact (ownColumns group).below takes
  same_iff one other := by
    obtain ⟨plot, listed, _bound, takes⟩ := one.takes
    obtain ⟨plot', listed', _bound', takes'⟩ := other.takes
    constructor
    · rintro rfl
      obtain ⟨rfl, sameIndex⟩ := (ownColumns group).own takes takes'
      cases listed.symm.trans listed'
      refine ⟨rfl, plot, listed, ?_⟩
      by_cases stacked : plot.isStacked = true
      · exact .inl stacked
      · rw [if_neg stacked, if_neg stacked] at sameIndex
        exact .inr sameIndex
    · rintro ⟨rfl, named, found, stackedOrSame⟩
      cases listed.symm.trans listed'
      cases listed.symm.trans found
      obtain ⟨first, _plot, isFirst, _among, rfl⟩ := takes
      obtain ⟨first', _plot', isFirst', _among', rfl⟩ := takes'
      cases isFirst.symm.trans isFirst'
      rcases stackedOrSame with stacked | rfl
      · rw [if_pos stacked, if_pos stacked]
      · rfl
  within drawn roomy := by
    obtain ⟨_plot, _listed, _bound, takes⟩ := drawn.takes
    obtain ⟨after, before⟩ := roomy.columns_within ((ownColumns group).below takes)
    rw [drawn.spans, drawn.stands.1]
    exact ⟨add_le_add_right after _, add_le_add_right before _⟩
  apart one other nonneg before := by
    rw [one.spans, other.stands.1]
    exact add_le_add_right (columns_apart nonneg before) _

/-- The bars of a group of bar plots are drawn in columns, each plot has columns of its own, and
where a slot has room for the columns they divide it with their spacers. -/
theorem drawGroup_sharesSlots (context : MarkContext EReal) {group : List (Plot EReal)}
    (bars : ∀ plot ∈ group, plot.kind = .bar) :
    (∀ state, (∀ plot ∈ group, ∃ yAxis, context.yAxis plot = .ok yAxis) →
      (Marks.drawGroup context .bar group).Draws state state
        (Plot.groupMarks context state group)) ∧
      (∀ state, ∀ op ∈ Plot.groupMarks context state group,
        ∃ place index column slot bar color alpha,
          DrawnIn context group place index column slot bar ∧
          op = .fillRect (state.matrix.boundsOf bar) color alpha) ∧
      (∀ state {place index column slot bar},
        DrawnIn context group place index column slot bar → ∃ color alpha,
          .fillRect (state.matrix.boundsOf bar) color alpha ∈ Plot.groupMarks context state group) ∧
      SharesSlots context group := by
  refine ⟨fun state present => ?_, fun state op recorded => ?_,
    fun state _ _ _ _ _ drawn => drawn.recorded bars state, sharesSlots context group⟩
  · exact Marks.drawGroup_draws context state .bar group bars present
  · obtain ⟨_plot, _position, _point, bar, color, alpha, drawn, same⟩ :=
      mem_groupMarks bars recorded
    obtain ⟨place, index, column, slot, stands⟩ := drawn.exists_drawnIn
    exact ⟨place, index, column, slot, bar, color, alpha, stands, same⟩

/-- A stacked plot of two series, an unstacked one, and one without any series. -/
noncomputable def mixed : List (Plot EReal) :=
  let plot (stacked : Bool) (series : List (Series EReal)) : Plot EReal :=
    ⟨.bar, { PlotOptions.standard with stacked := some stacked }, series⟩
  [plot true [.ofValues [1], .ofValues [2]], plot false [.ofValues [1], .ofValues [2]],
    plot false []]

/-- A single slot of 100 pixels, with four pixels between its columns. -/
noncomputable def oneSlot : MarkContext EReal where
  axes := AxisSet.empty.insert (.new .left .y .bottom .standard)
  xAxis :=
    { Axis.new .bottom .x .left .standard with
      discrete := some true
      labels := .categories ["0"]
      size := (100 : ℕ) }
  barSpacer := (4 : ℕ)

private theorem oneSlot_slot (key : Key EReal) (count : ℕ) :
    oneSlot.xAxis.slot 0 key count = (0, ((100 : ℕ) : EReal)) := by
  have first : Axis.cellOf ["0"] 0 key = 0 := by
    simp only [Axis.cellOf, List.findIdx?_cons]
    split <;> rfl
  have whole : Axis.cellWidth (100 : ℕ) ["0"] = (100 : ℕ) := by
    simp [Axis.cellWidth, Axis.cellCount]
  have named : oneSlot.xAxis.Named ["0"] := ⟨rfl, rfl⟩
  have sized : oneSlot.xAxis.size = (((100 : ℕ) : ℝ) : EReal) := EReal.coe_natCast.symm
  rw [Axis.slot_eq rfl named sized, first, whole, Nat.cast_zero, zero_mul, EReal.coe_zero,
    EReal.coe_natCast]

private theorem columnGeometry_mixed (column : ℕ) :
    (columnGeometry ((100 : ℕ) : EReal) (4 : ℕ) column 4).2 = (20 : ℕ) := by
  have count : Nat.max 4 1 = 4 := rfl
  unfold columnGeometry
  simp only [count, Exact.ofNat_eq, Exact.literal_eq, Exact.max_eq, ← EReal.coe_natCast,
    ← EReal.coe_add, ← EReal.coe_mul, ← EReal.coe_sub]
  rw [Exact.div_coe _ (by norm_num), ← EReal.coe_strictMono.monotone.map_max]
  norm_num

omit [NumberTexts] in
/-- The stacked series share the first of four columns of 20 pixels; the others have one each. -/
theorem drawGroup_sharesSlots_mixed :
    letI := Exact.wholeTexts
    let slot : EReal × EReal := (0, (100 : ℕ))
    (∀ plot ∈ mixed, plot.kind = .bar) ∧ total mixed = 4 ∧ Takes mixed 1 1 2 ∧
      Roomy oneSlot.barSpacer slot.2 (total mixed) ∧ OwnColumns mixed ∧
      Spaced slot.2 oneSlot.barSpacer (total mixed) ∧
      ∃ stacked first second, DrawnIn oneSlot mixed 0 1 0 slot stacked ∧
        DrawnIn oneSlot mixed 1 0 1 slot first ∧ DrawnIn oneSlot mixed 1 1 2 slot second ∧
        stacked.x = (4 : ℕ) ∧ stacked.width = (20 : ℕ) ∧ first.x = (28 : ℕ) ∧
        first.width = (20 : ℕ) ∧ second.x = (52 : ℕ) ∧ second.width = (20 : ℕ) := by
  let _texts := Exact.wholeTexts
  intro slot
  have bars : ∀ plot ∈ mixed, plot.kind = .bar := by
    simp only [mixed, List.forall_mem_cons, List.not_mem_nil, IsEmpty.forall_iff, implies_true,
      and_self]
  have roomy : Roomy oneSlot.barSpacer slot.2 (total mixed) := by
    refine ⟨Nat.cast_nonneg' 4, ?_⟩
    change ((4 : ℕ) : EReal) * ((5 : ℕ) : EReal) + ((4 : ℕ) : EReal) ≤ ((100 : ℕ) : EReal)
    rw [← EReal.coe_natCast, ← EReal.coe_natCast, ← EReal.coe_natCast, ← EReal.coe_mul,
      ← EReal.coe_add, EReal.coe_le_coe_iff]
    norm_num
  obtain ⟨_drawn, _barsOnly, _recorded, shares⟩ := drawGroup_sharesSlots oneSlot bars
  let yAxis : Axis EReal := .new .left .y .bottom .standard
  obtain ⟨stacked, stackedDrawn⟩ : ∃ bar, DrawnIn oneSlot mixed 0 1 0 slot bar :=
    ⟨_, 0, _, _, _, 0, _, _, yAxis, rfl, rfl, rfl, rfl, rfl, (oneSlot_slot _ _).symm, rfl⟩
  obtain ⟨first, firstDrawn⟩ : ∃ bar, DrawnIn oneSlot mixed 1 0 1 slot bar :=
    ⟨_, 1, _, _, _, 0, _, _, yAxis, rfl, rfl, rfl, rfl, rfl, (oneSlot_slot _ _).symm, rfl⟩
  obtain ⟨second, secondDrawn⟩ : ∃ bar, DrawnIn oneSlot mixed 1 1 2 slot bar :=
    ⟨_, 1, _, _, _, 0, _, _, yAxis, rfl, rfl, rfl, rfl, rfl, (oneSlot_slot _ _).symm, rfl⟩
  have wide {place index column : ℕ} {bar : Rect EReal}
      (drawn : DrawnIn oneSlot mixed place index column slot bar) : bar.width = (20 : ℕ) :=
    (shares.stands drawn).2.trans (columnGeometry_mixed column)
  have atStart : stacked.x = (4 : ℕ) := (shares.first stackedDrawn).trans (zero_add _)
  have after : first.x = (28 : ℕ) := by
    rw [shares.next stackedDrawn firstDrawn, atStart, wide stackedDrawn, ← Nat.cast_add]
    exact (Nat.cast_add 24 4).symm
  have last : second.x = (52 : ℕ) := by
    rw [shares.next firstDrawn secondDrawn, after, wide firstDrawn, ← Nat.cast_add]
    exact (Nat.cast_add 48 4).symm
  exact ⟨bars, rfl, ⟨1, _, rfl, by decide, rfl⟩, roomy, shares.columns, shares.spaced _ roomy,
    stacked, first, second, stackedDrawn, firstDrawn, secondDrawn, atStart, wide stackedDrawn,
    after, wide firstDrawn, last, wide secondDrawn⟩

end CanvasChart.Bar
