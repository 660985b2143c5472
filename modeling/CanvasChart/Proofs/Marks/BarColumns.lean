import CanvasChart.Proofs.Exact.Powers
import CanvasChart.Proofs.Axis.Transport
import CanvasChart.Proofs.Marks.SeriesMarks
import CanvasChart.Proofs.Plot.Extents

set_option autoImplicit false

/-! The columns of a slot. The bar plots on an X axis share the columns of its slots, each of them
with columns of its own. A column is never narrower than a pixel, so that the columns stay inside
the slot only as long as it has room for that. -/

namespace CanvasChart.Bar

section Drawn

variable {α : Type} [Scalar α]

/-- A bar of a group of plots stands for a data point of one of them. -/
structure Drawn (context : MarkContext α) (group : List (Plot α)) (plot : Plot α) (index : Nat)
    (point : DataPoint α) (bar : Rect α) : Prop where
  drawn : ∃ first place series extents extent yAxis, (first, plot) ∈ placed 0 group ∧
    context.yAxis plot = .ok yAxis ∧ plot.stackedSeries[place]? = some (series, extents) ∧
    (series.data.zip extents)[index]? = some (point, extent) ∧
    bar = rect context yAxis plot.keyCount (columnOf first ⟨plot, place, series⟩) (total group)
      index point extent

theorem mem_groupMarks {context : MarkContext α} {state : GraphicsState α} {group : List (Plot α)}
    (bars : ∀ plot ∈ group, plot.kind = .bar) {op : DrawOp α}
    (recorded : op ∈ Plot.groupMarks context state group) :
    ∃ plot index point bar color alpha, Drawn context group plot index point bar ∧
      op = .fillRect (state.matrix.boundsOf bar) color alpha := by
  rw [Plot.groupMarks, List.mem_flatMap] at recorded
  obtain ⟨⟨first, plot⟩, member, among⟩ := recorded
  have kind := bars plot (mem_of_placed member)
  dsimp only at among
  unfold Plot.marks at among
  cases held : context.yAxis plot with
  | error error =>
      rw [held] at among
      cases among
  | ok yAxis =>
      simp only [held, kind, marks, List.mem_flatMap] at among
      obtain ⟨⟨⟨series, extents⟩, place⟩, listed, inSeries⟩ := among
      obtain ⟨bar, painted, rfl⟩ := List.mem_map.mp inSeries
      obtain ⟨index, point, extent, paired, rfl⟩ := Plot.mem_mapIdx_zip.mp painted
      have stacked := List.mk_mem_zipIdx_iff_getElem?.mp listed
      exact ⟨plot, index, point, _, _, _,
        ⟨first, place, series, extents, extent, yAxis, member, held, stacked, paired, rfl⟩, rfl⟩

omit [Scalar α] in
theorem placed_le {start first : Nat} {group : List (Plot α)} {plot : Plot α}
    (member : (first, plot) ∈ placed start group) :
    first + columns plot ≤ group.foldl (fun total plot => total + columns plot) start := by
  have grows (group : List (Plot α)) (start : Nat) :
      start ≤ group.foldl (fun total plot => total + columns plot) start := by
    induction group generalizing start with
    | nil => exact Nat.le_refl start
    | cons next rest ih => exact (Nat.le_add_right start _).trans (ih _)
  induction group generalizing start with
  | nil => cases member
  | cons next rest ih =>
      rcases List.mem_cons.mp member with same | later
      · cases same
        exact grows rest _
      · exact ih later

omit [Scalar α] in
private theorem columnOf_lt {first : Nat} {group : List (Plot α)} {series : PlacedSeries α}
    (member : (first, series.plot) ∈ placed 0 group)
    (bound : series.place < series.plot.series.length) : columnOf first series < total group := by
  refine Nat.lt_of_lt_of_le ?_ (placed_le member)
  unfold columnOf columns
  split
  · exact Nat.lt_succ_self first
  · exact Nat.add_lt_add_left (bound.trans_le (Nat.le_max_left _ _)) first

/-! ### Colors -/

omit [Scalar α] in
private theorem columns_uncolored (plot : Plot α) : columns plot.uncolored = columns plot := by
  simp only [columns, Plot.uncolored, List.length_map]
  rfl

omit [Scalar α] in
private theorem placed_uncolored (start : Nat) (group : List (Plot α)) :
    placed start (group.map Plot.uncolored) =
      (placed start group).map (Prod.map id Plot.uncolored) := by
  induction group generalizing start with
  | nil => rfl
  | cons plot rest ih => simp [placed, columns_uncolored, ih]

omit [Scalar α] in
private theorem total_uncolored (group : List (Plot α)) :
    total (group.map Plot.uncolored) = total group := by
  simp only [total, List.foldl_map, columns_uncolored]

private theorem stackedSeries_uncolored (plot : Plot α) :
    plot.uncolored.stackedSeries = plot.stackedSeries.map (Prod.map Series.uncolored id) := by
  rw [Plot.stackedSeries, Plot.stack_uncolored, Plot.uncolored, List.zip_map_left]
  rfl

omit [Scalar α] in
private theorem keyCount_uncolored (plot : Plot α) : plot.uncolored.keyCount = plot.keyCount := by
  simp only [Plot.keyCount, Plot.uncolored, List.foldl_map]
  rfl

theorem drawn_uncolored {context : MarkContext α} {group : List (Plot α)} {plain : Plot α}
    {index : Nat} {point : DataPoint α} {bar : Rect α} :
    Drawn context (group.map Plot.uncolored) plain index point bar ↔
      ∃ plot, plot.uncolored = plain ∧ Drawn context group plot index point bar := by
  constructor
  · rintro ⟨_first, place, _series, _extents, extent, yAxis, member, held, stacked, paired, rfl⟩
    rw [placed_uncolored] at member
    obtain ⟨⟨first, plot⟩, listed, same⟩ := List.mem_map.mp member
    cases same
    rw [stackedSeries_uncolored, List.getElem?_map] at stacked
    obtain ⟨⟨series, extents⟩, found, same⟩ := Option.map_eq_some_iff.mp stacked
    cases same
    refine ⟨plot, rfl, first, place, series, extents, extent, yAxis, listed, held, found, paired,
      ?_⟩
    rw [total_uncolored, keyCount_uncolored]
    rfl
  · rintro ⟨plot, rfl, first, place, series, extents, extent, yAxis, member, held, stacked, paired,
      rfl⟩
    refine ⟨first, place, series.uncolored, extents, extent, yAxis, ?_, held, ?_, paired, ?_⟩
    · rw [placed_uncolored]
      exact List.mem_map.mpr ⟨_, member, rfl⟩
    · rw [stackedSeries_uncolored, List.getElem?_map, stacked]
      rfl
    · rw [total_uncolored, keyCount_uncolored]
      rfl

end Drawn

/-! ### Room for columns -/

/-- A slot has room for some columns of a pixel, and for the spacers around them. -/
def Roomy (spacer width : EReal) (total : ℕ) : Prop :=
  0 ≤ spacer ∧ spacer * ((total + 1 : ℕ) : EReal) + (total : EReal) ≤ width

variable [NumberTexts]

section Slot

variable {width spacer : EReal} {total : ℕ}

theorem offset_eq (width spacer : EReal) (column total : ℕ) :
    (columnGeometry width spacer column total).1 =
      spacer + column * ((columnGeometry width spacer column total).2 + spacer) := rfl

theorem one_le_width (width spacer : EReal) (column total : ℕ) :
    1 ≤ (columnGeometry width spacer column total).2 := by
  have one : Scalar.ofNat 1 = (1 : EReal) := Nat.cast_one
  unfold columnGeometry
  dsimp only
  rw [Exact.max_eq, Exact.literal_eq]
  exact one.symm.trans_le (le_max_right _ _)

theorem columnGeometry_nonneg (width spacer : EReal) (column total : ℕ) :
    0 ≤ (columnGeometry width spacer column total).2 :=
  zero_le_one.trans (one_le_width width spacer column total)

theorem offset_zero : (columnGeometry width spacer 0 total).1 = spacer := by
  rw [offset_eq, Nat.cast_zero, zero_mul, add_zero]

theorem offset_succ (column : ℕ) :
    (columnGeometry width spacer (column + 1) total).1 =
      (columnGeometry width spacer column total).1 +
        (columnGeometry width spacer column total).2 + spacer := by
  have count : 0 ≤ (column : EReal) := Nat.cast_nonneg' _
  have distributes (step : EReal) : ((column + 1 : ℕ) : EReal) * step = column * step + step := by
    rw [Nat.cast_add, Nat.cast_one, EReal.right_distrib_of_nonneg count zero_le_one, one_mul]
  rw [offset_eq, distributes, ← add_assoc, ← add_assoc]
  rfl

private theorem total_mul_width {gap : ℝ} (roomy : Roomy gap width total) (some : 0 < total) :
    total * (columnGeometry width gap 0 total).2 = width - ((gap * (total + 1) : ℝ) : EReal) := by
  have nonzero : (total : EReal) ≠ 0 := by exact_mod_cast some.ne'
  have positive : (0 : EReal) < total := by exact_mod_cast some
  have spacers : (gap : EReal) * ((total + 1 : ℕ) : EReal) = ((gap * (total + 1) : ℝ) : EReal) := by
    rw [EReal.coe_mul, EReal.coe_add, EReal.coe_natCast, EReal.coe_one, Nat.cast_add, Nat.cast_one]
  have room := roomy.2
  rw [spacers] at room
  have left : (total : EReal) ≤ width - ((gap * (total + 1) : ℝ) : EReal) := by
    rw [EReal.le_sub_iff_add_le (.inl (EReal.coe_ne_bot _)) (.inl (EReal.coe_ne_top _)), add_comm]
    exact room
  have share : 1 ≤ (width - ((gap * (total + 1) : ℝ) : EReal)) * (total : EReal)⁻¹ := by
    rw [← div_eq_mul_inv, EReal.le_div_iff_mul_le positive (EReal.natCast_ne_top total), one_mul]
    exact left
  have width_eq : (columnGeometry width gap 0 total).2 =
      (width - ((gap * (total + 1) : ℝ) : EReal)) * (total : EReal)⁻¹ := by
    have count : Nat.max total 1 = total := Nat.max_eq_left some
    unfold columnGeometry
    simp only [count, Exact.ofNat_eq, Exact.literal_eq, Exact.max_eq, Exact.div_eq _ nonzero]
    rw [← Nat.cast_add, spacers, Nat.cast_one, max_eq_left share]
  rw [width_eq, ← div_eq_mul_inv]
  exact EReal.mul_div_cancel (EReal.natCast_ne_bot total) (EReal.natCast_ne_top total) nonzero

/-- Where a slot has room, its columns and the spacers fill it. -/
theorem columns_fill (roomy : Roomy spacer width total) (some : 0 < total) :
    spacer + total * ((columnGeometry width spacer 0 total).2 + spacer) = width := by
  have count : 0 ≤ (total : EReal) := Nat.cast_nonneg' _
  have wide := columnGeometry_nonneg width spacer 0 total
  by_cases endless : spacer = ⊤
  · obtain ⟨nonneg, room⟩ := roomy
    have steps : total * ((columnGeometry width spacer 0 total).2 + spacer) ≠ ⊥ :=
      ne_bot_of_le_ne_bot EReal.zero_ne_bot (EReal.mul_nonneg count (add_nonneg wide nonneg))
    rw [endless, EReal.top_mul_of_pos (by exact_mod_cast Nat.succ_pos total),
      EReal.top_add_of_ne_bot (EReal.natCast_ne_bot total), top_le_iff] at room
    rw [room] at steps ⊢
    rw [endless] at steps ⊢
    exact EReal.top_add_of_ne_bot steps
  · obtain ⟨gap, rfl⟩ := Exact.Finite.exists_real
      ⟨endless, ne_bot_of_le_ne_bot EReal.zero_ne_bot roomy.1⟩
    have spacers : (gap : EReal) + total * (gap : EReal) = ((gap * (total + 1) : ℝ) : EReal) := by
      rw [← EReal.coe_natCast, ← EReal.coe_mul, ← EReal.coe_add]
      congr 1
      ring
    rw [EReal.left_distrib_of_nonneg wide roomy.1, total_mul_width roomy some, add_left_comm,
      spacers, EReal.sub_add_cancel]

theorem Roomy.columns_within (roomy : Roomy spacer width total) {column : ℕ}
    (among : column < total) :
    spacer ≤ (columnGeometry width spacer column total).1 ∧
      (columnGeometry width spacer column total).1 +
        (columnGeometry width spacer column total).2 + spacer ≤ width := by
  have step : 0 ≤ (columnGeometry width spacer column total).2 + spacer :=
    add_nonneg (columnGeometry_nonneg width spacer column total) roomy.1
  constructor
  · rw [offset_eq]
    exact le_add_of_nonneg_right (EReal.mul_nonneg (Nat.cast_nonneg' column) step)
  · rw [← offset_succ, offset_eq]
    refine le_trans (add_le_add_right (mul_le_mul_of_nonneg_right ?_ step) spacer)
      (columns_fill roomy among.pos).le
    exact Nat.cast_le.mpr among

private theorem columnGeometry_within (roomy : Roomy spacer width total) {column : ℕ}
    (among : column < total) :
    0 ≤ (columnGeometry width spacer column total).1 ∧
      (columnGeometry width spacer column total).1 +
        (columnGeometry width spacer column total).2 ≤ width := by
  obtain ⟨after, before⟩ := roomy.columns_within among
  exact ⟨roomy.1.trans after, (le_add_of_nonneg_right roomy.1).trans before⟩

end Slot

theorem Drawn.within_slot {context : MarkContext EReal} {group : List (Plot EReal)}
    {plot : Plot EReal} {index : ℕ} {point : DataPoint EReal} {bar : Rect EReal}
    (drawn : Drawn context group plot index point bar) {start : EReal} {width : ℝ}
    (slot : context.xAxis.slot index point.key plot.keyCount = (start, (width : EReal)))
    (roomy : Roomy context.barSpacer width (total group)) :
    start ≤ bar.x ∧ bar.x + bar.width ≤ start + width ∧ 0 ≤ bar.width := by
  obtain ⟨first, place, series, extents, extent, yAxis, member, _held, stacked, _paired, rfl⟩ :=
    drawn.drawn
  have bound : place < plot.series.length := by
    obtain ⟨within, _found⟩ := List.getElem?_eq_some_iff.mp stacked
    rwa [← plot.stackedSeries_fst, List.length_map]
  have among : columnOf first ⟨plot, place, series⟩ < total group := columnOf_lt member bound
  obtain ⟨nonneg, reach⟩ := columnGeometry_within roomy among
  simp only [rect, slot]
  refine ⟨le_add_of_nonneg_right nonneg, ?_, columnGeometry_nonneg _ _ _ _⟩
  rw [add_assoc]
  exact add_le_add le_rfl reach

end CanvasChart.Bar
