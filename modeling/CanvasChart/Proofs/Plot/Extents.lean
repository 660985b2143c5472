import CanvasChart.Plot.Extent
import CanvasChart.Proofs.Plot.Stacking

set_option autoImplicit false

/-! The coordinates of a plot are the upper ends of its extents. Its lower ends are zero or
upper ends of earlier extents, so that a property of zero and of all upper ends is one of all
lower ends too. -/

namespace CanvasChart

variable {α : Type} [Scalar α] {holds : α → Prop}

theorem StackTotals.total_put (totals : StackTotals α) (key asked : String) (value : α) :
    StackTotals.total (Association.put key value totals) asked =
      if asked = key then value else totals.total asked := by
  unfold total
  by_cases same : asked = key
  · rw [if_pos same, same, Association.lookup_put_same]
    rfl
  · rw [if_neg same, Association.lookup_put_other key asked value totals same]

theorem StackTotals.held_put {totals : StackTotals α} (held : ∀ key, holds (totals.total key))
    (key : String) {value : α} (new : holds value) (asked : String) :
    holds (StackTotals.total (Association.put key value totals) asked) := by
  rw [total_put]
  split
  · exact new
  · exact held asked

namespace Plot

/-- The induction is on the points, and the property of all totals carries it. -/
private theorem stackData_bases (totals : StackTotals α) (held : ∀ key, holds (totals.total key))
    (points : List (DataPoint α))
    (tops : ∀ extent ∈ (stackData totals points).1, holds extent.top) :
    (∀ extent ∈ (stackData totals points).1, holds extent.base) ∧
      ∀ key, holds (StackTotals.total (stackData totals points).2 key) := by
  induction points generalizing totals with
  | nil => exact ⟨fun _extent none => (List.not_mem_nil none).elim, held⟩
  | cons point rest ih =>
      simp only [stackData, List.forall_mem_cons] at tops ⊢
      have further := ih _ (StackTotals.held_put held point.key.text tops.1) tops.2
      exact ⟨⟨held point.key.text, further.1⟩, further.2⟩

private theorem stackAll_bases (totals : StackTotals α) (held : ∀ key, holds (totals.total key))
    (all : List (Series α))
    (tops : ∀ extents ∈ stackAll totals all, ∀ extent ∈ extents, holds extent.top) :
    ∀ extents ∈ stackAll totals all, ∀ extent ∈ extents, holds extent.base := by
  induction all generalizing totals with
  | nil => exact fun _extents none => (List.not_mem_nil none).elim
  | cons series rest ih =>
      simp only [stackAll, List.forall_mem_cons] at tops ⊢
      obtain ⟨bases, next⟩ := stackData_bases totals held series.data tops.1
      exact ⟨bases, ih _ next tops.2⟩

private theorem stack_bases (plot : Plot α) (zero : holds 0)
    (tops : ∀ extents ∈ plot.stack, ∀ extent ∈ extents, holds extent.top) :
    ∀ extents ∈ plot.stack, ∀ extent ∈ extents, holds extent.base := by
  unfold stack at tops ⊢
  split at tops
  case isTrue stacked =>
    rw [if_pos stacked]
    exact stackAll_bases [] (fun _key => zero) plot.series tops
  case isFalse unstacked =>
    rw [if_neg unstacked]
    simp only [List.forall_mem_map]
    exact fun _series _listed _point _stored => zero

section Sums

variable (sums : ∀ first second, holds first → holds second → holds (first + second))

include sums in
private theorem stackData_tops (totals : StackTotals α) (held : ∀ key, holds (totals.total key))
    (points : List (DataPoint α)) (values : ∀ point ∈ points, holds point.value) :
    ∀ extent ∈ (stackData totals points).1, holds extent.top := by
  induction points generalizing totals with
  | nil => exact fun _extent none => (List.not_mem_nil none).elim
  | cons point rest ih =>
      simp only [stackData, List.forall_mem_cons] at values ⊢
      have top := sums _ _ (held point.key.text) values.1
      exact ⟨top, ih _ (StackTotals.held_put held point.key.text top) values.2⟩

include sums in
private theorem stackAll_tops (totals : StackTotals α) (held : ∀ key, holds (totals.total key))
    (all : List (Series α)) (values : ∀ series ∈ all, ∀ point ∈ series.data, holds point.value) :
    ∀ extents ∈ stackAll totals all, ∀ extent ∈ extents, holds extent.top := by
  induction all generalizing totals with
  | nil => exact fun _extents none => (List.not_mem_nil none).elim
  | cons series rest ih =>
      simp only [stackAll, List.forall_mem_cons] at values ⊢
      have tops := stackData_tops sums totals held series.data values.1
      exact ⟨tops, ih _ (stackData_bases totals held series.data tops).2 values.2⟩

include sums in
/-- What sums keep, and holds of zero and of all values, holds of every upper end. -/
theorem stack_tops (plot : Plot α) (zero : holds 0)
    (values : ∀ series ∈ plot.series, ∀ point ∈ series.data, holds point.value) :
    ∀ extents ∈ plot.stack, ∀ extent ∈ extents, holds extent.top := by
  unfold stack
  split
  case isTrue => exact stackAll_tops sums [] (fun _key => zero) plot.series values
  case isFalse =>
    simp only [List.forall_mem_map]
    exact values

end Sums

theorem stackedSeries_snd (plot : Plot α) : plot.stackedSeries.map Prod.snd = plot.stack := by
  have lengths := congrArg List.length plot.stack_lengths
  simp only [List.length_map] at lengths
  exact List.map_snd_zip (Nat.le_of_eq lengths)

omit [Scalar α] in
theorem mem_mapIdx_zip {β : Type} {make : Nat → DataPoint α × StackedPoint α → β}
    {points : List (DataPoint α)} {extents : List (StackedPoint α)} {made : β} :
    made ∈ (points.zip extents).mapIdx make ↔
      ∃ (index : Nat) (point : DataPoint α) (extent : StackedPoint α),
        (points.zip extents)[index]? = some (point, extent) ∧
          made = make index (point, extent) := by
  rw [List.mem_iff_getElem?]
  refine exists_congr fun index => ?_
  rw [List.getElem?_mapIdx, Option.map_eq_some_iff]
  constructor
  · rintro ⟨⟨point, extent⟩, paired, rfl⟩
    exact ⟨point, extent, paired, rfl⟩
  · rintro ⟨point, extent, paired, rfl⟩
    exact ⟨(point, extent), paired, rfl⟩

theorem mem_coordinates {plot : Plot α} {place : Point α} :
    place ∈ plot.coordinates ↔ ∃ entry ∈ plot.stackedSeries,
      ∃ (index : Nat) (point : DataPoint α) (extent : StackedPoint α),
        (entry.1.data.zip entry.2)[index]? = some (point, extent) ∧
          place = ⟨point.key.position index, extent.top⟩ := by
  unfold coordinates
  rw [List.mem_flatMap]
  exact exists_congr fun entry => and_congr_right fun _member => mem_mapIdx_zip

theorem exists_paired (plot : Plot α) {entry : Series α × List (StackedPoint α)}
    (member : entry ∈ plot.stackedSeries) {extent : StackedPoint α} (held : extent ∈ entry.2) :
    ∃ (index : Nat) (point : DataPoint α),
      (entry.1.data.zip entry.2)[index]? = some (point, extent) := by
  have whole : (entry.1.data.zip entry.2).map Prod.snd = entry.2 :=
    List.map_snd_zip (Nat.le_of_eq (plot.stackedSeries_length member))
  rw [← whole] at held
  obtain ⟨⟨point, _extent⟩, paired, rfl⟩ := List.mem_map.mp held
  obtain ⟨index, found⟩ := List.mem_iff_getElem?.mp paired
  exact ⟨index, point, found⟩

/-- What holds of zero and along all coordinates holds at both ends of every extent. -/
theorem extents_within (plot : Plot α) (holds : α → Prop) (zero : holds 0)
    (reached : ∀ place ∈ plot.coordinates, holds place.y)
    {entry : Series α × List (StackedPoint α)} (member : entry ∈ plot.stackedSeries)
    {extent : StackedPoint α} (held : extent ∈ entry.2) :
    holds extent.base ∧ holds extent.top := by
  have tops : ∀ extents ∈ plot.stack, ∀ extent ∈ extents, holds extent.top := by
    rw [← plot.stackedSeries_snd, List.forall_mem_map]
    intro entry member extent held
    obtain ⟨index, point, paired⟩ := plot.exists_paired member held
    exact reached _ (mem_coordinates.mpr ⟨entry, member, index, point, extent, paired, rfl⟩)
  have listed : entry.2 ∈ plot.stack := by
    rw [← plot.stackedSeries_snd]
    exact List.mem_map_of_mem member
  exact ⟨plot.stack_bases zero tops _ listed extent held, tops _ listed extent held⟩

end Plot
end CanvasChart
