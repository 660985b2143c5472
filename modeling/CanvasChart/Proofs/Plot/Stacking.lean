import CanvasChart.Plot.Stack

set_option autoImplicit false

/-! Stacking gives every data point of every series one extent. -/

namespace CanvasChart.Plot

variable {α : Type} [Scalar α]

private theorem stackData_length (totals : StackTotals α) (points : List (DataPoint α)) :
    (stackData totals points).1.length = points.length := by
  induction points generalizing totals with
  | nil => rfl
  | cons point rest ih => simp only [stackData, List.length_cons, ih]

private theorem stackAll_lengths (totals : StackTotals α) (all : List (Series α)) :
    (stackAll totals all).map List.length = all.map fun series => series.data.length := by
  induction all generalizing totals with
  | nil => rfl
  | cons series rest ih => simp only [stackAll, List.map_cons, stackData_length, ih]

theorem stack_lengths (plot : Plot α) :
    plot.stack.map List.length = plot.series.map fun series => series.data.length := by
  unfold stack
  split
  · exact stackAll_lengths [] plot.series
  · simp

/-- The extent of a data point: its series, then its place in the series. -/
def extent? (plot : Plot α) (series index : Nat) : Option (StackedPoint α) :=
  plot.stack[series]?.bind fun extents => extents[index]?

theorem exists_extent (plot : Plot α) {place index : Nat} {series : Series α}
    {point : DataPoint α} (listed : plot.series[place]? = some series)
    (stored : series.data[index]? = some point) :
    ∃ extent, plot.extent? place index = some extent := by
  have lengths := congrArg (fun list => list[place]?) plot.stack_lengths
  simp only [List.getElem?_map, listed, Option.map_some] at lengths
  obtain ⟨extents, stacked, sameLength⟩ := Option.map_eq_some_iff.mp lengths
  obtain ⟨bound, _found⟩ := List.getElem?_eq_some_iff.mp stored
  rw [← sameLength] at bound
  exact ⟨extents[index], by simp only [extent?, stacked, Option.bind_some,
    List.getElem?_eq_getElem bound]⟩

theorem stackedSeries_fst (plot : Plot α) : plot.stackedSeries.map Prod.fst = plot.series := by
  have lengths := congrArg List.length plot.stack_lengths
  simp only [List.length_map] at lengths
  exact List.map_fst_zip (Nat.le_of_eq lengths.symm)

theorem stackedSeries_length (plot : Plot α) {entry : Series α × List (StackedPoint α)}
    (member : entry ∈ plot.stackedSeries) : entry.2.length = entry.1.data.length := by
  obtain ⟨index, bound, rfl⟩ := List.mem_iff_getElem.mp member
  have lengths := congrArg (fun list => list[index]?) plot.stack_lengths
  have inSeries : index < plot.series.length := by
    rw [← plot.stackedSeries_fst, List.length_map]
    exact bound
  have inStack : index < plot.stack.length := by
    have sameLength := congrArg List.length plot.stack_lengths
    simp only [List.length_map] at sameLength
    omega
  simp only [List.getElem?_map, List.getElem?_eq_getElem inSeries,
    List.getElem?_eq_getElem inStack, Option.map_some, Option.some.injEq] at lengths
  simpa only [stackedSeries, List.getElem_zip] using lengths

theorem exists_stackedSeries (plot : Plot α) {place : Nat} {series : Series α}
    (listed : plot.series[place]? = some series) :
    ∃ extents, plot.stackedSeries[place]? = some (series, extents) := by
  rw [← plot.stackedSeries_fst, List.getElem?_map] at listed
  obtain ⟨⟨stacked, extents⟩, found, rfl⟩ := Option.map_eq_some_iff.mp listed
  exact ⟨extents, found⟩

end CanvasChart.Plot
