import Mathlib.Data.List.Chain
import CanvasChart.Binary64.Scalar
import CanvasChart.Proofs.Plot.Extents

set_option autoImplicit false

/-! The extents of the data points with one printed key, from the bottom up. Stacked points of
one key rest on each other and on nothing else: their extents are those of the points alone, piled
up from zero. -/

namespace CanvasChart

variable {α : Type}

namespace Plot

def points (plot : Plot α) : List (DataPoint α) := plot.series.flatMap Series.data

def keeping (keep : DataPoint α → Bool) (plot : Plot α) : Plot α :=
  { plot with
    series := plot.series.map fun series => { series with data := series.data.filter keep } }

private theorem keeping_points (keep : DataPoint α → Bool) (plot : Plot α) :
    (plot.keeping keep).points = plot.points.filter keep := by
  simp only [points, keeping, List.flatMap_map, List.filter_flatMap]

variable [Scalar α]

def stackedPoints (plot : Plot α) : List (DataPoint α × StackedPoint α) :=
  plot.points.zip plot.stack.flatten

/-- The data points whose keys print as a text, beside their extents. -/
def column (plot : Plot α) (text : String) : List (DataPoint α × StackedPoint α) :=
  plot.stackedPoints.filter fun entry => entry.1.key.text = text

private theorem stack_flatten_length (plot : Plot α) :
    plot.stack.flatten.length = plot.points.length := by
  rw [List.length_flatten, plot.stack_lengths, points, List.length_flatMap]

theorem stackedPoints_fst (plot : Plot α) : plot.stackedPoints.map Prod.fst = plot.points :=
  List.map_fst_zip (Nat.le_of_eq plot.stack_flatten_length.symm)

/-! ### Piles -/

/-- Data points beside extents that rest on each other, the first one on `base`. -/
def pile : α → List (DataPoint α) → List (DataPoint α × StackedPoint α)
  | _, [] => []
  | base, point :: rest =>
      (point, ⟨base, base + point.value⟩) :: pile (base + point.value) rest

private theorem pile_head? (base : α) (points : List (DataPoint α)) :
    ∀ entry ∈ (pile base points).head?, entry.2.base = base := by
  cases points with
  | nil => exact fun _entry none => nomatch none
  | cons point rest =>
      intro entry first
      cases first
      rfl

private theorem pile_isChain (base : α) (points : List (DataPoint α)) :
    (pile base points).IsChain fun lower upper => upper.2.base = lower.2.top := by
  induction points generalizing base with
  | nil => exact List.isChain_nil
  | cons point rest ih =>
      exact List.isChain_cons.mpr ⟨pile_head? (base + point.value) rest, ih (base + point.value)⟩

private theorem pile_top (base : α) (points : List (DataPoint α)) :
    ∀ entry ∈ pile base points, entry.2.top = entry.2.base + entry.1.value := by
  induction points generalizing base with
  | nil => exact fun _entry none => nomatch none
  | cons point rest ih => exact List.forall_mem_cons.mpr ⟨rfl, ih (base + point.value)⟩

/-! ### Stacking is one run over all data points -/

private theorem stackData_append (totals : StackTotals α) (first second : List (DataPoint α)) :
    stackData totals (first ++ second) =
      let (extents, next) := stackData totals first
      let (later, final) := stackData next second
      (extents ++ later, final) := by
  induction first generalizing totals with
  | nil => rfl
  | cons point rest ih => simp only [List.cons_append, stackData, ih]

private theorem stackAll_flatten (totals : StackTotals α) (all : List (Series α)) :
    (stackAll totals all).flatten = (stackData totals (all.flatMap Series.data)).1 := by
  induction all generalizing totals with
  | nil => rfl
  | cons series rest ih =>
      simp only [stackAll, List.flatten_cons, List.flatMap_cons, stackData_append, ih]

theorem stackedPoints_of_stacked {plot : Plot α} (stacked : plot.isStacked = true) :
    plot.stackedPoints = plot.points.zip (stackData [] plot.points).1 := by
  rw [stackedPoints, stack, if_pos stacked, stackAll_flatten, points]

/-- The total of a key before the first of its points carries the induction: a point with
another key leaves it as it is. -/
private theorem filter_zip_stackData (text : String) (totals : StackTotals α)
    (points : List (DataPoint α)) :
    (points.zip (stackData totals points).1).filter (fun entry => entry.1.key.text = text) =
      pile (totals.total text) (points.filter fun point => point.key.text = text) := by
  induction points generalizing totals with
  | nil => rfl
  | cons point rest ih =>
      simp only [stackData, List.zip_cons_cons, List.filter_cons, ih, StackTotals.total_put,
        decide_eq_true_eq]
      by_cases same : point.key.text = text
      · rw [if_pos same, if_pos same, if_pos same.symm, same]
        rfl
      · rw [if_neg same, if_neg same, if_neg (Ne.symm same)]

/-- The column of a text is piled up from the points whose keys print as it, and from nothing
else. -/
private theorem column_of_stacked {plot : Plot α} (stacked : plot.isStacked = true)
    (text : String) :
    plot.column text = pile 0 (plot.points.filter fun point => point.key.text = text) := by
  rw [column, stackedPoints_of_stacked stacked, filter_zip_stackData]
  rfl

private theorem column_keeping {plot : Plot α} (stacked : plot.isStacked = true) {text : String}
    {keep : DataPoint α → Bool} (kept : ∀ point, point.key.text = text → keep point = true) :
    (plot.keeping keep).column text = plot.column text := by
  have still : (plot.keeping keep).isStacked = true := stacked
  rw [column_of_stacked still, column_of_stacked stacked, keeping_points, List.filter_filter]
  congr 2
  funext point
  by_cases same : point.key.text = text
  · simp [same, kept point same]
  · simp [same]

private theorem stackedPoints_of_unstacked {plot : Plot α} (unstacked : plot.isStacked = false) :
    plot.stackedPoints = plot.points.map fun point => (point, ⟨0, point.value⟩) := by
  have extents : plot.stack.flatten = plot.points.map fun point => ⟨0, point.value⟩ := by
    rw [stack, unstacked, if_neg Bool.false_ne_true, points, List.map_flatMap, List.flatMap_def]
  rw [stackedPoints, extents, List.map_prod_left_eq_zip]

/-- A plot has one list of extents for every series and one extent for every data point. In a
stacked plot the extents of the points with one printed key telescope: the first rests on zero,
every other one on the top of the one before, and each is as high as its value; points with other
keys have no part in it. In other plots every point rests on zero. -/
theorem stack_telescopes (plot : Plot α) :
    plot.stack.map List.length = plot.series.map (fun series => series.data.length) ∧
      plot.stackedPoints.map Prod.fst = plot.points ∧
      (plot.isStacked = true → ∀ text,
        (∀ first ∈ (plot.column text).head?, first.2.base = 0) ∧
        (plot.column text).IsChain (fun lower upper => upper.2.base = lower.2.top) ∧
        (∀ entry ∈ plot.column text, entry.2.top = entry.2.base + entry.1.value) ∧
        ∀ keep : DataPoint α → Bool, (∀ point, point.key.text = text → keep point = true) →
          (plot.keeping keep).column text = plot.column text) ∧
      (plot.isStacked = false → ∀ entry ∈ plot.stackedPoints, entry.2 = ⟨0, entry.1.value⟩) := by
  refine ⟨plot.stack_lengths, plot.stackedPoints_fst, fun stacked text => ?_,
    fun unstacked => ?_⟩
  · have piled := column_of_stacked stacked text
    refine ⟨?_, ?_, ?_, fun keep => column_keeping stacked⟩
    · exact piled ▸ pile_head? 0 _
    · exact piled ▸ pile_isChain 0 _
    · exact piled ▸ pile_top 0 _
  · rw [stackedPoints_of_unstacked unstacked, List.forall_mem_map]
    exact fun _point _listed => rfl

def crossingBars : Plot Float :=
  ((Plot.new .bar).addSeries (.ofData [⟨.label "a", 1⟩, ⟨.label "b", 2⟩])).addSeries
    (.ofData [⟨.label "b", 10⟩, ⟨.label "a", 20⟩, ⟨.label "b", -4⟩])

theorem stack_telescopes_crossingBars :
    crossingBars.isStacked = true ∧
      ((crossingBars.column "b").map fun entry => (entry.2.base, entry.2.top)) =
        [(0, 2), (2, 12), (12, 8)] ∧
      (crossingBars.column "b").IsChain (fun lower upper => upper.2.base = lower.2.top) ∧
      ((crossingBars.keeping fun point => point.key.text = "b").column "b") =
        crossingBars.column "b" := by
  have telescopes := (stack_telescopes crossingBars).2.2.1 rfl "b"
  refine ⟨rfl, by decide +kernel, telescopes.2.1, telescopes.2.2.2 _ fun point same => ?_⟩
  exact decide_eq_true same

end Plot
end CanvasChart
