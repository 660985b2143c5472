import CanvasChart.Proofs.Binary64.Numbers
import CanvasChart.Proofs.Decimal.Shortest
import CanvasChart.Proofs.Plot.Columns

set_option autoImplicit false

/-! The totals of numeric keys. A key prints as the number that it rounds to, and every number
prints in its own way, so that stacked points share a total exactly when their keys round to one
number. -/

namespace CanvasChart

open Binary64

/-! ### Printed keys -/

namespace LabelFormat

/-- A number rounded to ten places, as far as the binary format goes. -/
def tenPlaces (value : Float) : Float := Scalar.round (value * 10000000000) / 10000000000

variable {value left right : Float}

private theorem isNaN_tenPlaces (finite : value.isFinite = true) :
    (tenPlaces value).isNaN = false := by
  have scaled : (value * 10000000000).isNaN = false := isNaN_mul finite rfl
  exact isNaN_div (isNaN_roundWith .halfAway scaled) rfl rfl

private theorem tenPlaces_beq (finite : left.isFinite = true) (same : (left == right) = true) :
    (tenPlaces left == tenPlaces right) = true := by
  obtain ⟨_number, _otherNumber, rfl | ⟨rfl, rfl⟩ | ⟨rfl, rfl⟩⟩ :=
    Float.beq_iff_ne_nan_and_eq.mp same
  · exact beq_self (isNaN_tenPlaces finite)
  · rfl
  · rfl

/-- The number that is printed: the rounded one, without the sign of a zero. -/
def printed (value : Float) : Float := if tenPlaces value == 0 then 0 else tenPlaces value

theorem printed_beq (finite : value.isFinite = true) :
    (printed value == tenPlaces value) = true := by
  unfold printed
  split
  case isTrue zero => exact BEq.symm zero
  case isFalse => exact beq_self (isNaN_tenPlaces finite)

private theorem printed_eq_iff (leftFinite : left.isFinite = true)
    (rightFinite : right.isFinite = true) :
    printed left = printed right ↔ (tenPlaces left == tenPlaces right) = true := by
  constructor
  · intro same
    have leftPrinted := printed_beq leftFinite
    rw [same] at leftPrinted
    exact BEq.trans (BEq.symm leftPrinted) (printed_beq rightFinite)
  · intro same
    unfold printed
    by_cases zero : (tenPlaces left == 0) = true
    · rw [if_pos zero, if_pos (BEq.trans (BEq.symm same) zero)]
    · rw [Bool.not_eq_true] at zero
      rw [eq_of_beq same zero]

theorem plainText_eq_iff (leftFinite : left.isFinite = true)
    (rightFinite : right.isFinite = true) :
    plainText left = plainText right ↔ (tenPlaces left == tenPlaces right) = true := by
  rw [← printed_eq_iff leftFinite rightFinite]
  exact Decimal.shortestText_injective.eq_iff

end LabelFormat

namespace Key

def roundsWith : Key Float → Key Float → Bool
  | .number first, .number second => LabelFormat.tenPlaces first == LabelFormat.tenPlaces second
  | _, _ => false

def sameNumber : Key Float → Key Float → Bool
  | .number first, .number second => first == second
  | _, _ => false

def IsFiniteNumber (key : Key Float) : Prop := ∃ value, key = .number value ∧ value.isFinite = true

private theorem text_eq_iff {first second : Key Float} (firstFinite : first.IsFiniteNumber)
    (secondFinite : second.IsFiniteNumber) :
    first.text = second.text ↔ first.roundsWith second = true := by
  obtain ⟨value, rfl, finite⟩ := firstFinite
  obtain ⟨other, rfl, otherFinite⟩ := secondFinite
  exact LabelFormat.plainText_eq_iff finite otherFinite

private theorem roundsWith_of_sameNumber {first second : Key Float} (finite : first.IsFiniteNumber)
    (same : first.sameNumber second = true) : first.roundsWith second = true := by
  obtain ⟨value, rfl, finite⟩ := finite
  cases second with
  | number other => exact LabelFormat.tenPlaces_beq finite same
  | label => cases same

end Key

/-! ### Totals -/

namespace Plot

section

variable {α : Type} [Scalar α]

/-- A point rests on the sum of the earlier values of its printed key. The induction is on the
points, and the total that the key had before them carries it. -/
private theorem stackData_getElem? (totals : StackTotals α) (points : List (DataPoint α))
    {index : Nat}
    {point : DataPoint α} {extent : StackedPoint α} (stored : points[index]? = some point)
    (placed : (stackData totals points).1[index]? = some extent) :
    extent.base = ((points.take index).filter fun earlier =>
        earlier.key.text = point.key.text).foldl (fun total earlier => total + earlier.value)
          (totals.total point.key.text) ∧
      extent.top = extent.base + point.value := by
  induction points generalizing totals index with
  | nil => cases stored
  | cons first rest ih =>
      cases index with
      | zero =>
          cases stored
          cases placed
          exact ⟨rfl, rfl⟩
      | succ index =>
          obtain ⟨base, top⟩ := ih _ stored placed
          refine ⟨?_, top⟩
          rw [base, StackTotals.total_put, List.take_succ_cons, List.filter_cons]
          by_cases same : first.key.text = point.key.text
          · rw [if_pos same.symm, if_pos (decide_eq_true same), same]
            rfl
          · rw [if_neg (Ne.symm same), if_neg (by simpa using same)]

private theorem mem_points_of_stackedPoints {plot : Plot α} {index : Nat} {point : DataPoint α}
    {extent : StackedPoint α} (found : plot.stackedPoints[index]? = some (point, extent)) :
    point ∈ plot.points := by
  rw [← plot.stackedPoints_fst]
  exact List.mem_map_of_mem (List.mem_of_getElem? found)

private theorem stackedPoints_getElem? {plot : Plot α} (stacked : plot.isStacked = true)
    {index : Nat} {point : DataPoint α} {extent : StackedPoint α}
    (found : plot.stackedPoints[index]? = some (point, extent)) :
    extent.base = Scalar.sum (((plot.points.take index).filter fun earlier =>
        earlier.key.text = point.key.text).map DataPoint.value) ∧
      extent.top = extent.base + point.value := by
  rw [stackedPoints_of_stacked stacked, List.getElem?_zip_eq_some] at found
  rw [Scalar.sum, List.foldl_map]
  exact stackData_getElem? [] plot.points found.1 found.2

end

def FiniteKeys (plot : Plot Float) : Prop := ∀ point ∈ plot.points, point.key.IsFiniteNumber

private theorem filter_take_eq_nil {β : Type} (related : β → β → Bool) {items : List β}
    (different : items.Pairwise fun first second => related first second = false) {index : Nat}
    {item : β} (stored : items[index]? = some item) :
    ((items.take index).filter fun earlier => related earlier item) = [] := by
  rw [List.filter_eq_nil_iff]
  intro earlier member
  obtain ⟨place, before, rfl⟩ := List.mem_take_iff_getElem.mp member
  obtain ⟨bound, rfl⟩ := List.getElem?_eq_some_iff.mp stored
  rw [List.pairwise_iff_getElem.mp different place index (by omega) bound (by omega)]
  exact Bool.false_ne_true

section

variable {plot : Plot Float} (stacked : plot.isStacked = true) (finite : plot.FiniteKeys)
  {index : Nat} {point : DataPoint Float} {extent : StackedPoint Float}

include stacked finite

private theorem stackedPoints_rounded
    (found : plot.stackedPoints[index]? = some (point, extent)) :
    extent.base = Scalar.sum (((plot.points.take index).filter fun earlier =>
        earlier.key.roundsWith point.key).map DataPoint.value) ∧
      extent.top = extent.base + point.value := by
  have told := stackedPoints_getElem? stacked found
  have stored : point ∈ plot.points := mem_points_of_stackedPoints found
  have alike : ((plot.points.take index).filter fun earlier =>
      earlier.key.text = point.key.text) =
      (plot.points.take index).filter fun earlier => earlier.key.roundsWith point.key := by
    refine List.filter_congr fun earlier member => ?_
    rw [Bool.eq_iff_iff, decide_eq_true_iff]
    exact Key.text_eq_iff (finite earlier (List.mem_of_mem_take member)) (finite point stored)
  rwa [alike] at told

/-- Where only equal keys round to one number, the totals are those of equal keys. -/
private theorem base_of_sameNumber
    (apart : ∀ first ∈ plot.points, ∀ second ∈ plot.points,
      first.key.roundsWith second.key = true → first.key.sameNumber second.key = true)
    (found : plot.stackedPoints[index]? = some (point, extent)) :
    extent.base = Scalar.sum (((plot.points.take index).filter fun earlier =>
      earlier.key.sameNumber point.key).map DataPoint.value) := by
  have stored : point ∈ plot.points := mem_points_of_stackedPoints found
  rw [(stackedPoints_rounded stacked finite found).1]
  congr 2
  refine List.filter_congr fun earlier member => ?_
  have before := List.mem_of_mem_take member
  exact Bool.eq_iff_iff.mpr
    ⟨apart earlier before point stored, Key.roundsWith_of_sameNumber (finite earlier before)⟩

private theorem stackedPoints_of_pairwise
    (different : plot.points.Pairwise fun first second =>
      first.key.roundsWith second.key = false) :
    ∀ entry ∈ plot.stackedPoints, entry.2.base = 0 ∧
      (entry.2.top = entry.1.value ∨ (entry.2.top == entry.1.value) = true) := by
  intro entry listed
  obtain ⟨index, found⟩ := List.mem_iff_getElem?.mp listed
  obtain ⟨base, top⟩ := stackedPoints_rounded stacked finite found
  have stored : plot.points[index]? = some entry.1 := by
    rw [← plot.stackedPoints_fst, List.getElem?_map, found]
    rfl
  rw [filter_take_eq_nil (fun first second => first.key.roundsWith second.key) different
    stored] at base
  rw [top, base]
  exact ⟨rfl, zero_add_eq entry.1.value⟩

end

/-- In a stacked plot whose keys are finite numbers a point rests on the sum of the earlier values
whose keys round to the same number as its own, and on no others. So it rests on the values of
equal keys only, unless different keys round to one number; and a single series whose keys all
round to different numbers is stacked to its values. -/
theorem stack_by_rounded_key (plot : Plot Float) (stacked : plot.isStacked = true)
    (finite : plot.FiniteKeys) :
    (∀ (index : Nat) (point : DataPoint Float) (extent : StackedPoint Float),
      plot.stackedPoints[index]? = some (point, extent) →
        extent.base = Scalar.sum (((plot.points.take index).filter fun earlier =>
          earlier.key.roundsWith point.key).map DataPoint.value) ∧
        extent.top = extent.base + point.value) ∧
      ((∀ first ∈ plot.points, ∀ second ∈ plot.points,
        first.key.roundsWith second.key = true → first.key.sameNumber second.key = true) →
        ∀ (index : Nat) (point : DataPoint Float) (extent : StackedPoint Float),
          plot.stackedPoints[index]? = some (point, extent) →
            extent.base = Scalar.sum (((plot.points.take index).filter fun earlier =>
              earlier.key.sameNumber point.key).map DataPoint.value)) ∧
      ∀ series, plot.series = [series] →
        series.data.Pairwise (fun first second => first.key.roundsWith second.key = false) →
        ∀ entry ∈ plot.stackedPoints, entry.2.base = 0 ∧
          (entry.2.top = entry.1.value ∨ (entry.2.top == entry.1.value) = true) := by
  refine ⟨fun index point extent => stackedPoints_rounded stacked finite,
    fun apart index point extent => base_of_sameNumber stacked finite apart,
    fun series single different => stackedPoints_of_pairwise stacked finite ?_⟩
  have alone : plot.points = series.data := by simp [points, single]
  rwa [alone]

def nearbyKeys : Plot Float :=
  (Plot.new .line).addSeries
    (.ofData [⟨.number 1, 3⟩, ⟨.number 2, 5⟩, ⟨.number 1.00000000001, 4⟩])

theorem stack_by_rounded_key_nearbyKeys :
    nearbyKeys.isStacked = true ∧ nearbyKeys.FiniteKeys ∧
      ∃ extent, nearbyKeys.stackedPoints[2]? = some (⟨.number 1.00000000001, 4⟩, extent) ∧
        extent.base = 3 ∧ extent.top = extent.base + 4 := by
  have finite : nearbyKeys.FiniteKeys := by
    change ∀ point ∈ ([_, _, _] : List (DataPoint Float)), point.key.IsFiniteNumber
    simp only [List.forall_mem_cons]
    exact ⟨⟨_, rfl, by decide +kernel⟩, ⟨_, rfl, by decide +kernel⟩, ⟨_, rfl, by decide +kernel⟩,
      List.forall_mem_nil _⟩
  obtain ⟨extent, found⟩ : ∃ extent, nearbyKeys.stackedPoints[2]? =
    some (⟨.number 1.00000000001, 4⟩, extent) := ⟨_, rfl⟩
  obtain ⟨base, top⟩ := (stack_by_rounded_key nearbyKeys rfl finite).1 2 _ extent found
  refine ⟨rfl, finite, extent, found, ?_, top⟩
  rw [base]
  decide +kernel

def picoseconds : Series Float := .ofData [⟨.number 1e-11, 1⟩, ⟨.number 2e-11, 2⟩]

/-- Keys that are different numbers may stack on each other. -/
theorem not_stacked_to_values : ¬ ∀ (plot : Plot Float) (series : Series Float),
    plot.isStacked = true → plot.FiniteKeys → plot.series = [series] →
    series.data.Pairwise (fun first second => first.key.sameNumber second.key = false) →
    ∀ entry ∈ plot.stackedPoints, entry.2.base = 0 := by
  intro stacked
  let plot := (Plot.new .line).addSeries picoseconds
  have finite : plot.FiniteKeys := by
    change ∀ point ∈ ([_, _] : List (DataPoint Float)), point.key.IsFiniteNumber
    simp only [List.forall_mem_cons]
    exact ⟨⟨_, rfl, by decide +kernel⟩, ⟨_, rfl, by decide +kernel⟩, List.forall_mem_nil _⟩
  have different : picoseconds.data.Pairwise
      (fun first second => first.key.sameNumber second.key = false) :=
    List.pairwise_pair.mpr (by decide +kernel)
  have bases := stacked plot picoseconds rfl finite rfl different
  have second : plot.stackedPoints.any (fun entry => entry.2.base == 1) = true := by decide +kernel
  obtain ⟨entry, listed, one⟩ := List.any_eq_true.mp second
  rw [bases entry listed] at one
  have contrary : ((0 : Float) == 1) = false := by decide +kernel
  rw [contrary] at one
  cases one

end Plot
end CanvasChart
