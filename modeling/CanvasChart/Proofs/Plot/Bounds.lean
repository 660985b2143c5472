import CanvasChart.Proofs.Axis.Coverage
import CanvasChart.Proofs.Binary64.Numbers
import CanvasChart.Proofs.Plot.Extents

set_option autoImplicit false

/-! The bounding box of a plot on binary64 numbers. Along either axis it tells the least and the
greatest data value and the least positive one. It is the union of the boxes around the data
points in whatever way these are grouped. -/

namespace CanvasChart

open Binary64

structure Bounds where
  least : Float
  greatest : Float
  leastPositive : Float
  deriving DecidableEq

def BoundingBox.along (box : BoundingBox Float) : AxisKind → Bounds
  | .x => ⟨box.minX, box.maxX, box.minPositiveX⟩
  | .y => ⟨box.minY, box.maxY, box.minPositiveY⟩

theorem BoundingBox.ext_along {first second : BoundingBox Float}
    (same : ∀ kind, first.along kind = second.along kind) : first = second := by
  have alongX := same .x
  have alongY := same .y
  simp only [along, Bounds.mk.injEq] at alongX alongY
  obtain ⟨minX, maxX, minPositiveX⟩ := alongX
  obtain ⟨minY, maxY, minPositiveY⟩ := alongY
  cases first
  cases second
  simp only [BoundingBox.mk.injEq]
  exact ⟨minX, maxX, minY, maxY, minPositiveX, minPositiveY⟩

namespace Bounds

/-- The least of some numbers, infinite when there are none. -/
def LeastOrInfinite (values : Set Float) (value : Float) : Prop :=
  IsLeast values value ∨ values = ∅ ∧ value = Scalar.infinity

private theorem leastOrInfinite_iff {values : Set Float}
    (numbers : ∀ value ∈ values, value.isNaN = false) {value : Float} :
    LeastOrInfinite values value ↔ IsLeast (insert Scalar.infinity values) value := by
  constructor
  · rintro (least | ⟨rfl, rfl⟩)
    · refine ⟨.inr least.1, ?_⟩
      rintro _ (rfl | member)
      · exact le_infinity (numbers value least.1)
      · exact least.2 member
    · rw [insert_empty_eq]
      exact isLeast_singleton isNaN_infinity
  · rintro ⟨rfl | member, lower⟩
    · -- then every number among them is infinite as well
      rcases values.eq_empty_or_nonempty with none | ⟨other, member⟩
      · exact .inr ⟨none, rfl⟩
      · have infinite := eq_infinity_of_le (lower (.inr member))
        exact .inl ⟨infinite ▸ member, fun _further inside => lower (.inr inside)⟩
    · exact .inl ⟨member, fun _further inside => lower (.inr inside)⟩

structure Describes (bounds : Bounds) (values : Set Float) : Prop where
  least : IsLeast values bounds.least
  greatest : IsGreatest values bounds.greatest
  leastPositive : LeastOrInfinite {value ∈ values | 0 < value} bounds.leastPositive

namespace Describes

variable {bounds : Bounds} {values : Set Float}

private theorem isNaN_of_mem (describes : bounds.Describes values) {value : Float}
    (member : value ∈ values) : value.isNaN = false :=
  (isNaN_of_le (describes.least.2 member)).2

private theorem leastPositive_insert (describes : bounds.Describes values) :
    IsLeast (insert Scalar.infinity {value ∈ values | 0 < value}) bounds.leastPositive :=
  (leastOrInfinite_iff fun _value member => describes.isNaN_of_mem member.1).mp
    describes.leastPositive

end Describes

/-! ### One value and two bounds -/

def single (value : Float) : Bounds := ⟨value, value, BoundingBox.positiveOrInfinite value⟩

def join (first second : Bounds) : Bounds where
  least := Scalar.min first.least second.least
  greatest := Scalar.max first.greatest second.greatest
  leastPositive := Scalar.min first.leastPositive second.leastPositive

private theorem single_describes {value : Float} (number : value.isNaN = false) :
    (single value).Describes {value} where
  least := isLeast_singleton number
  greatest := isGreatest_singleton number
  leastPositive := by
    simp only [single, BoundingBox.positiveOrInfinite]
    split
    case isTrue positive =>
      refine .inl ⟨⟨rfl, positive⟩, ?_⟩
      rintro _ ⟨rfl, _positive⟩
      exact le_refl number
    case isFalse negative =>
      refine .inr ⟨Set.eq_empty_iff_forall_notMem.mpr ?_, rfl⟩
      rintro _ ⟨rfl, positive⟩
      exact negative positive

theorem Describes.join {first second : Bounds} {values further : Set Float}
    (one : first.Describes values) (other : second.Describes further) :
    (first.join second).Describes (values ∪ further) where
  least := isLeast_union one.least other.least
  greatest := isGreatest_union one.greatest other.greatest
  leastPositive := by
    refine (leastOrInfinite_iff ?_).mpr ?_
    · rintro value ⟨inValues | inFurther, _positive⟩
      · exact one.isNaN_of_mem inValues
      · exact other.isNaN_of_mem inFurther
    · have parted : {value ∈ values ∪ further | 0 < value} =
          {value ∈ values | 0 < value} ∪ {value ∈ further | 0 < value} := Set.sep_union
      rw [parted, Set.insert_union_distrib]
      exact isLeast_union one.leastPositive_insert other.leastPositive_insert

private theorem join_assoc {first second third : Bounds} {values further last : Set Float}
    (one : first.Describes values) (two : second.Describes further)
    (three : third.Describes last) :
    (first.join second).join third = first.join (second.join third) := by
  simp only [join, Bounds.mk.injEq]
  exact
    ⟨min_assoc (isNaN_of_isLeast one.least) (isNaN_of_isLeast two.least)
        (isNaN_of_isLeast three.least),
      max_assoc (isNaN_of_isGreatest one.greatest) (isNaN_of_isGreatest two.greatest)
        (isNaN_of_isGreatest three.greatest),
      min_assoc (isNaN_of_isLeast one.leastPositive_insert)
        (isNaN_of_isLeast two.leastPositive_insert)
        (isNaN_of_isLeast three.leastPositive_insert)⟩

end Bounds

/-! ### Groupings -/

/-- A way to make one box of some points: points, and unions of what was made before. -/
inductive Grouping where
  | point (place : Point Float)
  | union (first second : Grouping)

namespace Grouping

def places : Grouping → List (Point Float)
  | point place => [place]
  | union first second => first.places ++ second.places

def box : Grouping → BoundingBox Float
  | point place => .point place.x place.y
  | union first second => first.box.union second.box

def reach (grouping : Grouping) (kind : AxisKind) : Set Float :=
  {value | ∃ place ∈ grouping.places, place.along kind = value}

def Numbers (grouping : Grouping) : Prop :=
  ∀ place ∈ grouping.places, ∀ kind, (place.along kind).isNaN = false

private theorem numbers_union {first second : Grouping} :
    (first.union second).Numbers ↔ first.Numbers ∧ second.Numbers := by
  simp only [Numbers, places, List.forall_mem_append]

private theorem box_along_point (place : Point Float) (kind : AxisKind) :
    (point place).box.along kind = .single (place.along kind) := by
  cases kind <;> rfl

private theorem box_along_union (first second : Grouping) (kind : AxisKind) :
    (first.union second).box.along kind = (first.box.along kind).join (second.box.along kind) := by
  cases kind <;> rfl

private theorem reach_point (place : Point Float) (kind : AxisKind) :
    (point place).reach kind = {place.along kind} := by
  ext value
  simp [reach, places, eq_comm]

private theorem reach_union (first second : Grouping) (kind : AxisKind) :
    (first.union second).reach kind = first.reach kind ∪ second.reach kind := by
  ext value
  simp only [reach, places, List.mem_append, Set.mem_union, Set.mem_ofPred_eq, or_and_right,
    exists_or]

private theorem describes (grouping : Grouping) (numbers : grouping.Numbers) (kind : AxisKind) :
    (grouping.box.along kind).Describes (grouping.reach kind) := by
  induction grouping with
  | point place =>
      rw [box_along_point, reach_point]
      exact Bounds.single_describes (numbers place (List.mem_singleton_self place) kind)
  | union first second firstIh secondIh =>
      obtain ⟨firstNumbers, secondNumbers⟩ := numbers_union.mp numbers
      rw [box_along_union, reach_union]
      exact (firstIh firstNumbers).join (secondIh secondNumbers)

private theorem union_box_assoc {first second third : Grouping} (one : first.Numbers)
    (two : second.Numbers) (three : third.Numbers) :
    (first.box.union second.box).union third.box =
      first.box.union (second.box.union third.box) :=
  BoundingBox.ext_along fun kind => by
    have assoc := Bounds.join_assoc (describes first one kind) (describes second two kind)
      (describes third three kind)
    simp only [← box_along_union] at assoc
    exact assoc

/-- On the grouping of the points that are still to come; `sofar` groups those before them. -/
private theorem foldl_union (sofar grouping : Grouping) (earlier : sofar.Numbers)
    (numbers : grouping.Numbers) :
    (grouping.places.map fun place => BoundingBox.point place.x place.y).foldl BoundingBox.union
      sofar.box = sofar.box.union grouping.box := by
  induction grouping generalizing sofar with
  | point place => rfl
  | union first second firstIh secondIh =>
      obtain ⟨firstNumbers, secondNumbers⟩ := numbers_union.mp numbers
      have joined : (sofar.union first).Numbers := numbers_union.mpr ⟨earlier, firstNumbers⟩
      rw [places, List.map_append, List.foldl_append, firstIh sofar earlier firstNumbers]
      exact (secondIh (sofar.union first) joined secondNumbers).trans
        (union_box_assoc earlier firstNumbers secondNumbers)

private theorem unionAll_append {first : List (BoundingBox Float)} {box : BoundingBox Float}
    (united : BoundingBox.unionAll first = some box) (second : List (BoundingBox Float)) :
    BoundingBox.unionAll (first ++ second) = some (second.foldl BoundingBox.union box) := by
  cases first with
  | nil => cases united
  | cons head tail =>
      cases united
      rw [List.cons_append, BoundingBox.unionAll, List.foldl_append]

private theorem unionAll_places (grouping : Grouping) (numbers : grouping.Numbers) :
    BoundingBox.unionAll (grouping.places.map fun place => .point place.x place.y) =
      some grouping.box := by
  induction grouping with
  | point place => rfl
  | union first second firstIh secondIh =>
      obtain ⟨firstNumbers, secondNumbers⟩ := numbers_union.mp numbers
      rw [places, List.map_append, unionAll_append (firstIh firstNumbers),
        foldl_union first second firstNumbers secondNumbers]
      rfl

private theorem exists_places (first : Point Float) (rest : List (Point Float)) :
    ∃ grouping : Grouping, grouping.places = first :: rest := by
  induction rest generalizing first with
  | nil => exact ⟨point first, rfl⟩
  | cons second rest ih =>
      obtain ⟨grouping, same⟩ := ih second
      exact ⟨(point first).union grouping, congrArg (first :: ·) same⟩

end Grouping

/-! ### Data values -/

namespace Plot

variable {plot : Plot Float} {kind : AxisKind}

/-- The values of the data points along an axis: the numeric keys, or else the positions in the
series, and the stacked values. -/
def dataValues (plot : Plot Float) : AxisKind → Set Float
  | .x => {value | ∃ series ∈ plot.series, ∃ (index : Nat) (point : DataPoint Float),
      series.data[index]? = some point ∧ value = point.key.position index}
  | .y => {value | ∃ tops ∈ plot.stackedTops, value ∈ tops}

/-- No key and no stacked value is other than a number. -/
structure Numbers (plot : Plot Float) : Prop where
  keys : ∀ series ∈ plot.series, ∀ point ∈ series.data, ∀ number ∈ point.key.number?,
    number.isNaN = false
  tops : ∀ tops ∈ plot.stackedTops, ∀ top ∈ tops, top.isNaN = false

private theorem mem_series {entry : Series Float × List (StackedPoint Float)}
    (member : entry ∈ plot.stackedSeries) : entry.1 ∈ plot.series := by
  rw [← plot.stackedSeries_fst]
  exact List.mem_map_of_mem member

private theorem exists_paired_point (plot : Plot Float) {series : Series Float}
    (listed : series ∈ plot.series) {index : Nat} {point : DataPoint Float}
    (stored : series.data[index]? = some point) :
    ∃ entry ∈ plot.stackedSeries, ∃ extent,
      (entry.1.data.zip entry.2)[index]? = some (point, extent) := by
  rw [← plot.stackedSeries_fst] at listed
  obtain ⟨entry, member, rfl⟩ := List.mem_map.mp listed
  obtain ⟨bound, _found⟩ := List.getElem?_eq_some_iff.mp stored
  rw [← plot.stackedSeries_length member] at bound
  exact ⟨entry, member, entry.2[index], List.getElem?_zip_eq_some.mpr
    ⟨stored, List.getElem?_eq_getElem bound⟩⟩

theorem dataValues_eq (plot : Plot Float) (kind : AxisKind) :
    plot.dataValues kind = {value | ∃ place ∈ plot.coordinates, place.along kind = value} := by
  ext value
  cases kind with
  | x =>
      constructor
      · rintro ⟨series, listed, index, point, stored, rfl⟩
        obtain ⟨entry, member, extent, paired⟩ := plot.exists_paired_point listed stored
        exact ⟨_, mem_coordinates.mpr ⟨entry, member, index, point, extent, paired, rfl⟩, rfl⟩
      · rintro ⟨place, inside, rfl⟩
        obtain ⟨entry, member, index, point, extent, paired, rfl⟩ := mem_coordinates.mp inside
        exact ⟨entry.1, mem_series member, index, point, (List.getElem?_zip_eq_some.mp paired).1, rfl⟩
  | y =>
      have tops : plot.stackedTops =
          plot.stackedSeries.map fun entry => entry.2.map StackedPoint.top := by
        rw [stackedTops, ← plot.stackedSeries_snd, List.map_map]
        rfl
      simp only [dataValues, tops, Set.mem_ofPred_eq]
      constructor
      · rintro ⟨_tops, listed, inside⟩
        obtain ⟨entry, member, rfl⟩ := List.mem_map.mp listed
        obtain ⟨extent, held, rfl⟩ := List.mem_map.mp inside
        obtain ⟨index, point, paired⟩ := plot.exists_paired member held
        exact ⟨_, mem_coordinates.mpr ⟨entry, member, index, point, extent, paired, rfl⟩, rfl⟩
      · rintro ⟨place, inside, rfl⟩
        obtain ⟨entry, member, index, point, extent, paired, rfl⟩ := mem_coordinates.mp inside
        have held := List.mem_of_getElem? (List.getElem?_zip_eq_some.mp paired).2
        exact ⟨_, List.mem_map_of_mem member, List.mem_map_of_mem held⟩

/-- What holds of the numeric keys, of the places in the series and of the stacked values holds of
all data values. -/
theorem forall_mem_dataValues {holds : Float → Prop}
    (keys : ∀ series ∈ plot.series, ∀ point ∈ series.data, ∀ number ∈ point.key.number?,
      holds number)
    (places : ∀ series ∈ plot.series, ∀ index < series.data.length, holds (Float.ofNat index))
    (tops : ∀ tops ∈ plot.stackedTops, ∀ top ∈ tops, holds top) :
    ∀ value ∈ plot.dataValues kind, holds value := by
  intro value member
  cases kind with
  | x =>
      obtain ⟨series, listed, index, point, stored, rfl⟩ := member
      unfold Key.position
      cases numeric : point.key.number? with
      | none =>
          obtain ⟨bound, _found⟩ := List.getElem?_eq_some_iff.mp stored
          exact places series listed index bound
      | some number =>
          exact keys series listed point (List.mem_of_getElem? stored) number numeric
  | y =>
      obtain ⟨held, listed, inside⟩ := member
      exact tops held listed value inside

theorem Numbers.isNaN_of_mem (numbers : plot.Numbers) {value : Float}
    (member : value ∈ plot.dataValues kind) : value.isNaN = false :=
  forall_mem_dataValues numbers.keys (fun _series _listed index _bound => isNaN_ofNat index)
    numbers.tops value member

theorem boundingBox_eq_none_iff_coordinates :
    plot.boundingBox = none ↔ plot.coordinates = [] := by
  unfold boundingBox
  cases plot.coordinates <;> simp [BoundingBox.unionAll]

private theorem boundingBox_eq_none_iff :
    plot.boundingBox = none ↔ ∀ series ∈ plot.series, series.data = [] := by
  rw [boundingBox_eq_none_iff_coordinates, List.eq_nil_iff_forall_not_mem]
  constructor
  · intro none series listed
    rw [List.eq_nil_iff_forall_not_mem]
    intro point stored
    obtain ⟨index, found⟩ := List.mem_iff_getElem?.mp stored
    obtain ⟨entry, member, extent, paired⟩ := plot.exists_paired_point listed found
    exact none _ (mem_coordinates.mpr ⟨entry, member, index, point, extent, paired, rfl⟩)
  · intro empty place inside
    obtain ⟨entry, member, index, point, extent, paired, rfl⟩ := mem_coordinates.mp inside
    have stored := (List.getElem?_zip_eq_some.mp paired).1
    rw [empty entry.1 (mem_series member)] at stored
    cases stored

theorem Numbers.of_places (numbers : plot.Numbers) {grouping : Grouping}
    (same : grouping.places = plot.coordinates) : grouping.Numbers := by
  intro place member kind
  rw [same] at member
  have reached : place.along kind ∈ plot.dataValues kind := by
    rw [dataValues_eq]
    exact ⟨place, member, rfl⟩
  exact numbers.isNaN_of_mem reached

/-- Every grouping of the data points has the box of the plot. -/
theorem Numbers.box_of_places (numbers : plot.Numbers) {box : BoundingBox Float}
    (bounded : plot.boundingBox = some box) {grouping : Grouping}
    (same : grouping.places = plot.coordinates) : grouping.box = box := by
  have united := grouping.unionAll_places (numbers.of_places same)
  rw [same] at united
  exact Option.some.inj (united.symm.trans bounded)

private theorem exists_grouping {box : BoundingBox Float} (bounded : plot.boundingBox = some box) :
    ∃ grouping : Grouping, grouping.places = plot.coordinates := by
  cases listed : plot.coordinates with
  | nil =>
      rw [boundingBox, listed] at bounded
      cases bounded
  | cons first rest => exact Grouping.exists_places first rest

/-- A plot has a bounding box unless none of its series has a data point. Along either axis the
box then tells the least and the greatest value of the data points and the least positive one,
or infinity where no value is positive. However the points are grouped, the union of their boxes
is the same. -/
theorem boundingBox_describes (plot : Plot Float) (numbers : plot.Numbers) :
    (plot.boundingBox = none ↔ ∀ series ∈ plot.series, series.data = []) ∧
      ∀ box, plot.boundingBox = some box →
        (∀ kind, (box.along kind).Describes (plot.dataValues kind)) ∧
          ∀ grouping : Grouping, grouping.places = plot.coordinates → grouping.box = box := by
  refine ⟨boundingBox_eq_none_iff, fun box bounded =>
    ⟨fun kind => ?_, fun grouping => numbers.box_of_places bounded⟩⟩
  obtain ⟨grouping, same⟩ := exists_grouping bounded
  rw [dataValues_eq, ← numbers.box_of_places bounded same, ← same]
  exact grouping.describes (numbers.of_places same) kind

def scatteredMarks : Plot Float :=
  ((Plot.new .scatter).addSeries (.ofData [⟨.number 2, -3⟩, ⟨.label "late", 0.5⟩])).addSeries
    (.ofData [⟨.number (-4), 0⟩])

theorem boundingBox_describes_scatteredMarks :
    scatteredMarks.Numbers ∧ ∃ box, scatteredMarks.boundingBox = some box ∧
      box.along .x = ⟨-4, 2, 1⟩ ∧ box.along .y = ⟨-3, 0.5, 0.5⟩ ∧
      ∀ kind, (box.along kind).Describes (scatteredMarks.dataValues kind) := by
  have numbers : scatteredMarks.Numbers := ⟨by decide +kernel, by decide +kernel⟩
  have told : scatteredMarks.boundingBox.map (fun box => (box.along .x, box.along .y)) =
      some (⟨-4, 2, 1⟩, ⟨-3, 0.5, 0.5⟩) := by decide +kernel
  obtain ⟨box, bounded, same⟩ := Option.map_eq_some_iff.mp told
  obtain ⟨alongX, alongY⟩ := Prod.mk.inj same
  refine ⟨numbers, box, bounded, alongX, alongY, ?_⟩
  exact ((boundingBox_describes scatteredMarks numbers).2 box bounded).1

end Plot
end CanvasChart
