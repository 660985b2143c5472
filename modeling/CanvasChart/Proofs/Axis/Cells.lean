import CanvasChart.Proofs.Exact.Powers
import CanvasChart.Proofs.Axis.Gathering
import CanvasChart.Axis.Position

set_option autoImplicit false

/-! The cells of a discrete axis. Its categories are the keys of the first series that has any, and
divide the axis into cells of one width. A key takes the cell of the first category that prints
like it; a key that is no category takes the cell that its own place counts to, be it on the axis
or not. -/

namespace CanvasChart

variable {α : Type} [Scalar α]

/-! ### Categories -/

/-- The categories of some plots: those of the first plot that has any. -/
def Plot.categoriesOf (plots : List (Plot α)) : List String :=
  ((plots.map Plot.categories).find? fun names => !names.isEmpty).getD []

theorem Plot.categoriesOf_concat (plots : List (Plot α)) (plot : Plot α) :
    categoriesOf (plots ++ [plot]) =
      if categoriesOf plots = [] then plot.categories else categoriesOf plots := by
  unfold categoriesOf
  rw [List.map_append, List.find?_append]
  cases found : (plots.map Plot.categories).find? fun names => !names.isEmpty with
  | some names =>
      have filled := List.find?_some found
      have nonempty : names ≠ [] := by
        rintro rfl
        cases filled
      simp [nonempty]
  | none =>
      cases listed : plot.categories <;> simp [listed]

namespace Axis

def names (axis : Axis α) : List String :=
  match axis.labels with
  | .categories names => names
  | .values _ => []

/-- The axis has categories or nothing at all on it. -/
structure Named (axis : Axis α) (names : List String) : Prop where
  names_eq : axis.names = names
  length_eq : axis.labels.length = names.length

def cellCount (names : List String) : Nat := Nat.max names.length 1

/-- The cell that a key takes among some categories. -/
def cellOf (names : List String) (index : Nat) (key : Key α) : Nat :=
  (names.findIdx? fun name => name = key.text).getD index

section Cell

variable {names : List String} {key other : Key α}

private theorem cellOf_eq (listed : key.text ∉ names) (index : Nat) :
    cellOf names index key = index := by
  have none : (names.findIdx? fun name => name = key.text) = none := by
    rw [List.findIdx?_eq_none_iff]
    intro name member
    exact decide_eq_false fun same => listed (same ▸ member)
  rw [cellOf, none, Option.getD_none]

private theorem getElem?_cellOf (listed : key.text ∈ names) (index : Nat) :
    names[cellOf names index key]? = some key.text := by
  have found : (names.findIdx? fun name => name = key.text).isSome = true := by
    rw [List.findIdx?_isSome, List.any_eq_true]
    exact ⟨key.text, listed, decide_eq_true rfl⟩
  obtain ⟨place, first⟩ := Option.isSome_iff_exists.mp found
  rw [cellOf, first, Option.getD_some]
  obtain ⟨bound, prints, _before⟩ := List.findIdx?_eq_some_iff_getElem.mp first
  rw [List.getElem?_eq_getElem bound, of_decide_eq_true prints]

theorem cellOf_lt_iff (index : Nat) :
    cellOf names index key < cellCount names ↔ key.text ∈ names ∨ index < cellCount names := by
  by_cases listed : key.text ∈ names
  · obtain ⟨bound, _found⟩ := List.getElem?_eq_some_iff.mp (getElem?_cellOf listed index)
    exact iff_of_true (bound.trans_le (Nat.le_max_left _ _)) (.inl listed)
  · rw [cellOf_eq listed, or_iff_right listed]

/-- A key that is no category takes the cell that its place counts to, and finds another key
there. -/
def FallsOn (names : List String) (index : Nat) (key : Key α) (place : Nat) (other : Key α) :
    Prop :=
  key.text ∉ names ∧ index = cellOf names place other

/-- Keys that print differently share a cell just if one of them falls on the other. -/
theorem cellOf_eq_iff (different : key.text ≠ other.text) (index place : Nat) :
    cellOf names index key = cellOf names place other ↔
      FallsOn names index key place other ∨ FallsOn names place other index key := by
  constructor
  · intro same
    by_cases listed : key.text ∈ names
    · have unlisted : other.text ∉ names := by
        intro otherListed
        have first := getElem?_cellOf listed index
        rw [same, getElem?_cellOf otherListed place] at first
        exact different (Option.some.inj first).symm
      exact .inr ⟨unlisted, (cellOf_eq unlisted place).symm.trans same.symm⟩
    · exact .inl ⟨listed, (cellOf_eq listed index).symm.trans same⟩
  · rintro (⟨unlisted, falls⟩ | ⟨unlisted, falls⟩)
    · exact (cellOf_eq unlisted index).trans falls
    · exact ((cellOf_eq unlisted place).trans falls).symm

end Cell

/-! ### Taking in plots -/

private theorem taking_labels {axis : Axis α} (onX : axis.kind = .x) {plot : Plot α}
    (discrete : plot.isDiscrete = true) (index : Nat) :
    (axis.taking index plot).labels =
      if axis.labels.length = 0 then .categories plot.categories else axis.labels := by
  have reopened := (axis.informed plot).unfix_samePlan
  have labels : (axis.informed plot).unfix.labels = axis.labels := by
    rw [unfix, apply_ite Axis.labels, ite_self]
    rfl
  have told : { (axis.informed plot).unfix with
      plots := (axis.informed plot).unfix.plots ++ [index] : Axis α }.isDiscrete = true := by
    change (axis.informed plot).unfix.isDiscrete = true
    rw [reopened.isDiscrete]
    simp [isDiscrete, informed, onX, discrete]
  rw [taking, absorb, if_pos told, apply_ite Axis.labels]
  simp only [labels]

theorem fix_labels_of_discrete {axis : Axis α} (discrete : axis.isDiscrete = true) :
    axis.fix.labels = axis.labels := by
  cases fixed : axis.fixed with
  | true => rw [fix, if_pos fixed]
  | false =>
      simp only [fix, fixed, if_neg Bool.false_ne_true]
      rw [if_pos (by simpa [isDiscrete] using discrete)]

private theorem addPlots_named {axis final : Axis α} {entries : List (Nat × Plot α)}
    (onX : axis.kind = .x) (discrete : ∀ entry ∈ entries, entry.2.isDiscrete = true)
    (start : axis.labels = .values []) (taken : axis.addPlots entries = .ok final) :
    final.Named (Plot.categoriesOf (entries.map Prod.snd)) := by
  suffices named : final.kind = .x ∧ final.Named (Plot.categoriesOf (entries.map Prod.snd)) from
    named.2
  refine addPlots_induction (fun held earlier => held.kind = .x ∧
    held.Named (Plot.categoriesOf (earlier.map Prod.snd))) ⟨onX, ?_, ?_⟩ ?_ taken
  · rw [names, start]
    rfl
  · rw [start]
    rfl
  rintro before earlier index plot next member ⟨heldX, named⟩ added
  obtain ⟨rfl, takes⟩ := taken_of_addPlot added
  refine ⟨takes.kind.trans heldX, ?_⟩
  have labels := taking_labels heldX (discrete _ member) index
  rw [List.map_append, List.map_singleton, Plot.categoriesOf_concat]
  by_cases none : Plot.categoriesOf (earlier.map Prod.snd) = []
  · rw [named.length_eq, none, List.length_nil, if_pos rfl] at labels
    rw [if_pos none]
    exact ⟨by rw [names, labels], by rw [labels]; rfl⟩
  · rw [named.length_eq, if_neg (by rwa [List.length_eq_zero_iff])] at labels
    rw [if_neg none]
    exact ⟨by rw [names, labels]; exact named.names_eq, by rw [labels]; exact named.length_eq⟩

theorem Gathers.named {options : ChartOptions α} {entries : List (Nat × Plot α)} {side : Side}
    {axis : Axis α} (gathers : axis.Gathers options entries side)
    (discrete : axis.isDiscrete = true) :
    axis.Named (Plot.categoriesOf ((Plot.users .x side entries).map Prod.snd)) := by
  have onX : axis.kind = .x := by
    rw [isDiscrete, Bool.and_eq_true] at discrete
    exact of_decide_eq_true discrete.1
  have taken := gathers.taken
  rw [onX] at taken
  exact addPlots_named rfl (fun entry user => gathers.isDiscrete_eq onX user ▸ discrete) rfl taken

end Axis

/-! ### Slots -/

/-- The first part ends before the second one begins, or the other way round. -/
def SlotsApart (part other : EReal × EReal) : Prop :=
  part.1 + part.2 ≤ other.1 ∨ other.1 + other.2 ≤ part.1

namespace Axis

def Includes (axis : Axis EReal) (part : EReal × EReal) : Prop :=
  0 ≤ part.1 ∧ part.1 + part.2 ≤ axis.size

theorem Named.categoryIndex?_eq {axis : Axis α} {names : List String}
    (named : axis.Named names) (key : Key α) :
    axis.categoryIndex? key = names.findIdx? fun name => name = key.text := by
  have same := named.names_eq
  unfold Axis.names at same
  unfold categoryIndex?
  cases labels : axis.labels with
  | categories listed =>
      rw [labels] at same
      rw [← same]
  | values list =>
      rw [labels] at same
      rw [← same]
      rfl

section Slot

variable [NumberTexts] {axis : Axis EReal} {names : List String} {size : ℝ}
  (discrete : axis.isDiscrete = true) (named : axis.Named names) (sized : axis.size = size)

noncomputable def cellWidth (size : ℝ) (names : List String) : ℝ := size / cellCount names

omit [NumberTexts] in
private theorem cellCount_pos (names : List String) : (0 : ℝ) < cellCount names :=
  Nat.cast_pos.mpr (Nat.lt_of_lt_of_le Nat.one_pos (Nat.le_max_right _ _))

include discrete named sized

theorem slot_eq (index : ℕ) (key : Key EReal) (count : ℕ) : axis.slot index key count =
    (((cellOf names index key * cellWidth size names : ℝ) : EReal),
      ((cellWidth size names : ℝ) : EReal)) := by
  have divisor : Scalar.ofNat (Nat.max names.length 1) = ((cellCount names : ℝ) : EReal) :=
    EReal.coe_natCast.symm
  have width : @HDiv.hDiv EReal EReal EReal (@instHDiv EReal Scalar.toDiv) axis.size
      (Scalar.ofNat (Nat.max axis.labels.length 1)) = ((cellWidth size names : ℝ) : EReal) := by
    rw [named.length_eq, sized, divisor]
    exact Exact.div_coe size (cellCount_pos names).ne'
  rw [slot, if_pos discrete]
  simp only [width]
  rw [named.categoryIndex?_eq, Exact.ofNat_eq, ← EReal.coe_natCast, EReal.coe_mul]
  rfl

/-- The slot lies on the axis if its cell is one of the axis. On an axis without length all slots
are nothing but its start. -/
theorem slot_included_iff (nonneg : 0 ≤ size) (index : ℕ) (key : Key EReal) (count : ℕ) :
    axis.Includes (axis.slot index key count) ↔
      cellOf names index key < cellCount names ∨ size = 0 := by
  have width : 0 ≤ cellWidth size names := div_nonneg nonneg (cellCount_pos names).le
  have whole : cellCount names * cellWidth size names = size :=
    mul_div_cancel₀ size (cellCount_pos names).ne'
  have start : 0 ≤ (cellOf names index key : ℝ) * cellWidth size names := by positivity
  rw [slot_eq discrete named sized, Includes, sized, ← EReal.coe_add, EReal.coe_le_coe_iff,
    EReal.coe_nonneg, and_iff_right start, ← add_one_mul]
  rcases nonneg.eq_or_lt with rfl | positive
  · simp [cellWidth]
  · have wide : 0 < cellWidth size names := div_pos positive (cellCount_pos names)
    calc _ ≤ size ↔ (cellOf names index key + 1 : ℝ) * cellWidth size names ≤
          cellCount names * cellWidth size names := by rw [whole]
      _ ↔ cellOf names index key < cellCount names := by
        rw [mul_le_mul_iff_of_pos_right wide]
        exact_mod_cast Nat.succ_le_iff
      _ ↔ _ := (or_iff_left positive.ne').symm

theorem slot_apart (nonneg : 0 ≤ size) {index place : ℕ} {key other : Key EReal}
    (different : cellOf names index key ≠ cellOf names place other) (count count' : ℕ) :
    SlotsApart (axis.slot index key count) (axis.slot place other count') := by
  have width : 0 ≤ cellWidth size names := div_nonneg nonneg (cellCount_pos names).le
  have before {first second : ℕ} (less : first < second) :
      ((first * cellWidth size names : ℝ) : EReal) + ((cellWidth size names : ℝ) : EReal) ≤
        ((second * cellWidth size names : ℝ) : EReal) := by
    rw [← EReal.coe_add, EReal.coe_le_coe_iff, ← add_one_mul]
    exact mul_le_mul_of_nonneg_right (by exact_mod_cast less) width
  rw [slot_eq discrete named sized, slot_eq discrete named sized]
  exact (Nat.lt_or_gt_of_ne different).imp before before

end Slot

end Axis

end CanvasChart
