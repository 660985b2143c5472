import Mathlib
import CanvasChart.Binary64.Scalar

set_option autoImplicit false

/-! The order of binary64 numbers. All numbers but the one that is none have a rank, and comparing
them is comparing ranks. Both zeros have the same rank, so that equality of ranks is equality of
numbers and not of bits. -/

namespace CanvasChart.Binary64

open Float.Model

/-- Signs first, infinities outermost; then the exponents and the mantissas of numbers of one sign. -/
abbrev Rank := ℤ ×ₗ ℤ ×ₗ ℤ

def Rank.of (sign exponent mantissa : ℤ) : Rank := toLex (sign, toLex (exponent, mantissa))

theorem Rank.of_lt_of {sign exponent mantissa sign' exponent' mantissa' : ℤ} :
    Rank.of sign exponent mantissa < Rank.of sign' exponent' mantissa' ↔
      sign < sign' ∨ sign = sign' ∧
        (exponent < exponent' ∨ exponent = exponent' ∧ mantissa < mantissa') := by
  simp only [Rank.of, Prod.Lex.toLex_lt_toLex]

theorem Rank.of_inj {sign exponent mantissa sign' exponent' mantissa' : ℤ} :
    Rank.of sign exponent mantissa = Rank.of sign' exponent' mantissa' ↔
      sign = sign' ∧ exponent = exponent' ∧ mantissa = mantissa' := by
  simp only [Rank.of, EmbeddingLike.apply_eq_iff_eq, Prod.mk.injEq]

def rankOf : UnpackedFloat → Rank
  | .infinity .negative => .of (-2) 0 0
  | .finite .negative mantissa exponent _ => .of (-1) (-exponent) (-mantissa)
  | .notANumber => .of 0 0 0
  | .zero _ => .of 0 0 0
  | .finite .positive mantissa exponent _ => .of 1 exponent mantissa
  | .infinity .positive => .of 2 0 0

private theorem then_compare (exponent exponent' : ℤ) (mantissa mantissa' : ℕ) :
    ((compare exponent exponent').then (compare mantissa mantissa') = .lt ↔
        exponent < exponent' ∨ exponent = exponent' ∧ mantissa < mantissa') ∧
      ((compare exponent exponent').then (compare mantissa mantissa') = .eq ↔
        exponent = exponent' ∧ mantissa = mantissa') := by
  constructor
  · rw [Ordering.then_eq_lt, Std.compare_eq_lt, Std.compare_eq_iff_eq, Std.compare_eq_lt]
  · rw [Ordering.then_eq_eq, Std.compare_eq_iff_eq, Std.compare_eq_iff_eq]

private theorem compare_positive {mantissa mantissa' : ℕ} {exponent exponent' : ℤ}
    (positive : 0 < mantissa) (positive' : 0 < mantissa') :
    let left := UnpackedFloat.finite .positive mantissa exponent positive
    let right := UnpackedFloat.finite .positive mantissa' exponent' positive'
    (left.compare right = some .lt ↔ rankOf left < rankOf right) ∧
      (left.compare right = some .eq ↔ rankOf left = rankOf right) := by
  simp only [UnpackedFloat.compare, Option.some.injEq, rankOf, Rank.of_lt_of, Rank.of_inj,
    then_compare, lt_irrefl, false_or, true_and]
  constructor <;> constructor <;> omega

private theorem compare_negative {mantissa mantissa' : ℕ} {exponent exponent' : ℤ}
    (positive : 0 < mantissa) (positive' : 0 < mantissa') :
    let left := UnpackedFloat.finite .negative mantissa exponent positive
    let right := UnpackedFloat.finite .negative mantissa' exponent' positive'
    (left.compare right = some .lt ↔ rankOf left < rankOf right) ∧
      (left.compare right = some .eq ↔ rankOf left = rankOf right) := by
  have swapped : ((compare exponent exponent').then (compare mantissa mantissa')).swap =
      (compare exponent' exponent).then (compare mantissa' mantissa) := by
    rw [Ordering.swap_then, ← Std.OrientedCmp.eq_swap, ← Std.OrientedCmp.eq_swap]
  simp only [UnpackedFloat.compare, swapped, Option.some.injEq, rankOf, Rank.of_lt_of,
    Rank.of_inj, then_compare, lt_irrefl, false_or, true_and]
  constructor <;> constructor <;> omega

/-- Comparing numbers is comparing their ranks. -/
private theorem compare_rank {left right : UnpackedFloat} (leftNumber : left ≠ .notANumber)
    (rightNumber : right ≠ .notANumber) :
    (left.compare right = some .lt ↔ rankOf left < rankOf right) ∧
      (left.compare right = some .eq ↔ rankOf left = rankOf right) := by
  rcases left with (_ | _) | _ | _ | ⟨_ | _, mantissa, exponent, positive⟩ <;>
    rcases right with (_ | _) | _ | _ | ⟨_ | _, mantissa', exponent', positive'⟩
  case finite.negative.finite.negative => exact compare_negative positive positive'
  case finite.positive.finite.positive => exact compare_positive positive positive'
  -- the signs and the kinds of the numbers decide
  all_goals
    simp [UnpackedFloat.compare, rankOf, Rank.of_lt_of, Rank.of_inj, compare] at *

/-! ### Comparisons of numbers -/

def rank (value : Float) : Rank := rankOf value.toModel.unpack

variable {left right : Float}

theorem isNaN_eq_false_iff : left.isNaN = false ↔ left.toModel.unpack ≠ .notANumber := by
  rw [ne_eq, ← UnpackedFloat.isNaN_iff, Bool.not_eq_true]
  rfl

theorem lt_iff (leftNumber : left.isNaN = false) (rightNumber : right.isNaN = false) :
    left < right ↔ rank left < rank right := by
  have compared := (compare_rank (isNaN_eq_false_iff.mp leftNumber)
    (isNaN_eq_false_iff.mp rightNumber)).1
  rw [rank, rank, ← compared]
  change decide (left.toModel.unpack.lt right.toModel.unpack = true) = true ↔ _
  rw [decide_eq_true_iff, UnpackedFloat.lt, beq_iff_eq]

theorem beq_iff (leftNumber : left.isNaN = false) (rightNumber : right.isNaN = false) :
    (left == right) = true ↔ rank left = rank right := by
  have compared := (compare_rank (isNaN_eq_false_iff.mp leftNumber)
    (isNaN_eq_false_iff.mp rightNumber)).2
  rw [rank, rank, ← compared]
  change left.toModel.unpack.beq right.toModel.unpack = true ↔ _
  rw [UnpackedFloat.beq, beq_iff_eq]

theorem isNaN_of_le (le : left ≤ right) : left.isNaN = false ∧ right.isNaN = false := by
  rw [isNaN_eq_false_iff, isNaN_eq_false_iff]
  change decide (left.toModel.unpack.le right.toModel.unpack = true) = true at le
  rw [decide_eq_true_iff, UnpackedFloat.le] at le
  constructor <;> intro noNumber
  · rw [noNumber] at le
    cases le
  · have incomparable : left.toModel.unpack.compare .notANumber = none := by
      cases left.toModel.unpack <;> rfl
    rw [noNumber, incomparable] at le
    cases le

theorem le_iff (leftNumber : left.isNaN = false) (rightNumber : right.isNaN = false) :
    left ≤ right ↔ rank left ≤ rank right := by
  have compared := compare_rank (isNaN_eq_false_iff.mp leftNumber)
    (isNaN_eq_false_iff.mp rightNumber)
  rw [rank, rank, le_iff_lt_or_eq, ← compared.1, ← compared.2]
  change decide (left.toModel.unpack.le right.toModel.unpack = true) = true ↔ _
  rw [decide_eq_true_iff, UnpackedFloat.le]
  cases left.toModel.unpack.compare right.toModel.unpack with
  | none => simp
  | some order => cases order <;> simp

theorem le_refl (number : left.isNaN = false) : left ≤ left := (le_iff number number).mpr le_rfl

theorem le_trans {middle : Float} (first : left ≤ middle) (second : middle ≤ right) :
    left ≤ right := by
  obtain ⟨leftNumber, middleNumber⟩ := isNaN_of_le first
  obtain ⟨_middleNumber, rightNumber⟩ := isNaN_of_le second
  rw [le_iff leftNumber middleNumber] at first
  rw [le_iff middleNumber rightNumber] at second
  exact (le_iff leftNumber rightNumber).mpr (first.trans second)

theorem not_lt_iff (leftNumber : left.isNaN = false) (rightNumber : right.isNaN = false) :
    ¬ left < right ↔ right ≤ left := by
  rw [lt_iff leftNumber rightNumber, le_iff rightNumber leftNumber, not_lt]

theorem beq_of_le_of_le (le : left ≤ right) (ge : right ≤ left) : (left == right) = true := by
  obtain ⟨leftNumber, rightNumber⟩ := isNaN_of_le le
  rw [le_iff leftNumber rightNumber] at le
  rw [le_iff rightNumber leftNumber] at ge
  exact (beq_iff leftNumber rightNumber).mpr (le_antisymm le ge)

private theorem isNaN_of_beq (same : (left == right) = true) :
    left.isNaN = false ∧ right.isNaN = false := by
  rw [isNaN_eq_false_iff, isNaN_eq_false_iff]
  change left.toModel.unpack.beq right.toModel.unpack = true at same
  rw [UnpackedFloat.beq, beq_iff_eq] at same
  constructor <;> intro noNumber
  · rw [noNumber] at same
    cases same
  · have incomparable : left.toModel.unpack.compare .notANumber = none := by
      cases left.toModel.unpack <;> rfl
    rw [noNumber, incomparable] at same
    cases same

theorem le_of_beq (same : (left == right) = true) : left ≤ right := by
  obtain ⟨leftNumber, rightNumber⟩ := isNaN_of_beq same
  exact (le_iff leftNumber rightNumber).mpr ((beq_iff leftNumber rightNumber).mp same).le

theorem ge_of_beq (same : (left == right) = true) : right ≤ left := by
  obtain ⟨leftNumber, rightNumber⟩ := isNaN_of_beq same
  exact (le_iff rightNumber leftNumber).mpr ((beq_iff leftNumber rightNumber).mp same).ge

theorem beq_self (number : left.isNaN = false) : (left == left) = true :=
  (beq_iff number number).mpr rfl

/-! ### The lesser and the greater of two numbers -/

theorem isNaN_eq (value : Float) : Scalar.isNaN value = value.isNaN := by
  cases noNumber : value.isNaN with
  | false => simp [Scalar.isNaN, beq_self noNumber]
  | true =>
      have unpacked : value.toModel.unpack = .notANumber := by
        by_contra number
        rw [isNaN_eq_false_iff.mpr number] at noNumber
        cases noNumber
      change (!value.toModel.unpack.beq value.toModel.unpack) = true
      rw [unpacked]
      rfl

/-- The value with the lesser key; the first one when the keys are equal. -/
def lesser {β κ : Type} [LinearOrder κ] (key : β → κ) (first second : β) : β :=
  if key second < key first then second else first

private theorem lesser_assoc {β κ : Type} [LinearOrder κ] (key : β → κ) (first second third : β) :
    lesser key (lesser key first second) third = lesser key first (lesser key second third) := by
  simp only [lesser]
  by_cases below : key second < key first <;> by_cases lowest : key third < key second
  · simp [below, lowest, lowest.trans below]
  · simp [below, lowest]
  · simp [below, lowest]
  · have above := not_lt.mpr ((not_lt.mp below).trans (not_lt.mp lowest))
    simp [below, lowest, above]

private theorem lesser_cases {β κ : Type} [LinearOrder κ] (key : β → κ) (first second : β) :
    lesser key first second = first ∧ key first ≤ key second ∨
      lesser key first second = second ∧ key second ≤ key first := by
  unfold lesser
  split
  case isTrue below => exact .inr ⟨rfl, below.le⟩
  case isFalse above => exact .inl ⟨rfl, not_lt.mp above⟩

private theorem min_eq (leftNumber : left.isNaN = false) (rightNumber : right.isNaN = false) :
    Scalar.min left right = lesser rank left right := by
  simp only [Scalar.min, isNaN_eq, leftNumber, if_neg Bool.false_ne_true, lesser,
    lt_iff rightNumber leftNumber]

private theorem max_eq (leftNumber : left.isNaN = false) (rightNumber : right.isNaN = false) :
    Scalar.max left right = lesser (OrderDual.toDual ∘ rank) left right := by
  simp only [Scalar.max, isNaN_eq, leftNumber, if_neg Bool.false_ne_true, lesser,
    lt_iff leftNumber rightNumber, Function.comp_apply, OrderDual.toDual_lt_toDual]

private theorem min_isNaN (leftNumber : left.isNaN = false) (rightNumber : right.isNaN = false) :
    (Scalar.min left right).isNaN = false := by
  rw [min_eq leftNumber rightNumber]
  rcases lesser_cases rank left right with ⟨same, _le⟩ | ⟨same, _le⟩ <;> rwa [same]

private theorem max_isNaN (leftNumber : left.isNaN = false) (rightNumber : right.isNaN = false) :
    (Scalar.max left right).isNaN = false := by
  rw [max_eq leftNumber rightNumber]
  rcases lesser_cases (OrderDual.toDual ∘ rank) left right with ⟨same, _le⟩ | ⟨same, _le⟩ <;>
    rwa [same]

section Assoc

variable {first second third : Float} (one : first.isNaN = false) (two : second.isNaN = false)
  (three : third.isNaN = false)

include one two three

/-- Of equal numbers the first is taken, so that the grouping of a minimum does not matter even
to the sign of a zero. -/
theorem min_assoc :
    Scalar.min (Scalar.min first second) third = Scalar.min first (Scalar.min second third) := by
  rw [min_eq (min_isNaN one two) three, min_eq one (min_isNaN two three), min_eq one two,
    min_eq two three, lesser_assoc]

theorem max_assoc :
    Scalar.max (Scalar.max first second) third = Scalar.max first (Scalar.max second third) := by
  rw [max_eq (max_isNaN one two) three, max_eq one (max_isNaN two three), max_eq one two,
    max_eq two three, lesser_assoc]

end Assoc

/-! ### Least and greatest numbers of sets -/

theorem isLeast_singleton (number : left.isNaN = false) : IsLeast {left} left := by
  refine ⟨rfl, ?_⟩
  rintro _ rfl
  exact le_refl number

theorem isGreatest_singleton (number : left.isNaN = false) : IsGreatest {left} left := by
  refine ⟨rfl, ?_⟩
  rintro _ rfl
  exact le_refl number

variable {values further : Set Float}

theorem isNaN_of_isLeast (least : IsLeast values left) : left.isNaN = false :=
  (isNaN_of_le (least.2 least.1)).1

theorem isNaN_of_isGreatest (greatest : IsGreatest values left) : left.isNaN = false :=
  (isNaN_of_le (greatest.2 greatest.1)).1

private theorem isLeast_union_left (one : IsLeast values left) (other : IsLeast further right)
    (le : left ≤ right) : IsLeast (values ∪ further) left := by
  refine ⟨.inl one.1, ?_⟩
  rintro value (inValues | inFurther)
  · exact one.2 inValues
  · exact le_trans le (other.2 inFurther)

private theorem isGreatest_union_left (one : IsGreatest values left)
    (other : IsGreatest further right)
    (ge : right ≤ left) : IsGreatest (values ∪ further) left := by
  refine ⟨.inl one.1, ?_⟩
  rintro value (inValues | inFurther)
  · exact one.2 inValues
  · exact le_trans (other.2 inFurther) ge

theorem isLeast_union (one : IsLeast values left) (other : IsLeast further right) :
    IsLeast (values ∪ further) (Scalar.min left right) := by
  have leftNumber := isNaN_of_isLeast one
  have rightNumber := isNaN_of_isLeast other
  rw [min_eq leftNumber rightNumber]
  rcases lesser_cases rank left right with ⟨same, le⟩ | ⟨same, le⟩ <;> rw [same]
  · exact isLeast_union_left one other ((le_iff leftNumber rightNumber).mpr le)
  · rw [Set.union_comm]
    exact isLeast_union_left other one ((le_iff rightNumber leftNumber).mpr le)

theorem isGreatest_union (one : IsGreatest values left) (other : IsGreatest further right) :
    IsGreatest (values ∪ further) (Scalar.max left right) := by
  have leftNumber := isNaN_of_isGreatest one
  have rightNumber := isNaN_of_isGreatest other
  rw [max_eq leftNumber rightNumber]
  rcases lesser_cases (OrderDual.toDual ∘ rank) left right with ⟨same, ge⟩ | ⟨same, ge⟩ <;>
    rw [same]
  · exact isGreatest_union_left one other ((le_iff rightNumber leftNumber).mpr ge)
  · rw [Set.union_comm]
    exact isGreatest_union_left other one ((le_iff leftNumber rightNumber).mpr ge)

theorem beq_of_isLeast (one : IsLeast values left) (other : IsLeast values right) :
    (left == right) = true :=
  beq_of_le_of_le (one.2 other.1) (other.2 one.1)

theorem beq_of_isGreatest (one : IsGreatest values left) (other : IsGreatest values right) :
    (left == right) = true :=
  beq_of_le_of_le (other.2 one.1) (one.2 other.1)

end CanvasChart.Binary64
