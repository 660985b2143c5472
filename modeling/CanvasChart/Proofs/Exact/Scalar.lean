import Mathlib.Analysis.SpecialFunctions.Complex.Arg
import Mathlib.Analysis.SpecialFunctions.Log.Base
import Mathlib.Analysis.SpecialFunctions.Pow.Real
import Mathlib.Data.EReal.Inv
import CanvasChart.Scalar

set_option autoImplicit false

/-! Exact numbers as the scalars of a chart: the real numbers with both infinities, without
rounding and without a value that is no number. How numbers are printed is left open. -/

namespace CanvasChart

class NumberTexts where
  shortest : EReal → String
  fixed : Nat → EReal → String

namespace Exact

/-- Whole numbers printed by their digits, and nothing for other numbers. -/
@[reducible] noncomputable def wholeTexts : NumberTexts :=
  open Classical in
  let text (value : EReal) : String :=
    if whole : ∃ digits : ℕ, value = digits then toString whole.choose else ""
  ⟨text, fun _places => text⟩

/-- A real function with its values at the infinities. -/
noncomputable def extend (atBottom : EReal) (onReals : ℝ → EReal) (atTop : EReal)
    (value : EReal) : EReal :=
  EReal.rec atBottom onReals atTop value

/-- A real function of finite numbers, zero elsewhere. -/
noncomputable def onReals (function : ℝ → ℝ) : EReal → EReal :=
  extend 0 (fun value => function value) 0

/-- A logarithm; it has no value at negative numbers and is zero there. -/
noncomputable def logarithm (base : ℝ) : EReal → EReal :=
  extend 0 (fun value => if value = 0 then ⊥ else if value < 0 then 0 else Real.logb base value) ⊤

/-- Division; a number over zero is infinite, and zero over zero is zero. -/
noncomputable def quotient (left right : EReal) : EReal :=
  if right = 0 then if 0 < left then ⊤ else if left < 0 then ⊥ else 0 else left / right

noncomputable def roundHalfAway (value : ℝ) : ℤ :=
  if 0 ≤ value then ⌊value + 1 / 2⌋ else ⌈value - 1 / 2⌉

noncomputable def wholePart (value : ℝ) : ℤ := if 0 ≤ value then ⌊value⌋ else ⌈value⌉

def greatestCount : ℕ := 2 ^ 64 - 1

def leastExponent : ℤ := -2 ^ 31

def greatestExponent : ℤ := 2 ^ 31 - 1

noncomputable def toCount (value : EReal) : ℕ :=
  EReal.rec 0 (fun finite => min ⌊finite⌋₊ greatestCount) greatestCount value

noncomputable def toExponent (value : EReal) : ℤ :=
  EReal.rec leastExponent
    (fun finite => max leastExponent (min (wholePart finite) greatestExponent))
    greatestExponent value

end Exact

open Exact in
noncomputable instance [NumberTexts] : Scalar EReal where
  div := quotient
  beq left right := decide (left = right)
  ofScientific mantissa negative exponent :=
    ((OfScientific.ofScientific mantissa negative exponent : ℝ) : EReal)
  decidableLT := inferInstance
  decidableLE := inferInstance
  ofNat value := value
  infinity := ⊤
  pi := (Real.pi : ℝ)
  isFinite value := decide (value ≠ ⊤ ∧ value ≠ ⊥)
  floor := extend ⊥ (fun value => ((⌊value⌋ : ℝ) : EReal)) ⊤
  ceil := extend ⊥ (fun value => ((⌈value⌉ : ℝ) : EReal)) ⊤
  round := extend ⊥ (fun value => ((roundHalfAway value : ℝ) : EReal)) ⊤
  log10 := logarithm 10
  log2 := logarithm 2
  ln := logarithm (Real.exp 1)
  pow base exponent := onReals (fun power => base.toReal ^ power) exponent
  sin := onReals Real.sin
  cos := onReals Real.cos
  atan2 y x := ((Complex.arg ⟨x.toReal, y.toReal⟩ : ℝ) : EReal)
  toCount := toCount
  toExponent := toExponent
  shortest := NumberTexts.shortest
  fixed := NumberTexts.fixed

namespace Exact

variable [NumberTexts]

@[simp] theorem ofNat_eq (value : ℕ) : (Scalar.ofNat value : EReal) = value := rfl

@[simp] theorem literal_eq (value : ℕ) :
    @OfNat.ofNat EReal value (Scalar.instOfNat value) = (value : EReal) := rfl

@[simp] theorem isNaN_eq (value : EReal) : Scalar.isNaN value = false := by
  simp [Scalar.isNaN, BEq.beq]

theorem div_eq (left : EReal) {right : EReal} (nonzero : right ≠ 0) :
    @HDiv.hDiv EReal EReal EReal (@instHDiv EReal Scalar.toDiv) left right = left * right⁻¹ :=
  (if_neg nonzero).trans (div_eq_mul_inv left right)

theorem max_eq (left right : EReal) : Scalar.max left right = max left right := by
  rw [Scalar.max, isNaN_eq, max_def_lt]
  rfl

theorem min_eq (left right : EReal) : Scalar.min left right = min left right := by
  rw [Scalar.min, isNaN_eq, min_comm, min_def_lt]
  rfl

def Finite (value : EReal) : Prop := value ≠ ⊤ ∧ value ≠ ⊥

theorem isFinite_iff {value : EReal} : Scalar.isFinite value = true ↔ Finite value :=
  decide_eq_true_iff

omit [NumberTexts] in
theorem Finite.exists_real {value : EReal} (finite : Finite value) :
    ∃ number : ℝ, value = number :=
  ⟨value.toReal, (EReal.coe_toReal finite.1 finite.2).symm⟩

omit [NumberTexts] in
theorem finite_coe (value : ℝ) : Finite value := ⟨EReal.coe_ne_top value, EReal.coe_ne_bot value⟩

omit [NumberTexts] in
theorem finite_natCast (value : ℕ) : Finite value :=
  ⟨EReal.natCast_ne_top value, EReal.natCast_ne_bot value⟩

theorem Finite.add {first second : EReal} (one : Finite first) (other : Finite second) :
    Finite (first + second) := by
  obtain ⟨left, rfl⟩ := one.exists_real
  obtain ⟨right, rfl⟩ := other.exists_real
  exact ⟨EReal.coe_ne_top (left + right), EReal.coe_ne_bot (left + right)⟩

theorem sum_eq (values : List EReal) : Scalar.sum values = values.sum := by
  rw [Scalar.sum, List.sum_eq_foldl, literal_eq, Nat.cast_zero]

theorem Finite.sum {values : List EReal} (finite : ∀ value ∈ values, Finite value) :
    Finite values.sum := by
  induction values with
  | nil => exact ⟨EReal.zero_ne_top, EReal.zero_ne_bot⟩
  | cons value rest ih =>
      rw [List.forall_mem_cons] at finite
      exact finite.1.add (ih finite.2)

theorem finite_of_between {low high : ℝ} {value : EReal} (above : (low : EReal) ≤ value)
    (below : value ≤ high) : Finite value :=
  ⟨ne_top_of_le_ne_top (EReal.coe_ne_top high) below,
    ne_bot_of_le_ne_bot (EReal.coe_ne_bot low) above⟩

theorem sub_le {value taken : EReal} (positive : 0 ≤ taken) : value - taken ≤ value := by
  rw [sub_eq_add_neg]
  exact add_le_of_nonpos_right (EReal.neg_le_zero.mpr positive)

end Exact
end CanvasChart
