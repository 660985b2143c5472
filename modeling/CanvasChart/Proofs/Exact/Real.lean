import Mathlib.Analysis.SpecialFunctions.Complex.Arg
import Mathlib.Analysis.SpecialFunctions.Log.Base
import Mathlib.Analysis.SpecialFunctions.Pow.Real
import CanvasChart.Proofs.Exact.Scalar

set_option autoImplicit false

/-! Real numbers as the scalars of a canvas. Sums and products of numbers with infinities do not
distribute; those of real numbers do, so that affine maps compose. What the real numbers lack is
left open: the number that stands for infinity, and how numbers are printed. -/

namespace CanvasChart

/-- What real numbers leave open. -/
class RealConventions where
  infinity : ℝ
  shortest : ℝ → String
  fixed : Nat → ℝ → String

noncomputable instance [RealConventions] : Scalar ℝ where
  beq left right := decide (left = right)
  decidableLT := inferInstance
  decidableLE := inferInstance
  ofNat value := value
  infinity := RealConventions.infinity
  pi := Real.pi
  isFinite _ := true
  floor value := ⌊value⌋
  ceil value := ⌈value⌉
  round value := Exact.roundHalfAway value
  log10 := Real.logb (10 : ℕ)
  log2 := Real.logb (2 : ℕ)
  ln := Real.log
  pow base exponent := base ^ exponent
  sin := Real.sin
  cos := Real.cos
  atan2 y x := Complex.arg ⟨x, y⟩
  toCount value := min ⌊value⌋₊ Exact.greatestCount
  toExponent value :=
    max Exact.leastExponent (min (Exact.wholePart value) Exact.greatestExponent)
  shortest := RealConventions.shortest
  fixed := RealConventions.fixed

namespace Exact

variable [RealConventions]

theorem add_real (left right : ℝ) :
    @HAdd.hAdd ℝ ℝ ℝ (@instHAdd ℝ Scalar.toAdd) left right =
      @HAdd.hAdd ℝ ℝ ℝ (@instHAdd ℝ Real.instAdd) left right := rfl

theorem mul_real (left right : ℝ) :
    @HMul.hMul ℝ ℝ ℝ (@instHMul ℝ Scalar.toMul) left right =
      @HMul.hMul ℝ ℝ ℝ (@instHMul ℝ Real.instMul) left right := rfl

theorem literal_real (value : ℕ) :
    @OfNat.ofNat ℝ value (Scalar.instOfNat value) = (value : ℝ) := rfl

end Exact
end CanvasChart
