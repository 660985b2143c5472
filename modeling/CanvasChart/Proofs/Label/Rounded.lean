import CanvasChart.Proofs.Decimal.RoundTrip
import CanvasChart.Proofs.Plot.KeyTotals

set_option autoImplicit false

/-! The number that a label shows. A number is multiplied, rounded to a whole one and divided, and
each of the three results is rounded to the binary format. -/

namespace CanvasChart.LabelFormat

open Binary64

variable {number other : ℚ} {value : Float}

/-! ### Rounding to ten places -/

/-- What rounding to ten places makes of a number. -/
def throughTenPlaces (number : ℚ) : ℚ :=
  nearest (awayFromZero (nearest (number * 10 ^ 10)) / 10 ^ 10)

theorem throughTenPlaces_mono (le : number ≤ other) :
    throughTenPlaces number ≤ throughTenPlaces other := by
  refine nearest_mono (div_le_div_of_nonneg_right ?_ (by norm_num))
  exact_mod_cast awayFromZero_mono (nearest_mono (mul_le_mul_of_nonneg_right le (by norm_num)))

theorem toRat_tenBillion : (10000000000 : Float).isFinite = true ∧ toRat 10000000000 = 10 ^ 10 := by
  obtain ⟨finite, value⟩ := toRat_ofNat (by norm_num : 10000000000 ≤ 2 ^ 53)
  exact ⟨finite, value.trans (by norm_num)⟩

theorem toRat_tenPlaces (finite : value.isFinite = true)
    (small : |nearest (toRat value * 10 ^ 10)| < overflowBound) :
    (tenPlaces value).isFinite = true ∧
      toRat (tenPlaces value) = throughTenPlaces (toRat value) := by
  obtain ⟨tenFinite, ten⟩ := toRat_tenBillion
  have product := mul_rounds finite tenFinite
  rw [ten] at product
  obtain ⟨roundedFinite, rounded⟩ := toRat_round (product.isFinite_iff.mpr small)
  rw [product.toRat_eq small] at rounded
  have nonzero : toRat 10000000000 ≠ 0 := by
    rw [ten]
    norm_num
  have quotient := div_rounds roundedFinite tenFinite nonzero
  rw [rounded, ten] at quotient
  have representable := (representable_toRat (Scalar.round (value * 10000000000))).abs
  have bounded := abs_toRat_lt roundedFinite
  rw [rounded] at representable bounded
  refine quotient.of_abs_le representable bounded ?_
  rw [abs_div]
  exact div_le_self (abs_nonneg _) (by norm_num)

theorem tenPlaces_overflow (finite : value.isFinite = true)
    (large : overflowBound ≤ nearest (toRat value * 10 ^ 10)) :
    plainText value = "inf" := by
  obtain ⟨tenFinite, ten⟩ := toRat_tenBillion
  have product := mul_rounds finite tenFinite
  rw [ten] at product
  change Decimal.shortestText (if Scalar.round (value * 10000000000) / 10000000000 == 0 then 0
    else Scalar.round (value * 10000000000) / 10000000000) = _
  rw [product.overflow large]
  rfl

/-! ### The text -/

theorem plainText_of_nonzero (nonzero : toRat (tenPlaces value) ≠ 0) :
    plainText value = Decimal.shortestText (tenPlaces value) := by
  have different : (tenPlaces value == 0) = false := by
    rw [Bool.eq_false_iff]
    exact fun zero => nonzero (toRat_eq_of_beq zero)
  change Decimal.shortestText (if tenPlaces value == 0 then 0 else tenPlaces value) = _
  rw [different, if_neg Bool.false_ne_true]

end CanvasChart.LabelFormat
