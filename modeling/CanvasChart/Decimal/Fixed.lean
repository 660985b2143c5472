import CanvasChart.Binary64.Parts
import CanvasChart.Decimal.Digits

set_option autoImplicit false

/-! Decimal text with a fixed number of places. -/

namespace CanvasChart.Decimal

/-- The quotient rounded to the nearest whole number, a half going to the even neighbour. -/
def roundHalfEven (numerator denominator : Nat) : Nat :=
  let quotient := numerator / denominator
  let remainder := numerator % denominator
  if 2 * remainder < denominator then quotient
  else if denominator < 2 * remainder then quotient + 1
  else if quotient % 2 = 0 then quotient else quotient + 1

/-- The exact value of a binary64 number rounded to `places` decimals. The sign
is written even when every digit is zero. -/
def fixedText (places : Nat) (value : Float) : String :=
  match Binary64.parts value with
  | .notANumber => "NaN"
  | .infinite negative => if negative then "-inf" else "inf"
  | .finite negative mantissa exponent =>
      let scaled :=
        roundHalfEven (mantissa * Nat.pow 2 exponent.toNat * Nat.pow 10 places)
          (Nat.pow 2 (-exponent).toNat)
      let body := placePoint places scaled
      String.ofList (if negative then '-' :: body else body)

end CanvasChart.Decimal
