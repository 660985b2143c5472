import CanvasChart.Decimal.Fixed
import CanvasChart.Decimal.Shortest
import CanvasChart.Scalar

set_option autoImplicit false

/-! Binary64 numbers as the scalars of a chart. The four operations, comparison
and rounding have a meaning in the logic; the elementary functions are those of
the machine. -/

namespace CanvasChart

instance : Scalar Float where
  decidableLT := inferInstance
  decidableLE := inferInstance
  ofNat := Float.ofNat
  infinity := Float.ofBits 0x7ff0000000000000
  pi := 3.141592653589793
  isFinite := Float.isFinite
  floor := Binary64.roundWith .down
  ceil := Binary64.roundWith .up
  round := Binary64.roundWith .halfAway
  log10 := Float.log10
  log2 := Float.log2
  ln := Float.log
  pow := Float.pow
  sin := Float.sin
  cos := Float.cos
  atan2 := Float.atan2
  toCount := Binary64.toCount
  toExponent := Binary64.toExponent
  shortest := Decimal.shortestText
  fixed := Decimal.fixedText

end CanvasChart
