import CanvasChart.Scalar

set_option autoImplicit false

/-! Evenly spaced ticks at round distances. -/

namespace CanvasChart

variable {α : Type} [Scalar α]

def maxTicks : Nat := 100

/-- Absorbs rounding when whole intervals are counted. -/
def countingSlack : α := 1e-8

def wholeSteps (range step : α) : α := Scalar.floor (range / step + countingSlack)

namespace NiceTicks

/-- The exponent of ten below the order of magnitude of a range. -/
def exponent (range : α) : Int := Scalar.toExponent (Scalar.floor (Scalar.log10 range)) - 1

/-- The distances that are tried, from the smallest on. -/
def spacings (exponent : Int) : List α :=
  let unit : α := Scalar.power 10 exponent
  ([1, 2, 5, 10, 20, 50] : List α).map fun factor => factor * unit

/-- Removes the noise of binary fractions from an offset. -/
def clean (exponent : Int) (offset : α) : α :=
  if exponent < 0 then
    let scale : α := Scalar.power 10 (3 - exponent)
    Scalar.round (offset * scale) / scale
  else offset

/-- The spacing and the number of ticks: the least number from three on that one
of the spacings gives. -/
def choice? (range : α) : Option (Nat × α) :=
  let counts := (List.range (maxTicks - 2)).map (· + 3)
  counts.findSome? fun count =>
    ((spacings (exponent range)).find? fun spacing =>
      Scalar.toCount (wholeSteps range spacing) + 1 = count).map fun spacing => (count, spacing)

end NiceTicks

/-- Ticks from `least` on, at a distance of one, two or five times a power of ten.
An empty range has one tick. -/
def niceTicks (least greatest : α) : List α :=
  let range := greatest - least
  if !Scalar.isFinite range || decide (range ≤ 0) then [least]
  else
    match NiceTicks.choice? range with
    | some (count, spacing) =>
        (List.range count).map fun index =>
          least + NiceTicks.clean (NiceTicks.exponent range) (Scalar.ofNat index * spacing)
    | none => [least, greatest]

end CanvasChart
