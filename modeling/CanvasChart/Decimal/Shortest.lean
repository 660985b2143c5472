import CanvasChart.Binary64.Parts
import CanvasChart.Decimal.Digits

set_option autoImplicit false

/-! The shortest decimal number that reads back as a given binary64 number.

A decimal reads back as `mantissa * 2 ^ exponent` when it lies in the interval of
reals that round to it. The interval ends halfway to the neighbouring binary64
numbers, and its ends belong to it exactly when the mantissa is even. For one,
two, … digits the two grid points around the number are tried; the first grid
with a hit is taken, and of two hits the nearer one. A format decides which one
to take where both are equally near. -/

namespace CanvasChart.Decimal

/-- Whether a number halfway between `lower` and the next grid point goes up. -/
abbrev TieRule := (lower : Nat) → Bool

def TieRule.upward : TieRule := fun _ => true

def TieRule.toEven : TieRule := fun lower => lower % 2 == 1

/-- A positive number and the interval of reals that round to it, over one denominator. -/
structure Neighbourhood where
  low : Nat
  value : Nat
  high : Nat
  denominator : Nat
  closed : Bool

/-- The neighbourhood of a positive binary64 number. The lower half gap shrinks
to a quarter where the exponent changes. -/
def Neighbourhood.ofBinary64 (mantissa : Nat) (exponent : Int) : Neighbourhood :=
  let lowerGap := if mantissa = Nat.pow 2 52 ∧ -1074 < exponent then 1 else 2
  let scale := Nat.pow 2 exponent.toNat
  { low := (4 * mantissa - lowerGap) * scale
    value := 4 * mantissa * scale
    high := (4 * mantissa + 2) * scale
    denominator := 4 * Nat.pow 2 (-exponent).toNat
    closed := mantissa % 2 = 0 }

/-- The exponent of the greatest power of ten that is not above the number. -/
def Neighbourhood.magnitude (near : Neighbourhood) : Int :=
  let estimate : Int := digitCount near.value - digitCount near.denominator
  let unit := near.denominator * Nat.pow 10 estimate.toNat
  if unit ≤ near.value * Nat.pow 10 (-estimate).toNat then estimate else estimate - 1

/-- The multiple of `10 ^ exponent` that stands for the number, when one of the
two neighbouring multiples lies in the interval. -/
def Neighbourhood.onGrid? (near : Neighbourhood) (ties : TieRule) (exponent : Int) :
    Option Nat :=
  let up := Nat.pow 10 (-exponent).toNat
  let unit := near.denominator * Nat.pow 10 exponent.toNat
  let lower := near.value * up / unit
  let remainder := near.value * up % unit
  let hitsLower :=
    if near.closed then near.low * up ≤ lower * unit else near.low * up < lower * unit
  let hitsUpper :=
    if near.closed then (lower + 1) * unit ≤ near.high * up
    else (lower + 1) * unit < near.high * up
  let upperIsBetter := unit < 2 * remainder ∨ unit = 2 * remainder ∧ ties lower
  if hitsUpper ∧ (¬ hitsLower ∨ upperIsBetter) then some (lower + 1)
  else if hitsLower then some lower
  else none

/-- The shortest decimal `digits * 10 ^ exponent` in the interval. Seventeen
digits always suffice. -/
def Neighbourhood.shortest (near : Neighbourhood) (ties : TieRule) : Nat × Int :=
  let start := near.magnitude
  let grids := (List.range 17).map fun (index : Nat) => start - (index : Int)
  let hit := grids.findSome? fun exponent =>
    (near.onGrid? ties exponent).map fun found => (found, exponent)
  hit.getD (0, 0)

/-- The shortest text of a binary64 number that reads back as it, in positional
notation. A tie goes up. -/
def shortestText (value : Float) : String :=
  match Binary64.parts value with
  | .notANumber => "NaN"
  | .infinite negative => if negative then "-inf" else "inf"
  | .finite negative mantissa exponent =>
      let body :=
        if mantissa = 0 then ['0']
        else
          let (found, place) := (Neighbourhood.ofBinary64 mantissa exponent).shortest .upward
          positional found place
      String.ofList (if negative then '-' :: body else body)

end CanvasChart.Decimal
