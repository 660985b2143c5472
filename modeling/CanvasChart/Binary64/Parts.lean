set_option autoImplicit false

/-! The sign, mantissa and exponent of a binary64 number, and the whole numbers
next to it, computed on those parts in exact integer arithmetic. -/

namespace CanvasChart.Binary64

/-- A binary64 value taken apart. A finite value is `± mantissa * 2 ^ exponent`. -/
inductive Parts where
  | notANumber
  | infinite (negative : Bool)
  | finite (negative : Bool) (mantissa : Nat) (exponent : Int)
  deriving DecidableEq, Repr

def isNegative : Float.Model.UnpackedFloat.Sign → Bool
  | .negative => true
  | .positive => false

def parts (value : Float) : Parts :=
  match value.toModel.unpack with
  | .notANumber => .notANumber
  | .infinity sign => .infinite (isNegative sign)
  | .zero sign => .finite (isNegative sign) 0 0
  | .finite sign mantissa exponent _ => .finite (isNegative sign) mantissa exponent

/-- Which neighbouring whole number stands for a magnitude with whole part
`quotient` and fraction `remainder / divisor`. -/
abbrev Rounding := (negative : Bool) → (quotient remainder divisor : Nat) → Nat

def Rounding.down : Rounding := fun negative quotient remainder _ =>
  if negative ∧ 0 < remainder then quotient + 1 else quotient

def Rounding.up : Rounding := fun negative quotient remainder _ =>
  if !negative ∧ 0 < remainder then quotient + 1 else quotient

def Rounding.halfAway : Rounding := fun _ quotient remainder divisor =>
  if divisor ≤ 2 * remainder then quotient + 1 else quotient

/-- Replaces a number by a neighbouring whole number. The sign is kept, so a
small negative number becomes negative zero. -/
def roundWith (rounding : Rounding) (value : Float) : Float :=
  match parts value with
  | .finite negative mantissa (.negSucc places) =>
      let divisor := Nat.pow 2 (places + 1)
      let magnitude :=
        Float.ofNat (rounding negative (mantissa / divisor) (mantissa % divisor) divisor)
      if negative then -magnitude else magnitude
  | _ => value

def wholePart (mantissa : Nat) : Int → Nat
  | .ofNat shift => mantissa * Nat.pow 2 shift
  | .negSucc places => mantissa / Nat.pow 2 (places + 1)

def greatestCount : Nat := UInt64.size - 1

/-- The whole part as an unsigned 64-bit integer, kept within its bounds. -/
def toCount (value : Float) : Nat :=
  match parts value with
  | .notANumber => 0
  | .infinite negative => if negative then 0 else greatestCount
  | .finite negative mantissa exponent =>
      if negative then 0 else Nat.min (wholePart mantissa exponent) greatestCount

def leastExponent : Int := -Nat.pow 2 31

def greatestExponent : Int := Nat.pow 2 31 - 1

/-- The whole part as a signed 32-bit integer, kept within its bounds. -/
def toExponent (value : Float) : Int :=
  match parts value with
  | .notANumber => 0
  | .infinite negative => if negative then leastExponent else greatestExponent
  | .finite negative mantissa exponent =>
      let magnitude : Int := wholePart mantissa exponent
      if negative then max (-magnitude) leastExponent else min magnitude greatestExponent

end CanvasChart.Binary64
