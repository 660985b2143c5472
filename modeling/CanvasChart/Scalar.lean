set_option autoImplicit false

/-! The numbers a chart is computed with. Every computation of the library is
written once over this class. `Binary64/Scalar.lean` supplies the machine
numbers; other number systems may be supplied to reason without rounding.

The class states operations only. It asks for no law, because machine numbers
keep few of the laws of real arithmetic. -/

namespace CanvasChart

/-- Arithmetic, comparison, rounding and the elementary functions of one number system. -/
class Scalar (α : Type) extends
    Add α, Sub α, Mul α, Div α, Neg α, LT α, LE α, BEq α, OfScientific α where
  decidableLT : DecidableLT α
  decidableLE : DecidableLE α
  ofNat : Nat → α
  infinity : α
  pi : α
  isFinite : α → Bool
  /-- The greatest integer that is not above the number. -/
  floor : α → α
  /-- The least integer that is not below the number. -/
  ceil : α → α
  /-- The nearest integer, a half going away from zero. -/
  round : α → α
  log10 : α → α
  log2 : α → α
  ln : α → α
  pow : α → α → α
  sin : α → α
  cos : α → α
  /-- The angle of the vector whose vertical part comes first. -/
  atan2 : α → α → α
  /-- The whole part as an unsigned 64-bit count: a bound for what lies outside, and
  zero for what is no number. -/
  toCount : α → Nat
  /-- The whole part as a signed 32-bit integer: a bound for what lies outside, and
  zero for what is no number. -/
  toExponent : α → Int
  /-- The shortest decimal text that reads back as the number, never with an exponent. -/
  shortest : α → String
  /-- The decimal text with the given number of places. -/
  fixed : Nat → α → String

namespace Scalar

variable {α : Type} [Scalar α]

instance (left right : α) : Decidable (left < right) := Scalar.decidableLT left right

instance (left right : α) : Decidable (left ≤ right) := Scalar.decidableLE left right

instance (priority := low) instOfNat (value : Nat) : OfNat α value := ⟨Scalar.ofNat value⟩

def isNaN (value : α) : Bool := !(value == value)

/-- The lesser of two numbers; a value that is no number gives way to the other. -/
def min (left right : α) : α :=
  if isNaN left then right else if right < left then right else left

/-- The greater of two numbers; a value that is no number gives way to the other. -/
def max (left right : α) : α :=
  if isNaN left then right else if left < right then right else left

def abs (value : α) : α := if value < 0 then -value else value

def ofInt : Int → α
  | .ofNat value => ofNat value
  | .negSucc value => -ofNat (value + 1)

def least (values : List α) : α := values.foldl min infinity

def greatest (values : List α) : α := values.foldl max (-infinity)

def sum (values : List α) : α := values.foldl (· + ·) 0

/-- Multiplies `product` by `base` to the `exponent`, squaring the base once per
binary digit. The fuel bounds the number of digits. -/
def powerStep : Nat → α → α → Nat → α
  | 0, product, _, _ => product
  | fuel + 1, product, base, exponent =>
      let next := if exponent % 2 = 1 then product * base else product
      if exponent / 2 = 0 then next else powerStep fuel next (base * base) (exponent / 2)

def powerNat (base : α) (exponent : Nat) : α := powerStep (exponent + 1) 1 base exponent

/-- A whole power; a negative exponent takes the reciprocal at the end. -/
def power (base : α) : Int → α
  | .ofNat exponent => powerNat base exponent
  | .negSucc exponent => 1 / powerNat base (exponent + 1)

end Scalar
end CanvasChart
