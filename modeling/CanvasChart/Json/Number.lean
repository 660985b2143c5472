import CanvasChart.Decimal.Digits
import CanvasChart.Json.Value

set_option autoImplicit false

/-! The value of a JSON number literal.

A literal without point and exponent is a whole number when 64 bits hold it.
Any other literal is a binary64 number: its leading digits, as many as 64 bits
hold, are scaled by a power of ten. The scaling rounds once per step, and one
step scales by at most `10 ^ 308`. A literal that overflows has no value. -/

namespace CanvasChart.Json

structure Literal where
  negative : Bool
  whole : List Char
  fraction : Option (List Char)
  exponent : Option Int

def integerLimit : Nat := Nat.pow 2 64

/-- Takes whole digits while they fit. Those that do not fit are counted. -/
def takeWhole : Nat → List Char → Nat × Nat
  | significand, [] => (significand, 0)
  | significand, digit :: rest =>
      let next := significand * 10 + Decimal.digitValue digit
      if next < integerLimit then takeWhole next rest else (significand, rest.length + 1)

/-- Takes decimals while they fit and counts those taken. The others are dropped. -/
def takeFraction : Nat → List Char → Nat × Nat
  | significand, [] => (significand, 0)
  | significand, digit :: rest =>
      let next := significand * 10 + Decimal.digitValue digit
      if next < integerLimit then
        let (taken, count) := takeFraction next rest
        (taken, count + 1)
      else (significand, 0)

def powerOfTen (exponent : Nat) : Float := Float.ofScientific 1 false exponent

/-- The significand times a power of ten, or nothing when it overflows. -/
def scale (significand : Nat) (exponent : Int) : Option Float :=
  let start := Float.ofNat significand
  match exponent with
  | .ofNat up =>
      if significand = 0 then some start
      else if 308 < up then none
      else
        let scaled := start * powerOfTen up
        if scaled.isFinite then some scaled else none
  | .negSucc less =>
      let down := less + 1
      if down ≤ 308 then some (start / powerOfTen down)
      else if down ≤ 616 then some (start / powerOfTen 308 / powerOfTen (down - 308))
      else some 0

def withSign (negative : Bool) (value : Float) : Float := if negative then -value else value

/-- The value of a literal; negative zero is no whole number. -/
def Literal.value (literal : Literal) : Json :=
  let magnitude := Decimal.naturalOf literal.whole
  match literal.fraction, literal.exponent with
  | none, none =>
      if !literal.negative ∧ magnitude < integerLimit then .integer magnitude
      else if literal.negative ∧ 0 < magnitude ∧ magnitude ≤ Nat.pow 2 63 then .integer (-magnitude)
      else
        let (significand, dropped) := takeWhole 0 literal.whole
        match scale significand dropped with
        | some value => .real (withSign literal.negative value)
        | none => .unreadable
  | fraction, exponent =>
      let (start, dropped) := takeWhole 0 literal.whole
      let (significand, taken) := takeFraction start (fraction.getD [])
      match scale significand (exponent.getD 0 + dropped - taken) with
      | some value => .real (withSign literal.negative value)
      | none => .unreadable

end CanvasChart.Json
