import CanvasChart.Decimal.Digits
import CanvasChart.Scalar

set_option autoImplicit false

/-! Reading decimal numbers. A numeral has an optional sign, digits with an
optional point among them or at either end, and an optional exponent. The words
for infinity and for no number are read in any case of letters. -/

namespace CanvasChart.Decimal

def splitSign : List Char → Bool × List Char
  | '-' :: rest => (true, rest)
  | '+' :: rest => (false, rest)
  | text => (false, text)

/-- The exponent that a text writes; the empty text writes zero. -/
def exponent? : List Char → Option Int
  | [] => some 0
  | letter :: rest =>
      if letter = 'e' ∨ letter = 'E' then
        let (negative, digits) := splitSign rest
        if digits ≠ [] ∧ digits.all Char.isDigit then
          let magnitude : Int := naturalOf digits
          some (if negative then -magnitude else magnitude)
        else none
      else none

def unsigned? (text : List Char) : Option (Nat × Int) := do
  let (whole, rest) := text.span Char.isDigit
  let (fraction, rest) :=
    match rest with
    | '.' :: rest => rest.span Char.isDigit
    | rest => ([], rest)
  if whole = [] ∧ fraction = [] then none
  else do
    let exponent ← exponent? rest
    return (naturalOf (whole ++ fraction), exponent - fraction.length)

variable {α : Type} [Scalar α]

def scaled (digits : Nat) : Int → α
  | .ofNat exponent => OfScientific.ofScientific digits false exponent
  | .negSucc exponent => OfScientific.ofScientific digits true (exponent + 1)

def word? (text : List Char) : Option α :=
  let lower := String.ofList (text.map Char.toLower)
  if lower = "inf" ∨ lower = "infinity" then some Scalar.infinity
  else if lower = "nan" then some (Scalar.infinity - Scalar.infinity)
  else none

def number? (text : List Char) : Option α :=
  let (negative, body) := splitSign text
  let numeral := (unsigned? body).map fun (digits, exponent) => scaled digits exponent
  let magnitude := numeral <|> word? body
  magnitude.map fun value => if negative then -value else value

end CanvasChart.Decimal
