set_option autoImplicit false

/-! Positional decimal text of `digits * 10 ^ exponent`. -/

namespace CanvasChart.Decimal

def digits (value : Nat) : List Char := Nat.toDigits 10 value

def digitCount (value : Nat) : Nat := (digits value).length

def digitValue (digit : Char) : Nat := digit.toNat - 48

def naturalOf (written : List Char) : Nat :=
  written.foldl (fun value digit => value * 10 + digitValue digit) 0

/-- Puts the decimal point `places` digits from the right, with at least one digit before it. -/
def placePoint (places value : Nat) : List Char :=
  let written := digits value
  let padded := List.replicate (places + 1 - written.length) '0' ++ written
  let whole := padded.length - places
  if places = 0 then padded else padded.take whole ++ '.' :: padded.drop whole

/-- Removes factors of ten, at most `fuel` of them. -/
def stripZeros : Nat → Nat → Nat × Nat
  | 0, value => (value, 0)
  | fuel + 1, value =>
      if value ≠ 0 ∧ value % 10 = 0 then
        let (stripped, count) := stripZeros fuel (value / 10)
        (stripped, count + 1)
      else (value, 0)

/-- The positional text of `value * 10 ^ exponent`, without superfluous zeros. -/
def positional (value : Nat) : Int → List Char
  | .ofNat zeros => digits value ++ List.replicate (if value = 0 then 0 else zeros) '0'
  | .negSucc places =>
      let (stripped, count) := stripZeros (places + 1) value
      placePoint (places + 1 - count) stripped

end CanvasChart.Decimal
