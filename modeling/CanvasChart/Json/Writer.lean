import CanvasChart.Decimal.Shortest
import CanvasChart.Json.Value

set_option autoImplicit false

/-! Compact JSON text. Members of an object are written in the order of their
names, and of several members with one name the last is written. -/

namespace CanvasChart.Json

/-- The digits of a number with the point after the first one, and its exponent. -/
def scientific (digits : List Char) (exponent : Int) : List Char :=
  let fraction := digits.drop 1
  let mark := if exponent < 0 then ['e', '-'] else ['e', '+']
  digits.take 1 ++ (if fraction = [] then [] else '.' :: fraction) ++ mark ++
    Decimal.digits exponent.natAbs

/-- The shortest text of a number: positional from `10 ^ -5` to below `10 ^ 16`,
with a point always, and scientific elsewhere. A tie goes to the even neighbour. -/
def realText (value : Float) : String :=
  match Binary64.parts value with
  | .notANumber | .infinite _ => "null"
  | .finite negative mantissa exponent =>
      let (found, place) :=
        if mantissa = 0 then (0, 0)
        else (Decimal.Neighbourhood.ofBinary64 mantissa exponent).shortest .toEven
      let (significand, zeros) := Decimal.stripZeros 20 found
      let written := Decimal.digits significand
      let leading := place + zeros + written.length - 1
      let body :=
        if mantissa = 0 then ['0', '.', '0']
        else if leading < -5 ∨ 15 < leading then scientific written leading
        else
          let positional := Decimal.positional found place
          if '.' ∈ positional then positional else positional ++ ['.', '0']
      String.ofList (if negative then '-' :: body else body)

def hexDigit (value : Nat) : Char := Nat.digitChar value

def escape : Char → List Char
  | '\x22' => ['\\', '\x22']
  | '\\' => ['\\', '\\']
  | '\x08' => ['\\', 'b']
  | '\x0c' => ['\\', 'f']
  | '\n' => ['\\', 'n']
  | '\r' => ['\\', 'r']
  | '\t' => ['\\', 't']
  | value =>
      if value < ' ' then
        ['\\', 'u', '0', '0', hexDigit (value.toNat / 16), hexDigit (value.toNat % 16)]
      else [value]

/-- A string in quotes. Only quotes, backslashes and control characters are escaped. -/
def quoted (text : String) : String :=
  String.ofList ('\x22' :: text.toList.flatMap escape ++ ['\x22'])

mutual

def text : Json → String
  | .null => "null"
  | .bool value => if value then "true" else "false"
  | .integer value => toString value
  | .real value => realText value
  | .string value => quoted value
  | .array items => "[" ++ ",".intercalate (itemTexts items) ++ "]"
  | .object members =>
      let written := (memberTexts members).foldl
        (fun held entry => held.filter (fun other => other.1 != entry.1) ++ [entry]) []
      let ordered := written.mergeSort fun left right => left.1 ≤ right.1
      let body := ordered.map fun entry => quoted entry.1 ++ ":" ++ entry.2
      "\x7b" ++ ",".intercalate body ++ "\x7d"
  | .unreadable => "null"

def itemTexts : List Json → List String
  | [] => []
  | item :: rest => text item :: itemTexts rest

def memberTexts : List (String × Json) → List (String × String)
  | [] => []
  | (name, value) :: rest => (name, text value) :: memberTexts rest

end

end CanvasChart.Json
