import CanvasChart.Json.Number

set_option autoImplicit false

/-! The tokens of JSON text. -/

namespace CanvasChart.Json

inductive Token where
  | openArray
  | closeArray
  | openObject
  | closeObject
  | comma
  | colon
  | scalar (value : Json)
  /-- A string; nothing when it holds half a surrogate pair. -/
  | text (content : Option String)

/-- One written character of a string: itself, or a UTF-16 unit written in hexadecimal. -/
inductive Piece where
  | char (value : Char)
  | unit (value : Nat)

def isHighSurrogate (unit : Nat) : Bool := 0xd800 ≤ unit && unit < 0xdc00

def isLowSurrogate (unit : Nat) : Bool := 0xdc00 ≤ unit && unit < 0xe000

/-- Joins surrogate pairs. A surrogate without its partner stands for no character. -/
def joinPieces : List Piece → Option (List Char)
  | [] => some []
  | .char value :: rest => (joinPieces rest).map (value :: ·)
  | .unit high :: rest =>
      if isHighSurrogate high then
        match rest with
        | .unit low :: after =>
            if isLowSurrogate low then
              (joinPieces after).map
                (Char.ofNat (0x10000 + (high - 0xd800) * 0x400 + (low - 0xdc00)) :: ·)
            else none
        | _ => none
      else if isLowSurrogate high then none
      else (joinPieces rest).map (Char.ofNat high :: ·)

def hexValue? (digit : Char) : Option Nat :=
  if '0' ≤ digit ∧ digit ≤ '9' then some (digit.toNat - 48)
  else if 'a' ≤ digit ∧ digit ≤ 'f' then some (digit.toNat - 87)
  else if 'A' ≤ digit ∧ digit ≤ 'F' then some (digit.toNat - 55)
  else none

def hexUnit? (digits : List Char) : Option Nat :=
  digits.foldl (fun value digit => do return (← value) * 16 + (← hexValue? digit)) (some 0)

def escaped? : Char → Option Char
  | '\x22' => some '\x22'
  | '\\' => some '\\'
  | '/' => some '/'
  | 'b' => some '\x08'
  | 'f' => some '\x0c'
  | 'n' => some '\n'
  | 'r' => some '\r'
  | 't' => some '\t'
  | _ => none

/-- The pieces of a string after its opening quote, and what follows its closing quote. -/
def scanText : List Char → Option (List Piece × List Char)
  | [] => none
  | '\x22' :: rest => some ([], rest)
  | '\\' :: 'u' :: first :: second :: third :: fourth :: rest => do
      let unit ← hexUnit? [first, second, third, fourth]
      let (pieces, after) ← scanText rest
      return (.unit unit :: pieces, after)
  | '\\' :: letter :: rest => do
      let value ← escaped? letter
      let (pieces, after) ← scanText rest
      return (.char value :: pieces, after)
  | value :: rest =>
      if value < ' ' then none
      else do
        let (pieces, after) ← scanText rest
        return (.char value :: pieces, after)

def spanDigits (text : List Char) : List Char × List Char := text.span Char.isDigit

def scanFraction : List Char → Option (Option (List Char) × List Char)
  | '.' :: rest =>
      match spanDigits rest with
      | ([], _) => none
      | (digits, after) => some (some digits, after)
  | text => some (none, text)

def scanExponentDigits (negative : Bool) (text : List Char) :
    Option (Option Int × List Char) :=
  match spanDigits text with
  | ([], _) => none
  | (digits, after) =>
      let magnitude : Int := Decimal.naturalOf digits
      some (some (if negative then -magnitude else magnitude), after)

def scanExponent : List Char → Option (Option Int × List Char)
  | letter :: rest =>
      if letter = 'e' ∨ letter = 'E' then
        match rest with
        | '+' :: digits => scanExponentDigits false digits
        | '-' :: digits => scanExponentDigits true digits
        | digits => scanExponentDigits false digits
      else some (none, letter :: rest)
  | [] => some (none, [])

/-- A number without its sign. A leading zero stands alone before the point. -/
def scanNumber (negative : Bool) (text : List Char) : Option (Json × List Char) := do
  let (whole, rest) ←
    match text with
    | '0' :: rest => some (['0'], rest)
    | _ => if (spanDigits text).1 = [] then none else some (spanDigits text)
  let (fraction, rest) ← scanFraction rest
  let (exponent, rest) ← scanExponent rest
  return (({ negative, whole, fraction, exponent } : Literal).value, rest)

def isBlank (value : Char) : Bool :=
  value = ' ' || value = '\n' || value = '\t' || value = '\r'

def scanToken : List Char → Option (Token × List Char)
  | '[' :: rest => some (.openArray, rest)
  | ']' :: rest => some (.closeArray, rest)
  | '\x7b' :: rest => some (.openObject, rest)
  | '\x7d' :: rest => some (.closeObject, rest)
  | ',' :: rest => some (.comma, rest)
  | ':' :: rest => some (.colon, rest)
  | '\x22' :: rest => do
      let (pieces, after) ← scanText rest
      return (.text ((joinPieces pieces).map String.ofList), after)
  | 'n' :: 'u' :: 'l' :: 'l' :: rest => some (.scalar .null, rest)
  | 't' :: 'r' :: 'u' :: 'e' :: rest => some (.scalar (.bool true), rest)
  | 'f' :: 'a' :: 'l' :: 's' :: 'e' :: rest => some (.scalar (.bool false), rest)
  | '-' :: rest => (scanNumber true rest).map fun (value, after) => (.scalar value, after)
  | text => (scanNumber false text).map fun (value, after) => (.scalar value, after)

/-- The tokens of a text. Every token takes at least one character, so the
length of the text is fuel enough. -/
def tokensFrom : Nat → List Char → Option (List Token)
  | _, [] => some []
  | 0, _ => none
  | fuel + 1, value :: rest =>
      if isBlank value then tokensFrom fuel rest
      else do
        let (token, after) ← scanToken (value :: rest)
        let later ← tokensFrom fuel after
        return token :: later

def tokens? (text : String) : Option (List Token) :=
  tokensFrom text.length text.toList

end CanvasChart.Json
