import CanvasChart.Side
import CanvasChart.Text.LowerCase

set_option autoImplicit false

/-! Flat option keys. A key such as `xAxisTicks` names a section and, with its
first letter lowered, an option of that section. -/

namespace CanvasChart

inductive OptionTarget where
  | chart
  | legend
  | axis (side : Side)
  deriving DecidableEq, Repr

structure FlatKey where
  target : OptionTarget
  option : String
  deriving DecidableEq, Repr

namespace FlatKey

/-- The beginnings of keys that address a section, in the order in which they are tried. -/
def sections : List (String × OptionTarget) :=
  [ ("legend", .legend),
    ("xAxis", .axis .bottom),
    ("yAxis", .axis .left),
    ("bottomAxis", .axis .bottom),
    ("topAxis", .axis .top),
    ("leftAxis", .axis .left),
    ("rightAxis", .axis .right) ]

def lowerFirst : List Char → List Char
  | [] => []
  | first :: rest => Text.toLower first ++ rest

def restAfter? : (start name : List Char) → Option (List Char)
  | [], [] => none
  | [], rest => some rest
  | _ :: _, [] => none
  | expected :: start, given :: name => if expected = given then restAfter? start name else none

/-- Splits a key. A key with no section in front, or with nothing after it,
names an option of the chart. -/
def parse (name : String) : FlatKey :=
  let letters := name.toList
  let addressed := sections.findSome? fun (start, target) =>
    (restAfter? start.toList letters).map fun rest => (target, rest)
  match addressed with
  | some (target, rest) => ⟨target, String.ofList (lowerFirst rest)⟩
  | none => ⟨.chart, String.ofList (lowerFirst letters)⟩

end FlatKey
end CanvasChart
