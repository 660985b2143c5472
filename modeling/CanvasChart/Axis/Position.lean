import CanvasChart.Axis.Basic

set_option autoImplicit false

/-! Offsets of values and keys along an axis. -/

namespace CanvasChart.Axis

variable {α : Type} [Scalar α]

def offset (axis : Axis α) (mapped : α) : α :=
  let span := axis.max - axis.min
  if span == 0 || !Scalar.isFinite span then 0 else (mapped - axis.min) / span * axis.size

/-- The offset of a value. Values that a logarithmic axis cannot show lie at its start. -/
def positionOf (axis : Axis α) (value : α) : α :=
  if axis.isLog then
    if value ≤ 0 then 0 else axis.offset (logOf value axis.options.logBase)
  else axis.offset value

def zero (axis : Axis α) : α := if axis.isLog then 0 else axis.positionOf 0

def categoryIndex? (axis : Axis α) (key : Key α) : Option Nat :=
  match axis.labels with
  | .categories names => names.findIdx? fun name => name = key.text
  | .values _ => none

/-- Where the slot of a key starts and how wide it is. On a discrete axis it is
the cell of the category; elsewhere it is centered on the key and takes an equal
share of the axis. -/
def slot (axis : Axis α) (index : Nat) (key : Key α) (count : Nat) : α × α :=
  if axis.isDiscrete then
    let width := axis.size / Scalar.ofNat (Nat.max axis.labels.length 1)
    (Scalar.ofNat ((axis.categoryIndex? key).getD index) * width, width)
  else
    let width := axis.size / Scalar.ofNat (Nat.max count 1)
    (axis.positionOf (key.position index) - width / 2, width)

def keyPosition (axis : Axis α) (index : Nat) (key : Key α) (count : Nat) : α :=
  if axis.isDiscrete then
    let (start, width) := axis.slot index key count
    start + width / 2
  else axis.positionOf (key.position index)

end CanvasChart.Axis
