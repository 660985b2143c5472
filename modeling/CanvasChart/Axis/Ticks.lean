import CanvasChart.Axis.Basic

set_option autoImplicit false

/-! The values of an axis that get a tick, and their label texts. -/

namespace CanvasChart.Axis

variable {α : Type} [Scalar α]

def dataRange (axis : Axis α) : α × α :=
  if axis.fixed then (axis.rmin, axis.rmax) else (axis.min, axis.max)

/-- The powers of the base from the one nearest to `least` to the one nearest to `greatest`. -/
def logTicks (base least greatest : α) : List α :=
  let first := Scalar.toExponent (Scalar.round (logOf least base))
  let last := Scalar.toExponent (Scalar.round (logOf greatest base))
  (List.range (last + 1 - first).toNat).map fun (index : Nat) => Scalar.power base (first + index)

/-- Ticks at every step from `least` on, unless there are too many of them. -/
def stepTicks (step least greatest : α) : List α :=
  let steps := wholeSteps (greatest - least) step
  if steps ≤ Scalar.ofNat maxTicks then
    (List.range (Scalar.toCount steps + 1)).map fun index => least + Scalar.ofNat index * step
  else niceTicks least greatest

/-- An explicit list is taken as it is. Otherwise a logarithmic axis has ticks at
the powers of its base, and a linear one at every step or at chosen distances. -/
def tickValues (axis : Axis α) : List α :=
  match axis.options.ticks with
  | some (.explicit values) => values
  | policy =>
      let (least, greatest) := axis.dataRange
      if !Scalar.isFinite least || !Scalar.isFinite greatest then []
      else if axis.isLog then
        if least ≤ 0 then [] else logTicks axis.options.logBase least greatest
      else
        match policy with
        | some (.every step) =>
            if 0 < step then stepTicks step least greatest else niceTicks least greatest
        | _ => niceTicks least greatest

def labelTexts (axis : Axis α) : List String :=
  match axis.labels with
  | .categories names => names
  | .values list => list.map axis.options.labelFormat.text

end CanvasChart.Axis
