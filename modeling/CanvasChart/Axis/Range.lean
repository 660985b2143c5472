import CanvasChart.Axis.Ticks
import CanvasChart.Error

set_option autoImplicit false

/-! How plots settle the range of an axis. -/

namespace CanvasChart.Axis

variable {α : Type} [Scalar α]

/-- Widens the range to cover a box. A linear range always includes zero; a
logarithmic one reaches outward to powers of the base and ignores what is not positive. -/
def widen (axis : Axis α) (box : BoundingBox α) : Axis α :=
  let (least, greatest, leastPositive) :=
    match axis.kind with
    | .x => (box.minX, box.maxX, box.minPositiveX)
    | .y => (box.minY, box.maxY, box.minPositiveY)
  match axis.options.scale with
  | .linear =>
      { axis with
        min := Scalar.min (Scalar.min axis.min least) 0
        max := Scalar.max (Scalar.max axis.max greatest) 0 }
  | .log =>
      let base := axis.options.logBase
      { axis with
        min :=
          if Scalar.isFinite leastPositive then
            Scalar.min axis.min
              (Scalar.pow base (Scalar.floor (logOf leastPositive base + countingSlack)))
          else axis.min
        max :=
          if 0 < greatest then
            Scalar.max axis.max
              (Scalar.pow base (Scalar.ceil (logOf greatest base - countingSlack)))
          else axis.max }

/-- Puts a fixed axis back to data values, so that its range can grow. -/
def unfix (axis : Axis α) : Axis α :=
  if axis.fixed then { axis with min := axis.rmin, max := axis.rmax, fixed := false } else axis

/-- The axis with its discreteness told by a plot, or the disagreement. -/
def agree (axis : Axis α) (plot : Plot α) : Except ChartError (Axis α) :=
  match axis.kind, axis.discrete with
  | .y, _ => .ok axis
  | .x, some discrete =>
      if discrete = plot.isDiscrete then .ok axis
      else .error (.discretenessMismatch axis.side)
  | .x, none => .ok { axis with discrete := some plot.isDiscrete }

def absorb (axis : Axis α) (plot : Plot α) : Axis α :=
  if axis.isDiscrete then
    if axis.labels.length = 0 then { axis with labels := .categories plot.categories } else axis
  else
    let widened :=
      match plot.boundingBox with
      | some box => axis.widen box
      | none => axis
    { widened with labels := .values widened.tickValues }

def addPlot (axis : Axis α) (index : Nat) (plot : Plot α) : Except ChartError (Axis α) :=
  (axis.agree plot).map fun agreed =>
    let reopened := agreed.unfix
    { reopened with plots := reopened.plots ++ [index] }.absorb plot

/-- The bounds of an axis that has not enough data to have its own. -/
def completeRange (axis : Axis α) : α × α :=
  if axis.isDiscrete then (0, Scalar.ofNat (Nat.max axis.labels.length 1))
  else if axis.isLog && !Scalar.isFinite axis.min && Scalar.isFinite axis.max then
    (axis.max / axis.options.logBase, axis.max)
  else if !Scalar.isFinite axis.min || !Scalar.isFinite axis.max then
    match axis.options.scale with
    | .linear => (0, 1)
    | .log => (1, axis.options.logBase)
  else (axis.min, axis.max)

def extendEmpty (axis : Axis α) : α × α → α × α
  | (least, greatest) =>
      if greatest ≤ least then
        match axis.options.scale with
        | .linear => (least, least + 1)
        | .log => (least, least * axis.options.logBase)
      else (least, greatest)

/-- Settles the range once all plots are taken in. A continuous logarithmic axis
then maps logarithms, and keeps the data values beside them. -/
def fix (axis : Axis α) : Axis α :=
  if axis.fixed then axis
  else
    let (least, greatest) := axis.extendEmpty axis.completeRange
    let logarithmic := axis.isLog && !axis.isDiscrete
    let base := axis.options.logBase
    let settled :=
      { axis with
        min := if logarithmic then logOf least base else least
        max := if logarithmic then logOf greatest base else greatest
        rmin := least
        rmax := greatest
        fixed := true }
    if settled.isDiscrete then settled else { settled with labels := .values settled.tickValues }

end CanvasChart.Axis
