import CanvasChart.Palette
import CanvasChart.Plot.Basic

set_option autoImplicit false

/-! Handing palette colors to the series of plots. Only visible plots without a
color of their own take part, and of their series those without one. The colors
are kept apart from the styles, so that a plot color set later still shows. -/

namespace CanvasChart.Plot

variable {α : Type}

/-- The series of the plot may be given palette colors. -/
def takesColors (plot : Plot α) : Bool := plot.isVisible && plot.options.style.color.isNone

def isColorless (series : Series α) : Bool := series.style.color.isNone

def colorSlots (plot : Plot α) : List (Option String) :=
  if plot.takesColors then (plot.series.filter isColorless).map Series.assignedColor else []

def giveColors : List (Series α) → List String → List (Series α) × List String
  | [], colors => ([], colors)
  | series :: rest, colors =>
      if isColorless series then
        match colors with
        | [] => (series :: rest, [])
        | color :: later =>
            let (given, left) := giveColors rest later
            ({ series with assignedColor := some color } :: given, left)
      else
        let (given, left) := giveColors rest colors
        (series :: given, left)

/-- Gives colors to the series of the plots that take them, in order. -/
def distribute : List (Plot α) → List String → List (Plot α)
  | [], _ => []
  | plot :: rest, colors =>
      if plot.takesColors then
        let (series, left) := giveColors plot.series colors
        { plot with series := series } :: distribute rest left
      else plot :: distribute rest colors

/-- Gives every visible series without a color the first palette color that is
not in use, and returns the palette with the colors in use at its end. -/
def setColors (plots : List (Plot α)) (palette : Palette) : List (Plot α) × Palette :=
  let used := (plots.filter isVisible).flatMap colors
  let (given, next) := palette.assign used (plots.flatMap colorSlots)
  (distribute plots given, next)

end CanvasChart.Plot
