import Mathlib.Data.List.Basic
import CanvasChart.Proofs.Marks.PlotMarks

set_option autoImplicit false

/-! The marks of single series. A plot leaves those of its series one after the other, a line
plot from the last series on, and all marks of a series are in the color that it shows. -/

namespace CanvasChart

open Drawing

variable {α : Type}

def DrawOp.color? : DrawOp α → Option String
  | .fillRect _ color _ | .strokeRect _ color _ | .fillPath _ color _
  | .strokePath _ color _ _ => some color
  | .clearRect _ => none
  | .text mark => some mark.color

structure PlacedSeries (α : Type) where
  plot : Plot α
  place : Nat
  series : Series α

def PlacedSeries.color (placed : PlacedSeries α) : String :=
  (placed.plot.styleOf placed.series).color.getD Color.firstSeries

namespace Plot

def placedSeries (plot : Plot α) : List (PlacedSeries α) :=
  plot.series.mapIdx fun place series => ⟨plot, place, series⟩

/-- The series of a plot as it draws them: a line plot begins with the last one. -/
def drawnSeries (plot : Plot α) : List (PlacedSeries α) :=
  if plot.kind = .line then plot.placedSeries.reverse else plot.placedSeries

theorem drawnSeries_perm (plot : Plot α) : plot.drawnSeries.Perm plot.placedSeries := by
  unfold drawnSeries
  split
  · exact List.reverse_perm _
  · exact .refl _

theorem plot_of_mem_placedSeries {plot : Plot α} {placed : PlacedSeries α}
    (member : placed ∈ plot.placedSeries) : placed.plot = plot := by
  obtain ⟨place, inside, rfl⟩ := List.mem_mapIdx.mp member
  rfl

end Plot

variable [Scalar α]

/-! ### What a series records -/

def PlacedSeries.extents (placed : PlacedSeries α) : List (StackedPoint α) :=
  placed.plot.stack[placed.place]?.getD []

section Recorded

variable (context : MarkContext α) (state : GraphicsState α) (yAxis : Axis α)
  (first total : Nat) (placed : PlacedSeries α)

/-- The column of a bar plot that a series takes, counted from the first one of its plot. -/
def Bar.columnOf : Nat := if placed.plot.isStacked then first else first + placed.place

def Marks.drawSeries : Drawing α :=
  match placed.plot.kind with
  | .bar =>
      Bar.drawSeries context yAxis placed.plot (Bar.columnOf first placed) total placed.series
        placed.extents
  | .line => Line.drawSeries context yAxis placed.plot placed.series placed.extents
  | .scatter => Scatter.drawSeries context yAxis placed.plot placed.series placed.extents

def PlacedSeries.marks : List (DrawOp α) :=
  match placed.plot.kind with
  | .bar =>
      Bar.seriesMarks context state yAxis placed.plot (Bar.columnOf first placed) total
        placed.series placed.extents
  | .line => Line.seriesMarks context state yAxis placed.plot placed.series placed.extents
  | .scatter => Scatter.seriesMarks context state yAxis placed.plot placed.series placed.extents

theorem Marks.drawSeries_draws :
    (Marks.drawSeries context yAxis first total placed).Draws state state
      (placed.marks context state yAxis first total) := by
  unfold Marks.drawSeries PlacedSeries.marks
  cases placed.plot.kind with
  | bar => exact Bar.drawSeries_draws context state yAxis placed.plot _ total _ _
  | line => exact Line.drawSeries_draws context state yAxis placed.plot _ _
  | scatter => exact Scatter.drawSeries_draws context state yAxis placed.plot _ _

end Recorded

/-! ### The color of the marks -/

theorem Marker.mark_color {state : GraphicsState α} {color : String}
    (filled : state.fillStyle = color) (stroked : state.strokeStyle = color) (shape : Shape)
    (size : α) (center : Point α) :
    (Marker.mark state shape size center).color? = some color := by
  unfold Marker.mark
  split
  · exact congrArg some stroked
  · exact congrArg some filled

theorem Line.vertexMarks_color {plot : Plot α} {style : SeriesStyle α} {state : GraphicsState α}
    {baseline : α} {vertices : List (Point α)} :
    ∀ mark ∈ Line.vertexMarks state plot style baseline vertices,
      mark.color? = some (style.color.getD Color.firstSeries) := by
  intro mark member
  simp only [vertexMarks, List.mem_append, List.mem_singleton] at member
  rcases member with (area | line) | marker
  · unfold areaMarks at area
    split at area
    · rw [List.mem_singleton.mp area]
      rfl
    · cases area
  · rw [line]
    rfl
  · unfold markers at marker
    split at marker
    · obtain ⟨vertex, _listed, rfl⟩ := List.mem_map.mp marker
      exact Marker.mark_color rfl rfl _ _ vertex
    · cases marker

theorem PlacedSeries.marks_color (placed : PlacedSeries α) (context : MarkContext α)
    (state : GraphicsState α) (yAxis : Axis α) (first total : Nat) :
    ∀ mark ∈ placed.marks context state yAxis first total, mark.color? = some placed.color := by
  intro mark member
  unfold marks at member
  cases kind : placed.plot.kind with
  | bar =>
      rw [kind] at member
      obtain ⟨rect, _listed, rfl⟩ := List.mem_map.mp member
      rfl
  | line =>
      rw [kind] at member
      simp only [Line.seriesMarks] at member
      split at member
      · cases member
      · exact Line.vertexMarks_color mark member
  | scatter =>
      rw [kind] at member
      obtain ⟨vertex, _listed, rfl⟩ := List.mem_map.mp member
      exact Marker.mark_color rfl rfl _ _ vertex

/-! ### Series by series -/

namespace Plot

private theorem zipIdx_stackedSeries (plot : Plot α) :
    plot.stackedSeries.zipIdx =
      plot.placedSeries.map fun placed => ((placed.series, placed.extents), placed.place) := by
  have sameLength : plot.stackedSeries.length = plot.series.length := by
    rw [← plot.stackedSeries_fst, List.length_map]
  refine List.ext_getElem (by simp [placedSeries, sameLength]) fun place inside _listed => ?_
  rw [List.length_zipIdx, stackedSeries, List.length_zip, Nat.lt_min] at inside
  simp [stackedSeries, placedSeries, PlacedSeries.extents, List.getElem?_eq_getElem inside.2]

/-- What a plot records is what its series record, one after the other. -/
theorem marks_eq_flatMap {context : MarkContext α} {plot : Plot α} {yAxis : Axis α}
    (present : context.yAxis plot = .ok yAxis) (state : GraphicsState α) (first total : Nat) :
    plot.marks context state first total =
      plot.drawnSeries.flatMap (PlacedSeries.marks context state yAxis first total) := by
  have numbered := plot.zipIdx_stackedSeries
  have listed : plot.stackedSeries =
      plot.placedSeries.map fun placed => (placed.series, placed.extents) := by
    rw [← List.zipIdx_map_fst 0 plot.stackedSeries, numbered, List.map_map]
    rfl
  have ofPlot {placed : PlacedSeries α} (member : placed ∈ plot.placedSeries) :
      placed.plot = plot := plot_of_mem_placedSeries member
  unfold marks drawnSeries
  rw [present]
  cases kind : plot.kind with
  | bar =>
      simp only [Bar.marks, numbered, List.flatMap_map]
      refine List.flatMap_congr fun placed member => ?_
      simp only [PlacedSeries.marks, Bar.columnOf, ofPlot member, kind]
  | line =>
      simp only [listed, ← List.map_reverse, List.flatMap_map]
      refine List.flatMap_congr fun placed member => ?_
      simp only [PlacedSeries.marks, ofPlot (List.mem_reverse.mp member), kind]
  | scatter =>
      simp only [listed, List.flatMap_map]
      refine List.flatMap_congr fun placed member => ?_
      simp only [PlacedSeries.marks, ofPlot member, kind]

end Plot
end CanvasChart
