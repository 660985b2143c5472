import CanvasChart.Proofs.Chart.DrawSteps
import CanvasChart.Proofs.Section.TickParts

set_option autoImplicit false

/-! Everything that a chart draws before its plots has an effect that the graphics state alone
decides. Texts, rectangles and the parts of axes take nothing from a path that was left
before. -/

namespace CanvasChart

open Drawing

variable {α : Type} [Scalar α]

/-! ### Texts -/

namespace TextStyle

private theorem select_settled (style : TextStyle) (align : TextAlign) (baseline : TextBaseline) :
    (style.select align baseline : Drawing α).Settled :=
  settled_calls rfl

private theorem draw_settled (style : TextStyle) (text : String) (anchor : Point α)
    (align : TextAlign)
    (baseline : TextBaseline) : (style.draw text anchor align baseline).Settled :=
  ((select_settled style align baseline).append (settled_call rfl)).scope

private theorem measure_settled (style : TextStyle) : (style.measure : Drawing α).Settled :=
  (settled_call rfl).scope

private theorem drawRotated_settled (style : TextStyle) (text : String) (center : Point α)
    (angle : α) : (style.drawRotated text center angle).Settled :=
  (((settled_calls rfl).append (select_settled style _ _)).append (settled_call rfl)).scope

end TextStyle

/-! ### Sections -/

namespace Ticks

private theorem measure_settled (scene : Scene α) (side : Side) : (measure scene side).Settled := by
  unfold measure
  split
  · exact settled_empty
  · split
    · exact settled_empty
    · exact TextStyle.measure_settled _

private theorem draw_settled (scene : Scene α) (side : Side) (plotArea : Rect α) :
    (draw scene side plotArea).Settled := by
  refine settled_withValue fun axis _found => Draws.settled fun before => ?_
  split
  · exact ⟨before, _, drawDiscrete_draws axis side _ before⟩
  · exact ⟨before, _, drawContinuous_draws axis side _ before⟩

end Ticks

theorem Title.draw_settled (title : Option (String × TextStyle)) (side : Side) (band : Rect α) :
    (Title.draw title side band).Settled := by
  unfold Title.draw
  split
  · exact settled_empty
  · cases side with
    | left | right => exact TextStyle.drawRotated_settled _ _ _ _
    | top | bottom => exact TextStyle.draw_settled _ _ _ _ _

namespace Legend

variable (options : LegendOptions α)

private theorem measureEntries_settled (listed : List LegendEntry) :
    (measureEntries options listed).Settled :=
  settled_sequence (List.forall_mem_map.mpr fun _entry _member => TextStyle.measure_settled _)

private theorem measure_settled (plots : List (Plot α)) (side : Side) :
    (measure options plots side).Settled := by
  simp only [measure]
  split
  · exact settled_empty
  · refine (measureEntries_settled options _).append ?title
    split
    · exact TextStyle.measure_settled _
    · exact settled_empty

private theorem drawEntry_settled (entry : LegendEntry) (corner : Point α) :
    (drawEntry options entry corner).Settled :=
  (settled_calls rfl).scope.append (TextStyle.draw_settled _ _ _ _ _)

private theorem drawColumn_settled (listed : List LegendEntry) (y : α) :
    (drawColumn options listed y).Settled := by
  induction listed generalizing y with
  | nil => exact settled_empty
  | cons entry rest ih => exact (drawEntry_settled options entry _).append (ih _)

private theorem drawRow_settled (y : α) (listed : List LegendEntry) (x : α) :
    (drawRow options y listed x).Settled := by
  induction listed generalizing x with
  | nil => exact settled_empty
  | cons entry rest ih => exact (drawEntry_settled options entry _).append (ih _)

private theorem drawVertical_settled (listed : List LegendEntry) (band : Rect α) :
    (drawVertical options listed band).Settled := by
  simp only [drawVertical]
  split
  · exact (TextStyle.draw_settled _ _ _ _ _).append (drawColumn_settled options listed _)
  · exact drawColumn_settled options listed _

private theorem drawHorizontal_settled (listed : List LegendEntry) (band : Rect α) :
    (drawHorizontal options listed band).Settled := by
  simp only [drawHorizontal]
  split
  · exact ((TextStyle.draw_settled _ _ _ _ _).append
      (measureEntries_settled options listed)).append (drawRow_settled options _ listed _)
  · exact (measureEntries_settled options listed).append (drawRow_settled options _ listed _)

private theorem draw_settled (plots : List (Plot α)) (side : Side) (band : Rect α) :
    (draw options plots side band).Settled := by
  simp only [draw]
  split
  · exact settled_empty
  · split
    · exact drawHorizontal_settled options _ band
    · exact drawVertical_settled options _ band

end Legend

theorem Section.measure_settled (scene : Scene α) (place : Section) :
    (place.measure scene).Settled := by
  cases place with
  | ticks side => exact Ticks.measure_settled scene side
  | legend side => exact Legend.measure_settled _ _ side
  | axisTitle | chartTitle => exact settled_empty

theorem Section.draw_settled (scene : Scene α) (band plotArea : Rect α) (place : Section) :
    (place.draw scene band plotArea).Settled := by
  cases place with
  | ticks side => exact Ticks.draw_settled scene side plotArea
  | axisTitle side => exact Title.draw_settled _ side band
  | legend side => exact Legend.draw_settled _ _ side band
  | chartTitle => exact Title.draw_settled _ .top band

/-! ### All that frames the plots -/

theorem Layout.measure_settled (scene : Scene α) : (Layout.measure scene).Settled :=
  settled_sequence <| List.forall_mem_map.mpr fun _side _listed =>
    settled_sequence <| List.forall_mem_map.mpr fun place _placed =>
      Section.measure_settled scene place

namespace Chart

private theorem drawBackground_settled (options : ChartOptions α) (width height : α) :
    (drawBackground options width height).Settled := by
  refine (Settled.append ?background ?outline).scope
  case background =>
    split
    · exact settled_calls rfl
    · exact settled_empty
  case outline =>
    split
    · exact settled_calls rfl
    · exact settled_empty

private theorem drawPlotBorder_settled (options : ChartOptions α) (plotArea : Rect α) :
    (drawPlotBorder options plotArea).Settled := by
  unfold drawPlotBorder
  split
  · exact settled_empty
  · exact (settled_calls rfl).scope

private theorem drawSections_settled (scene : Scene α) (plotArea : Rect α)
    (bands : List (Side × Section × Rect α)) : (drawSections scene plotArea bands).Settled :=
  settled_sequence <| List.forall_mem_map.mpr fun entry _member =>
    ((settled_call rfl).append (Section.draw_settled scene _ _ entry.2.1)).scope

theorem framingOn_settled (chart : Chart α) (axes : AxisSet α) :
    (chart.framingOn axes).Settled :=
  ((((settled_call rfl).append (drawBackground_settled chart.options _ _)).append
    (Layout.measure_settled _)).append (drawPlotBorder_settled chart.options _)).append
    (drawSections_settled _ _ _)

end Chart
end CanvasChart
