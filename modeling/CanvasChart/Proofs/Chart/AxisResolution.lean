import CanvasChart.Proofs.Chart.AxisFaults

set_option autoImplicit false

/-! Axis resolution as a whole. One plot without a fault leads from the axes of the
earlier plots to those of one plot more; a run over all visible plots therefore ends with
the axes that they call for, or with their first fault. -/

namespace CanvasChart.AxisSet

variable {α : Type}

private theorem users_eq_nil_iff (kind : AxisKind) (side : Side) (entries : List (Nat × Plot α)) :
    Plot.users kind side entries = [] ↔
      ∀ plot ∈ entries.map Prod.snd, plot.sideOf kind ≠ side := by
  simp only [Plot.users, List.filter_eq_nil_iff, List.forall_mem_map, decide_eq_true_eq]

private theorem users_ne_nil_of_exists {kind : AxisKind} {side : Side}
    {entries : List (Nat × Plot α)}
    (found : ∃ plot ∈ entries.map Prod.snd, plot.sideOf kind = side) :
    Plot.users kind side entries ≠ [] := by
  rw [Ne, users_eq_nil_iff]
  obtain ⟨plot, member, same⟩ := found
  exact fun apart => apart plot member same

variable [Scalar α] {options : ChartOptions α} {entries : List (Nat × Plot α)}
  {axes : AxisSet α}

private theorem addPlotOn_x (gathers : axes.Gathers options entries) (index : Nat)
    (plot : Plot α)
    (perpendicular : plot.options.xSide.isPerpendicularTo plot.options.ySide = true)
    (yApart : ∀ earlier ∈ entries.map Prod.snd, earlier.options.ySide ≠ plot.options.xSide)
    (agreement : ∀ earlier ∈ entries.map Prod.snd,
      earlier.options.xSide = plot.options.xSide → earlier.isDiscrete = plot.isDiscrete) :
    ∃ next, axes.addPlotOn options plot.options.xSide .x plot.options.ySide index plot =
        .ok (axes.insert next) ∧
      next.Gathers options (entries ++ [(index, plot)]) plot.options.xSide ∧
      GathersOn options entries plot.options.ySide
        ((axes.insert next).get? plot.options.ySide) := by
  have sidesDiffer := Side.ne_of_perpendicular perpendicular
  obtain ⟨next, added, gathersX⟩ := addPlotOn_of_agreement plot.options.xSide .x index plot
    (gathers plot.options.xSide) rfl sidesDiffer.symm ((users_eq_nil_iff _ _ _).mpr yApart) (by
      intro _onX entry user
      obtain ⟨member, same⟩ := Plot.mem_users.mp user
      exact agreement entry.2 (List.mem_map_of_mem member) same)
  refine ⟨next, added, gathersX, ?_⟩
  rw [get?_insert, gathersX.side_eq, if_neg sidesDiffer]
  exact gathers plot.options.ySide

private theorem addPlot_of_fault (gathers : axes.Gathers options entries) (index : Nat)
    (plot : Plot α) (error : ChartError)
    (faulty : plot.fault? (entries.map Prod.snd) = some error) :
    axes.addPlot options index plot = .error error := by
  have verdict := Plot.fault?_verdict (entries.map Prod.snd) plot
  rw [faulty] at verdict
  cases verdict with
  | parallel parallel =>
      simp only [addPlot, parallel]
      rfl
  | xConflict perpendicular conflict =>
      have refused := addPlotOn_of_conflict plot.options.xSide .x plot.options.ySide index plot
        (gathers plot.options.xSide) (users_ne_nil_of_exists conflict)
      simp only [addPlot, perpendicular, refused]
      rfl
  | disagreement perpendicular yApart disagreement =>
      obtain ⟨earlier, member, same, differs⟩ := disagreement
      obtain ⟨entry, entryMember, rfl⟩ := List.mem_map.mp member
      have refused := addPlotOn_of_disagreement plot.options.xSide plot.options.ySide index
        plot (gathers plot.options.xSide) entry (Plot.mem_users.mpr ⟨entryMember, same⟩)
        ((users_eq_nil_iff _ _ _).mpr yApart) differs
      simp only [addPlot, perpendicular, refused]
      rfl
  | yConflict perpendicular yApart agreement conflict =>
      obtain ⟨next, added, _gathersX, heldY⟩ :=
        addPlotOn_x gathers index plot perpendicular yApart agreement
      have refused := addPlotOn_of_conflict plot.options.ySide .y plot.options.xSide index plot
        heldY (users_ne_nil_of_exists conflict)
      simp only [addPlot, perpendicular, added, bind, Except.bind, refused]
      rfl

private theorem addPlot_of_faultless (gathers : axes.Gathers options entries) (index : Nat)
    (plot : Plot α) (faultless : plot.fault? (entries.map Prod.snd) = none) :
    ∃ next, axes.addPlot options index plot = .ok next ∧
      next.Gathers options (entries ++ [(index, plot)]) := by
  obtain ⟨perpendicular, yApart, agreement, xApart⟩ :=
    (Plot.fault?_eq_none_iff _ _).mp faultless
  have sidesDiffer := Side.ne_of_perpendicular perpendicular
  obtain ⟨xAxis, addedX, gathersX, heldY⟩ :=
    addPlotOn_x gathers index plot perpendicular yApart agreement
  obtain ⟨yAxis, addedY, gathersY⟩ := addPlotOn_of_agreement plot.options.ySide .y index plot
    heldY rfl sidesDiffer ((users_eq_nil_iff _ _ _).mpr xApart)
    (fun onX => by cases onX)
  refine ⟨(axes.insert xAxis).insert yAxis, ?added, ?gathers⟩
  case added =>
    change (axes.insert xAxis).addPlotOn options plot.options.ySide .y plot.options.xSide
      index plot = _ at addedY
    simp only [addPlot, perpendicular, addedX, bind, Except.bind, addedY]
    rfl
  case gathers =>
    intro side
    rw [get?_insert, gathersY.side_eq, get?_insert, gathersX.side_eq]
    by_cases onY : plot.options.ySide = side
    · rw [if_pos onY]
      exact onY ▸ gathersY
    · by_cases onX : plot.options.xSide = side
      · rw [if_neg onY, if_pos onX]
        exact onX ▸ gathersX
      · rw [if_neg onY, if_neg onX]
        refine (gathers side).passed (index, plot) ?_
        intro kind
        cases kind with
        | x => exact onX
        | y => exact onY

/-- A run over further plots ends with the axes of all of them, or with the first fault.
The induction is on the plots that are still to come. -/
private theorem addPlots_outcome (gathers : axes.Gathers options entries)
    (compatible : Plot.Compatible (entries.map Prod.snd)) (rest : List (Nat × Plot α)) :
    (∃ final, axes.addPlots options rest = .ok final ∧
      final.Gathers options (entries ++ rest) ∧
      Plot.Compatible ((entries ++ rest).map Prod.snd)) ∨
    ∃ error, axes.addPlots options rest = .error error ∧
      Plot.FirstFault ((entries ++ rest).map Prod.snd) error := by
  induction rest generalizing axes entries with
  | nil =>
      rw [List.append_nil]
      exact .inl ⟨axes, rfl, gathers, compatible⟩
  | cons entry rest ih =>
      obtain ⟨index, plot⟩ := entry
      simp only [addPlots, List.append_cons entries (index, plot) rest]
      cases faulty : plot.fault? (entries.map Prod.snd) with
      | none =>
          obtain ⟨next, added, nextGathers⟩ := addPlot_of_faultless gathers index plot faulty
          have nextCompatible :
              Plot.Compatible ((entries ++ [(index, plot)]).map Prod.snd) := by
            rw [List.map_append]
            exact (Plot.compatible_concat_iff _ plot).mpr ⟨compatible, faulty⟩
          simp only [added, bind, Except.bind]
          exact ih nextGathers nextCompatible
      | some error =>
          have refused := addPlot_of_fault gathers index plot error faulty
          simp only [refused, bind, Except.bind]
          refine .inr ⟨error, rfl, entries.map Prod.snd, plot, rest.map Prod.snd, ?_,
            compatible, faulty⟩
          simp

omit [Scalar α] in
theorem visiblePlots_map_snd (plots : List (Plot α)) :
    (visiblePlots plots).map Prod.snd = plots.filter Plot.isVisible := by
  have listed : (plots.mapIdx fun index plot => (index, plot)).map Prod.snd = plots :=
    List.ext_getElem (by simp) (by simp)
  change ((plots.mapIdx fun index plot => (index, plot)).filter
    (Plot.isVisible ∘ Prod.snd)).map Prod.snd = _
  rw [← List.filter_map, listed]

omit [Scalar α] in
theorem mem_visiblePlots {plots : List (Plot α)} {entry : Nat × Plot α} :
    entry ∈ visiblePlots plots ↔ plots[entry.1]? = some entry.2 ∧ entry.2.isVisible = true := by
  obtain ⟨index, plot⟩ := entry
  simp only [visiblePlots, List.mem_filter, List.mem_mapIdx, Prod.mk.injEq,
    List.getElem?_eq_some_iff]
  constructor
  · rintro ⟨⟨position, bound, rfl, found⟩, visible⟩
    exact ⟨⟨bound, found⟩, visible⟩
  · rintro ⟨⟨bound, found⟩, visible⟩
    exact ⟨⟨index, bound, rfl, found⟩, visible⟩

/-- Resolution ends with the settled axes of all visible plots, or with their first fault. -/
theorem resolve_outcome (options : ChartOptions α) (plots : List (Plot α)) :
    (∃ gathered : AxisSet α, resolve options plots = .ok (gathered.map Axis.fix) ∧
      gathered.Gathers options (visiblePlots plots) ∧
      Plot.Compatible (plots.filter Plot.isVisible)) ∨
    ∃ error, resolve options plots = .error error ∧
      Plot.FirstFault (plots.filter Plot.isVisible) error := by
  have outcome :=
    addPlots_outcome (gathers_empty options) Plot.Compatible.nil (visiblePlots plots)
  rw [List.nil_append, visiblePlots_map_snd] at outcome
  rcases outcome with ⟨final, reached, gathers, compatible⟩ | ⟨error, refused, fault⟩
  · exact .inl ⟨final, by rw [resolve, reached]; rfl, gathers, compatible⟩
  · exact .inr ⟨error, by rw [resolve, refused]; rfl, fault⟩

end CanvasChart.AxisSet
