import CanvasChart.Proofs.Chart.DrawOutcome

set_option autoImplicit false

/-! The axes of a layout are what the visible plots call for. A side carries an axis exactly if
a visible plot uses it, and these plots alone decide the role, the companion and the record of
the axis, and whether its keys are categories. -/

namespace CanvasChart

variable {α : Type}

namespace Plot

def Uses (plot : Plot α) (side : Side) : Prop :=
  plot.options.xSide = side ∨ plot.options.ySide = side

instance (plot : Plot α) (side : Side) : Decidable (plot.Uses side) :=
  inferInstanceAs (Decidable (_ ∨ _))

def pairedSide (plot : Plot α) (side : Side) : Side :=
  if plot.options.xSide = side then plot.options.ySide else plot.options.xSide

private theorem uses_iff_sideOf (plot : Plot α) (side : Side) :
    plot.Uses side ↔ ∃ kind, plot.sideOf kind = side := by
  constructor
  · rintro (onX | onY)
    · exact ⟨.x, onX⟩
    · exact ⟨.y, onY⟩
  · rintro ⟨kind, same⟩
    cases kind with
    | x => exact .inl same
    | y => exact .inr same

def firstOn? (plots : List (Plot α)) (side : Side) : Option (Plot α) :=
  (plots.filter isVisible).find? fun plot => plot.Uses side

end Plot

/-- What the visible ones of some plots make of the axis on a side. -/
structure Axis.CalledFor (plots : List (Plot α)) (side : Side) (axis : Axis α) : Prop where
  side_eq : axis.side = side
  kind_iff : axis.kind = .x ↔ ∃ plot ∈ plots.filter Plot.isVisible, plot.options.xSide = side
  companion_eq : (Plot.firstOn? plots side).map (fun first => first.pairedSide side) =
    some axis.companion
  increasing : axis.plots.Pairwise (· < ·)
  mem_plots_iff : ∀ index, index ∈ axis.plots ↔
    ∃ plot, plots[index]? = some plot ∧ plot.isVisible = true ∧ plot.Uses side
  discrete_iff : axis.isDiscrete = true ↔ axis.kind = .x ∧
    ∀ plot ∈ plots.filter Plot.isVisible, plot.Uses side → plot.isDiscrete = true

namespace AxisSet

private theorem visiblePlots_increasing (plots : List (Plot α)) :
    (visiblePlots plots).Pairwise fun first second => first.1 < second.1 := by
  refine List.Pairwise.filter _ (List.pairwise_iff_getElem.mpr ?_)
  intro first second _firstBound _secondBound before
  simpa using before

end AxisSet

namespace Axis

theorem SamePlan.calledFor {before after : Axis α} (same : SamePlan before after)
    {plots : List (Plot α)} {side : Side} (called : before.CalledFor plots side) :
    after.CalledFor plots side where
  side_eq := same.side.trans called.side_eq
  kind_iff := same.kind ▸ called.kind_iff
  companion_eq := same.companion ▸ called.companion_eq
  increasing := same.plots ▸ called.increasing
  mem_plots_iff := same.plots ▸ called.mem_plots_iff
  discrete_iff := by
    rw [same.isDiscrete, same.kind]
    exact called.discrete_iff

namespace Gathers

variable [Scalar α] {options : ChartOptions α} {side : Side} {axis : Axis α}

private theorem users_eq {entries : List (Nat × Plot α)}
    (gathers : axis.Gathers options entries side) :
    Plot.users axis.kind side entries = entries.filter fun entry => entry.2.Uses side := by
  refine List.filter_congr fun entry member => ?_
  rw [decide_eq_decide, Plot.uses_iff_sideOf]
  constructor
  · exact fun same => ⟨axis.kind, same⟩
  · rintro ⟨kind, same⟩
    rwa [gathers.kind_eq member same]

private theorem pairedSide_eq {entries : List (Nat × Plot α)}
    (gathers : axis.Gathers options entries side) {entry : Nat × Plot α}
    (user : entry ∈ Plot.users axis.kind side entries) :
    entry.2.pairedSide side = entry.2.sideOf axis.kind.other := by
  obtain ⟨member, same⟩ := Plot.mem_users.mp user
  by_cases onX : entry.2.options.xSide = side
  · have inRole : axis.kind = .x := gathers.kind_eq member onX
    rw [Plot.pairedSide, if_pos onX, inRole]
    rfl
  · rw [Plot.pairedSide, if_neg onX]
    cases kind : axis.kind with
    | x =>
        rw [kind] at same
        exact absurd same onX
    | y => rfl

variable {plots : List (Plot α)}

private theorem kind_iff (gathers : axis.Gathers options (AxisSet.visiblePlots plots) side) :
    axis.kind = .x ↔ ∃ plot ∈ plots.filter Plot.isVisible, plot.options.xSide = side := by
  rw [← AxisSet.visiblePlots_map_snd]
  constructor
  · intro onX
    obtain ⟨founder, founding⟩ := List.exists_mem_of_ne_nil _ gathers.users_ne_nil
    rw [onX] at founding
    obtain ⟨member, same⟩ := Plot.mem_users.mp founding
    exact ⟨founder.2, List.mem_map_of_mem member, same⟩
  · rintro ⟨plot, shown, onX⟩
    obtain ⟨entry, member, rfl⟩ := List.mem_map.mp shown
    exact gathers.kind_eq member onX

private theorem companion_eq_paired
    (gathers : axis.Gathers options (AxisSet.visiblePlots plots) side) :
    (Plot.firstOn? plots side).map (fun first => first.pairedSide side) =
      some axis.companion := by
  have founded := gathers.companion_eq
  obtain ⟨founder, first, paired⟩ := Option.map_eq_some_iff.mp founded
  have user : founder ∈ Plot.users axis.kind side (AxisSet.visiblePlots plots) :=
    List.mem_of_head? first
  rw [gathers.users_eq, List.head?_filter] at first
  have found : Plot.firstOn? plots side = some founder.2 := by
    rw [Plot.firstOn?, ← AxisSet.visiblePlots_map_snd, List.find?_map]
    exact congrArg (Option.map Prod.snd) first
  rw [found, Option.map_some, gathers.pairedSide_eq user, paired]

private theorem mem_plots_iff (gathers : axis.Gathers options (AxisSet.visiblePlots plots) side)
    (index : Nat) :
    index ∈ axis.plots ↔
      ∃ plot, plots[index]? = some plot ∧ plot.isVisible = true ∧ plot.Uses side := by
  rw [gathers.plots_eq, gathers.users_eq]
  constructor
  · intro recorded
    obtain ⟨entry, listed, rfl⟩ := List.mem_map.mp recorded
    obtain ⟨member, uses⟩ := List.mem_filter.mp listed
    obtain ⟨found, visible⟩ := AxisSet.mem_visiblePlots.mp member
    exact ⟨entry.2, found, visible, of_decide_eq_true uses⟩
  · rintro ⟨plot, found, visible, uses⟩
    have member : (index, plot) ∈ AxisSet.visiblePlots plots :=
      AxisSet.mem_visiblePlots.mpr ⟨found, visible⟩
    exact List.mem_map.mpr
      ⟨(index, plot), List.mem_filter.mpr ⟨member, decide_eq_true uses⟩, rfl⟩

private theorem discrete_iff (gathers : axis.Gathers options (AxisSet.visiblePlots plots) side) :
    axis.isDiscrete = true ↔ axis.kind = .x ∧
      ∀ plot ∈ plots.filter Plot.isVisible, plot.Uses side → plot.isDiscrete = true := by
  have told {entry : Nat × Plot α} (onX : axis.kind = .x)
      (user : entry ∈ Plot.users axis.kind side (AxisSet.visiblePlots plots)) :
      axis.isDiscrete = entry.2.isDiscrete := gathers.isDiscrete_eq onX (onX ▸ user)
  rw [← AxisSet.visiblePlots_map_snd]
  constructor
  · intro discrete
    have onX : axis.kind = .x := by
      rw [isDiscrete, Bool.and_eq_true] at discrete
      exact of_decide_eq_true discrete.1
    refine ⟨onX, fun plot shown uses => ?_⟩
    obtain ⟨entry, member, rfl⟩ := List.mem_map.mp shown
    rw [← told onX, discrete]
    rw [gathers.users_eq]
    exact List.mem_filter.mpr ⟨member, decide_eq_true uses⟩
  · rintro ⟨onX, discrete⟩
    obtain ⟨founder, founding⟩ := List.exists_mem_of_ne_nil _ gathers.users_ne_nil
    obtain ⟨member, same⟩ := Plot.mem_users.mp founding
    rw [told onX founding]
    exact discrete founder.2 (List.mem_map_of_mem member)
      ((founder.2.uses_iff_sideOf side).mpr ⟨_, same⟩)

private theorem calledFor (gathers : axis.Gathers options (AxisSet.visiblePlots plots) side) :
    axis.CalledFor plots side where
  side_eq := gathers.side_eq
  kind_iff := gathers.kind_iff
  companion_eq := gathers.companion_eq_paired
  increasing := by
    rw [gathers.plots_eq, List.pairwise_map]
    exact (AxisSet.visiblePlots_increasing plots).filter _
  mem_plots_iff := gathers.mem_plots_iff
  discrete_iff := gathers.discrete_iff

end Gathers
end Axis

theorem AxisSet.isSome_iff_used [Scalar α] {options : ChartOptions α} {plots : List (Plot α)}
    {side : Side} {held : Option (Axis α)}
    (gathers : AxisSet.GathersOn options (AxisSet.visiblePlots plots) side held) :
    held.isSome = true ↔ ∃ plot ∈ plots.filter Plot.isVisible, plot.Uses side := by
  rw [← AxisSet.visiblePlots_map_snd]
  cases held with
  | none =>
      refine iff_of_false Bool.false_ne_true ?_
      rintro ⟨plot, shown, uses⟩
      obtain ⟨entry, member, rfl⟩ := List.mem_map.mp shown
      obtain ⟨kind, same⟩ := (entry.2.uses_iff_sideOf side).mp uses
      have user := Plot.mem_users.mpr ⟨member, same⟩
      rw [gathers kind] at user
      cases user
  | some axis =>
      obtain ⟨founder, founding⟩ := List.exists_mem_of_ne_nil _ gathers.users_ne_nil
      obtain ⟨member, same⟩ := Plot.mem_users.mp founding
      exact iff_of_true rfl ⟨founder.2, List.mem_map_of_mem member,
        (founder.2.uses_iff_sideOf side).mpr ⟨_, same⟩⟩

/-- A chart stays in two-axis mode as long as no visible plot leaves the bottom and the left. -/
theorem AxisLayout.of_eq_twoAxis_iff (plots : List (Plot α)) :
    AxisLayout.of plots = .twoAxis ↔ ∀ plot ∈ plots.filter Plot.isVisible,
      plot.options.xSide = .bottom ∧ plot.options.ySide = .left := by
  rw [AxisLayout.of]
  split
  case isTrue onDefault =>
    exact iff_of_true rfl fun plot shown => by
      simpa using List.all_eq_true.mp onDefault plot shown
  case isFalse elsewhere =>
    refine iff_of_false AxisLayout.noConfusion fun onDefault => elsewhere ?_
    exact List.all_eq_true.mpr fun plot shown => by simpa using onDefault plot shown

namespace Chart

private theorem coloredPlots_axisLayout (chart : Chart α) :
    AxisLayout.of chart.coloredPlots = AxisLayout.of chart.plots := by
  have byOptions (plots : List (Plot α)) : AxisLayout.of plots =
      if ((plots.map Plot.options).filter PlotOptions.visible).all fun options =>
        options.xSide = .bottom && options.ySide = .left then .twoAxis else .fourSides := by
    rw [List.filter_map, List.all_map]
    rfl
  rw [byOptions, chart.coloredPlots_options, ← byOptions]

variable [Scalar α]

/-- After a successful drawing exactly the sides that visible plots use carry axes, each of them
the one that these plots call for, and the layout has two axes as long as all of them are on
the bottom and the left. -/
theorem draw_axes (chart : Chart α) (ended : chart.draw.2 = .ok ()) :
    ∃ layout, chart.draw.1.layout = some layout ∧
      (∀ side,
        ((layout.axes.get? side).isSome = true ↔
          ∃ plot ∈ chart.plots.filter Plot.isVisible, plot.Uses side) ∧
        ∀ axis, layout.axes.get? side = some axis → axis.CalledFor chart.plots side) ∧
      (layout.axisLayout = .twoAxis ↔ ∀ plot ∈ chart.plots.filter Plot.isVisible,
        plot.options.xSide = .bottom ∧ plot.options.ySide = .left) := by
  obtain ⟨gathered, _resolved, gathers, _compatible, drawn⟩ := draw_of_ok ended
  rw [drawn]
  refine ⟨_, rfl, ?_, ?_⟩
  · intro side
    constructor
    · rw [layoutOn_get?, Option.isSome_map]
      exact AxisSet.isSome_iff_used (gathers side)
    · intro axis present
      obtain ⟨origin, _found, onSide, rfl⟩ := exists_origin gathers present
      exact (origin.settle_samePlan _).calledFor onSide.calledFor
  · change AxisLayout.of chart.coloredPlots = .twoAxis ↔ _
    rw [chart.coloredPlots_axisLayout]
    exact AxisLayout.of_eq_twoAxis_iff chart.plots

def beforeCrossing : Chart Float :=
  let hidden : Plot Float := scatterOn .right .left [2]
  showing [scatterOn .bottom .left [1],
    { hidden with options := { hidden.options with visible := false } }, scatterOn .top .left [3]]

theorem draw_axes_crossing :
    beforeCrossing.draw.2 = .ok () ∧
      ∃ layout axis, beforeCrossing.draw.1.layout = some layout ∧
        layout.axes.get? .left = some axis ∧ axis.kind ≠ .x ∧ axis.companion = .bottom ∧
        0 ∈ axis.plots ∧ 1 ∉ axis.plots ∧ 2 ∈ axis.plots ∧ axis.isDiscrete = false ∧
        (layout.axes.get? .right).isSome = false ∧ layout.axisLayout ≠ .twoAxis := by
  have shown : beforeCrossing.plots.filter Plot.isVisible =
      [scatterOn .bottom .left [1], scatterOn .top .left [3]] := rfl
  have ended : beforeCrossing.draw.2 = .ok () :=
    draw_ok_of_compatible (shown ▸ Plot.compatible_pair rfl rfl)
  obtain ⟨layout, kept, axes, twoAxis⟩ := draw_axes beforeCrossing ended
  have used : (layout.axes.get? .left).isSome = true :=
    (axes .left).1.mpr ⟨scatterOn .bottom .left [1], List.mem_cons_self, .inr rfl⟩
  obtain ⟨axis, held⟩ := Option.isSome_iff_exists.mp used
  have called := (axes .left).2 axis held
  have notX : axis.kind ≠ .x := by
    rw [Ne, called.kind_iff, shown]
    simp [scatterOn, PlotOptions.standard]
  refine ⟨ended, layout, axis, kept, held, notX, ?_, ?_, ?_, ?_, ?_, ?_, ?_⟩
  · exact (Option.some.inj called.companion_eq).symm
  · exact (called.mem_plots_iff 0).mpr ⟨_, rfl, rfl, .inr rfl⟩
  · rw [called.mem_plots_iff]
    rintro ⟨plot, found, visible, _uses⟩
    cases found
    cases visible
  · exact (called.mem_plots_iff 2).mpr ⟨_, rfl, rfl, .inr rfl⟩
  · rw [Bool.eq_false_iff, Ne, called.discrete_iff]
    exact fun discrete => notX discrete.1
  · rw [Bool.eq_false_iff, Ne, (axes .right).1, shown]
    simp [scatterOn, Plot.Uses]
  · rw [Ne, twoAxis, shown]
    simp [scatterOn]

end Chart
end CanvasChart
