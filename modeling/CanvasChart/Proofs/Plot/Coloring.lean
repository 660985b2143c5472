import CanvasChart.Plot.Coloring

set_option autoImplicit false

/-! Handing out colors. It changes nothing but the assigned colors of visible plots, hidden
plots have no part in it, and handing out colors once more changes nothing. -/

namespace CanvasChart

/-! ### Palettes -/

namespace Palette

private theorem recycle_congr (palette : Palette) {first second : List String}
    (sameColors : ∀ color, color ∈ first ↔ color ∈ second) :
    palette.recycle first = palette.recycle second := by
  have sameTest (color : String) : first.contains color = second.contains color := by
    rw [Bool.eq_iff_iff, List.contains_iff_mem, List.contains_iff_mem]
    exact sameColors color
  simp only [recycle, sameTest]

private theorem recycle_idempotent (palette : Palette) (used : List String) :
    (palette.recycle used).recycle used = palette.recycle used := by
  have never : palette.colors.filter (fun _color => false) = [] :=
    List.filter_eq_nil_iff.mpr fun _color _member => Bool.false_ne_true
  simp [recycle, List.filter_append, List.filter_filter, never]

theorem nextColor_inUse (palette : Palette) (progress : Progress) :
    (palette.nextColor progress).2.inUse =
      progress.inUse ++ [(palette.nextColor progress).1] := by
  unfold nextColor
  split
  · rfl
  · split <;> rfl

theorem held_nextColor (palette : Palette) {progress : Progress} {slots : List (Option String)}
    (held : ∀ color, some color ∈ slots → color ∈ progress.inUse) (color : String)
    (member : some color ∈ slots) : color ∈ (palette.nextColor progress).2.inUse := by
  rw [nextColor_inUse]
  exact List.mem_append_left _ (held color member)

theorem fill_length (palette : Palette) (progress : Progress) (slots : List (Option String)) :
    (palette.fill progress slots).1.length = slots.length := by
  induction slots generalizing progress with
  | nil => rfl
  | cons slot rest ih => cases slot <;> simp only [fill, List.length_cons, ih]

private theorem fill_held (palette : Palette) (progress : Progress) (colors : List String) :
    palette.fill progress (colors.map some) = (colors, progress) := by
  induction colors with
  | nil => rfl
  | cons color rest ih => simp only [List.map_cons, fill, ih]

private theorem mem_fill_of_held (palette : Palette) (progress : Progress)
    {slots : List (Option String)} {color : String} (held : some color ∈ slots) :
    color ∈ (palette.fill progress slots).1 := by
  induction slots generalizing progress with
  | nil => cases held
  | cons slot rest ih =>
      cases slot with
      | some first =>
          simp only [fill, List.mem_cons]
          rcases List.mem_cons.mp held with here | later
          · exact .inl (Option.some.inj here)
          · exact .inr (ih progress later)
      | none =>
          rcases List.mem_cons.mp held with here | later
          · cases here
          · exact List.mem_cons_of_mem _ (ih _ later)

/-- If the colors that slots hold are in use, the colors in use at the end are those at the
start and those of the filled slots. -/
private theorem mem_fill_inUse (palette : Palette) {progress : Progress}
    {slots : List (Option String)}
    (held : ∀ color, some color ∈ slots → color ∈ progress.inUse) (color : String) :
    color ∈ (palette.fill progress slots).2.inUse ↔
      color ∈ progress.inUse ∨ color ∈ (palette.fill progress slots).1 := by
  induction slots generalizing progress with
  | nil => simp [fill]
  | cons slot rest ih =>
      have restHeld : ∀ other, some other ∈ rest → other ∈ progress.inUse :=
        fun other member => held other (List.mem_cons_of_mem _ member)
      cases slot with
      | some first =>
          have used : first ∈ progress.inUse := held first List.mem_cons_self
          simp only [fill, List.mem_cons]
          rw [ih restHeld]
          constructor
          · rintro (earlier | later)
            · exact .inl earlier
            · exact .inr (.inr later)
          · rintro (earlier | here | later)
            · exact .inl earlier
            · exact .inl (here ▸ used)
            · exact .inr later
      | none =>
          simp only [fill, List.mem_cons]
          rw [ih (palette.held_nextColor restHeld), palette.nextColor_inUse, List.mem_append,
            List.mem_singleton, or_assoc]

end Palette

/-! ### Colors of plots -/

variable {α : Type}

def Series.uncolored (series : Series α) : Series α := { series with assignedColor := none }

namespace Plot

def uncolored (plot : Plot α) : Plot α :=
  { plot with series := plot.series.map Series.uncolored }

private theorem giveColors_uncolored (all : List (Series α)) (colors : List String) :
    (giveColors all colors).1.map Series.uncolored = all.map Series.uncolored := by
  induction all generalizing colors with
  | nil => rfl
  | cons series rest ih =>
      unfold giveColors
      split
      · cases colors with
        | nil => rfl
        | cons color later =>
            simp only [List.map_cons, ih]
            rfl
      · simp only [List.map_cons, ih]

theorem distribute_uncolored (plots : List (Plot α)) (colors : List String) :
    (distribute plots colors).map uncolored = plots.map uncolored := by
  induction plots generalizing colors with
  | nil => rfl
  | cons plot rest ih =>
      unfold distribute
      split
      · simp only [List.map_cons, ih, uncolored, giveColors_uncolored]
      · simp only [List.map_cons, ih]

theorem visible_uncolored {first second : List (Plot α)}
    (same : first.map uncolored = second.map uncolored) :
    (first.filter isVisible).map uncolored = (second.filter isVisible).map uncolored := by
  have listed := congrArg (List.filter isVisible) same
  rwa [List.filter_map, List.filter_map] at listed

/-! ### Hidden plots -/

theorem takesColors_of_hidden {plot : Plot α} (hidden : plot.isVisible = false) :
    plot.takesColors = false := by
  simp [takesColors, hidden]

private theorem colorSlots_of_hidden {plot : Plot α} (hidden : plot.isVisible = false) :
    plot.colorSlots = [] := by
  simp [colorSlots, takesColors_of_hidden hidden]

theorem flatMap_colorSlots_visible (plots : List (Plot α)) :
    (plots.filter isVisible).flatMap colorSlots = plots.flatMap colorSlots := by
  induction plots with
  | nil => rfl
  | cons plot rest ih =>
      rw [List.filter_cons, List.flatMap_cons]
      cases shown : plot.isVisible with
      | true => rw [if_pos rfl, List.flatMap_cons, ih]
      | false => rw [colorSlots_of_hidden shown, List.nil_append, ← ih]; rfl

/-- The visible plots are given the same colors whether hidden ones stand between them. -/
private theorem distribute_visible (plots : List (Plot α)) (colors : List String) :
    (distribute plots colors).filter isVisible = distribute (plots.filter isVisible) colors := by
  induction plots generalizing colors with
  | nil => rfl
  | cons plot rest ih =>
      rw [List.filter_cons]
      cases shown : plot.isVisible with
      | true =>
          rw [if_pos rfl]
          unfold distribute
          split
          · rw [List.filter_cons_of_pos (by exact shown), ih]
          · rw [List.filter_cons_of_pos shown, ih]
      | false =>
          rw [distribute, takesColors_of_hidden shown, if_neg Bool.false_ne_true,
            List.filter_cons_of_neg (by simp [shown]), ih]
          rfl

theorem distribute_hidden {plots : List (Plot α)} (colors : List String) {index : Nat}
    {plot : Plot α} (found : plots[index]? = some plot) (hidden : plot.isVisible = false) :
    (distribute plots colors)[index]? = some plot := by
  induction plots generalizing colors index with
  | nil => cases found
  | cons first rest ih =>
      cases index with
      | zero =>
          cases found
          rw [distribute, takesColors_of_hidden hidden, if_neg Bool.false_ne_true]
          rfl
      | succ index =>
          unfold distribute
          split <;> exact ih _ found

/-- The colors of visible plots and the palette depend on the visible plots alone. -/
theorem setColors_visible (plots : List (Plot α)) (palette : Palette) :
    setColors (plots.filter isVisible) palette =
      ((setColors plots palette).1.filter isVisible, (setColors plots palette).2) := by
  simp only [setColors, List.filter_filter, Bool.and_self, flatMap_colorSlots_visible,
    distribute_visible]

/-! ### Handing out colors once more -/

def configuredColors (plot : Plot α) : List String :=
  plot.series.filterMap fun series => (series.style.orElse plot.options.style).color

private theorem configuredColors_uncolored (plot : Plot α) :
    plot.uncolored.configuredColors = plot.configuredColors := by
  simp only [configuredColors, uncolored, List.filterMap_map]
  rfl

/-- A visible plot shows the colors that its options ask for, and those held by its slots. -/
private theorem mem_colors_iff {plot : Plot α} (shown : plot.isVisible = true) (color : String) :
    color ∈ plot.colors ↔ color ∈ plot.configuredColors ∨ some color ∈ plot.colorSlots := by
  simp only [colors, configuredColors, colorSlots, takesColors, shown, Bool.true_and, styleOf,
    SeriesStyle.orElse, List.mem_filterMap]
  cases plot.options.style.color with
  | some plotColor => simp
  | none =>
      simp only [Option.isNone_none, if_true, List.mem_map, List.mem_filter, isColorless]
      constructor
      · rintro ⟨series, member, shows⟩
        cases own : series.style.color with
        | some ownColor => exact .inl ⟨series, member, by simpa [own] using shows⟩
        | none => exact .inr ⟨series, ⟨member, by simp [own]⟩, by simpa [own] using shows⟩
      · rintro (⟨series, member, asks⟩ | ⟨series, ⟨member, colorless⟩, holds⟩)
        · exact ⟨series, member, by rw [asks]; rfl⟩
        · exact ⟨series, member, by simp [Option.isNone_iff_eq_none.mp colorless, holds]⟩

theorem mem_shownColors_iff (plots : List (Plot α)) (color : String) :
    color ∈ (plots.filter isVisible).flatMap colors ↔
      color ∈ (plots.filter isVisible).flatMap configuredColors ∨
        some color ∈ plots.flatMap colorSlots := by
  rw [← flatMap_colorSlots_visible]
  simp only [List.mem_flatMap]
  constructor
  · rintro ⟨plot, member, shows⟩
    rcases (mem_colors_iff (List.mem_filter.mp member).2 color).mp shows with asks | holds
    · exact .inl ⟨plot, member, asks⟩
    · exact .inr ⟨plot, member, holds⟩
  · rintro (⟨plot, member, asks⟩ | ⟨plot, member, holds⟩)
    · exact ⟨plot, member, (mem_colors_iff (List.mem_filter.mp member).2 color).mpr (.inl asks)⟩
    · exact ⟨plot, member, (mem_colors_iff (List.mem_filter.mp member).2 color).mpr (.inr holds)⟩

private theorem configuredColors_of_uncolored {first second : List (Plot α)}
    (same : first.map uncolored = second.map uncolored) :
    (first.filter isVisible).flatMap configuredColors =
      (second.filter isVisible).flatMap configuredColors := by
  have byUncolored (plots : List (Plot α)) :
      plots.flatMap configuredColors = (plots.map uncolored).flatMap configuredColors := by
    simp only [List.flatMap_map, configuredColors_uncolored]
  rw [byUncolored, visible_uncolored same, ← byUncolored]

theorem giveColors_append (all : List (Series α)) {own : List String} (later : List String)
    (enough : own.length = (all.filter isColorless).length) :
    (giveColors all (own ++ later)).2 = later ∧
      ((giveColors all (own ++ later)).1.filter isColorless).map Series.assignedColor =
        own.map some := by
  induction all generalizing own with
  | nil =>
      rw [List.eq_nil_of_length_eq_zero enough]
      exact ⟨rfl, rfl⟩
  | cons series rest ih =>
      unfold giveColors
      rw [List.filter_cons] at enough
      split
      case isTrue colorless =>
        rw [if_pos colorless, List.length_cons] at enough
        obtain ⟨color, others, rfl⟩ := List.exists_cons_of_length_eq_add_one enough
        obtain ⟨left, slots⟩ := ih (Nat.succ.inj enough)
        refine ⟨left, ?_⟩
        simp only [List.cons_append]
        rw [List.filter_cons_of_pos (by exact colorless), List.map_cons, List.map_cons, slots]
      case isFalse colored =>
        rw [if_neg colored] at enough
        obtain ⟨left, slots⟩ := ih enough
        refine ⟨left, ?_⟩
        rw [List.filter_cons_of_neg colored, slots]

theorem distribute_slots {plots : List (Plot α)} {colors : List String}
    (enough : colors.length = (plots.flatMap colorSlots).length) :
    (distribute plots colors).flatMap colorSlots = colors.map some := by
  induction plots generalizing colors with
  | nil =>
      rw [List.eq_nil_of_length_eq_zero enough]
      rfl
  | cons plot rest ih =>
      unfold distribute
      rw [List.flatMap_cons, List.length_append] at enough
      split
      case isTrue takes =>
        have own : plot.colorSlots.length = (plot.series.filter isColorless).length := by
          simp [colorSlots, takes]
        let taken := colors.take (plot.series.filter isColorless).length
        let later := colors.drop (plot.series.filter isColorless).length
        have split : colors = taken ++ later := (List.take_append_drop _ _).symm
        have takenLength : taken.length = (plot.series.filter isColorless).length := by
          simp only [taken, List.length_take]
          omega
        obtain ⟨left, slots⟩ := giveColors_append plot.series later takenLength
        have given : ({ plot with series := (giveColors plot.series colors).1 } :
            Plot α).colorSlots = taken.map some := by
          rw [split, ← slots]
          exact if_pos takes
        simp only [List.flatMap_cons, given]
        rw [split, left, ih (by simp only [later, List.length_drop]; omega), List.map_append]
      case isFalse refuses =>
        have none : plot.colorSlots = [] := by simp [colorSlots, refuses]
        rw [List.flatMap_cons, none, List.nil_append]
        exact ih (by simpa [none] using enough)

private theorem giveColors_held (all : List (Series α)) {own : List String} (later : List String)
    (held : (all.filter isColorless).map Series.assignedColor = own.map some) :
    giveColors all (own ++ later) = (all, later) := by
  induction all generalizing own with
  | nil =>
      rw [List.map_eq_nil_iff.mp held.symm]
      rfl
  | cons series rest ih =>
      unfold giveColors
      rw [List.filter_cons] at held
      split
      case isTrue colorless =>
        rw [if_pos colorless, List.map_cons] at held
        obtain ⟨color, others, rfl, holds, rest⟩ := List.map_eq_cons_iff.mp held.symm
        simp only [List.cons_append, ih rest.symm]
        rw [holds]
      case isFalse colored =>
        rw [if_neg colored] at held
        simp only [ih held]

private theorem distribute_held {plots : List (Plot α)} {colors : List String}
    (held : plots.flatMap colorSlots = colors.map some) : distribute plots colors = plots := by
  induction plots generalizing colors with
  | nil => rfl
  | cons plot rest ih =>
      unfold distribute
      rw [List.flatMap_cons] at held
      split
      case isTrue takes =>
        obtain ⟨own, later, rfl, ownHeld, laterHeld⟩ := List.map_eq_append_iff.mp held.symm
        have slots : (plot.series.filter isColorless).map Series.assignedColor =
            own.map some := by
          rw [ownHeld, colorSlots, if_pos takes]
        simp only [giveColors_held plot.series later slots, ih laterHeld.symm]
      case isFalse refuses =>
        have none : plot.colorSlots = [] := by simp [colorSlots, refuses]
        rw [ih (by rwa [none, List.nil_append] at held)]

/-- The colors in use after an assignment are those that it rotated the palette on, so doing
it once more neither hands out another color nor moves one in the palette. -/
theorem setColors_idempotent (plots : List (Plot α)) (palette : Palette) :
    setColors (setColors plots palette).1 (setColors plots palette).2 =
      setColors plots palette := by
  let used := (plots.filter isVisible).flatMap colors
  let slots := plots.flatMap colorSlots
  let filled := (palette.fill ⟨used, 0⟩ slots).1
  let final := (palette.fill ⟨used, 0⟩ slots).2
  let given := distribute plots filled
  have once : setColors plots palette = (given, palette.recycle final.inUse) := rfl
  have slotsGiven : given.flatMap colorSlots = filled.map some :=
    distribute_slots (palette.fill_length _ _)
  have slotsUsed : ∀ color, some color ∈ slots → color ∈ used := fun color member =>
    (mem_shownColors_iff plots color).mpr (.inr member)
  have sameColors (color : String) :
      color ∈ (given.filter isVisible).flatMap colors ↔ color ∈ final.inUse := by
    rw [palette.mem_fill_inUse slotsUsed, mem_shownColors_iff, mem_shownColors_iff, slotsGiven,
      configuredColors_of_uncolored (distribute_uncolored plots filled), or_assoc]
    simp only [List.mem_map, Option.some.injEq, exists_eq_right]
    -- what a slot held before it still holds
    refine or_congr_right ⟨.inr, ?_⟩
    rintro (held | chosen)
    · exact palette.mem_fill_of_held _ held
    · exact chosen
  rw [once]
  -- every slot is filled by now, so the second time takes no color from the palette
  simp only [setColors, Palette.assign, slotsGiven, Palette.fill_held, distribute_held slotsGiven]
  rw [Palette.recycle_congr _ sameColors, Palette.recycle_idempotent]

end Plot
end CanvasChart
