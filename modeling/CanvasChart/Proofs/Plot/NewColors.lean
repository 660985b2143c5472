import CanvasChart.Proofs.Plot.Recoloring

set_option autoImplicit false

/-! The colors that handing out colors brings. Every open series of a visible plot without a
color gets one, what shows a color goes on to show it, and while the palette has enough unused
colors the new ones differ from each other and from all that are shown. -/

namespace CanvasChart

variable {α : Type}

/-- The color that a series was given between two moments. -/
def Series.gain? (before after : Series α) : Option String :=
  if before.assignedColor.isNone then after.assignedColor else none

namespace Palette

/-- The color that a slot was handed, if the slot was open. -/
def handed? (slot : Option String × String) : Option String :=
  if slot.1.isNone then some slot.2 else none

private theorem handed?_eq_some_iff {slot : Option String × String} {color : String} :
    handed? slot = some color ↔ slot.1 = none ∧ slot.2 = color := by
  simp [handed?]

private theorem length_handed {slots : List (Option String)} {colors : List String}
    (sameLength : colors.length = slots.length) :
    ((slots.zip colors).filterMap handed?).length = (slots.filter Option.isNone).length := by
  induction slots generalizing colors with
  | nil => rfl
  | cons slot rest ih =>
      obtain ⟨color, later, rfl⟩ := List.exists_cons_of_length_eq_add_one sameLength
      rw [List.zip_cons_cons]
      cases slot <;> simp [handed?, ih (Nat.succ.inj sameLength)]

end Palette

namespace Plot

def isOpen (series : Series α) : Bool := isColorless series && series.assignedColor.isNone

def openSeries (plots : List (Plot α)) : List (Series α) :=
  (plots.filter takesColors).flatMap fun plot => plot.series.filter isOpen

def gains (before after : Plot α) : List String :=
  (before.series.zip after.series).filterMap fun pair => pair.1.gain? pair.2

def newColors (before after : List (Plot α)) : List String :=
  (before.zip after).flatMap fun pair => pair.1.gains pair.2

/-- Every series that shows a color goes on to show it. -/
def KeepsColors (before after : Plot α) : Prop :=
  ∀ index color, (before.seriesStyle index).color = some color →
    (after.seriesStyle index).color = some color

private theorem openSeries_length (plots : List (Plot α)) :
    (openSeries plots).length = ((plots.flatMap colorSlots).filter Option.isNone).length := by
  induction plots with
  | nil => rfl
  | cons plot rest ih =>
      rw [List.flatMap_cons, List.filter_append, List.length_append, ← ih, openSeries,
        List.filter_cons, colorSlots]
      cases plot.takesColors with
      | false => simp [openSeries]
      | true =>
          rw [if_pos rfl, if_pos rfl, List.flatMap_cons, List.length_append, List.filter_map,
            List.length_map, List.filter_filter, openSeries]
          congr 3
          funext series
          exact Bool.and_comm _ _

/-! ### Shown colors stay -/

theorem Recolored.keepsColors {before after : Plot α} (recolored : before.Recolored after) :
    before.KeepsColors after := by
  intro index color shows
  cases takes : before.takesColors with
  | false => rwa [recolored.kept takes]
  | true =>
      have plain : before.options.style.color = none := by
        simpa using (Bool.and_eq_true_iff.mp takes).2
      by_cases inside : index < before.series.length
      case neg =>
        -- beyond the last series only the options of the plot count
        have found := List.getElem?_eq_none_iff.mpr (Nat.le_of_not_lt inside)
        simp [seriesStyle, found, plain] at shows
      case pos =>
        have afterInside : index < after.series.length := recolored.series.length_eq ▸ inside
        have found := List.getElem?_eq_getElem inside
        have given : before.series[index].Given after.series[index] :=
          recolored.series.get inside afterInside
        rcases given with same | ⟨colorless, opened, _given⟩
        · have sameStyle : after.seriesStyle index = before.seriesStyle index := by
            simp only [seriesStyle, List.getElem?_eq_getElem afterInside, found, same, styleOf,
              recolored.options]
          rwa [sameStyle]
        · have own : before.series[index].style.color = none := Option.isNone_iff_eq_none.mp colorless
          simp [seriesStyle, found, styleOf, SeriesStyle.orElse, own, plain, opened] at shows

/-! ### New colors are those that fill open slots -/

def filled? (slot : Option String × Option String) : Option String :=
  if slot.1.isNone then slot.2 else none

private theorem gain?_self (series : Series α) : series.gain? series = none := by
  unfold Series.gain?
  cases series.assignedColor <;> rfl

private theorem gains_self (plot : Plot α) : plot.gains plot = [] := by
  unfold gains
  induction plot.series with
  | nil => rfl
  | cons first rest ih => rw [List.zip_cons_cons, List.filterMap_cons, gain?_self, ih]

private theorem filterMap_gain? {before after : List (Series α)}
    (given : List.Forall₂ Series.Given before after) :
    ((before.zip after).filterMap fun pair => pair.1.gain? pair.2) =
      (((before.filter isColorless).map Series.assignedColor).zip
        ((after.filter isColorless).map Series.assignedColor)).filterMap filled? := by
  induction given with
  | nil => rfl
  | @cons first firstAfter rest restAfter given _rest ih =>
      rw [List.zip_cons_cons, List.filterMap_cons, List.filter_cons, List.filter_cons, ih]
      rcases given with rfl | ⟨colorless, opened, color, rfl⟩
      · cases isColorless firstAfter <;> simp [gain?_self, filled?]
      · have stays : isColorless { first with assignedColor := some color } = true := colorless
        rw [if_pos colorless, if_pos stays, List.map_cons, List.map_cons, List.zip_cons_cons,
          List.filterMap_cons]
        simp [Series.gain?, filled?, opened]

theorem Recolored.gains_eq {before after : Plot α} (recolored : before.Recolored after) :
    before.gains after = (slotPairs (before, after)).filterMap filled? := by
  cases takes : before.takesColors with
  | false =>
      rw [recolored.kept takes, gains_self]
      simp [slotPairs, colorSlots, takes]
  | true =>
      have afterTakes : after.takesColors = true := by
        rwa [takesColors, isVisible, recolored.options]
      rw [slotPairs, colorSlots, colorSlots, if_pos takes, if_pos afterTakes]
      exact filterMap_gain? recolored.series

private theorem newColors_eq {before after : List (Plot α)}
    (recolored : List.Forall₂ Recolored before after) :
    newColors before after =
      ((before.flatMap colorSlots).zip (after.flatMap colorSlots)).filterMap filled? := by
  rw [← flatMap_slotPairs recolored, newColors, List.filterMap_flatMap]
  refine List.flatMap_congr fun pair member => ?_
  exact (List.forall₂_zip recolored member).gains_eq

private theorem setColors_newColors (plots : List (Plot α)) (palette : Palette) :
    newColors plots (setColors plots palette).1 =
      ((plots.flatMap colorSlots).zip
        (palette.fill ⟨(plots.filter isVisible).flatMap colors, 0⟩
          (plots.flatMap colorSlots)).1).filterMap Palette.handed? := by
  rw [newColors_eq (setColors_recolored plots palette), setColors, Palette.assign,
    distribute_slots (palette.fill_length _ _), List.zip_map_right, List.filterMap_map]
  rfl

/-- Handing out colors changes nothing but the assigned colors of open series. Afterwards every
series of a visible plot shows a color, and every color that was shown is shown still. While
the palette has an unused color for every open series, these get different ones, and none of
them was shown before. -/
theorem setColors_open_series (plots : List (Plot α)) (palette : Palette) :
    let given := (setColors plots palette).1
    let shown := (plots.filter isVisible).flatMap colors
    List.Forall₂ Recolored plots given ∧
      (∀ plot ∈ given, plot.isVisible = true →
        ∀ index < plot.series.length, (plot.seriesStyle index).color.isSome = true) ∧
      List.Forall₂ KeepsColors plots given ∧
      (newColors plots given).length = (openSeries plots).length ∧
      ((openSeries plots).length ≤ (palette.unused shown).card →
        (newColors plots given).Nodup ∧ ∀ color ∈ newColors plots given, color ∉ shown) := by
  intro given shown
  have recolored := setColors_recolored plots palette
  have handed : newColors plots given = _ := setColors_newColors plots palette
  refine ⟨recolored, setColors_shown plots palette,
    recolored.imp fun _before _after each => each.keepsColors, ?_, fun enough => ?_⟩
  · rw [handed, Palette.length_handed (palette.fill_length _ _), openSeries_length]
  · have held : ∀ color, some color ∈ plots.flatMap colorSlots → color ∈ shown :=
      fun color member => (mem_shownColors_iff plots color).mpr (.inr member)
    rw [openSeries_length] at enough
    obtain ⟨fresh, separate⟩ := palette.fill_separate ⟨shown, 0⟩ held enough
    rw [handed]
    constructor
    · refine List.pairwise_filterMap.mpr (separate.imp fun apart color here next there => ?_)
      obtain ⟨opened, rfl⟩ := Palette.handed?_eq_some_iff.mp here
      obtain ⟨_opened, rfl⟩ := Palette.handed?_eq_some_iff.mp there
      exact apart (.inl opened)
    · intro color member
      obtain ⟨slot, listed, filled⟩ := List.mem_filterMap.mp member
      obtain ⟨opened, rfl⟩ := Palette.handed?_eq_some_iff.mp filled
      exact fresh slot listed opened

def mixedPlots : List (Plot Float) :=
  [⟨.bar, .standard, [.empty, { Series.empty with style.color := some "#ef4444" }]⟩,
    ⟨.line, { PlotOptions.standard with visible := false }, [.empty]⟩,
    ⟨.line, .standard, [.empty]⟩]

/-- Two series of them are given colors, and neither the one that the third series shows. -/
theorem setColors_open_series_mixed :
    (openSeries mixedPlots).length = 2 ∧
      2 ≤ (Palette.standard.unused ((mixedPlots.filter isVisible).flatMap colors)).card ∧
      (newColors mixedPlots (setColors mixedPlots .standard).1).Nodup ∧
      "#ef4444" ∉ newColors mixedPlots (setColors mixedPlots .standard).1 := by
  obtain ⟨_recolored, _shown, _kept, _length, apart⟩ := setColors_open_series mixedPlots .standard
  have enough : 2 ≤
      (Palette.standard.unused ((mixedPlots.filter isVisible).flatMap colors)).card := by decide
  obtain ⟨different, unshown⟩ := apart enough
  exact ⟨rfl, enough, different, fun member => unshown "#ef4444" member (by decide)⟩

end Plot
end CanvasChart
