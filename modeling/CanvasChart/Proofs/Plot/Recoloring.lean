import Mathlib.Data.Finset.Card
import Mathlib.Data.List.Forall2
import Mathlib.Data.List.ReduceOption
import CanvasChart.Proofs.Plot.Coloring

set_option autoImplicit false

/-! What handing out colors does to single series. A series that takes part and holds no color
gets one, all others stay what they are, and as long as the palette has enough colors the new
ones are in nobody's use. -/

namespace CanvasChart

namespace Palette

theorem recycle_perm (palette : Palette) (used : List String) :
    (palette.recycle used).colors.Perm palette.colors := by
  have split := List.filter_append_perm (fun color => used.contains color) palette.colors
  exact List.perm_append_comm.trans split

/-- A filled slot shows the color that it held. -/
def Fills (slot : Option String) (color : String) : Prop := ∀ held, slot = some held → color = held

private theorem fill_fills (palette : Palette) (progress : Progress)
    (slots : List (Option String)) : List.Forall₂ Fills slots (palette.fill progress slots).1 := by
  induction slots generalizing progress with
  | nil => exact .nil
  | cons slot rest ih =>
      cases slot with
      | none =>
          refine .cons ?_ (ih _)
          intro held impossible
          cases impossible
      | some color =>
          refine .cons ?_ (ih _)
          intro held same
          exact Option.some.inj same

private theorem fills_append {slots rest : List (Option String)} {colors : List String}
    (fills : List.Forall₂ Fills (slots ++ rest) colors) :
    ∃ own later, colors = own ++ later ∧ List.Forall₂ Fills slots own ∧
      List.Forall₂ Fills rest later := by
  have own := List.forall₂_take slots.length fills
  have later := List.forall₂_drop slots.length fills
  rw [List.take_left] at own
  rw [List.drop_left] at later
  exact ⟨_, _, (List.take_append_drop slots.length colors).symm, own, later⟩

def unused (palette : Palette) (inUse : List String) : Finset String :=
  palette.colors.toFinset \ inUse.toFinset

private theorem mem_unused {palette : Palette} {inUse : List String} {color : String} :
    color ∈ palette.unused inUse ↔ color ∈ palette.colors ∧ color ∉ inUse := by
  rw [unused, Finset.mem_sdiff, List.mem_toFinset, List.mem_toFinset]

private theorem unused_append (palette : Palette) (inUse : List String) (color : String) :
    palette.unused (inUse ++ [color]) = (palette.unused inUse).erase color := by
  ext other
  simp only [mem_unused, Finset.mem_erase, List.mem_append, List.mem_singleton, not_or]
  tauto

private theorem nextColor_mem_unused {palette : Palette} {progress : Progress}
    (left : (palette.unused progress.inUse).Nonempty) :
    (palette.nextColor progress).1 ∈ palette.unused progress.inUse := by
  obtain ⟨free, member⟩ := left
  obtain ⟨listed, unused⟩ := mem_unused.mp member
  unfold nextColor
  split
  case h_1 color found =>
    refine mem_unused.mpr ⟨List.mem_of_find?_eq_some found, ?_⟩
    simpa using List.find?_some found
  case h_2 exhausted =>
    have inUse := List.find?_eq_none.mp exhausted free listed
    exact absurd unused (by simpa using inUse)

/-- Of two slots at least one of which was open, both do not show the same color. -/
def Separate {β : Type} (first second : Option String × β) : Prop :=
  first.1 = none ∨ second.1 = none → first.2 ≠ second.2

theorem Separate.symm {β : Type} {first second : Option String × β}
    (separate : Separate first second) : Separate second first :=
  fun opened same => separate opened.symm same.symm

private theorem ne_of_fill {palette : Palette} {progress : Progress} {slots : List (Option String)}
    {color : String} (used : color ∈ progress.inUse) (unheld : some color ∉ slots)
    (fresh : ∀ filled ∈ slots.zip (palette.fill progress slots).1,
      filled.1 = none → filled.2 ∉ progress.inUse) :
    ∀ filled ∈ slots.zip (palette.fill progress slots).1, color ≠ filled.2 := by
  intro filled member same
  cases slot : filled.1 with
  | none => exact fresh filled member slot (same ▸ used)
  | some held =>
      have shows : filled.2 = held :=
        List.forall₂_zip (palette.fill_fills progress slots) member held slot
      have stored : some held ∈ slots := slot ▸ (List.of_mem_zip member).1
      rw [← shows, ← same] at stored
      exact unheld stored

/-- While unused colors are left for all open slots, these get different ones. -/
theorem fill_separate (palette : Palette) (progress : Progress) {slots : List (Option String)}
    (held : ∀ color, some color ∈ slots → color ∈ progress.inUse)
    (enough : (slots.filter Option.isNone).length ≤ (palette.unused progress.inUse).card) :
    (∀ filled ∈ slots.zip (palette.fill progress slots).1,
      filled.1 = none → filled.2 ∉ progress.inUse) ∧
    (slots.zip (palette.fill progress slots).1).Pairwise Separate := by
  induction slots generalizing progress with
  | nil => exact ⟨List.forall_mem_nil _, .nil⟩
  | cons slot rest ih =>
      have restHeld : ∀ other, some other ∈ rest → other ∈ progress.inUse :=
        fun other member => held other (List.mem_cons_of_mem _ member)
      cases slot with
      | some color =>
          have used : color ∈ progress.inUse := held color List.mem_cons_self
          obtain ⟨fresh, separate⟩ := ih progress restHeld enough
          simp only [fill, List.zip_cons_cons]
          have closed : some color ≠ none := Option.some_ne_none color
          refine ⟨List.forall_mem_cons.mpr ⟨fun opened => absurd opened closed, fresh⟩,
            .cons (fun filled member => ?_) separate⟩
          rintro (opened | opened) same
          · exact absurd opened closed
          · exact fresh filled member opened (same ▸ used)
      | none =>
          let next := (palette.nextColor progress).1
          have grown : (palette.nextColor progress).2.inUse = progress.inUse ++ [next] :=
            palette.nextColor_inUse progress
          rw [List.filter_cons_of_pos rfl, List.length_cons] at enough
          have unused : next ∈ palette.unused progress.inUse :=
            nextColor_mem_unused (Finset.card_pos.mp (by omega))
          obtain ⟨fresh, separate⟩ := ih _ (palette.held_nextColor restHeld) (by
            rw [grown, unused_append, Finset.card_erase_of_mem unused]
            omega)
          have used : next ∈ (palette.nextColor progress).2.inUse := by
            rw [grown]
            exact List.mem_append_right _ List.mem_cons_self
          have unheld : some next ∉ rest := fun stored =>
            (mem_unused.mp unused).2 (held next (List.mem_cons_of_mem _ stored))
          have apart := ne_of_fill used unheld fresh
          rw [grown] at fresh
          simp only [fill, List.zip_cons_cons]
          refine ⟨List.forall_mem_cons.mpr ⟨fun _opened => (mem_unused.mp unused).2, ?_⟩,
            .cons (fun filled member _opened => apart filled member) separate⟩
          intro filled member opened inUse
          exact fresh filled member opened (List.mem_append_left _ inUse)

end Palette

/-! ### Plots -/

variable {α : Type}

/-- A series as it was, or an open one with a color handed out to it. -/
def Series.Given (before after : Series α) : Prop :=
  after = before ∨ Plot.isColorless before = true ∧ before.assignedColor = none ∧
    ∃ color, after = { before with assignedColor := some color }

theorem Series.given_styles {before after : List (Series α)}
    (given : List.Forall₂ Series.Given before after) :
    after.map Series.style = before.map Series.style := by
  induction given with
  | nil => rfl
  | cons first _rest ih =>
      rcases first with same | ⟨_colorless, _open, color, same⟩
      · simp only [List.map_cons, ih, same]
      · simp only [List.map_cons, ih, same]

namespace Plot

/-- A plot as it was but for colors that were handed out to open series, if it takes any. -/
structure Recolored (before after : Plot α) : Prop where
  kind : after.kind = before.kind
  options : after.options = before.options
  series : List.Forall₂ Series.Given before.series after.series
  kept : before.takesColors = false → after = before

theorem Recolored.refl (plot : Plot α) : plot.Recolored plot :=
  ⟨rfl, rfl, List.forall₂_same.mpr fun _series _listed => .inl rfl, fun _refuses => rfl⟩

private theorem giveColors_given (all : List (Series α)) {own : List String} (later : List String)
    (fills : List.Forall₂ Palette.Fills ((all.filter isColorless).map Series.assignedColor) own) :
    List.Forall₂ Series.Given all (giveColors all (own ++ later)).1 := by
  induction all generalizing own with
  | nil => exact .nil
  | cons series rest ih =>
      unfold giveColors
      rw [List.filter_cons] at fills
      split
      case isTrue colorless =>
        rw [if_pos colorless, List.map_cons, List.forall₂_cons_left_iff] at fills
        obtain ⟨color, others, shows, restFills, rfl⟩ := fills
        refine .cons ?_ (ih restFills)
        cases held : series.assignedColor with
        | none => exact .inr ⟨colorless, held, color, rfl⟩
        | some assigned =>
            left
            rw [shows assigned held, ← held]
      case isFalse colored =>
        rw [if_neg colored] at fills
        exact .cons (.inl rfl) (ih fills)

private theorem distribute_recolored {plots : List (Plot α)} {colors : List String}
    (fills : List.Forall₂ Palette.Fills (plots.flatMap colorSlots) colors) :
    List.Forall₂ Recolored plots (distribute plots colors) := by
  induction plots generalizing colors with
  | nil => exact .nil
  | cons plot rest ih =>
      unfold distribute
      rw [List.flatMap_cons] at fills
      split
      case isTrue takes =>
        obtain ⟨own, later, rfl, ownFills, laterFills⟩ := Palette.fills_append fills
        rw [colorSlots, if_pos takes] at ownFills
        have sameLength := ownFills.length_eq
        rw [List.length_map] at sameLength
        obtain ⟨left, _slots⟩ := giveColors_append plot.series later sameLength.symm
        simp only [left]
        refine .cons ⟨rfl, rfl, giveColors_given plot.series later ownFills, ?_⟩ (ih laterFills)
        intro refuses
        rw [takes] at refuses
        cases refuses
      case isFalse refuses =>
        have none : plot.colorSlots = [] := by simp [colorSlots, refuses]
        rw [none, List.nil_append] at fills
        refine .cons ⟨rfl, rfl, ?_, fun _refuses => rfl⟩ (ih fills)
        exact List.forall₂_same.mpr fun series _listed => .inl rfl

theorem setColors_recolored (plots : List (Plot α)) (palette : Palette) :
    List.Forall₂ Recolored plots (setColors plots palette).1 :=
  distribute_recolored (palette.fill_fills _ _)

private theorem setColors_slots (plots : List (Plot α)) (palette : Palette) :
    ∀ slot ∈ (setColors plots palette).1.flatMap colorSlots, slot.isSome = true := by
  intro slot member
  rw [setColors, Palette.assign, distribute_slots (palette.fill_length _ _)] at member
  obtain ⟨color, _given, rfl⟩ := List.mem_map.mp member
  rfl

private theorem color_isSome_of_slots {plot : Plot α} (shown : plot.isVisible = true)
    (slots : ∀ slot ∈ plot.colorSlots, slot.isSome = true) {index : Nat}
    (listed : index < plot.series.length) : (plot.seriesStyle index).color.isSome = true := by
  have found : plot.series[index]? = some plot.series[index] := List.getElem?_eq_getElem listed
  simp only [seriesStyle, found, styleOf, SeriesStyle.orElse]
  cases own : plot.series[index].style.color with
  | some color => rfl
  | none =>
      cases fallback : plot.options.style.color with
      | some color => rfl
      | none =>
          refine slots _ ?_
          rw [colorSlots, if_pos (by simp [takesColors, shown, fallback])]
          refine List.mem_map_of_mem (List.mem_filter.mpr ⟨List.getElem_mem listed, ?_⟩)
          simp [isColorless, own]

theorem setColors_shown (plots : List (Plot α)) (palette : Palette) :
    ∀ plot ∈ (setColors plots palette).1, plot.isVisible = true →
      ∀ index < plot.series.length, (plot.seriesStyle index).color.isSome = true := by
  intro plot member shown index listed
  refine color_isSome_of_slots shown (fun slot held => ?_) listed
  exact setColors_slots plots palette slot (List.mem_flatMap.mpr ⟨plot, member, held⟩)

theorem Recolored.colorSlots_length {before after : Plot α} (recolored : before.Recolored after) :
    after.colorSlots.length = before.colorSlots.length := by
  have sameTakes : after.takesColors = before.takesColors := by
    simp only [takesColors, isVisible, recolored.options]
  have byStyle (plot : Plot α) : (plot.series.filter isColorless).length =
      ((plot.series.map Series.style).filter fun style => style.color.isNone).length := by
    rw [List.filter_map, List.length_map]
    rfl
  simp only [colorSlots, sameTakes]
  split
  · rw [List.length_map, List.length_map, byStyle, Series.given_styles recolored.series, ← byStyle]
  · rfl

def slotPairs (pair : Plot α × Plot α) : List (Option String × Option String) :=
  pair.1.colorSlots.zip pair.2.colorSlots

theorem flatMap_slotPairs {plots given : List (Plot α)}
    (recolored : List.Forall₂ Recolored plots given) :
    (plots.zip given).flatMap slotPairs =
      (plots.flatMap colorSlots).zip (given.flatMap colorSlots) := by
  induction recolored with
  | nil => rfl
  | cons first _rest ih =>
      simp only [List.zip_cons_cons, List.flatMap_cons, ih]
      exact (List.zip_append first.colorSlots_length.symm).symm

/-- Series that get a color get one that no other series is shown in, as long as unused
colors are left for all of them. -/
private theorem setColors_separate {plots : List (Plot α)} {palette : Palette}
    (enough : ((plots.flatMap colorSlots).filter Option.isNone).length ≤
      (palette.unused ((plots.filter isVisible).flatMap colors)).card) :
    ((plots.zip (setColors plots palette).1).flatMap slotPairs).Pairwise Palette.Separate := by
  let used := (plots.filter isVisible).flatMap colors
  have held : ∀ color, some color ∈ plots.flatMap colorSlots → color ∈ used := fun color member =>
    (mem_shownColors_iff plots color).mpr (.inr member)
  obtain ⟨_fresh, separate⟩ := palette.fill_separate ⟨used, 0⟩ held enough
  rw [flatMap_slotPairs (setColors_recolored plots palette), setColors, Palette.assign,
    distribute_slots (palette.fill_length _ _), List.zip_map_right, List.pairwise_map]
  refine separate.imp fun apart opened same => ?_
  exact apart opened (Option.some.inj same)

def assigned? (plot : Plot α) (index : Nat) : Option String :=
  plot.series[index]?.bind Series.assignedColor

theorem Recolored.assigned?_kept {before after : Plot α} (recolored : before.Recolored after)
    {index : Nat} {color : String} (held : before.assigned? index = some color) :
    after.assigned? index = some color := by
  obtain ⟨series, found, holds⟩ := Option.bind_eq_some_iff.mp held
  obtain ⟨inside, rfl⟩ := List.getElem?_eq_some_iff.mp found
  have afterInside : index < after.series.length := recolored.series.length_eq ▸ inside
  have given : before.series[index].Given after.series[index] :=
    recolored.series.get inside afterInside
  rw [assigned?, List.getElem?_eq_getElem afterInside, Option.bind_some]
  rcases given with same | ⟨_colorless, opened, _color, _same⟩
  · rw [same, holds]
  · rw [opened] at holds
    cases holds

structure SetsNoColor (plot : Plot α) : Prop where
  own : plot.options.style.color = none
  series : ∀ series ∈ plot.series, series.style.color = none

theorem Recolored.setsNoColor {before after : Plot α} (recolored : before.Recolored after)
    (bare : before.SetsNoColor) : after.SetsNoColor where
  own := recolored.options ▸ bare.own
  series := by
    intro given listed
    have style : given.style ∈ before.series.map Series.style :=
      Series.given_styles recolored.series ▸ List.mem_map_of_mem listed
    obtain ⟨series, stored, same⟩ := List.mem_map.mp style
    rw [← same]
    exact bare.series series stored

namespace SetsNoColor

variable {plot : Plot α}

private theorem colorSlots_eq (bare : plot.SetsNoColor) (shown : plot.isVisible = true) :
    plot.colorSlots = plot.series.map Series.assignedColor := by
  rw [colorSlots, if_pos (by simp [takesColors, shown, bare.own]), List.filter_eq_self.mpr]
  intro series listed
  rw [isColorless, bare.series series listed]
  rfl

theorem color_eq (bare : plot.SetsNoColor) (index : Nat) :
    (plot.seriesStyle index).color = plot.assigned? index := by
  unfold seriesStyle assigned?
  cases found : plot.series[index]? with
  | none => exact bare.own
  | some series =>
      have own := bare.series series (List.mem_of_getElem? found)
      simp [styleOf, SeriesStyle.orElse, own, bare.own]

private theorem configuredColors_eq (bare : plot.SetsNoColor) : plot.configuredColors = [] := by
  refine List.filterMap_eq_nil_iff.mpr fun series listed => ?_
  simp [SeriesStyle.orElse, bare.series series listed, bare.own]

end SetsNoColor

def shownCount (plots : List (Plot α)) : Nat := ((plots.filter isVisible).flatMap series).length

private theorem rel_of_pairwise {β : Type} {relation : β → β → Prop}
    (symm : ∀ {first second}, relation first second → relation second first) {items : List β}
    (pairwise : items.Pairwise relation) {place other : Nat} {item next : β}
    (found : items[place]? = some item) (nextFound : items[other]? = some next)
    (different : place ≠ other) : relation item next := by
  rw [List.pairwise_iff_getElem] at pairwise
  obtain ⟨inside, rfl⟩ := List.getElem?_eq_some_iff.mp found
  obtain ⟨nextInside, rfl⟩ := List.getElem?_eq_some_iff.mp nextFound
  rcases Nat.lt_or_gt_of_ne different with before | after
  · exact pairwise place other inside nextInside before
  · exact symm (pairwise other place nextInside inside after)

section Bare

variable {plots : List (Plot α)} {palette : Palette}

private theorem colorSlots_length_bare (bare : ∀ plot ∈ plots, plot.SetsNoColor) :
    (plots.flatMap colorSlots).length = shownCount plots := by
  rw [← flatMap_colorSlots_visible, shownCount, List.length_flatMap, List.length_flatMap]
  congr 1
  refine List.map_congr_left fun plot member => ?_
  obtain ⟨listed, shown⟩ := List.mem_filter.mp member
  rw [(bare plot listed).colorSlots_eq shown, List.length_map]

private theorem unused_enough_bare (bare : ∀ plot ∈ plots, plot.SetsNoColor)
    (few : shownCount plots ≤ palette.colors.toFinset.card) :
    ((plots.flatMap colorSlots).filter Option.isNone).length ≤
      (palette.unused ((plots.filter isVisible).flatMap colors)).card := by
  let slots := plots.flatMap colorSlots
  let used := (plots.filter isVisible).flatMap colors
  have heldOnly : used.toFinset ⊆ slots.reduceOption.toFinset := by
    intro color member
    rw [List.mem_toFinset] at member ⊢
    rcases (mem_shownColors_iff plots color).mp member with asks | holds
    · obtain ⟨plot, listed, asked⟩ := List.mem_flatMap.mp asks
      rw [(bare plot (List.mem_filter.mp listed).1).configuredColors_eq] at asked
      cases asked
    · exact List.reduceOption_mem_iff.mpr holds
  have fewUsed : used.toFinset.card ≤ slots.reduceOption.length :=
    (Finset.card_le_card heldOnly).trans (List.toFinset_card_le _)
  have split := slots.length_eq_reduceOption_length_add_filter_none
  have all : slots.length = shownCount plots := colorSlots_length_bare bare
  have left := Finset.le_card_sdiff used.toFinset palette.colors.toFinset
  change (slots.filter Option.isNone).length ≤ (palette.colors.toFinset \ used.toFinset).card
  omega

private theorem slotPairs_getElem? {before after : Plot α} (bare : before.SetsNoColor)
    (recolored : before.Recolored after) (shown : before.isVisible = true) {index : Nat}
    (listed : index < before.series.length) :
    (slotPairs (before, after))[index]? =
      some (before.assigned? index, after.assigned? index) := by
  have sameLength := recolored.series.length_eq
  have afterShown : after.isVisible = true := by rwa [isVisible, recolored.options]
  have slot (plot : Plot α) (inside : index < plot.series.length) :
      (plot.series.map Series.assignedColor)[index]? = some (plot.assigned? index) := by
    rw [List.getElem?_map, assigned?, List.getElem?_eq_getElem inside]
    rfl
  rw [slotPairs, bare.colorSlots_eq shown, (recolored.setsNoColor bare).colorSlots_eq afterShown,
    List.getElem?_zip_eq_some]
  exact ⟨slot before listed, slot after (sameLength ▸ listed)⟩

/-- Of two visible series the chart hands a color to one only if the other is shown in
another one, as long as the palette has a color for every visible series. -/
theorem setColors_apart (bare : ∀ plot ∈ plots, plot.SetsNoColor)
    (few : shownCount plots ≤ palette.colors.toFinset.card)
    {first firstAfter second secondAfter : Plot α} {place other index otherIndex : Nat}
    (found : plots[place]? = some first)
    (foundAfter : (setColors plots palette).1[place]? = some firstAfter)
    (otherFound : plots[other]? = some second)
    (otherAfter : (setColors plots palette).1[other]? = some secondAfter)
    (shown : first.isVisible = true) (otherShown : second.isVisible = true)
    (listed : index < first.series.length) (otherListed : otherIndex < second.series.length)
    (different : place ≠ other ∨ index ≠ otherIndex) (opened : first.assigned? index = none) :
    firstAfter.assigned? index ≠ secondAfter.assigned? otherIndex := by
  have recolored := setColors_recolored plots palette
  have paired {place : Nat} {before after : Plot α} (atPlace : plots[place]? = some before)
      (given : (setColors plots palette).1[place]? = some after) :
      (plots.zip (setColors plots palette).1)[place]? = some (before, after) :=
    List.getElem?_zip_eq_some.mpr ⟨atPlace, given⟩
  have slots {place index : Nat} {before after : Plot α} (atPlace : plots[place]? = some before)
      (given : (setColors plots palette).1[place]? = some after)
      (shown : before.isVisible = true) (listed : index < before.series.length) :
      (slotPairs (before, after))[index]? =
        some (before.assigned? index, after.assigned? index) := by
    have among := List.mem_of_getElem? (paired atPlace given)
    exact slotPairs_getElem? (bare before (List.mem_of_getElem? atPlace))
      (List.forall₂_zip recolored among) shown listed
  have own := slots found foundAfter shown listed
  have others := slots otherFound otherAfter otherShown otherListed
  have pairs := setColors_separate (unused_enough_bare bare few)
  obtain ⟨within, across⟩ := List.pairwise_flatMap.mp pairs
  have separate : Palette.Separate (first.assigned? index, firstAfter.assigned? index)
      (second.assigned? otherIndex, secondAfter.assigned? otherIndex) := by
    by_cases samePlace : place = other
    · subst samePlace
      cases found.symm.trans otherFound
      cases foundAfter.symm.trans otherAfter
      have apart := different.resolve_left fun apart => apart rfl
      exact rel_of_pairwise Palette.Separate.symm
        (within _ (List.mem_of_getElem? (paired found foundAfter))) own others apart
    · refine rel_of_pairwise ?_ across (paired found foundAfter) (paired otherFound otherAfter)
        samePlace _ (List.mem_of_getElem? own) _ (List.mem_of_getElem? others)
      intro one next apart slot inNext filled inOne
      exact (apart filled inOne slot inNext).symm
  exact separate (.inl opened)

end Bare

end Plot
end CanvasChart
