import Mathlib.Data.List.Find
import Mathlib.Data.List.Pairwise
import CanvasChart.Proofs.Plot.Coloring

set_option autoImplicit false

/-! What a palette hands out, in closed form. Open slots get the fresh colors in palette order
and after these the palette over and over; the colors in use then go to the end. -/

namespace CanvasChart.Palette

def freshColors (palette : Palette) (used : List String) : List String :=
  (palette.colors.filter fun color => !used.contains color).eraseDups

/-- The color of an open slot by its number among the open slots, counted from zero: a fresh
color while there is one, then the palette from its start, again and again. An empty palette
gives the text color. -/
def share (palette : Palette) (used : List String) (number : Nat) : String :=
  let fresh := palette.freshColors used
  match fresh[number]? with
  | some color => color
  | none =>
      match palette.colors[(number - fresh.length) % palette.colors.length]? with
      | some color => color
      | none => Color.textPrimary

def shares (palette : Palette) (used : List String) (count : Nat) : List String :=
  (List.range count).map (palette.share used)

/-- The colors of a palette taken apart: those that are to be last come after all others, and
both parts keep their old order. -/
structure StableSplit (last : List String) (before after : Palette) : Prop where
  front : after.colors.filter (· ∉ last) = before.colors.filter (· ∉ last)
  back : after.colors.filter (· ∈ last) = before.colors.filter (· ∈ last)
  ordered : after.colors.Pairwise fun color next => color ∈ last → next ∈ last

private theorem recycle_stableSplit (palette : Palette) (last : List String) :
    StableSplit last palette (palette.recycle last) where
  front := by simp [recycle, List.filter_append, List.filter_filter]
  back := by simp [recycle, List.filter_append, List.filter_filter]
  ordered := by
    have notLast : ∀ color ∈ palette.colors.filter fun color => !last.contains color,
        color ∉ last := fun color member => by simpa using (List.mem_filter.mp member).2
    have isLast : ∀ color ∈ palette.colors.filter fun color => last.contains color,
        color ∈ last := fun color member => by simpa using (List.mem_filter.mp member).2
    refine List.pairwise_append.mpr ⟨?_, ?_, ?_⟩
    · exact List.pairwise_of_forall_mem_list fun color member _next _listed among =>
        absurd among (notLast color member)
    · exact List.pairwise_of_forall_mem_list fun _color _member next listed _among =>
        isLast next listed
    · exact fun _color _member next listed _among => isLast next listed

/-! ### The first color that is still free -/

private theorem find?_eraseDups {β : Type} [BEq β] [LawfulBEq β] (items : List β) (count : Nat) :
    items.find? (fun item => !(items.eraseDups.take count).contains item) =
      items.eraseDups[count]? := by
  induction count generalizing items with
  | zero => cases items <;> simp [List.eraseDups_cons]
  | succ count ih =>
      cases items with
      | nil => rfl
      | cons first rest =>
          -- the different items after the first are those of the rest without it
          have later := ih (rest.filter fun item => !item == first)
          rw [List.find?_filter] at later
          rw [List.eraseDups_cons, List.take_succ_cons, List.find?_cons_of_neg (by simp),
            List.getElem?_cons_succ, ← later]
          refine List.find?_congr fun item _member => ?_
          simp

variable {palette : Palette} {used : List String}

private theorem share_fresh {number : Nat} {color : String}
    (fresh : (palette.freshColors used)[number]? = some color) :
    palette.share used number = color := by
  simp only [share, fresh]

private theorem mem_shares_iff {count : Nat} {color : String}
    (fresh : color ∈ palette.freshColors used) :
    color ∈ palette.shares used count ↔ color ∈ (palette.freshColors used).take count := by
  constructor
  · intro given
    obtain ⟨number, inside, shared⟩ := List.mem_map.mp given
    rw [List.mem_range] at inside
    cases here : (palette.freshColors used)[number]? with
    | some other =>
        rw [← shared, share_fresh here]
        exact List.mem_of_getElem? ((List.getElem?_take_of_lt inside).trans here)
    | none =>
        -- past the fresh colors all of them are taken
        have exhausted := List.getElem?_eq_none_iff.mp here
        rwa [List.take_of_length_le (by omega)]
  · intro taken
    obtain ⟨number, held⟩ := List.mem_iff_getElem?.mp taken
    rw [List.getElem?_take] at held
    split at held
    case isTrue inside =>
      exact List.mem_map.mpr ⟨number, List.mem_range.mpr inside, share_fresh held⟩
    case isFalse => cases held

/-- After some open slots the first color that nobody uses is the next fresh one. -/
private theorem find?_unused (palette : Palette) (used : List String) (count : Nat) :
    palette.colors.find? (fun color => !(used ++ palette.shares used count).contains color) =
      (palette.freshColors used)[count]? := by
  have next := find?_eraseDups (palette.colors.filter fun color => !used.contains color) count
  rw [List.find?_filter] at next
  refine Eq.trans (List.find?_congr fun color listed => ?_) next
  by_cases inUse : color ∈ used
  · simp [inUse]
  · have fresh : color ∈ palette.freshColors used := by simp [freshColors, listed, inUse]
    have same : color ∈ palette.shares used count ↔
        color ∈ (palette.freshColors used).take count := mem_shares_iff fresh
    simp only [freshColors] at same
    simp [inUse, same]

/-! ### Filling the slots -/

/-- What an assignment has done after some open slots: their shares are in use, and the palette
was reused once for every slot beyond the fresh colors. -/
structure Progress.After (palette : Palette) (used : List String) (count : Nat)
    (progress : Progress) : Prop where
  inUse : progress.inUse = used ++ palette.shares used count
  reused : palette.colors ≠ [] → progress.reused = count - (palette.freshColors used).length

theorem Progress.after_start (palette : Palette) (used : List String) :
    Progress.After palette used 0 ⟨used, 0⟩ where
  inUse := by simp [shares]
  reused := by simp

variable {count : Nat} {progress : Progress}

private theorem nextColor_share (after : progress.After palette used count) :
    (palette.nextColor progress).1 = palette.share used count := by
  have unused := palette.find?_unused used count
  rw [← after.inUse] at unused
  unfold nextColor share
  simp only [unused]
  cases (palette.freshColors used)[count]? with
  | some color => rfl
  | none =>
      by_cases empty : palette.colors = []
      · simp [empty]
      · simp only [after.reused empty]
        cases palette.colors[(count - _) % _]? <;> rfl

private theorem nextColor_after (after : progress.After palette used count) :
    (palette.nextColor progress).2.After palette used (count + 1) where
  inUse := by
    rw [nextColor_inUse, nextColor_share after, after.inUse, shares, shares, List.range_succ,
      List.map_append, List.append_assoc]
    rfl
  reused := by
    intro nonempty
    have before := after.reused nonempty
    have unused := palette.find?_unused used count
    rw [← after.inUse] at unused
    unfold nextColor
    rw [unused]
    cases fresh : (palette.freshColors used)[count]? with
    | some color =>
        obtain ⟨inside, _found⟩ := List.getElem?_eq_some_iff.mp fresh
        simp only
        omega
    | none =>
        have exhausted := List.getElem?_eq_none_iff.mp fresh
        have place := Nat.mod_lt progress.reused (List.length_pos_iff.mpr nonempty)
        rw [List.getElem?_eq_getElem place]
        simp only
        omega

private theorem fill_shares (after : progress.After palette used count)
    (slots : List (Option String)) :
    (palette.fill progress slots).1 =
        slots.mapIdx (fun index slot =>
          slot.getD (palette.share used (count + (slots.take index).count none))) ∧
      (palette.fill progress slots).2.After palette used (count + slots.count none) := by
  induction slots generalizing count progress with
  | nil => exact ⟨rfl, after⟩
  | cons slot rest ih =>
      cases slot with
      | some color =>
          obtain ⟨filled, final⟩ := ih after
          rw [List.mapIdx_cons]
          simp [fill, filled, final]
      | none =>
          obtain ⟨filled, final⟩ := ih (nextColor_after after)
          rw [List.mapIdx_cons]
          constructor
          · simp only [fill, filled, nextColor_share after]
            simp [Nat.add_assoc, Nat.add_comm 1]
          · simpa [fill, Nat.add_assoc, Nat.add_comm 1] using final

/-- An assignment in closed form. Filled slots keep their colors, an open slot gets the share
of its number among the open ones, and the palette is split stably by the colors in use and
the ones handed out. Recycling is the same split by the given colors. -/
theorem assign_closed_form (palette : Palette) (used : List String)
    (slots : List (Option String)) :
    (palette.assign used slots).1 =
        slots.mapIdx (fun index slot =>
          slot.getD (palette.share used ((slots.take index).count none))) ∧
      StableSplit (used ++ palette.shares used (slots.count none)) palette
        (palette.assign used slots).2 ∧
      ∀ given, StableSplit given palette (palette.recycle given) := by
  obtain ⟨filled, final⟩ := fill_shares (Progress.after_start palette used) slots
  rw [Nat.zero_add] at final
  refine ⟨?_, ?_, palette.recycle_stableSplit⟩
  · simpa only [assign, Nat.zero_add] using filled
  · rw [← final.inUse]
    exact palette.recycle_stableSplit _

-- a color that is listed twice is fresh once; from then on the palette starts over
example :
    assign ⟨["red", "green", "red", "blue"]⟩ ["blue"] [none, some "pink", none, none, none] =
      (["red", "pink", "green", "red", "green"], ⟨["red", "green", "red", "blue"]⟩) := rfl

end CanvasChart.Palette
