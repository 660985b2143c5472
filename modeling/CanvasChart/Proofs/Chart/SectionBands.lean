import CanvasChart.Proofs.Geometry.Stacks
import CanvasChart.Proofs.Chart.LayoutBounds

set_option autoImplicit false

/-! The bands around a plot area. Where the sections of all sides find room, the bands of a side
fill the margin from the plot area to the outer border, and no band covers another one or the
plot area. -/

namespace CanvasChart

namespace Layout

section Bands

variable {α : Type} [Scalar α]

/-- The bands on a side, from the plot area outward. -/
def bandsOn (layout : Layout α) (side : Side) : List (Rect α) :=
  (layout.bands.filter fun band => band.side = side).map SectionBand.rect

/-- The bands fill the margin around the plot area, except on sides without any. -/
structure Tiles (layout : Layout α) : Prop where
  /-- From the plot area each band begins where the one before it ends, and the last one ends
  at the border. -/
  stacked : ∀ side, layout.bandsOn side ≠ [] → Rect.Stacked side (layout.plotArea.edge side)
    (layout.bandsOn side) (layout.inner.edge side)
  spans : ∀ band ∈ layout.bands, band.rect.near band.side = layout.plotArea.near band.side ∧
    band.rect.lengthAlong band.side = layout.plotArea.lengthAlong band.side
  thickness : ∀ side, layout.bandsOn side ≠ [] →
    Scalar.sum ((layout.bandsOn side).map fun rect => rect.lengthAcross side) =
      layout.sizes.get side
  within : ∀ band ∈ layout.bands, band.rect.Within layout.inner
  apart : layout.bands.Pairwise fun first second => first.rect.Apart second.rect
  clear : ∀ band ∈ layout.bands, band.rect.Apart layout.plotArea

def sideRects (scene : Scene α) (plotArea : Rect α) (side : Side) : List (Rect α) :=
  (stackBands plotArea side 0 (sizedSections scene side)).map Prod.snd

def namedBands (scene : Scene α) (plotArea : Rect α) : List (SectionBand α) :=
  (sectionBands scene plotArea).map fun (side, place, rect) => ⟨side, place.name, rect⟩

private theorem namedBands_eq (scene : Scene α) (plotArea : Rect α) :
    namedBands scene plotArea = Side.all.flatMap fun side =>
      (stackBands plotArea side 0 (sizedSections scene side)).map fun band =>
        ⟨side, band.1.name, band.2⟩ := by
  simp only [namedBands, sectionBands, List.map_flatMap, List.map_map]
  rfl

private theorem mem_namedBands {scene : Scene α} {plotArea : Rect α} {band : SectionBand α}
    (member : band ∈ namedBands scene plotArea) :
    band.rect ∈ sideRects scene plotArea band.side := by
  rw [namedBands_eq] at member
  obtain ⟨side, _visited, placed⟩ := List.mem_flatMap.mp member
  obtain ⟨stacked, inStack, rfl⟩ := List.mem_map.mp placed
  exact List.mem_map_of_mem inStack

private theorem namedBands_onSide (scene : Scene α) (plotArea : Rect α) (side : Side) :
    ((namedBands scene plotArea).filter fun band => band.side = side).map SectionBand.rect =
      sideRects scene plotArea side := by
  have own (visited : Side) :
      (((stackBands plotArea visited 0 (sizedSections scene visited)).map fun band =>
        (⟨visited, band.1.name, band.2⟩ : SectionBand α)).filter fun band =>
          band.side = side).map SectionBand.rect =
        if visited = side then sideRects scene plotArea visited else [] := by
    by_cases same : visited = side <;> simp [sideRects, List.filter_map, Function.comp_def, same]
  rw [namedBands_eq, List.filter_flatMap, List.map_flatMap]
  simp only [own]
  cases side <;> simp [Side.all]

private theorem exists_band_of_needed {sections : List (SizedSection α)} {sized : SizedSection α}
    (listed : sized ∈ sections) (needed : ¬ sized.size ≤ 0) (area : Rect α) (side : Side)
    (offset : α) :
    ∃ rect ∈ (stackBands area side offset sections).map Prod.snd,
      rect.lengthAcross side = sized.size := by
  induction sections generalizing offset with
  | nil => cases listed
  | cons first rest ih =>
      unfold stackBands
      rcases List.mem_cons.mp listed with here | later
      · subst here
        rw [if_neg needed]
        exact ⟨_, List.mem_cons_self, area.band_lengthAcross side offset sized.size⟩
      · split
        · exact ih later offset
        · obtain ⟨rect, member, same⟩ := ih later (offset + first.size)
          exact ⟨rect, List.mem_cons_of_mem _ member, same⟩

end Bands

variable [NumberTexts]

/-! ### One side -/

private theorem sizedSections_nonneg (scene : Scene EReal) (side : Side) :
    ∀ sized ∈ sizedSections scene side, 0 ≤ sized.size := by
  intro sized listed
  obtain ⟨place, _registered, rfl⟩ := List.mem_map.mp listed
  exact Exact.nonneg_max_zero _

section Stack

variable {sections : List (SizedSection EReal)}

private theorem eq_zero_of_empty {size : EReal} (positive : 0 ≤ size)
    (empty : size ≤ @OfNat.ofNat EReal 0 (Scalar.instOfNat 0)) : size = 0 := by
  rw [Exact.literal_eq, Nat.cast_zero] at empty
  exact le_antisymm empty positive

private theorem stackBands_stacked (area : Rect EReal) (side : Side)
    (positive : ∀ sized ∈ sections, 0 ≤ sized.size)
    (finite : ∀ sized ∈ sections, Exact.Finite sized.size) (offset : ℝ) :
    Rect.Stacked side (side.advance (area.edge side) offset)
      ((stackBands area side offset sections).map Prod.snd)
      (side.advance (area.edge side) (offset + (sections.map SizedSection.size).sum)) := by
  induction sections generalizing offset with
  | nil =>
      rw [List.map_nil, List.sum_nil, add_zero]
      exact rfl
  | cons first rest ih =>
      rw [List.forall_mem_cons] at positive finite
      obtain ⟨size, real⟩ := finite.1.exists_real
      have later := ih positive.2 finite.2
      rw [List.map_cons, List.sum_cons, ← add_assoc]
      unfold stackBands
      split
      case isTrue empty =>
        rw [eq_zero_of_empty positive.1 empty, add_zero]
        exact later offset
      case isFalse =>
        rw [real, ← EReal.coe_add]
        refine ⟨area.band_inner_edge side offset size, ?_⟩
        rw [area.band_outer_edge, Side.advance_advance]
        exact later (offset + size)

private theorem stackBands_thickness (area : Rect EReal) (side : Side)
    (positive : ∀ sized ∈ sections, 0 ≤ sized.size) (offset : EReal) :
    (((stackBands area side offset sections).map Prod.snd).map fun rect =>
      rect.lengthAcross side).sum = (sections.map SizedSection.size).sum := by
  induction sections generalizing offset with
  | nil => rfl
  | cons first rest ih =>
      rw [List.forall_mem_cons] at positive
      rw [List.map_cons, List.sum_cons]
      unfold stackBands
      split
      case isTrue empty =>
        rw [eq_zero_of_empty positive.1 empty, zero_add]
        exact ih positive.2 offset
      case isFalse =>
        rw [List.map_cons, List.map_cons, List.sum_cons, area.band_lengthAcross, ih positive.2]

private theorem stackBands_thick {area : Rect EReal} {side : Side} {offset : EReal}
    (positive : ∀ sized ∈ sections, 0 ≤ sized.size)
    (finite : ∀ sized ∈ sections, Exact.Finite sized.size) :
    ∀ rect ∈ (stackBands area side offset sections).map Prod.snd,
      side.Outward (rect.edge side.opposite) (rect.edge side) := by
  intro rect member
  obtain ⟨band, inStack, rfl⟩ := List.mem_map.mp member
  obtain ⟨sized, listed, _same, _needed, start, placed⟩ := mem_stackBands inStack
  obtain ⟨size, real⟩ := (finite sized listed).exists_real
  rw [placed, real, area.band_inner_edge, area.band_outer_edge]
  exact Side.outward_advance _ (real ▸ positive sized listed)

end Stack

private theorem sideSize_of_bands {scene : Scene EReal} {area : Rect EReal} {side : Side}
    (occupied : sideRects scene area side ≠ []) (inner : Rect EReal) :
    sideSize scene inner side = ((Layout.sizedSections scene side).map SizedSection.size).sum := by
  obtain ⟨rect, member⟩ := List.exists_mem_of_ne_nil _ occupied
  obtain ⟨band, inStack, _same⟩ := List.mem_map.mp member
  obtain ⟨sized, listed, _placed, needed, _start⟩ := mem_stackBands inStack
  have positive : ∀ size ∈ (sizedSections scene side).map SizedSection.size, 0 ≤ size :=
    List.forall_mem_map.mpr (sizedSections_nonneg scene side)
  have some : 0 < ((Layout.sizedSections scene side).map SizedSection.size).sum := by
    rw [Exact.literal_eq, Nat.cast_zero] at needed
    exact (not_le.mp needed).trans_le
      (List.single_le_sum positive _ (List.mem_map_of_mem listed))
  rw [sideSize, Exact.sum_eq, Exact.literal_eq, Nat.cast_zero]
  exact if_pos some

/-! ### All sides -/

/-- Every section that has a band needs a finite thickness. -/
def BandsFinite (layout : Layout EReal) : Prop :=
  ∀ band ∈ layout.bands, Exact.Finite (band.rect.lengthAcross band.side)

private theorem sideSizes_get (scene : Scene EReal) (inner : Rect EReal) (side : Side) :
    (sideSizes scene inner).get side = sideSize scene inner side := by
  cases side <;> rfl

private theorem sideRects_spans {scene : Scene EReal} {area rect : Rect EReal} {side : Side}
    (member : rect ∈ sideRects scene area side) :
    rect.near side = area.near side ∧ rect.lengthAlong side = area.lengthAlong side ∧
      ∀ across, side.isPerpendicularTo across = true → rect.edge across = area.edge across := by
  obtain ⟨band, inStack, rfl⟩ := List.mem_map.mp member
  obtain ⟨sized, _listed, _same, _needed, start, placed⟩ := mem_stackBands inStack
  rw [placed]
  exact ⟨area.band_near side start sized.size, area.band_lengthAlong side start sized.size,
    fun _across perpendicular => area.band_edge_across perpendicular start sized.size⟩

private theorem sideRects_thick {scene : Scene EReal} {area : Rect EReal} {side : Side}
    (finite : ∀ sized ∈ sizedSections scene side, Exact.Finite sized.size) :
    ∀ rect ∈ sideRects scene area side, side.Outward (rect.edge side.opposite) (rect.edge side) :=
  stackBands_thick (sizedSections_nonneg scene side) finite

private theorem sizedSections_finite {scene : Scene EReal} {area : Rect EReal} {side : Side}
    (finite : ∀ rect ∈ sideRects scene area side, Exact.Finite (rect.lengthAcross side)) :
    ∀ sized ∈ sizedSections scene side, Exact.Finite sized.size := by
  intro sized listed
  by_cases empty : sized.size ≤ @OfNat.ofNat EReal 0 (Scalar.instOfNat 0)
  · rw [eq_zero_of_empty (sizedSections_nonneg scene side sized listed) empty]
    exact ⟨EReal.zero_ne_top, EReal.zero_ne_bot⟩
  · obtain ⟨rect, member, same⟩ := exists_band_of_needed listed empty area side
      (@OfNat.ofNat EReal 0 (Scalar.instOfNat 0))
    exact same ▸ finite rect member

/-- The sections of all sides find room inside a rectangle. -/
structure Room (scene : Scene EReal) (inner : Rect EReal) : Prop where
  startX : inner.x ≠ ⊥
  startY : inner.y ≠ ⊥
  positive : ∀ side, 0 ≤ inner.lengthAlong side
  finite : ∀ side, ∀ sized ∈ sizedSections scene side, Exact.Finite sized.size
  fits : (sideSizes scene inner).FitIn inner

namespace Room

variable {scene : Scene EReal} {inner : Rect EReal} {side : Side}

private theorem sizes_nonneg (room : Room scene inner) (side : Side) :
    0 ≤ (sideSizes scene inner).get side := by
  rw [sideSizes_get]
  exact sideSize_nonneg scene room.positive side

private theorem area_within (room : Room scene inner) :
    (inner.inset (sideSizes scene inner)).Within inner :=
  Rect.inset_within room.startX room.startY room.sizes_nonneg room.fits

private theorem thickness (_room : Room scene inner)
    (occupied : sideRects scene (inner.inset (sideSizes scene inner)) side ≠ []) :
    Scalar.sum ((sideRects scene (inner.inset (sideSizes scene inner)) side).map fun rect =>
      rect.lengthAcross side) = (sideSizes scene inner).get side := by
  rw [sideSizes_get, sideSize_of_bands occupied inner, Exact.sum_eq]
  exact stackBands_thickness _ side (sizedSections_nonneg scene side) _

private theorem stacked (room : Room scene inner)
    (occupied : sideRects scene (inner.inset (sideSizes scene inner)) side ≠ []) :
    Rect.Stacked side ((inner.inset (sideSizes scene inner)).edge side)
      (sideRects scene (inner.inset (sideSizes scene inner)) side) (inner.edge side) := by
  have total := sideSize_of_bands occupied inner
  have finite : (sideSizes scene inner).get side ≠ ⊤ := by
    rw [sideSizes_get, total]
    exact (Exact.Finite.sum (List.forall_mem_map.mpr (room.finite side))).1
  have reaches := Rect.advance_inset_edge room.startX room.startY room.sizes_nonneg room.fits finite
  have bands := stackBands_stacked (inner.inset (sideSizes scene inner)) side
    (sizedSections_nonneg scene side) (room.finite side) 0
  rw [EReal.coe_zero, zero_add, ← total, ← sideSizes_get, reaches] at bands
  have begins (coordinate : EReal) : side.advance coordinate 0 = coordinate := by
    cases side
    case bottom | right => exact add_zero coordinate
    case top | left => exact sub_zero coordinate
  rw [begins] at bands
  rwa [sideRects, Exact.literal_eq, Nat.cast_zero]

private theorem beyond (room : Room scene inner) {rect : Rect EReal}
    (member : rect ∈ sideRects scene (inner.inset (sideSizes scene inner)) side) :
    side.Outward ((inner.inset (sideSizes scene inner)).edge side) (rect.edge side.opposite) ∧
      side.Outward (rect.edge side) (inner.edge side) := by
  have stacked := room.stacked (List.ne_nil_of_mem member)
  exact (stacked.between (sideRects_thick (room.finite side))).2 rect member

private theorem within (room : Room scene inner) {rect : Rect EReal}
    (member : rect ∈ sideRects scene (inner.inset (sideSizes scene inner)) side) :
    rect.Within inner := by
  obtain ⟨begins, reaches⟩ := room.beyond member
  exact Rect.within_of_beyond (Rect.inset_lengths_nonneg _ _) room.area_within begins reaches
    (sideRects_spans member).2.2

private theorem pairwise_apart (room : Room scene inner) (side : Side) :
    (sideRects scene (inner.inset (sideSizes scene inner)) side).Pairwise Rect.Apart := by
  by_cases empty : sideRects scene (inner.inset (sideSizes scene inner)) side = []
  · rw [empty]
    exact .nil
  · have later := (room.stacked empty).pairwise_beyond (sideRects_thick (room.finite side))
    exact later.imp fun beyond => ⟨side, beyond⟩

private theorem apart_of_sides (room : Room scene inner) {other : Side} {first second : Rect EReal}
    (different : other ≠ side)
    (onFirst : first ∈ sideRects scene (inner.inset (sideSizes scene inner)) side)
    (onSecond : second ∈ sideRects scene (inner.inset (sideSizes scene inner)) other) :
    first.Apart second :=
  Rect.apart_of_beyond (Rect.inset_lengths_nonneg _ _) different (room.beyond onFirst).1
    (sideRects_spans onFirst).2.2 (room.beyond onSecond).1

private theorem namedBands_apart (room : Room scene inner) :
    (namedBands scene (inner.inset (sideSizes scene inner))).Pairwise fun first second =>
      first.rect.Apart second.rect := by
  rw [namedBands_eq, List.pairwise_flatMap]
  constructor
  · intro visited _listed
    exact List.pairwise_map.mpr (List.pairwise_map.mp (room.pairwise_apart visited))
  · have distinct : Side.all.Pairwise (· ≠ ·) := by decide
    refine distinct.imp fun different first onFirst second onSecond => ?_
    obtain ⟨firstBand, inFirst, rfl⟩ := List.mem_map.mp onFirst
    obtain ⟨secondBand, inSecond, rfl⟩ := List.mem_map.mp onSecond
    exact room.apart_of_sides different.symm (List.mem_map_of_mem inFirst)
      (List.mem_map_of_mem inSecond)

end Room
end Layout

namespace Chart

variable [NumberTexts]

private theorem layOut_bandsOn (options : ChartOptions EReal) (axes : AxisSet EReal)
    (plots : List (Plot EReal)) (width height : EReal) (side : Side) :
    (layOut options axes plots width height).bandsOn side =
      Layout.sideRects ⟨options, axes, plots⟩ (layOut options axes plots width height).plotArea
        side :=
  Layout.namedBands_onSide _ _ side

/-- The bands are as thick as the sections that have them need. -/
private theorem layOut_bandsFinite_iff (options : ChartOptions EReal) (axes : AxisSet EReal)
    (plots : List (Plot EReal)) (width height : EReal) :
    (layOut options axes plots width height).BandsFinite ↔
      ∀ side, ∀ sized ∈ Layout.sizedSections ⟨options, axes, plots⟩ side,
        Exact.Finite sized.size := by
  constructor
  · intro finite side
    have thickness : ∀ rect ∈ Layout.sideRects ⟨options, axes, plots⟩
        (layOut options axes plots width height).plotArea side,
        Exact.Finite (rect.lengthAcross side) := by
      intro rect member
      rw [← layOut_bandsOn] at member
      obtain ⟨band, listed, rfl⟩ := List.mem_map.mp member
      obtain ⟨among, same⟩ := List.mem_filter.mp listed
      exact of_decide_eq_true same ▸ finite band among
    exact Layout.sizedSections_finite thickness
  · intro finite band listed
    obtain ⟨placed, inStack, same⟩ := List.mem_map.mp (Layout.mem_namedBands listed)
    obtain ⟨sized, among, _place, _needed, start, rect⟩ := Layout.mem_stackBands inStack
    rw [← same, rect, Rect.band_lengthAcross]
    exact finite band.side sized among

/-- Where the finite bands of all sides fit inside the border, they tile the margin. -/
private theorem layOut_tiles (options : ChartOptions EReal) (axes : AxisSet EReal)
    (plots : List (Plot EReal)) (width height : EReal)
    (finite : (layOut options axes plots width height).BandsFinite)
    (fits : (layOut options axes plots width height).sizes.FitIn
      (layOut options axes plots width height).inner) :
    (layOut options axes plots width height).Tiles := by
  let layout := layOut options axes plots width height
  have started : Scalar.max options.borderWidth (Scalar.ofNat 0) ≠ ⊥ :=
    ne_bot_of_le_ne_bot EReal.zero_ne_bot (Exact.nonneg_max_zero _)
  have room : Layout.Room ⟨options, axes, plots⟩ layout.inner :=
    { startX := started
      startY := started
      positive := Layout.innerRect_nonneg _ width height
      finite := (layOut_bandsFinite_iff options axes plots width height).mp finite
      fits := fits }
  constructor
  · intro side occupied
    rw [layOut_bandsOn] at occupied ⊢
    exact room.stacked occupied
  · intro band listed
    obtain ⟨near, along, _across⟩ := Layout.sideRects_spans (Layout.mem_namedBands listed)
    exact ⟨near, along⟩
  · intro side occupied
    rw [layOut_bandsOn] at occupied ⊢
    exact room.thickness occupied
  · intro band listed
    exact room.within (Layout.mem_namedBands listed)
  · exact room.namedBands_apart
  · intro band listed
    exact Rect.apart_of_beyond_self (room.beyond (Layout.mem_namedBands listed)).1

/-- A successful drawing leaves no length and no thickness below zero. Where the finite bands of
all sides fit inside the border, they tile the margin of the plot area. -/
theorem draw_tiles_margin (chart : Chart EReal) (ended : chart.draw.2 = .ok ()) :
    ∃ layout, chart.draw.1.layout = some layout ∧
      (∀ side, 0 ≤ layout.plotArea.lengthAlong side ∧ 0 ≤ layout.inner.lengthAlong side ∧
        0 ≤ layout.sizes.get side) ∧
      (layout.BandsFinite → layout.sizes.FitIn layout.inner → layout.Tiles) := by
  obtain ⟨gathered, _resolved, _gathers, _compatible, drawn⟩ := draw_of_ok ended
  rw [drawn]
  refine ⟨_, rfl, fun side => ⟨?_, ?_, ?_⟩, ?_⟩
  · exact Rect.inset_lengths_nonneg _ _ side
  · exact Layout.innerRect_nonneg _ _ _ side
  · have positive := Layout.innerRect_nonneg (Scalar.max chart.options.borderWidth
      (Scalar.ofNat 0)) chart.resolveSize.1 chart.resolveSize.2.1
    exact (Layout.sideSizes_get _ _ side).symm ▸ Layout.sideSize_nonneg _ positive side
  · exact layOut_tiles _ _ _ _ _

noncomputable def captionedAxis : AxisOptions EReal :=
  { AxisOptions.standard with
    title := some "value"
    titleFont := "serif"
    showLabels := false }

noncomputable def captioned : Chart EReal :=
  { showing [scatterOn .bottom .left [0]] with
    options := { ChartOptions.standard with
      legend := { LegendOptions.standard with visible := false }
      bottomAxis := captionedAxis
      leftAxis := captionedAxis
      topAxis := captionedAxis
      rightAxis := captionedAxis } }

section Captioned

variable {axes : AxisSet EReal}
  (options : ∀ side axis, axes.get? side = some axis → axis.options = captionedAxis)
  (plots : List (Plot EReal))

include options

private theorem captioned_sizedSections (side : Side) :
    Layout.sizedSections ⟨captioned.options, axes, plots⟩ side =
      (if (axes.get? side).isSome then
        [⟨.ticks side, ((6 : ℕ) : EReal)⟩, ⟨.axisTitle side, ((18 : ℕ) : EReal)⟩] else []) ++
      if side = .top then [⟨.chartTitle, ((0 : ℕ) : EReal)⟩] else [] := by
  let scene : Scene EReal := ⟨captioned.options, axes, plots⟩
  have kept (size : ℕ) :
      Scalar.max (size : EReal) (@OfNat.ofNat EReal 0 (Scalar.instOfNat 0)) = size := by
    rw [Exact.max_eq]
    exact max_eq_left (Nat.cast_le.mpr (Nat.zero_le size))
  rw [Layout.sizedSections, Section.onSide, List.map_append]
  congr 1
  · cases held : axes.get? side with
    | none => rfl
    | some axis =>
        have marks : Ticks.sizeRequired scene side = ((6 : ℕ) : EReal) := by
          rw [Layout.sizeRequired_marks held (options side axis held ▸ rfl),
            options side axis held]
          exact kept 6
        have title : Title.sizeRequired (Title.ofAxis scene side) = ((18 : ℕ) : EReal) := by
          simp only [Title.ofAxis, scene, held, options side axis held]
          change Title.sizeRequired (Title.nonempty (some "value")
            ⟨"serif", Color.textPrimary⟩) = _
          simp only [Title.nonempty, String.reduceEq, if_false, Title.sizeRequired]
          change ((10 : ℕ) : EReal) + (2 : ℕ) * (4 : ℕ) = ((18 : ℕ) : EReal)
          rw [← EReal.natCast_mul, ← Nat.cast_add]
        change [SizedSection.mk _ (Scalar.max (Ticks.sizeRequired scene side) _),
          ⟨_, Scalar.max (Title.sizeRequired (Title.ofAxis scene side)) _⟩] = _
        rw [marks, title, kept, kept]
        rfl
  · split
    · exact congrArg (fun size => [SizedSection.mk .chartTitle size]) (kept 0)
    · rfl

private theorem captioned_bandsFinite (width height : EReal) :
    (layOut captioned.options axes plots width height).BandsFinite := by
  refine (layOut_bandsFinite_iff _ _ _ _ _).mpr fun side sized listed => ?_
  have whole : ∃ size : ℕ, sized.size = size := by
    rw [captioned_sizedSections options] at listed
    rcases List.mem_append.mp listed with ofAxis | ofTitle
    · split at ofAxis
      · rcases List.mem_pair.mp ofAxis with rfl | rfl
        · exact ⟨6, rfl⟩
        · exact ⟨18, rfl⟩
      · cases ofAxis
    · split at ofTitle
      · exact ⟨0, congrArg SizedSection.size (List.mem_singleton.mp ofTitle)⟩
      · cases ofTitle
  obtain ⟨size, natural⟩ := whole
  exact natural ▸ Exact.finite_natCast size

private theorem captioned_sideSize {inner : Rect EReal}
    (short : ∀ side, inner.lengthAcross side ≤ ((300 : ℝ) : EReal)) (side : Side) :
    Layout.sideSize ⟨captioned.options, axes, plots⟩ inner side ≤ ((24 : ℝ) : EReal) := by
  have total : ((Layout.sizedSections ⟨captioned.options, axes, plots⟩ side).map
      SizedSection.size).sum ≤ ((24 : ℕ) : EReal) + ((0 : ℕ) : EReal) := by
    rw [captioned_sizedSections options, List.map_append, List.sum_append]
    refine add_le_add ?_ ?_
    · split
      · simp only [List.map_cons, List.map_nil, List.sum_cons, List.sum_nil]
        norm_cast
      · exact Nat.cast_nonneg' 24
    · split
      · exact (add_zero ((0 : ℕ) : EReal)).le
      · exact Nat.cast_nonneg' 0
  rw [Layout.sideSize, Exact.sum_eq]
  split
  · rwa [Nat.cast_zero, add_zero, ← EReal.coe_natCast, Nat.cast_ofNat] at total
  · calc Layout.emptySideShare * inner.lengthAcross side
        ≤ Layout.emptySideShare * ((300 : ℝ) : EReal) :=
          mul_le_mul_of_nonneg_left (short side) Layout.emptySideShare_nonneg
      _ = (((OfScientific.ofScientific 5 true 2 : ℝ) * 300 : ℝ) : EReal) := (EReal.coe_mul _ _).symm
      _ ≤ ((24 : ℝ) : EReal) := EReal.coe_le_coe_iff.mpr (by norm_num)

private theorem captioned_fits :
    (layOut captioned.options axes plots standardWidth standardHeight).sizes.FitIn
      (layOut captioned.options axes plots standardWidth standardHeight).inner := by
  let inner := (layOut captioned.options axes plots standardWidth standardHeight).inner
  have remains (length : ℕ) : Scalar.max ((length : EReal) - Scalar.ofNat 2 *
      Scalar.max (Scalar.ofNat 0) (Scalar.ofNat 0)) (Scalar.ofNat 0) = (length : EReal) := by
    simp [Exact.max_eq, -Nat.cast_ofNat]
  have wide : inner.width = ((300 : ℝ) : EReal) := by
    rw [← Nat.cast_ofNat, EReal.coe_natCast]
    exact remains 300
  have high : inner.height = ((150 : ℝ) : EReal) := by
    rw [← Nat.cast_ofNat, EReal.coe_natCast]
    exact remains 150
  have short (side : Side) : inner.lengthAcross side ≤ ((300 : ℝ) : EReal) := by
    cases side
    case bottom | top => exact high.trans_le (EReal.coe_le_coe_iff.mpr (by norm_num))
    case left | right => exact wide.le
  have two {length : ℝ} (enough : 24 + 24 ≤ length) (first second : Side) :
      Layout.sideSize ⟨captioned.options, axes, plots⟩ inner first +
        Layout.sideSize ⟨captioned.options, axes, plots⟩ inner second ≤ (length : EReal) :=
    (add_le_add (captioned_sideSize options plots short first)
      (captioned_sideSize options plots short second)).trans (EReal.coe_le_coe_iff.mpr enough)
  constructor
  · exact (two (by norm_num) .left .right).trans_eq wide.symm
  · exact (two (by norm_num) .top .bottom).trans_eq high.symm

private theorem captioned_bandsOn {side : Side} (held : (axes.get? side).isSome = true)
    (below : side ≠ .top) (width height : EReal) :
    ((layOut captioned.options axes plots width height).bandsOn side).length = 2 := by
  have needed (size : ℕ) : ¬ ((size + 1 : ℕ) : EReal) ≤
      @OfNat.ofNat EReal 0 (Scalar.instOfNat 0) := by
    rw [Exact.literal_eq, Nat.cast_le]
    exact Nat.not_succ_le_zero size
  rw [layOut_bandsOn, Layout.sideRects, captioned_sizedSections options, if_pos held,
    if_neg below]
  change ((Layout.stackBands _ _ _ [_, _]).map Prod.snd).length = 2
  unfold Layout.stackBands
  rw [if_neg (needed 5)]
  unfold Layout.stackBands
  rw [if_neg (needed 17)]
  rfl

end Captioned

omit [NumberTexts] in
/-- Ticks with a title outside of them leave room on the standard canvas. -/
theorem draw_tiles_margin_captioned :
    letI := Exact.wholeTexts
    captioned.draw.2 = .ok () ∧ ∃ layout, captioned.draw.1.layout = some layout ∧
      layout.BandsFinite ∧ layout.sizes.FitIn layout.inner ∧ layout.Tiles ∧
      (layout.bandsOn .bottom).length = 2 := by
  let _texts := Exact.wholeTexts
  have compatible : Plot.Compatible (captioned.plots.filter Plot.isVisible) :=
    (Plot.compatible_concat_iff [] _).mpr ⟨.nil, rfl⟩
  have ended : captioned.draw.2 = .ok () := draw_ok_of_compatible compatible
  obtain ⟨layout, kept, _positive, tiles⟩ := draw_tiles_margin captioned ended
  obtain ⟨gathered, _resolved, gathers, _compatible, drawn⟩ := draw_of_ok ended
  have options : ∀ side axis, (gathered.map Axis.fix).get? side = some axis →
      axis.options = captionedAxis := by
    intro side axis held
    rw [AxisSet.get?_map] at held
    obtain ⟨origin, found, rfl⟩ := Option.map_eq_some_iff.mp held
    rw [origin.fix_samePlan.options, (gathers.of_get? found).options_eq]
    cases side <;> rfl
  have onBottom : ((gathered.map Axis.fix).get? .bottom).isSome = true := by
    obtain ⟨axis, held, _kind⟩ := gathers.present List.mem_cons_self .x
    rw [AxisSet.get?_map, Option.isSome_map]
    exact Option.isSome_iff_exists.mpr ⟨axis, held⟩
  have same : layout = captioned.layoutOn (gathered.map Axis.fix) := by
    rw [drawn] at kept
    exact (Option.some.inj kept).symm
  have finite : layout.BandsFinite := same ▸ captioned_bandsFinite options _ _ _
  have fits : layout.sizes.FitIn layout.inner := same ▸ captioned_fits options _
  exact ⟨ended, layout, kept, finite, fits, tiles finite fits,
    same ▸ captioned_bandsOn options _ onBottom (by decide) _ _⟩

end Chart
end CanvasChart
