import CanvasChart.Proofs.Chart.RunColors

set_option autoImplicit false

/-! Series that share a color. In a run in which nobody sets a color the chart hands no color out
twice while it has enough of them, so two visible series share one only if there were too many
of them at an earlier drawing, if one of them was hidden when the other got its color, or if a
plot came with a color that it held before. -/

namespace CanvasChart

variable {α : Type}

/-- Plots come without a color that is set, and of a plot only its visibility is changed. -/
def Operation.SetsNoColor : Operation α → Prop
  | .addPlot plot => plot.SetsNoColor
  | .editPlot _id edit => ∃ shown, edit = (PlotChange.visible shown).apply
  | _ => True

theorem Operation.SetsNoColor.isChange {operation : Operation α} (bare : operation.SetsNoColor) :
    operation.IsChange := by
  cases operation with
  | editPlot id edit =>
      obtain ⟨shown, same⟩ := bare
      exact ⟨_, same⟩
  | addPlot | removePlot | setOptions | draw => trivial

namespace Chart

def Shows (chart : Chart α) (ref : SeriesRef) (color : Option String) : Prop :=
  ∃ plot, chart.plot? ref.plot = some plot ∧ plot.isVisible = true ∧
    ref.index < plot.series.length ∧ (plot.seriesStyle ref.index).color = color

def SetsNoColor (chart : Chart α) : Prop :=
  ∀ id plot, chart.plot? id = some plot → plot.SetsNoColor

variable [Scalar α] {chart : Chart α}

/-- Through an operation a series gets a color that another one has or gets, too. -/
inductive Doubles (limit : Nat) (chart : Chart α) (ref other : SeriesRef) (color : String) :
    Operation α → Prop
  /-- The plot held the color when it was added. -/
  | brought {plot : Plot α} (new : ref.plot = ⟨chart.nextId⟩)
      (held : plot.assigned? ref.index = some color) :
      Doubles limit chart ref other color (.addPlot plot)
  /-- The color was handed out while there were more visible series than colors. -/
  | overfull (opened : chart.assigned? ref = none)
      (given : chart.draw.1.assigned? ref = some color)
      (ended : chart.draw.2 = .ok ()) (many : limit < Plot.shownCount chart.plots) :
      Doubles limit chart ref other color .draw
  /-- The color was handed out while the plot that has it was hidden. -/
  | hidden {plot : Plot α} (opened : chart.assigned? ref = none)
      (given : chart.draw.1.assigned? ref = some color)
      (ended : chart.draw.2 = .ok ()) (there : chart.plot? other.plot = some plot)
      (unseen : plot.isVisible = false) (held : plot.assigned? other.index = some color) :
      Doubles limit chart ref other color .draw

theorem SetsNoColor.perform (bare : chart.SetsNoColor) {operation : Operation α}
    (plain : operation.SetsNoColor) : (chart.perform operation).SetsNoColor := by
  intro id plot held
  cases perform_arises held with
  | kept earlier => exact bare id plot earlier
  | added => exact plain
  | edited edit earlier =>
      obtain ⟨shown, rfl⟩ := plain
      have before := bare id _ earlier
      exact ⟨before.own, before.series⟩
  | colored ended earlier recolored => exact recolored.setsNoColor (bare id _ earlier)

theorem SetsNoColor.run {operations : List (Operation α)} (bare : chart.SetsNoColor)
    (plain : ∀ operation ∈ operations, operation.SetsNoColor) :
    (chart.run operations).SetsNoColor :=
  run_invariant operations
    (fun _chart operation member before => before.perform (plain operation member)) bare

private theorem draw_gain {ref : SeriesRef} {color : String}
    (opened : chart.assigned? ref = none)
    (given : chart.draw.1.assigned? ref = some color) :
    chart.draw.2 = .ok () ∧ ∃ place before after, chart.indexOf? ref.plot = some place ∧
      chart.plots[place]? = some before ∧ chart.coloredPlots[place]? = some after ∧
      before.isVisible = true ∧ ref.index < before.series.length ∧
      before.assigned? ref.index = none ∧ after.assigned? ref.index = some color := by
  obtain ⟨after, held, holds⟩ := Option.bind_eq_some_iff.mp given
  have ended : chart.draw.2 = .ok () := by
    by_contra failed
    rw [draw_of_failed failed] at given
    change chart.assigned? ref = some color at given
    rw [opened] at given
    cases given
  obtain ⟨place, before, found, stored, colored, recolored⟩ := draw_place ended held
  have beforeOpened : before.assigned? ref.index = none := by
    rwa [assigned?, plot?_of_place found, stored, Option.bind_some] at opened
  have shown : before.isVisible = true := by
    by_contra hidden
    have same := recolored.kept (Plot.takesColors_of_hidden (Bool.eq_false_iff.mpr hidden))
    rw [same, beforeOpened] at holds
    cases holds
  have listed : ref.index < before.series.length := by
    obtain ⟨series, found, _holds⟩ := Option.bind_eq_some_iff.mp holds
    rw [recolored.series.length_eq]
    exact (List.getElem?_eq_some_iff.mp found).1
  exact ⟨ended, place, before, after, found, stored, colored, shown, listed, beforeOpened, holds⟩

private theorem doubles_of_draw {limit : Nat} (numbered : chart.Numbered) (bare : chart.SetsNoColor)
    (enough : limit ≤ chart.palette.colors.toFinset.card) {ref other : SeriesRef}
    (different : ref ≠ other) {color : String}
    (opened : chart.assigned? ref = none)
    (given : chart.draw.1.assigned? ref = some color)
    (shared : chart.draw.1.assigned? other = some color) :
    Doubles limit chart ref other color .draw := by
  obtain ⟨ended, place, before, after, found, stored, colored, shown, listed, beforeOpened,
    holds⟩ := draw_gain opened given
  by_cases many : limit < Plot.shownCount chart.plots
  · exact .overfull opened given ended many
  obtain ⟨otherAfter, otherHeld, otherHolds⟩ := Option.bind_eq_some_iff.mp shared
  obtain ⟨otherPlace, otherBefore, otherFound, otherStored, otherColored, recolored⟩ :=
    draw_place ended otherHeld
  by_cases otherShown : otherBefore.isVisible = true
  · exfalso
    have otherListed : other.index < otherBefore.series.length := by
      obtain ⟨series, there, _color⟩ := Option.bind_eq_some_iff.mp otherHolds
      rw [recolored.series.length_eq]
      exact (List.getElem?_eq_some_iff.mp there).1
    have apart : place ≠ otherPlace ∨ ref.index ≠ other.index := by
      by_contra same
      obtain ⟨samePlace, sameIndex⟩ := not_or.mp same
      rw [not_not] at samePlace sameIndex
      subst samePlace
      have samePlot := eq_of_indexOf? found otherFound
      cases ref
      cases other
      exact different (congrArg₂ SeriesRef.mk samePlot sameIndex)
    have allBare : ∀ plot ∈ chart.plots, plot.SetsNoColor := by
      intro plot registered
      obtain ⟨id, held⟩ := numbered.exists_id registered
      exact bare id plot held
    refine Plot.setColors_apart allBare (by omega) stored colored otherStored otherColored shown
      otherShown listed otherListed apart beforeOpened ?_
    rw [holds, otherHolds]
  · have unseen : otherBefore.isVisible = false := Bool.eq_false_iff.mpr otherShown
    have same := recolored.kept (Plot.takesColors_of_hidden unseen)
    rw [same] at otherHolds
    exact .hidden opened given ended ((plot?_of_place otherFound).trans otherStored) unseen
      otherHolds

/-- If an operation gives a series a color that another one has afterwards, it doubles it. -/
private theorem doubles_of_gain {limit : Nat} (numbered : chart.Numbered) (bare : chart.SetsNoColor)
    (enough : limit ≤ chart.palette.colors.toFinset.card) {operation : Operation α}
    (plain : operation.SetsNoColor) {ref other : SeriesRef} (different : ref ≠ other)
    {color : String} (opened : chart.assigned? ref = none)
    (given : (chart.perform operation).assigned? ref = some color)
    (shared : (chart.perform operation).assigned? other = some color) :
    Doubles limit chart ref other color operation := by
  obtain ⟨plot, held, holds⟩ := Option.bind_eq_some_iff.mp given
  have stillOpen {before : Plot α} (earlier : chart.plot? ref.plot = some before) :
      before.assigned? ref.index = none := by
    rwa [assigned?, earlier, Option.bind_some] at opened
  obtain ⟨id, index⟩ := ref
  cases perform_arises held with
  | kept earlier =>
      have same := (stillOpen earlier).symm.trans holds
      cases same
  | added => exact .brought rfl holds
  | edited edit earlier =>
      obtain ⟨shown, rfl⟩ := plain
      have same := (stillOpen earlier).symm.trans holds
      cases same
  | colored => exact doubles_of_draw numbered bare enough different opened given shared

/-- In a run one of two series gets the color of the other. -/
def Doubled (start : Chart α) (limit : Nat) (operations : List (Operation α))
    (first second : SeriesRef) (color : String) : Prop :=
  ∃ earlier operation later, operations = earlier ++ operation :: later ∧
    (Doubles limit (start.run earlier) first second color operation ∨
      Doubles limit (start.run earlier) second first color operation)

theorem Doubled.concat {start : Chart α} {limit : Nat} {operations : List (Operation α)}
    {first second : SeriesRef} {color : String}
    (doubled : start.Doubled limit operations first second color) (last : Operation α) :
    start.Doubled limit (operations ++ [last]) first second color := by
  obtain ⟨earlier, operation, later, rfl, doubles⟩ := doubled
  exact ⟨earlier, operation, later ++ [last], by simp, doubles⟩

/-- Two series that hold one color share it since an operation that doubled it. -/
private theorem doubled_of_shared {start : Chart α} {limit : Nat} (vacant : start.entries = [])
    (enough : limit ≤ start.palette.colors.toFinset.card) (operations : List (Operation α))
    (plain : ∀ operation ∈ operations, operation.SetsNoColor) {first second : SeriesRef}
    (different : first ≠ second) {color : String}
    (firstHolds : (start.run operations).assigned? first = some color)
    (secondHolds : (start.run operations).assigned? second = some color) :
    start.Doubled limit operations first second color := by
  induction operations using List.reverseRecOn with
  | nil =>
      simp [run, assigned?, plot?, vacant] at firstHolds
  | append_singleton earlier last ih =>
      have numbered : start.Numbered := by
        constructor <;> simp [ids, vacant]
      have bare : start.SetsNoColor := by
        intro id plot held
        simp [plot?, vacant] at held
      have before := fun operation member => plain operation (List.mem_append_left [last] member)
      have lastPlain : last.SetsNoColor := plain last (by simp)
      have left : limit ≤ (start.run earlier).palette.colors.toFinset.card := by
        rwa [List.toFinset_eq_of_perm _ _ (start.run_palette earlier)]
      rw [run_concat] at firstHolds secondHolds
      have kept {ref : SeriesRef} {held : String}
          (holds : (start.run earlier).assigned? ref = some held)
          (after : ((start.run earlier).perform last).assigned? ref = some color) :
          held = color :=
        eq_of_perform_assigned? (numbered.run earlier) lastPlain.isChange holds after
      cases firstBefore : (start.run earlier).assigned? first with
      | none =>
          exact ⟨earlier, last, [], rfl, .inl (doubles_of_gain (numbered.run earlier)
            (bare.run before) left lastPlain different firstBefore firstHolds secondHolds)⟩
      | some firstColor =>
          cases secondBefore : (start.run earlier).assigned? second with
          | none =>
              exact ⟨earlier, last, [], rfl, .inr (doubles_of_gain (numbered.run earlier)
                (bare.run before) left lastPlain different.symm secondBefore secondHolds firstHolds)⟩
          | some secondColor =>
              refine (ih before ?_ ?_).concat last
              · rw [firstBefore, kept firstBefore firstHolds]
              · rw [secondBefore, kept secondBefore secondHolds]

theorem Shows.assigned? (bare : chart.SetsNoColor) (ended : chart.draw.2 = .ok ())
    {ref : SeriesRef} {color : Option String} (shown : chart.draw.1.Shows ref color) :
    ∃ held, color = some held ∧ chart.draw.1.assigned? ref = some held := by
  obtain ⟨plot, found, visible, listed, same⟩ := shown
  have drawnBare : (chart.perform .draw).SetsNoColor := bare.perform trivial
  have plotBare : plot.SetsNoColor := drawnBare _ plot found
  obtain ⟨_place, _before, _index, _stored, drawn, _recolored⟩ := draw_place ended found
  have colored := Plot.setColors_shown chart.plots chart.palette plot (List.mem_of_getElem? drawn)
    visible _ listed
  obtain ⟨held, holds⟩ := Option.isSome_iff_exists.mp colored
  refine ⟨held, same.symm.trans holds, ?_⟩
  rw [Chart.assigned?, found, Option.bind_some, ← plotBare.color_eq, holds]

private theorem not_doubles_of_shown {limit : Nat} (few : Plot.shownCount chart.plots ≤ limit)
    {ref other : SeriesRef} {color : Option String} {held : String}
    (shown : chart.draw.1.Shows other color) : ¬ Doubles limit chart ref other held .draw := by
  intro doubles
  cases doubles with
  | overfull opened given ended many => omega
  | hidden opened given ended there unseen held =>
      obtain ⟨after, found, visible, _listed, _color⟩ := shown
      obtain ⟨place, before, index, stored, _colored, recolored⟩ := draw_place ended found
      rw [plot?_of_place index, stored] at there
      cases there
      rw [Plot.isVisible, recolored.options, ← Plot.isVisible, unseen] at visible
      cases visible

/-- Two series that a drawing shows in one color, while there are no more visible series than
different colors, share it since an operation of the run that doubled it. -/
theorem run_shares_colors (element : Element α) (options : ChartOptions α) (palette : Palette)
    (operations : List (Operation α))
    (plain : ∀ operation ∈ operations, operation.SetsNoColor)
    (distinct : palette.colors.Nodup) :
    let start := fresh element options palette
    let chart := start.run operations
    chart.draw.2 = .ok () → Plot.shownCount chart.plots ≤ palette.colors.length →
      ∀ first second color, first ≠ second → chart.draw.1.Shows first color →
        chart.draw.1.Shows second color →
        ∃ held, color = some held ∧
          start.Doubled palette.colors.length operations first second held := by
  intro start chart ended few first second color different firstShown secondShown
  have startBare : start.SetsNoColor := fun _id _plot held => by cases held
  have bare : chart.SetsNoColor := startBare.run plain
  have numbered : chart.Numbered := (fresh_numbered element options palette).run operations
  have enough : palette.colors.length ≤ palette.colors.toFinset.card :=
    (List.toFinset_card_of_nodup distinct).ge
  have left : palette.colors.length ≤ chart.palette.colors.toFinset.card := by
    rwa [List.toFinset_eq_of_perm _ _ (start.run_palette operations)]
  obtain ⟨held, rfl, firstHolds⟩ := firstShown.assigned? bare ended
  obtain ⟨_held, same, secondHolds⟩ := secondShown.assigned? bare ended
  cases same
  have before {ref other : SeriesRef} (apart : ref ≠ other)
      (otherShown : chart.draw.1.Shows other (some held))
      (holds : chart.draw.1.assigned? ref = some held)
      (otherHolds : chart.draw.1.assigned? other = some held) :
      chart.assigned? ref = some held := by
    cases opened : chart.assigned? ref with
    | none =>
        have doubles := doubles_of_draw numbered bare left apart opened holds otherHolds
        exact absurd doubles (not_doubles_of_shown few otherShown)
    | some earlier =>
        have unchanged : Operation.IsChange (.draw : Operation α) := trivial
        rw [eq_of_perform_assigned? numbered unchanged opened holds]
  refine ⟨held, rfl, doubled_of_shared rfl enough operations plain different ?_ ?_⟩
  · exact before different secondShown firstHolds secondHolds
  · exact before different.symm firstShown secondHolds firstHolds

/-! ### Clashing runs -/

/-- Up to canvas and layout, what a run on a fresh canvas with two colors reaches. -/
def Reaches (operations : List (Operation α)) (entries : List (PlotId × Plot α))
    (colors : List String) (nextId : Nat) : Prop :=
  ∃ element layout, (fresh .new .standard ⟨["red", "green"]⟩ : Chart α).run operations =
    ⟨element, .standard, entries, ⟨colors⟩, nextId, layout⟩

theorem Reaches.more {operations : List (Operation α)} {entries next : List (PlotId × Plot α)}
    {colors nextColors : List String} {nextId laterId : Nat}
    (reaches : Reaches operations entries colors nextId) {more : List (Operation α)}
    (steps : ∀ element layout,
      (⟨element, .standard, entries, ⟨colors⟩, nextId, layout⟩ : Chart α).run more =
        ⟨element, .standard, next, ⟨nextColors⟩, laterId, layout⟩) :
    Reaches (operations ++ more) next nextColors laterId := by
  obtain ⟨element, layout, reached⟩ := reaches
  refine ⟨element, layout, ?_⟩
  rw [run_append, reached, steps]

theorem Reaches.draw {operations : List (Operation α)} {entries : List (PlotId × Plot α)}
    {colors : List String} {nextId : Nat} (reaches : Reaches operations entries colors nextId)
    (compatible : Plot.Compatible ((entries.map Prod.snd).filter Plot.isVisible)) :
    Reaches (operations ++ [.draw])
      ((entries.map Prod.fst).zip (Plot.setColors (entries.map Prod.snd) ⟨colors⟩).1)
      (Plot.setColors (entries.map Prod.snd) ⟨colors⟩).2.colors nextId := by
  obtain ⟨element, layout, reached⟩ := reaches
  rw [Reaches, run_concat, reached]
  exact draw_recolors ⟨element, .standard, entries, ⟨colors⟩, nextId, layout⟩ compatible

/-- No more series are visible than there are colors, and yet a drawing shows two of them in
one color. -/
def Clashes (operations : List (Operation Float)) (first second : SeriesRef)
    (color : String) : Prop :=
  let palette : Palette := ⟨["red", "green"]⟩
  let chart := (fresh .new .standard palette).run operations
  (∀ operation ∈ operations, operation.SetsNoColor) ∧ palette.colors.Nodup ∧
    chart.draw.2 = .ok () ∧ Plot.shownCount chart.plots ≤ palette.colors.length ∧
    first ≠ second ∧ chart.draw.1.Shows first (some color) ∧
    chart.draw.1.Shows second (some color)

omit [Scalar α] in
private theorem dots_setsNoColor (color : Option String) : (dots color : Plot α).SetsNoColor :=
  ⟨rfl, by simp [dots, Series.empty, Series.ofData, SeriesStyle.unset]⟩

omit [Scalar α] in
private theorem compatible_two_dots (color other : Option String) :
    Plot.Compatible [(dots color : Plot α), dots other] :=
  Plot.compatible_pair rfl rfl

theorem Reaches.clashes {operations : List (Operation Float)} {first second : PlotId}
    {colors : List String} {nextId : Nat}
    (reaches : Reaches operations [(first, dots (some "red")), (second, dots (some "red"))] colors
      nextId)
    (plain : ∀ operation ∈ operations, operation.SetsNoColor) (different : first ≠ second) :
    Clashes operations ⟨first, 0⟩ ⟨second, 0⟩ "red" := by
  have compatible : Plot.Compatible [(dots (some "red") : Plot Float), dots (some "red")] :=
    compatible_two_dots _ _
  obtain ⟨drawnElement, drawnLayout, after⟩ := reaches.draw compatible
  obtain ⟨element, layout, reached⟩ := reaches
  rw [run_concat] at after
  change ((fresh .new .standard ⟨["red", "green"]⟩ : Chart Float).run operations).draw.1 = _
    at after
  have shows (id : PlotId) (among : id = first ∨ id = second) :
      ((fresh .new .standard ⟨["red", "green"]⟩ : Chart Float).run operations).draw.1.Shows
        ⟨id, 0⟩ (some "red") := by
    refine ⟨dots (some "red"), ?_, rfl, Nat.zero_lt_one, rfl⟩
    rw [after]
    change List.lookup id [(first, dots (some "red")), (second, dots (some "red"))] = _
    by_cases here : id = first
    · simp [here]
    · have other : (id == first) = false := beq_false_of_ne here
      rw [List.lookup_cons, other]
      simp [among.resolve_left here]
  refine ⟨plain, by decide, ?_, ?_, ?_, shows first (.inl rfl), shows second (.inr rfl)⟩
  · rw [reached]
    exact draw_ok_of_compatible compatible
  · rw [reached]
    exact Nat.le_refl 2
  · simpa using different

/-- The first plot is hidden while its color is handed to the third one. -/
def hidingRun : List (Operation Float) :=
  [.addPlot (dots none), .draw, .editPlot ⟨0⟩ (PlotChange.visible false).apply,
    .addPlot (dots none), .draw, .removePlot ⟨1⟩, .addPlot (dots none), .draw,
    .editPlot ⟨0⟩ (PlotChange.visible true).apply]

private theorem hidingRun_clashes : Clashes hidingRun ⟨⟨0⟩, 0⟩ ⟨⟨2⟩, 0⟩ "red" := by
  let red : Plot Float := dots (some "red")
  let unseen : Plot Float := (PlotChange.visible false).apply red
  have added : Reaches (hidingRun.take 1) [(⟨0⟩, dots none)] ["red", "green"] 1 :=
    ⟨.new, none, rfl⟩
  have first : Reaches (hidingRun.take 2) [(⟨0⟩, red)] ["green", "red"] 1 :=
    added.draw (compatible_dots none)
  have hidden : Reaches (hidingRun.take 4) [(⟨0⟩, unseen), (⟨1⟩, dots none)]
      ["green", "red"] 2 := first.more fun _ _ => rfl
  have second : Reaches (hidingRun.take 5) [(⟨0⟩, unseen), (⟨1⟩, dots (some "green"))]
      ["red", "green"] 2 := hidden.draw (compatible_dots none)
  have replaced : Reaches (hidingRun.take 7) [(⟨0⟩, unseen), (⟨2⟩, dots none)]
      ["red", "green"] 3 := second.more fun _ _ => rfl
  have third : Reaches (hidingRun.take 8) [(⟨0⟩, unseen), (⟨2⟩, red)] ["green", "red"] 3 :=
    replaced.draw (compatible_dots none)
  have shown : Reaches hidingRun [(⟨0⟩, red), (⟨2⟩, red)] ["green", "red"] 3 :=
    third.more fun _ _ => rfl
  refine shown.clashes ?_ (by decide)
  simp [hidingRun, Operation.SetsNoColor, dots_setsNoColor]

/-- The third plot is colored with the color of the first one while two colors are in use. -/
def crowdedRun : List (Operation Float) :=
  [.addPlot (dots none), .addPlot (dots none), .addPlot (dots none), .draw, .removePlot ⟨1⟩]

private theorem crowdedRun_clashes : Clashes crowdedRun ⟨⟨0⟩, 0⟩ ⟨⟨2⟩, 0⟩ "red" := by
  have compatible : Plot.Compatible [(dots none : Plot Float), dots none, dots none] :=
    (Plot.compatible_concat_iff [_, _] _).mpr ⟨compatible_two_dots none none, rfl⟩
  have added : Reaches (crowdedRun.take 3)
      [(⟨0⟩, dots none), (⟨1⟩, dots none), (⟨2⟩, dots none)] ["red", "green"] 3 :=
    ⟨.new, none, rfl⟩
  have drawn : Reaches (crowdedRun.take 4) [(⟨0⟩, dots (some "red")),
      (⟨1⟩, dots (some "green")), (⟨2⟩, dots (some "red"))] ["red", "green"] 3 :=
    added.draw compatible
  have left : Reaches crowdedRun [(⟨0⟩, dots (some "red")), (⟨2⟩, dots (some "red"))]
      ["red", "green"] 3 := drawn.more fun _ _ => rfl
  refine left.clashes ?_ (by decide)
  simp [crowdedRun, Operation.SetsNoColor, dots_setsNoColor]

/-- A plot comes back with its color when that has been handed to another one. -/
def returningRun : List (Operation Float) :=
  [.addPlot (dots none), .draw, .removePlot ⟨0⟩, .addPlot (dots none), .addPlot (dots none),
    .draw, .removePlot ⟨1⟩, .addPlot (dots (some "red"))]

private theorem returningRun_clashes : Clashes returningRun ⟨⟨2⟩, 0⟩ ⟨⟨3⟩, 0⟩ "red" := by
  have added : Reaches (returningRun.take 1) [(⟨0⟩, dots none)] ["red", "green"] 1 :=
    ⟨.new, none, rfl⟩
  have first : Reaches (returningRun.take 2) [(⟨0⟩, dots (some "red"))] ["green", "red"] 1 :=
    added.draw (compatible_dots none)
  have replaced : Reaches (returningRun.take 5) [(⟨1⟩, dots none), (⟨2⟩, dots none)]
      ["green", "red"] 3 := first.more fun _ _ => rfl
  have second : Reaches (returningRun.take 6)
      [(⟨1⟩, dots (some "green")), (⟨2⟩, dots (some "red"))] ["green", "red"] 3 :=
    replaced.draw (compatible_two_dots none none)
  have back : Reaches returningRun [(⟨2⟩, dots (some "red")), (⟨3⟩, dots (some "red"))]
      ["red", "green"] 4 := second.more fun _ _ => rfl
  refine back.clashes ?_ (by decide)
  simp [returningRun, Operation.SetsNoColor, dots_setsNoColor]

theorem run_clashes :
    Clashes hidingRun ⟨⟨0⟩, 0⟩ ⟨⟨2⟩, 0⟩ "red" ∧ Clashes crowdedRun ⟨⟨0⟩, 0⟩ ⟨⟨2⟩, 0⟩ "red" ∧
      Clashes returningRun ⟨⟨2⟩, 0⟩ ⟨⟨3⟩, 0⟩ "red" :=
  ⟨hidingRun_clashes, crowdedRun_clashes, returningRun_clashes⟩

theorem run_shares_colors_hiding :
    Clashes hidingRun ⟨⟨0⟩, 0⟩ ⟨⟨2⟩, 0⟩ "red" ∧
      (fresh .new .standard ⟨["red", "green"]⟩).Doubled 2 hidingRun ⟨⟨0⟩, 0⟩ ⟨⟨2⟩, 0⟩ "red" := by
  obtain ⟨plain, distinct, ended, few, different, first, second⟩ := hidingRun_clashes
  obtain ⟨_held, same, doubled⟩ := run_shares_colors .new .standard ⟨["red", "green"]⟩ hidingRun
    plain distinct ended few _ _ _ different first second
  cases same
  exact ⟨hidingRun_clashes, doubled⟩

end Chart
end CanvasChart
