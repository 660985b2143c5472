import CanvasChart.Proofs.Chart.DrawnPlots
import CanvasChart.Proofs.Plot.Recoloring

set_option autoImplicit false

/-! Runs of a chart. Plots come and go, are edited and drawn in any order. Where the plot that a
chart holds under an id comes from is told once for all operations. -/

namespace CanvasChart

variable {α : Type}

/-- A change of a registered plot. Colors that were handed out stay where they are. -/
inductive PlotChange (α : Type) where
  | visible (shown : Bool)
  | options (options : PlotOptions α)
  | seriesStyle (index : Nat) (style : SeriesStyle α)
  | seriesData (index : Nat) (data : List (DataPoint α))
  | addSeries (series : Series α)

namespace PlotChange

def apply (change : PlotChange α) (plot : Plot α) : Plot α :=
  match change with
  | visible shown => { plot with options := { plot.options with visible := shown } }
  | options chosen => { plot with options := chosen }
  | seriesStyle index style =>
      { plot with series := plot.series.modify index fun series => { series with style := style } }
  | seriesData index data =>
      { plot with series := plot.series.modify index fun series => { series with data := data } }
  | addSeries series => plot.addSeries series

theorem assigned?_apply (change : PlotChange α) {plot : Plot α} {index : Nat} {color : String}
    (held : plot.assigned? index = some color) :
    (change.apply plot).assigned? index = some color := by
  have modified (place : Nat) {rewrite : Series α → Series α}
      (kept : ∀ series, (rewrite series).assignedColor = series.assignedColor) :
      (plot.series.modify place rewrite)[index]?.bind Series.assignedColor = some color := by
    rw [List.getElem?_modify, ← held, Plot.assigned?]
    cases plot.series[index]? with
    | none => rfl
    | some series =>
        by_cases there : place = index
        · simp [there, kept]
        · simp [there]
  cases change with
  | visible shown => exact held
  | options chosen => exact held
  | seriesStyle place style => exact modified place (fun _series => rfl)
  | seriesData place data => exact modified place fun _series => rfl
  | addSeries series =>
      obtain ⟨stored, found, holds⟩ := Option.bind_eq_some_iff.mp held
      have inside := (List.getElem?_eq_some_iff.mp found).1
      change (plot.series ++ [series])[index]?.bind Series.assignedColor = some color
      rw [List.getElem?_append_left inside, found, Option.bind_some, holds]

end PlotChange

inductive Operation (α : Type) where
  | addPlot (plot : Plot α)
  | removePlot (id : PlotId)
  | editPlot (id : PlotId) (edit : Plot α → Plot α)
  | setOptions (options : ChartOptions α)
  | draw

structure SeriesRef where
  plot : PlotId
  index : Nat
  deriving DecidableEq

namespace Chart

def ids (chart : Chart α) : List PlotId := chart.entries.map Prod.fst

def indexOf? (chart : Chart α) (id : PlotId) : Option Nat :=
  chart.ids.findIdx? fun held => held = id

def assigned? (chart : Chart α) (ref : SeriesRef) : Option String :=
  (chart.plot? ref.plot).bind fun plot => plot.assigned? ref.index

/-- Each plot has an id of its own, and all of them have been given away. -/
structure Numbered (chart : Chart α) : Prop where
  distinct : chart.ids.Nodup
  given : ∀ id ∈ chart.ids, id.number < chart.nextId

def withoutPlot (chart : Chart α) (id : PlotId) : Chart α :=
  match chart.removePlot id with
  | .ok (_, left) => left
  | .error _ => chart

def editPlot (chart : Chart α) (id : PlotId) (edit : Plot α → Plot α) : Chart α :=
  match chart.plot? id with
  | some plot => chart.putPlot id (edit plot)
  | none => chart

private theorem plot?_eq (chart : Chart α) (id : PlotId) :
    chart.plot? id = (chart.indexOf? id).bind fun place => chart.plots[place]? := by
  unfold plot? indexOf? plots ids
  induction chart.entries with
  | nil => rfl
  | cons entry rest ih =>
      rw [List.map_cons, List.map_cons, List.findIdx?_cons, List.lookup_cons]
      by_cases here : entry.1 = id
      · simp [here]
      · have other : (id == entry.1) = false := by simpa using fun same => here same.symm
        simp only [other, ih, here, decide_false, Bool.false_eq_true, if_false]
        cases (rest.map Prod.fst).findIdx? fun held => held = id <;> rfl

theorem plot?_isSome_iff (chart : Chart α) (id : PlotId) :
    (chart.plot? id).isSome = true ↔ id ∈ chart.ids := by
  unfold plot? ids
  induction chart.entries with
  | nil => simp
  | cons entry rest ih =>
      rw [List.lookup_cons, List.map_cons, List.mem_cons, ← ih]
      by_cases here : id = entry.1
      · simp [here]
      · have other : (id == entry.1) = false := beq_false_of_ne here
        simp only [other, here, false_or]

theorem ne_of_plot?_eq_none {chart : Chart α} {id held : PlotId} (absent : chart.plot? id = none)
    (member : held ∈ chart.ids) : id ≠ held := by
  rintro rfl
  have there := (chart.plot?_isSome_iff id).mpr member
  rw [absent] at there
  cases there

theorem Numbered.given_of_plot? {chart : Chart α} (numbered : chart.Numbered) {id : PlotId}
    {plot : Plot α} (held : chart.plot? id = some plot) : id.number < chart.nextId := by
  refine numbered.given id ((chart.plot?_isSome_iff id).mp ?_)
  rw [held]
  rfl

theorem Numbered.plot?_eq_some_iff {chart : Chart α} (numbered : chart.Numbered) (id : PlotId)
    (plot : Plot α) : chart.plot? id = some plot ↔ (id, plot) ∈ chart.entries := by
  constructor
  · intro held
    obtain ⟨before, after, split, _first⟩ := List.lookup_eq_some_iff.mp held
    rw [split]
    exact List.mem_append_right before List.mem_cons_self
  · intro listed
    obtain ⟨before, after, split⟩ := List.mem_iff_append.mp listed
    refine List.lookup_eq_some_iff.mpr ⟨before, after, split, fun entry earlier => ?_⟩
    have distinct := numbered.distinct
    rw [ids, split, List.map_append, List.map_cons, List.nodup_append] at distinct
    exact bne_iff_ne.mpr
      (distinct.2.2 entry.1 (List.mem_map_of_mem earlier) id List.mem_cons_self).symm

theorem Numbered.exists_id {chart : Chart α} (numbered : chart.Numbered) {plot : Plot α}
    (listed : plot ∈ chart.plots) : ∃ id, chart.plot? id = some plot := by
  obtain ⟨⟨id, stored⟩, member, rfl⟩ := List.mem_map.mp listed
  exact ⟨id, (numbered.plot?_eq_some_iff id stored).mpr member⟩

private theorem addPlot_plot? (chart : Chart α) (plot : Plot α) (id : PlotId) :
    (chart.addPlot plot).2.plot? id =
      (chart.plot? id).or (if id = ⟨chart.nextId⟩ then some plot else none) := by
  simp only [addPlot, plot?, List.lookup_append, List.lookup_cons, List.lookup_nil]
  congr 1
  by_cases new : id = ⟨chart.nextId⟩
  · simp [new]
  · have other : (id == ⟨chart.nextId⟩) = false := beq_false_of_ne new
    rw [other, if_neg new]

private theorem lookup_without (entries : List (PlotId × Plot α)) (removed id : PlotId) :
    (entries.filter fun entry => entry.1 ≠ removed).lookup id =
      if id = removed then none else entries.lookup id := by
  induction entries with
  | nil => simp
  | cons entry rest ih =>
      rw [List.filter_cons, List.lookup_cons]
      by_cases gone : entry.1 = removed
      · rw [if_neg (by simpa using gone), ih]
        by_cases asked : id = removed
        · rw [if_pos asked, if_pos asked]
        · have other : (id == entry.1) = false := beq_false_of_ne (gone ▸ asked)
          rw [if_neg asked, if_neg asked, other]
      · rw [if_pos (by simpa using gone), List.lookup_cons, ih]
        by_cases asked : id = removed
        · have other : (id == entry.1) = false :=
            beq_false_of_ne fun same => gone (same.symm.trans asked)
          rw [if_pos asked, if_pos asked, other]
        · rw [if_neg asked, if_neg asked]

private theorem withoutPlot_plot? (chart : Chart α) (removed id : PlotId) :
    (chart.withoutPlot removed).plot? id = if id = removed then none else chart.plot? id := by
  unfold withoutPlot removePlot
  cases held : chart.plot? removed with
  | none =>
      by_cases asked : id = removed
      · rw [if_pos asked, asked, held]
      · rw [if_neg asked]
  | some plot => exact lookup_without chart.entries removed id

private theorem putPlot_plot? (chart : Chart α) (put : PlotId) (plot : Plot α) (id : PlotId) :
    (chart.putPlot put plot).plot? id =
      if id = put then (chart.plot? id).map fun _held => plot else chart.plot? id := by
  unfold putPlot plot?
  induction chart.entries with
  | nil => simp
  | cons entry rest ih =>
      rw [List.map_cons, List.lookup_cons, List.lookup_cons, ih]
      by_cases asked : id = put
      · by_cases here : entry.1 = put
        · simp [asked, here]
        · have other : (put == entry.1) = false := beq_false_of_ne fun same => here same.symm
          simp [asked, here, other]
      · by_cases here : entry.1 = put
        · have other : (id == put) = false := beq_false_of_ne asked
          simp [asked, here, other]
        · simp [asked, here]

private theorem editPlot_plot? (chart : Chart α) (edited : PlotId) (edit : Plot α → Plot α)
    (id : PlotId) :
    (chart.editPlot edited edit).plot? id =
      if id = edited then (chart.plot? id).map edit else chart.plot? id := by
  unfold editPlot
  cases held : chart.plot? edited with
  | none =>
      by_cases asked : id = edited
      · rw [if_pos asked, asked, held, Option.map_none]
      · rw [if_neg asked]
  | some plot =>
      simp only [putPlot_plot?]
      by_cases asked : id = edited
      · rw [if_pos asked, if_pos asked, asked, held, Option.map_some, Option.map_some]
      · rw [if_neg asked, if_neg asked]

variable [Scalar α]

def fresh (element : Element α) (options : ChartOptions α) (palette : Palette) : Chart α :=
  { Chart.new element with
    options := options
    palette := palette }

/-- What an operation leaves of a chart, whether it fails or not. -/
def perform (chart : Chart α) : Operation α → Chart α
  | .addPlot plot => (chart.addPlot plot).2
  | .removePlot id => chart.withoutPlot id
  | .editPlot id edit => chart.editPlot id edit
  | .setOptions options => { chart with options := options }
  | .draw => chart.draw.1

def run (chart : Chart α) (operations : List (Operation α)) : Chart α :=
  operations.foldl perform chart

variable {chart : Chart α}

/-! ### Drawing -/

theorem draw_entries (ended : chart.draw.2 = .ok ()) :
    chart.draw.1.entries = chart.ids.zip chart.coloredPlots := by
  obtain ⟨gathered, _resolved, _gathers, _compatible, drawn⟩ := draw_of_ok ended
  rw [drawn]
  rfl

private theorem draw_ids (chart : Chart α) : chart.draw.1.ids = chart.ids := by
  rcases chart.draw_outcome with
    ⟨gathered, _resolved, _gathers, _compatible, drawn⟩ | ⟨error, _unresolved, _fault, failed⟩
  · rw [ids, draw_entries (by rw [drawn]), List.map_fst_zip]
    rw [chart.coloredPlots_length]
    simp [ids, plots]
  · rw [failed]
    rfl

theorem draw_of_failed (failed : chart.draw.2 ≠ .ok ()) : chart.draw.1 = chart.sized := by
  rcases chart.draw_outcome with
    ⟨gathered, _resolved, _gathers, _compatible, drawn⟩ | ⟨error, _unresolved, _fault, drawn⟩
  · exact absurd (by rw [drawn]) failed
  · rw [drawn]

theorem draw_place (ended : chart.draw.2 = .ok ()) {id : PlotId} {after : Plot α}
    (held : chart.draw.1.plot? id = some after) :
    ∃ place before, chart.indexOf? id = some place ∧ chart.plots[place]? = some before ∧
      chart.coloredPlots[place]? = some after ∧ before.Recolored after := by
  rw [plot?_eq, draw_plots ended, indexOf?, draw_ids, ← indexOf?] at held
  obtain ⟨place, found, colored⟩ := Option.bind_eq_some_iff.mp held
  have recolored := Plot.setColors_recolored chart.plots chart.palette
  obtain ⟨inside, rfl⟩ := List.getElem?_eq_some_iff.mp colored
  have beforeInside : place < chart.plots.length := recolored.length_eq ▸ inside
  exact ⟨place, _, found, List.getElem?_eq_getElem beforeInside, colored,
    recolored.get beforeInside inside⟩

omit [Scalar α] in
theorem plot?_of_place {id : PlotId} {place : Nat} (found : chart.indexOf? id = some place) :
    chart.plot? id = chart.plots[place]? := by
  rw [plot?_eq, found, Option.bind_some]

omit [Scalar α] in
theorem eq_of_indexOf? {id other : PlotId} {place : Nat} (found : chart.indexOf? id = some place)
    (otherFound : chart.indexOf? other = some place) : id = other := by
  obtain ⟨_inside, same, _first⟩ := List.findIdx?_eq_some_iff_getElem.mp found
  obtain ⟨_otherInside, otherSame, _otherFirst⟩ :=
    List.findIdx?_eq_some_iff_getElem.mp otherFound
  exact (of_decide_eq_true same).symm.trans (of_decide_eq_true otherSame)

/-- Of the chart a drawing of compatible plots changes colors, palette, canvas and layout. -/
theorem draw_recolors (chart : Chart α)
    (compatible : Plot.Compatible (chart.plots.filter Plot.isVisible)) :
    ∃ element layout, chart.draw.1 = { chart with
      element := element
      entries := chart.ids.zip chart.coloredPlots
      palette := chart.rotatedPalette
      layout := layout } := by
  obtain ⟨gathered, _resolved, _gathers, _compatible, drawn⟩ :=
    draw_of_ok (draw_ok_of_compatible compatible)
  rw [drawn]
  exact ⟨_, _, rfl⟩

/-! ### Single operations -/

/-- Where a plot that a chart holds after an operation comes from. -/
inductive Arises (chart : Chart α) : Operation α → PlotId → Plot α → Prop
  | kept {operation : Operation α} {id : PlotId} {plot : Plot α}
      (held : chart.plot? id = some plot) : Arises chart operation id plot
  | added (plot : Plot α) : Arises chart (.addPlot plot) ⟨chart.nextId⟩ plot
  | edited {id : PlotId} {plot : Plot α} (edit : Plot α → Plot α)
      (held : chart.plot? id = some plot) : Arises chart (.editPlot id edit) id (edit plot)
  | colored {id : PlotId} {before after : Plot α} (ended : chart.draw.2 = .ok ())
      (held : chart.plot? id = some before) (recolored : before.Recolored after) :
      Arises chart .draw id after

theorem perform_arises {operation : Operation α} {id : PlotId} {plot : Plot α}
    (held : (chart.perform operation).plot? id = some plot) : chart.Arises operation id plot := by
  cases operation with
  | addPlot new =>
      change (chart.addPlot new).2.plot? id = some plot at held
      rw [addPlot_plot?] at held
      rcases Option.or_eq_some_iff.mp held with earlier | ⟨_absent, added⟩
      · exact .kept earlier
      · split at added
        case isTrue given =>
          cases added
          exact given ▸ .added plot
        case isFalse => cases added
  | removePlot removed =>
      change (chart.withoutPlot removed).plot? id = some plot at held
      rw [withoutPlot_plot?] at held
      split at held
      case isTrue => cases held
      case isFalse => exact .kept held
  | editPlot edited edit =>
      change (chart.editPlot edited edit).plot? id = some plot at held
      rw [editPlot_plot?] at held
      split at held
      case isTrue same =>
        subst same
        obtain ⟨before, stored, rfl⟩ := Option.map_eq_some_iff.mp held
        exact .edited edit stored
      case isFalse => exact .kept held
  | setOptions options => exact .kept held
  | draw =>
      change chart.draw.1.plot? id = some plot at held
      by_cases ended : chart.draw.2 = .ok ()
      · obtain ⟨place, before, found, stored, _colored, recolored⟩ := draw_place ended held
        exact .colored ended ((plot?_of_place found).trans stored) recolored
      · rw [draw_of_failed ended] at held
        exact .kept held

private theorem perform_ids (chart : Chart α) (operation : Operation α) :
    (chart.perform operation).ids =
      match operation with
      | .addPlot _ => chart.ids ++ [⟨chart.nextId⟩]
      | .removePlot removed => chart.ids.filter fun id => id ≠ removed
      | _ => chart.ids := by
  cases operation with
  | addPlot plot => exact List.map_append
  | removePlot removed =>
      change (chart.withoutPlot removed).ids = _
      unfold withoutPlot removePlot
      cases held : chart.plot? removed with
      | none =>
          refine (List.filter_eq_self.mpr fun id listed => decide_eq_true ?_).symm
          exact (ne_of_plot?_eq_none held listed).symm
      | some plot =>
          change (chart.entries.filter _).map Prod.fst = (chart.entries.map Prod.fst).filter _
          rw [List.filter_map]
          rfl
  | editPlot edited edit =>
      change (chart.editPlot edited edit).ids = chart.ids
      unfold editPlot
      cases chart.plot? edited with
      | none => rfl
      | some plot =>
          simp only [ids, putPlot, List.map_map]
          refine List.map_congr_left fun entry _listed => ?_
          by_cases here : entry.1 = edited <;> simp [here]
  | setOptions options => rfl
  | draw => exact chart.draw_ids

theorem perform_nextId (chart : Chart α) (operation : Operation α) :
    (chart.perform operation).nextId =
      match operation with
      | .addPlot _ => chart.nextId + 1
      | _ => chart.nextId := by
  cases operation with
  | addPlot plot => rfl
  | removePlot id =>
      change (chart.withoutPlot id).nextId = chart.nextId
      unfold withoutPlot removePlot
      cases chart.plot? id <;> rfl
  | editPlot id edit =>
      change (chart.editPlot id edit).nextId = chart.nextId
      unfold editPlot
      cases chart.plot? id <;> rfl
  | setOptions options => rfl
  | draw =>
      change chart.draw.1.nextId = chart.nextId
      rcases chart.draw_outcome with
        ⟨gathered, _resolved, _gathers, _compatible, drawn⟩ | ⟨error, _unresolved, _fault, failed⟩
      · rw [drawn]
        rfl
      · rw [failed]
        rfl

theorem nextId_le_perform (chart : Chart α) (operation : Operation α) :
    chart.nextId ≤ (chart.perform operation).nextId := by
  rw [perform_nextId]
  split
  · exact Nat.le_succ chart.nextId
  · exact Nat.le_refl chart.nextId

theorem Numbered.perform (numbered : chart.Numbered) (operation : Operation α) :
    (chart.perform operation).Numbered := by
  have grown := chart.nextId_le_perform operation
  have sameIds (same : (chart.perform operation).ids = chart.ids) :
      (chart.perform operation).Numbered := by
    constructor
    · exact same ▸ numbered.distinct
    · intro id listed
      exact (numbered.given id (same ▸ listed)).trans_le grown
  cases operation with
  | addPlot plot =>
      have added := chart.perform_ids (.addPlot plot)
      have next := chart.perform_nextId (.addPlot plot)
      constructor
      · rw [added]
        refine List.nodup_append.mpr ⟨numbered.distinct, List.nodup_singleton _, ?_⟩
        rintro id listed _new member rfl
        have below := numbered.given id listed
        rw [List.mem_singleton.mp member] at below
        exact Nat.lt_irrefl _ below
      · intro id listed
        rw [added, List.mem_append, List.mem_singleton] at listed
        rw [next]
        rcases listed with earlier | rfl
        · exact Nat.lt_succ_of_lt (numbered.given id earlier)
        · exact Nat.lt_succ_self chart.nextId
  | removePlot removed =>
      have kept := chart.perform_ids (.removePlot removed)
      constructor
      · rw [kept]
        exact numbered.distinct.filter _
      · intro id listed
        rw [kept] at listed
        exact (numbered.given id (List.mem_filter.mp listed).1).trans_le grown
  | editPlot | setOptions | draw => exact sameIds (chart.perform_ids _)

private theorem perform_absent {id : PlotId} (given : id.number < chart.nextId)
    (absent : chart.plot? id = none) (operation : Operation α) :
    (chart.perform operation).plot? id = none := by
  cases found : (chart.perform operation).plot? id with
  | none => rfl
  | some plot =>
      exfalso
      cases perform_arises found with
      | kept held => simp [absent] at held
      | added => exact Nat.lt_irrefl _ given
      | edited edit held => simp [absent] at held
      | colored ended held recolored => simp [absent] at held

/-! ### Runs -/

theorem run_append (chart : Chart α) (earlier later : List (Operation α)) :
    chart.run (earlier ++ later) = (chart.run earlier).run later :=
  List.foldl_append

theorem run_concat (chart : Chart α) (earlier : List (Operation α)) (operation : Operation α) :
    chart.run (earlier ++ [operation]) = (chart.run earlier).perform operation :=
  chart.run_append earlier [operation]

/-- What every operation of a run preserves holds at its end. -/
theorem run_invariant {invariant : Chart α → Prop} (operations : List (Operation α))
    (step : ∀ chart operation, operation ∈ operations → invariant chart →
      invariant (chart.perform operation)) (start : invariant chart) :
    invariant (chart.run operations) := by
  induction operations generalizing chart with
  | nil => exact start
  | cons operation rest ih =>
      refine ih (fun next later member => ?_) (step chart operation List.mem_cons_self start)
      exact step next later (List.mem_cons_of_mem operation member)

theorem Numbered.run (numbered : chart.Numbered) (operations : List (Operation α)) :
    (chart.run operations).Numbered :=
  run_invariant operations (fun _chart operation _member before => before.perform operation)
    numbered

theorem fresh_numbered (element : Element α) (options : ChartOptions α) (palette : Palette) :
    (fresh element options palette).Numbered :=
  ⟨List.nodup_nil, List.forall_mem_nil _⟩

theorem run_absent {id : PlotId} (given : id.number < chart.nextId)
    (absent : chart.plot? id = none) (operations : List (Operation α)) :
    (chart.run operations).plot? id = none := by
  let Missing (between : Chart α) : Prop :=
    id.number < between.nextId ∧ between.plot? id = none
  have kept : Missing (chart.run operations) := by
    refine run_invariant operations ?_ ⟨given, absent⟩
    rintro between operation _member ⟨below, gone⟩
    exact ⟨below.trans_le (between.nextId_le_perform operation),
      perform_absent below gone operation⟩
  exact kept.2

end Chart
end CanvasChart
