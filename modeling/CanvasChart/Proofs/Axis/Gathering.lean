import CanvasChart.Chart.AxisResolution
import CanvasChart.Proofs.Axis.Members

set_option autoImplicit false

/-! The axes that some plots call for. The axis of a side is a new one that took in, in
order, the plots that use the side in its role, and no plot uses the side in the other
role. Every step of axis resolution keeps this, or ends with the error of the first
thing that it finds amiss. -/

namespace CanvasChart

variable {α : Type}

def AxisKind.other : AxisKind → AxisKind
  | .x => .y
  | .y => .x

theorem AxisKind.eq_other_of_ne {kind wanted : AxisKind} (different : kind ≠ wanted) :
    kind = wanted.other := by
  cases kind <;> cases wanted <;> first | rfl | exact absurd rfl different

def Plot.sideOf (plot : Plot α) : AxisKind → Side
  | .x => plot.options.xSide
  | .y => plot.options.ySide

/-- The numbered plots that use a side in a role. -/
def Plot.users (kind : AxisKind) (side : Side) (entries : List (Nat × Plot α)) :
    List (Nat × Plot α) :=
  entries.filter fun entry => entry.2.sideOf kind = side

theorem Plot.mem_users {kind : AxisKind} {side : Side} {entries : List (Nat × Plot α)}
    {entry : Nat × Plot α} :
    entry ∈ Plot.users kind side entries ↔ entry ∈ entries ∧ entry.2.sideOf kind = side := by
  simp [users]

theorem Plot.users_append_user {kind : AxisKind} {side : Side} (entries : List (Nat × Plot α))
    (entry : Nat × Plot α) (uses : entry.2.sideOf kind = side) :
    Plot.users kind side (entries ++ [entry]) = Plot.users kind side entries ++ [entry] := by
  simp [users, uses]

theorem Plot.users_append_other {kind : AxisKind} {side : Side} (entries : List (Nat × Plot α))
    (entry : Nat × Plot α) (elsewhere : entry.2.sideOf kind ≠ side) :
    Plot.users kind side (entries ++ [entry]) = Plot.users kind side entries := by
  simp [users, elsewhere]

variable [Scalar α]

namespace Axis

def addPlots (axis : Axis α) : List (Nat × Plot α) → Except ChartError (Axis α)
  | [] => .ok axis
  | (index, plot) :: rest => do addPlots (← axis.addPlot index plot) rest

private theorem addPlots_append (axis middle : Axis α) (first second : List (Nat × Plot α))
    (taken : axis.addPlots first = .ok middle) :
    axis.addPlots (first ++ second) = middle.addPlots second := by
  induction first generalizing axis with
  | nil =>
      cases taken
      rfl
  | cons entry rest ih =>
      obtain ⟨index, plot⟩ := entry
      simp only [addPlots, List.cons_append] at taken ⊢
      cases added : axis.addPlot index plot with
      | error error =>
          rw [added] at taken
          cases taken
      | ok next =>
          rw [added] at taken
          exact ih next taken

/-- What holds of an axis before any plot, and with every plot taken in of that one too, holds
of the axis after all of them. -/
theorem addPlots_induction {axis final : Axis α} {entries : List (Nat × Plot α)}
    (holds : Axis α → List (Nat × Plot α) → Prop) (start : holds axis [])
    (step : ∀ before earlier index plot next, (index, plot) ∈ entries → holds before earlier →
      before.addPlot index plot = .ok next → holds next (earlier ++ [(index, plot)]))
    (taken : axis.addPlots entries = .ok final) : holds final entries := by
  suffices run : ∀ (rest : List (Nat × Plot α)), (∀ entry ∈ rest, entry ∈ entries) →
      ∀ (before : Axis α) (earlier : List (Nat × Plot α)), holds before earlier →
        before.addPlots rest = .ok final → holds final (earlier ++ rest) from
    run entries (fun _entry member => member) axis [] start taken
  intro rest
  -- on the plots that are still to come
  induction rest with
  | nil =>
      intro _members before earlier held taken
      cases taken
      rwa [List.append_nil]
  | cons entry rest ih =>
      intro members before earlier held taken
      obtain ⟨index, plot⟩ := entry
      cases added : before.addPlot index plot with
      | error error =>
          simp only [addPlots, added] at taken
          cases taken
      | ok next =>
          simp only [addPlots, added] at taken
          have grown := step before earlier index plot next (members _ List.mem_cons_self) held added
          have whole := ih (fun entry member => members entry (List.mem_cons_of_mem _ member))
            next _ grown taken
          rwa [List.append_assoc] at whole

theorem addPlots_told {axis final : Axis α} {entries : List (Nat × Plot α)}
    (taken : axis.addPlots entries = .ok final) :
    final.options = axis.options ∧ final.kind = axis.kind ∧
      (axis.kind = .x → ∀ entry ∈ entries, final.discrete = some entry.2.isDiscrete) := by
  refine addPlots_induction (fun held earlier => held.options = axis.options ∧
    held.kind = axis.kind ∧
      (axis.kind = .x → ∀ entry ∈ earlier, held.discrete = some entry.2.isDiscrete))
    ⟨rfl, rfl, fun _onX _entry none => nomatch none⟩ ?_ taken
  rintro before earlier index plot next _member ⟨options, kind, told⟩ added
  obtain ⟨_same, takes⟩ := taken_of_addPlot added
  refine ⟨takes.options.trans options, takes.kind.trans kind, fun onX entry member => ?_⟩
  rw [List.mem_append, List.mem_singleton] at member
  have onKind := kind.trans onX
  rcases member with before | rfl
  · by_cases same : entry.2.isDiscrete = plot.isDiscrete
    · rw [takes.discrete, if_pos onKind, same]
    · rw [addPlot_of_disagreement _ index plot _ onKind (told onX entry before) same] at added
      cases added
  · rw [takes.discrete, if_pos onKind]

theorem isDiscrete_of_addPlots {axis final : Axis α} {entries : List (Nat × Plot α)}
    (taken : axis.addPlots entries = .ok final) (continuous : final.isDiscrete = false) :
    axis.kind = .x → ∀ entry ∈ entries, entry.2.isDiscrete = false := by
  intro onX entry member
  obtain ⟨_options, kind, told⟩ := addPlots_told taken
  rw [isDiscrete, kind, onX, told onX entry member] at continuous
  exact continuous

theorem discrete_ne_none_of_addPlots {axis final : Axis α} {entries : List (Nat × Plot α)}
    (taken : axis.addPlots entries = .ok final) (some : entries ≠ []) :
    final.kind = .x → final.discrete ≠ none := by
  obtain ⟨_options, kind, told⟩ := addPlots_told taken
  intro onX
  rw [told (kind ▸ onX) _ (List.head_mem some)]
  exact Option.some_ne_none _

theorem addPlots_of_continuous {axis : Axis α} (entries : List (Nat × Plot α))
    (start : axis.isDiscrete = false)
    (continuous : axis.kind = .x → ∀ entry ∈ entries, entry.2.isDiscrete = false) :
    ∃ final, axis.addPlots entries = .ok final ∧ final.isDiscrete = false := by
  induction entries generalizing axis with
  | nil => exact ⟨axis, rfl, start⟩
  | cons entry rest ih =>
      obtain ⟨index, plot⟩ := entry
      have added :=
        addPlot_of_continuous start (fun onX => continuous onX _ List.mem_cons_self) index
      have takes := (taken_of_addPlot added).2
      have still : (axis.taking index plot).isDiscrete = false :=
        takes.isDiscrete_eq_false fun onX => continuous onX _ List.mem_cons_self
      obtain ⟨final, taken, settled⟩ := ih still fun onX entry member =>
        continuous (takes.kind ▸ onX) entry (List.mem_cons_of_mem _ member)
      exact ⟨final, by simp only [addPlots, added]; exact taken, settled⟩

theorem addPlots_of_y {axis : Axis α} (onY : axis.kind = .y) (entries : List (Nat × Plot α)) :
    ∃ final, axis.addPlots entries = .ok final ∧ final.isDiscrete = false :=
  addPlots_of_continuous entries (by simp [isDiscrete, onY]) fun onX => by
    rw [onY] at onX
    cases onX

/-- The axis of a side, for some numbered plots. -/
structure Gathers (options : ChartOptions α) (entries : List (Nat × Plot α)) (side : Side)
    (axis : Axis α) : Prop where
  side_eq : axis.side = side
  options_eq : axis.options = options.axis side
  /-- No plot uses the side in the other role. -/
  alone : Plot.users axis.kind.other side entries = []
  plots_eq : axis.plots = (Plot.users axis.kind side entries).map Prod.fst
  discrete_eq : axis.kind = .x →
    ∀ entry ∈ Plot.users .x side entries, axis.discrete = some entry.2.isDiscrete
  /-- The companion is the other side of the first plot. -/
  companion_eq : (Plot.users axis.kind side entries).head?.map
    (fun first => first.2.sideOf axis.kind.other) = some axis.companion
  taken : (Axis.new side axis.kind axis.companion (options.axis side)).addPlots
    (Plot.users axis.kind side entries) = .ok axis

namespace Gathers

variable {options : ChartOptions α} {entries : List (Nat × Plot α)} {side : Side}

theorem users_ne_nil {axis : Axis α} (gathers : axis.Gathers options entries side) :
    Plot.users axis.kind side entries ≠ [] := by
  intro none
  have companion := gathers.companion_eq
  rw [none] at companion
  cases companion

theorem kind_eq {axis : Axis α} (gathers : axis.Gathers options entries side)
    {entry : Nat × Plot α} (member : entry ∈ entries) {kind : AxisKind}
    (same : entry.2.sideOf kind = side) : axis.kind = kind := by
  by_cases inRole : axis.kind = kind
  · exact inRole
  · have other : entry ∈ Plot.users axis.kind.other side entries := by
      rw [← AxisKind.eq_other_of_ne (Ne.symm inRole)]
      exact Plot.mem_users.mpr ⟨member, same⟩
    rw [gathers.alone] at other
    cases other

theorem isDiscrete_eq {axis : Axis α} (gathers : axis.Gathers options entries side)
    (onX : axis.kind = .x) {entry : Nat × Plot α} (user : entry ∈ Plot.users .x side entries) :
    axis.isDiscrete = entry.2.isDiscrete := by
  simp [Axis.isDiscrete, onX, gathers.discrete_eq onX entry user]

private theorem passed {axis : Axis α} (gathers : axis.Gathers options entries side)
    (entry : Nat × Plot α) (elsewhere : ∀ kind, entry.2.sideOf kind ≠ side) :
    axis.Gathers options (entries ++ [entry]) side := by
  have same := fun kind => Plot.users_append_other entries entry (elsewhere kind)
  exact
    { side_eq := gathers.side_eq
      options_eq := gathers.options_eq
      alone := (same _).trans gathers.alone
      plots_eq := by rw [same]; exact gathers.plots_eq
      discrete_eq := by rw [same]; exact gathers.discrete_eq
      companion_eq := by rw [same]; exact gathers.companion_eq
      taken := by rw [same]; exact gathers.taken }

variable (options) in
/-- The first plot on a side founds its axis. -/
private theorem founded (vacant : ∀ kind, Plot.users kind side entries = []) (kind : AxisKind)
    (index : Nat) (plot : Plot α) (uses : plot.sideOf kind = side)
    (apart : plot.sideOf kind.other ≠ side) :
    ∃ next, (Axis.new side kind (plot.sideOf kind.other) (options.axis side)).addPlot
        index plot = .ok next ∧
      next.Gathers options (entries ++ [(index, plot)]) side := by
  obtain ⟨next, added, takes⟩ := addPlot_of_agreement
    (Axis.new side kind (plot.sideOf kind.other) (options.axis side)) index plot
    (fun _onX _discrete told => by cases told)
  have kindEq : next.kind = kind := takes.kind
  have companionEq : next.companion = plot.sideOf kind.other := takes.companion
  have onlyUser : Plot.users kind side (entries ++ [(index, plot)]) = [(index, plot)] := by
    rw [Plot.users_append_user entries (index, plot) uses, vacant]
    rfl
  refine ⟨next, added, ?_⟩
  exact
    { side_eq := takes.side
      options_eq := takes.options
      alone := by
        rw [kindEq, Plot.users_append_other entries (index, plot) apart]
        exact vacant _
      plots_eq := by rw [kindEq, onlyUser]; exact takes.plots
      discrete_eq := by
        intro onX entry member
        have onKind : kind = .x := kindEq.symm.trans onX
        subst onKind
        rw [onlyUser, List.mem_singleton] at member
        subst member
        exact takes.discrete
      companion_eq := by
        rw [kindEq, companionEq, onlyUser]
        rfl
      taken := by
        rw [kindEq, companionEq, onlyUser, addPlots, added]
        rfl }

/-- A further plot joins the axis of its side, unless it disagrees on discreteness. -/
private theorem joined {axis : Axis α} (gathers : axis.Gathers options entries side)
    (index : Nat) (plot : Plot α) (uses : plot.sideOf axis.kind = side)
    (apart : plot.sideOf axis.kind.other ≠ side)
    (agreement : axis.kind = .x →
      ∀ entry ∈ Plot.users .x side entries, entry.2.isDiscrete = plot.isDiscrete) :
    ∃ next, axis.addPlot index plot = .ok next ∧
      next.Gathers options (entries ++ [(index, plot)]) side := by
  have told : axis.kind = .x → axis.discrete = some plot.isDiscrete := by
    intro onX
    have someUser := gathers.users_ne_nil
    rw [onX] at someUser
    obtain ⟨entry, member⟩ := List.exists_mem_of_ne_nil _ someUser
    rw [gathers.discrete_eq onX entry member, agreement onX entry member]
  obtain ⟨next, added, takes⟩ := addPlot_of_agreement axis index plot (by
    intro onX discrete held
    rw [told onX] at held
    exact (Option.some.inj held).symm)
  have grown := Plot.users_append_user entries (index, plot) uses
  refine ⟨next, added, ?_⟩
  exact
    { side_eq := takes.side.trans gathers.side_eq
      options_eq := takes.options.trans gathers.options_eq
      alone := by
        rw [takes.kind, Plot.users_append_other entries (index, plot) apart]
        exact gathers.alone
      plots_eq := by
        rw [takes.kind, takes.plots, grown, gathers.plots_eq, List.map_append]
        rfl
      discrete_eq := by
        intro onX entry member
        rw [takes.kind] at onX
        rw [takes.discrete, if_pos onX]
        rw [onX] at grown
        rw [grown, List.mem_append, List.mem_singleton] at member
        rcases member with earlier | new
        · rw [agreement onX entry earlier]
        · rw [new]
      companion_eq := by
        have founder := gathers.companion_eq
        rw [takes.kind, takes.companion, grown, List.head?_append]
        cases first : (Plot.users axis.kind side entries).head? with
        | none =>
            rw [first] at founder
            cases founder
        | some entry =>
            rw [first] at founder
            exact founder
      taken := by
        rw [takes.kind, takes.companion, grown, addPlots_append _ _ _ _ gathers.taken]
        simp only [addPlots, added]
        rfl }

end Gathers
end Axis

namespace AxisSet

omit [Scalar α] in
theorem get?_insert (axes : AxisSet α) (axis : Axis α) (side : Side) :
    (axes.insert axis).get? side = if axis.side = side then some axis else axes.get? side := by
  cases placed : axis.side <;> cases side <;> simp [insert, get?, placed]

omit [Scalar α] in
theorem get?_map (axes : AxisSet α) (change : Axis α → Axis α) (side : Side) :
    (axes.map change).get? side = (axes.get? side).map change := by
  cases side <;> rfl

/-- What a side holds, for some numbered plots: their axis, or nothing when none uses it. -/
def GathersOn (options : ChartOptions α) (entries : List (Nat × Plot α)) (side : Side) :
    Option (Axis α) → Prop
  | none => ∀ kind, Plot.users kind side entries = []
  | some axis => axis.Gathers options entries side

/-- Every side holds the axis that some numbered plots call for. -/
def Gathers (options : ChartOptions α) (entries : List (Nat × Plot α)) (axes : AxisSet α) :
    Prop :=
  ∀ side, GathersOn options entries side (axes.get? side)

section Resolution

variable {options : ChartOptions α} {entries : List (Nat × Plot α)} {axes : AxisSet α}

theorem Gathers.of_get? (gathers : axes.Gathers options entries) {side : Side} {axis : Axis α}
    (held : axes.get? side = some axis) : axis.Gathers options entries side := by
  have onSide := gathers side
  rwa [held] at onSide

theorem gathers_empty (options : ChartOptions α) : (empty : AxisSet α).Gathers options [] := by
  intro side
  cases side <;> exact fun _kind => rfl

theorem GathersOn.passed {side : Side} {held : Option (Axis α)}
    (gathers : GathersOn options entries side held) (entry : Nat × Plot α)
    (elsewhere : ∀ kind, entry.2.sideOf kind ≠ side) :
    GathersOn options (entries ++ [entry]) side held := by
  cases held with
  | none =>
      intro kind
      rw [Plot.users_append_other entries entry (elsewhere kind)]
      exact gathers kind
  | some axis => exact Axis.Gathers.passed gathers entry elsewhere

theorem addPlotOn_of_conflict (side : Side) (kind : AxisKind) (companion : Side) (index : Nat)
    (plot : Plot α) (held : GathersOn options entries side (axes.get? side))
    (conflict : Plot.users kind.other side entries ≠ []) :
    axes.addPlotOn options side kind companion index plot = .error (.axisRoleConflict side) := by
  cases found : axes.get? side with
  | none =>
      rw [found] at held
      exact absurd (held kind.other) conflict
  | some axis =>
      rw [found] at held
      have otherKind : axis.kind ≠ kind := by
        intro same
        exact conflict (same ▸ held.alone)
      simp only [addPlotOn, inRole, found, if_neg otherKind]
      rfl

theorem addPlotOn_of_disagreement (side : Side) (companion : Side) (index : Nat)
    (plot : Plot α) (held : GathersOn options entries side (axes.get? side))
    (entry : Nat × Plot α) (user : entry ∈ Plot.users .x side entries)
    (alone : Plot.users .y side entries = [])
    (differs : entry.2.isDiscrete ≠ plot.isDiscrete) :
    axes.addPlotOn options side .x companion index plot =
      .error (.discretenessMismatch side) := by
  cases found : axes.get? side with
  | none =>
      rw [found] at held
      rw [held .x] at user
      cases user
  | some axis =>
      rw [found] at held
      have onX : axis.kind = .x := by
        cases kind : axis.kind with
        | x => rfl
        | y => exact absurd (kind ▸ alone) held.users_ne_nil
      have refused := axis.addPlot_of_disagreement index plot entry.2.isDiscrete onX
        (held.discrete_eq onX entry user) differs
      simp only [addPlotOn, inRole, found, if_pos onX, bind, Except.bind, refused,
        held.side_eq]

theorem addPlotOn_of_agreement (side : Side) (kind : AxisKind) (index : Nat) (plot : Plot α)
    (held : GathersOn options entries side (axes.get? side))
    (uses : plot.sideOf kind = side) (apart : plot.sideOf kind.other ≠ side)
    (alone : Plot.users kind.other side entries = [])
    (agreement : kind = .x →
      ∀ entry ∈ Plot.users .x side entries, entry.2.isDiscrete = plot.isDiscrete) :
    ∃ next, axes.addPlotOn options side kind (plot.sideOf kind.other) index plot =
        .ok (axes.insert next) ∧
      next.Gathers options (entries ++ [(index, plot)]) side := by
  cases found : axes.get? side with
  | none =>
      rw [found] at held
      obtain ⟨next, added, gathers⟩ :=
        Axis.Gathers.founded options held kind index plot uses apart
      refine ⟨next, ?_, gathers⟩
      simp only [addPlotOn, inRole, found, bind, Except.bind, added]
      rfl
  | some axis =>
      rw [found] at held
      have inRole : axis.kind = kind := by
        by_cases same : axis.kind = kind
        · exact same
        · rw [← AxisKind.eq_other_of_ne same] at alone
          exact absurd alone held.users_ne_nil
      subst inRole
      obtain ⟨next, added, gathers⟩ :=
        Axis.Gathers.joined held index plot uses apart agreement
      refine ⟨next, ?_, gathers⟩
      simp only [addPlotOn, AxisSet.inRole, found, if_true, bind, Except.bind, added]
      rfl

end Resolution
end AxisSet
end CanvasChart
