import CanvasChart.Proofs.Chart.Runs

set_option autoImplicit false

/-! The registered plots of a chart as its history tells them. Each addition gets the next number
as its id, and a registration lasts until its id is removed. What a chart holds after a run are
the plots of the registrations that last, in the order of their addition, each with what its own
operations made of it. -/

namespace CanvasChart

variable {α : Type}

namespace Operation

def removes (id : PlotId) : Operation α → Bool
  | .removePlot removed => removed = id
  | _ => false

/-- What an operation may make of the plot under an id. Edits under the same id are carried out,
a drawing may hand colors to its series, and everything else leaves the plot as it is. -/
def Passes (id : PlotId) (before after : Plot α) : Operation α → Prop
  | .editPlot edited edit => after = if edited = id then edit before else before
  | .draw => before.Recolored after
  | _ => after = before

def newEntries (next : Nat) : Operation α → List (PlotId × Plot α)
  | .addPlot plot => [(⟨next⟩, plot)]
  | _ => []

end Operation

/-- What a sequence of operations may make of the plot under an id. -/
def Plot.Becomes (id : PlotId) : List (Operation α) → Plot α → Plot α → Prop
  | [], before, after => after = before
  | operation :: later, before, after =>
      ∃ next, operation.Passes id before next ∧ Plot.Becomes id later next after

theorem Plot.Becomes.concat {id : PlotId} {operations : List (Operation α)}
    {operation : Operation α} {before between after : Plot α}
    (becomes : Plot.Becomes id operations before between)
    (passes : operation.Passes id between after) :
    Plot.Becomes id (operations ++ [operation]) before after := by
  induction operations generalizing before with
  | nil =>
      cases becomes
      exact ⟨after, passes, rfl⟩
  | cons first rest ih =>
      obtain ⟨next, passed, later⟩ := becomes
      exact ⟨next, passed, ih later⟩

/-- A plot that a history adds, with the id that it gets and the operations that follow. -/
structure Registration (α : Type) where
  id : PlotId
  plot : Plot α
  since : List (Operation α)

namespace Registration

def all (next : Nat) : List (Operation α) → List (Registration α)
  | [] => []
  | .addPlot plot :: later => ⟨⟨next⟩, plot, later⟩ :: all (next + 1) later
  | _ :: later => all next later

def lasts (registration : Registration α) : Bool :=
  !registration.since.any (Operation.removes registration.id)

/-- The additions of a history whose plots were not removed since. -/
def lasting (operations : List (Operation α)) : List (Registration α) :=
  (all 0 operations).filter lasts

/-- The entry of a chart that a registration accounts for. -/
def Accounts (registration : Registration α) (entry : PlotId × Plot α) : Prop :=
  entry.1 = registration.id ∧
    Plot.Becomes registration.id registration.since registration.plot entry.2

def followedBy (operation : Operation α) (registration : Registration α) : Registration α :=
  { registration with since := registration.since ++ [operation] }

def ofEntry (entry : PlotId × Plot α) : Registration α := ⟨entry.1, entry.2, []⟩

private theorem lasts_followedBy (operation : Operation α) (registration : Registration α) :
    (registration.followedBy operation).lasts =
      (!operation.removes registration.id && registration.lasts) := by
  simp only [followedBy, lasts, List.any_append, List.any_cons, List.any_nil, Bool.or_false,
    Bool.not_or, Bool.and_comm]

theorem Accounts.concat {registration : Registration α} {operation : Operation α}
    {before after : PlotId × Plot α} (accounts : registration.Accounts before)
    (same : after.1 = before.1) (passes : operation.Passes before.1 before.2 after.2) :
    (registration.followedBy operation).Accounts after :=
  ⟨same.trans accounts.1, accounts.2.concat (accounts.1 ▸ passes)⟩

private theorem all_concat (next : Nat) (operations : List (Operation α))
    (operation : Operation α) :
    all next (operations ++ [operation]) =
      (all next operations).map (followedBy operation) ++
        (operation.newEntries (next + (all next operations).length)).map ofEntry := by
  induction operations generalizing next with
  | nil => cases operation <;> rfl
  | cons first rest ih =>
      cases first with
      | addPlot plot =>
          have shifted : next + ((all (next + 1) rest).length + 1) =
              next + 1 + (all (next + 1) rest).length := by omega
          simp only [List.cons_append, all, ih, List.map_cons, List.length_cons, shifted]
          rfl
      | removePlot | editPlot | setOptions | draw => exact ih next

private theorem lasting_concat (operations : List (Operation α)) (operation : Operation α) :
    lasting (operations ++ [operation]) =
      ((lasting operations).filter fun registration => !operation.removes registration.id).map
          (followedBy operation) ++
        (operation.newEntries (all 0 operations).length).map ofEntry := by
  have fresh (entries : List (PlotId × Plot α)) :
      (entries.map ofEntry).filter lasts = entries.map ofEntry := by
    refine List.filter_eq_self.mpr fun registration listed => ?_
    obtain ⟨entry, _listed, rfl⟩ := List.mem_map.mp listed
    rfl
  have followed : lasts ∘ followedBy operation = fun registration : Registration α =>
      !operation.removes registration.id && registration.lasts :=
    funext fun registration => lasts_followedBy operation registration
  rw [lasting, all_concat, List.filter_append, fresh, List.filter_map, followed, Nat.zero_add,
    lasting, List.filter_filter]

private theorem all_increasing (next : Nat) (operations : List (Operation α)) :
    (all next operations).Pairwise fun earlier later => earlier.id.number < later.id.number := by
  suffices bounded : (∀ registration ∈ all next operations, next ≤ registration.id.number) ∧
      (all next operations).Pairwise fun earlier later => earlier.id.number < later.id.number from
    bounded.2
  induction operations generalizing next with
  | nil => exact ⟨List.forall_mem_nil _, .nil⟩
  | cons operation rest ih =>
      cases operation with
      | addPlot plot =>
          obtain ⟨above, increasing⟩ := ih (next + 1)
          refine ⟨List.forall_mem_cons.mpr ⟨Nat.le_refl next, fun registration listed => ?_⟩,
            .cons (fun registration listed => above registration listed) increasing⟩
          exact Nat.le_of_succ_le (above registration listed)
      | removePlot | editPlot | setOptions | draw => exact ih next

private theorem id_lt_of_mem_all {next : Nat} {operations : List (Operation α)}
    {registration : Registration α} (listed : registration ∈ all next operations) :
    registration.id.number < next + operations.length := by
  induction operations generalizing next with
  | nil => cases listed
  | cons operation rest ih =>
      rw [List.length_cons]
      cases operation with
      | addPlot plot =>
          rcases List.mem_cons.mp listed with rfl | later
          · change next < _
            omega
          · have below := ih later
            omega
      | removePlot | editPlot | setOptions | draw =>
          have below := ih listed
          omega

end Registration

namespace Chart

variable [Scalar α] {chart : Chart α}

def givenIds (chart : Chart α) : List (Operation α) → List PlotId
  | [] => []
  | .addPlot plot :: later => (chart.addPlot plot).1 :: givenIds (chart.addPlot plot).2 later
  | operation :: later => givenIds (chart.perform operation) later

private theorem givenIds_eq (chart : Chart α) (operations : List (Operation α)) :
    chart.givenIds operations =
      (Registration.all chart.nextId operations).map Registration.id := by
  induction operations generalizing chart with
  | nil => rfl
  | cons operation rest ih =>
      have later := ih (chart.perform operation)
      rw [perform_nextId] at later
      cases operation with
      | addPlot plot => exact congrArg (List.cons ⟨chart.nextId⟩) later
      | removePlot | editPlot | setOptions | draw => exact later

private theorem run_nextId (chart : Chart α) (operations : List (Operation α)) :
    (chart.run operations).nextId =
      chart.nextId + (Registration.all chart.nextId operations).length := by
  induction operations generalizing chart with
  | nil => rfl
  | cons operation rest ih =>
      have later := ih (chart.perform operation)
      rw [perform_nextId] at later
      cases operation with
      | addPlot plot =>
          rw [Registration.all, List.length_cons]
          exact later.trans (Nat.succ_add_eq_add_succ _ _)
      | removePlot | editPlot | setOptions | draw => exact later

/-- An entry before and after an operation that does not remove it. -/
def Persists (operation : Operation α) (before after : PlotId × Plot α) : Prop :=
  after.1 = before.1 ∧ operation.Passes before.1 before.2 after.2

private theorem perform_removePlot_entries (chart : Chart α) (removed : PlotId) :
    (chart.perform (.removePlot removed)).entries =
      chart.entries.filter fun entry => !decide (removed = entry.1) := by
  have same : (fun entry : PlotId × Plot α => decide (entry.1 ≠ removed)) =
      fun entry => !decide (removed = entry.1) := by
    funext entry
    simp only [ne_eq, decide_not, eq_comm]
  change (chart.withoutPlot removed).entries = _
  unfold withoutPlot removePlot
  cases held : chart.plot? removed with
  | none =>
      refine (List.filter_eq_self.mpr fun entry listed => ?_).symm
      have other : removed ≠ entry.1 := ne_of_plot?_eq_none held (List.mem_map_of_mem listed)
      simp [other]
  | some plot => rw [← same]

theorem Numbered.perform_editPlot_entries (numbered : chart.Numbered) (edited : PlotId)
    (edit : Plot α → Plot α) :
    (chart.perform (.editPlot edited edit)).entries = chart.entries.map fun entry =>
      (entry.1, if edited = entry.1 then edit entry.2 else entry.2) := by
  change (chart.editPlot edited edit).entries = _
  unfold editPlot
  cases held : chart.plot? edited with
  | none =>
      refine (List.map_id' _).symm.trans (List.map_congr_left fun entry listed => ?_)
      have other : edited ≠ entry.1 := ne_of_plot?_eq_none held (List.mem_map_of_mem listed)
      rw [if_neg other]
  | some plot =>
      refine List.map_congr_left fun entry listed => ?_
      by_cases here : entry.1 = edited
      · have stored : plot = entry.2 := by
          have found := (numbered.plot?_eq_some_iff entry.1 entry.2).mpr listed
          rw [here, held] at found
          exact Option.some.inj found
        rw [if_pos here, if_pos here.symm, stored, here]
      · rw [if_neg here, if_neg fun same => here same.symm]

omit [Scalar α] in
private theorem zip_recolored (entries : List (PlotId × Plot α)) {colored : List (Plot α)}
    (recolored : List.Forall₂ Plot.Recolored (entries.map Prod.snd) colored) :
    List.Forall₂ (fun before after => after.1 = before.1 ∧ before.2.Recolored after.2) entries
      ((entries.map Prod.fst).zip colored) := by
  induction entries generalizing colored with
  | nil => exact .nil
  | cons entry rest ih =>
      obtain ⟨after, later, first, others, rfl⟩ := List.forall₂_cons_left_iff.mp recolored
      exact .cons ⟨rfl, first⟩ (ih others)

private theorem perform_draw_entries (chart : Chart α) :
    List.Forall₂ (fun before after => after.1 = before.1 ∧ before.2.Recolored after.2)
      chart.entries (chart.perform .draw).entries := by
  change List.Forall₂ _ chart.entries chart.draw.1.entries
  by_cases ended : chart.draw.2 = .ok ()
  · rw [draw_entries ended]
    exact zip_recolored chart.entries (Plot.setColors_recolored chart.plots chart.palette)
  · rw [draw_of_failed ended]
    refine List.forall₂_same.mpr fun entry _listed => ⟨rfl, ?_⟩
    exact .refl entry.2

/-- What an operation makes of the entries: those that it does not remove stay in their order,
and an added one comes last. -/
private theorem perform_entries (numbered : chart.Numbered) (operation : Operation α) :
    ∃ kept, (chart.perform operation).entries = kept ++ operation.newEntries chart.nextId ∧
      List.Forall₂ (Persists operation)
        (chart.entries.filter fun entry => !operation.removes entry.1) kept := by
  have whole (keeps : ∀ id, operation.removes id = false) :
      chart.entries.filter (fun entry => !operation.removes entry.1) = chart.entries :=
    List.filter_eq_self.mpr fun entry _listed => by rw [keeps, Bool.not_false]
  cases operation with
  | addPlot plot =>
      refine ⟨chart.entries, rfl, ?_⟩
      rw [whole fun _id => rfl]
      exact List.forall₂_same.mpr fun entry _listed => ⟨rfl, rfl⟩
  | removePlot removed =>
      refine ⟨_, (List.append_nil _).symm, ?_⟩
      rw [perform_removePlot_entries]
      exact List.forall₂_same.mpr fun entry _listed => ⟨rfl, rfl⟩
  | editPlot edited edit =>
      refine ⟨_, (List.append_nil _).symm, ?_⟩
      rw [whole fun _id => rfl, numbered.perform_editPlot_entries, List.forall₂_map_right_iff]
      exact List.forall₂_same.mpr fun entry _listed => ⟨rfl, rfl⟩
  | setOptions options =>
      refine ⟨chart.entries, (List.append_nil _).symm, ?_⟩
      rw [whole fun _id => rfl]
      exact List.forall₂_same.mpr fun entry _listed => ⟨rfl, rfl⟩
  | draw =>
      refine ⟨_, (List.append_nil _).symm, ?_⟩
      rw [whole fun _id => rfl]
      exact chart.perform_draw_entries

omit [Scalar α] in
private theorem accounts_followedBy {operation : Operation α}
    {registrations : List (Registration α)} {entries kept : List (PlotId × Plot α)}
    (accounts : List.Forall₂ Registration.Accounts registrations entries)
    (persists : List.Forall₂ (Persists operation)
      (entries.filter fun entry => !operation.removes entry.1) kept) :
    List.Forall₂ Registration.Accounts
      ((registrations.filter fun registration => !operation.removes registration.id).map
        (Registration.followedBy operation)) kept := by
  induction accounts generalizing kept with
  | nil =>
      cases persists
      exact .nil
  | @cons registration entry _ _ first _rest ih =>
      rw [List.filter_cons, first.1] at persists
      rw [List.filter_cons]
      split at persists
      case isTrue stays =>
        obtain ⟨after, later, persisted, others, rfl⟩ := List.forall₂_cons_left_iff.mp persists
        rw [if_pos stays, List.map_cons]
        exact .cons (first.concat persisted.1 persisted.2) (ih others)
      case isFalse removed =>
        rw [if_neg removed]
        exact ih persists

private theorem run_entries (element : Element α) (options : ChartOptions α) (palette : Palette)
    (operations : List (Operation α)) :
    List.Forall₂ Registration.Accounts (Registration.lasting operations)
      ((fresh element options palette).run operations).entries := by
  induction operations using List.reverseRecOn with
  | nil => exact .nil
  | append_singleton earlier operation ih =>
      let chart := (fresh element options palette).run earlier
      have numbered : chart.Numbered := (fresh_numbered element options palette).run earlier
      obtain ⟨kept, entries, persists⟩ := perform_entries numbered operation
      have next : chart.nextId = (Registration.all 0 earlier).length :=
        (run_nextId (fresh element options palette) earlier).trans (Nat.zero_add _)
      rw [run_concat, Registration.lasting_concat, entries, next]
      refine List.rel_append ?_ ?_
      · exact accounts_followedBy ih persists
      · rw [List.forall₂_map_left_iff]
        exact List.forall₂_same.mpr fun entry _listed => ⟨rfl, rfl⟩

/-- The registered plots of a chart form an ordered map from ids to plots. In a run no id is
returned twice, and fewer ids than operations are needed. The chart holds the plots that were
added and not removed since, in the order of their addition; each is what was added with the
edits under its own id carried out, and colors assigned by drawings. Removing a plot returns it,
and an id that is not registered is refused and leaves the chart as it is. -/
theorem run_registers_plots (element : Element α) (options : ChartOptions α) (palette : Palette)
    (operations : List (Operation α)) :
    let start := fresh element options palette
    let chart := start.run operations
    let lasting := Registration.lasting operations
    start.givenIds operations = (Registration.all 0 operations).map Registration.id ∧
      (start.givenIds operations).Nodup ∧
      (∀ id ∈ start.givenIds operations, id.number < operations.length) ∧
      List.Forall₂ Registration.Accounts lasting chart.entries ∧
      (∀ id plot, chart.plot? id = some plot ↔ (id, plot) ∈ chart.entries) ∧
      (∀ id, (chart.plot? id).isSome = true ↔ ∃ registration ∈ lasting, registration.id = id) ∧
      (∀ id plot, chart.plot? id = some plot →
        ∃ left, chart.removePlot id = .ok (plot, left) ∧
          chart.perform (.removePlot id) = left) ∧
      ∀ id, chart.plot? id = none →
        chart.removePlot id = .error (.plotNotFound id) ∧
          chart.perform (.removePlot id) = chart := by
  intro start chart lasting
  have numbered : chart.Numbered := (fresh_numbered element options palette).run operations
  have given : start.givenIds operations = (Registration.all 0 operations).map Registration.id :=
    start.givenIds_eq operations
  have entries : List.Forall₂ Registration.Accounts lasting chart.entries :=
    run_entries element options palette operations
  have sameIds : chart.ids = lasting.map Registration.id := by
    rw [ids, ← List.forall₂_eq_eq_eq, List.forall₂_map_left_iff, List.forall₂_map_right_iff]
    exact (entries.imp fun _registration _entry accounts => accounts.1).flip
  refine ⟨given, ?_, ?_, entries, numbered.plot?_eq_some_iff, fun id => ?_, ?_, ?_⟩
  · rw [given]
    refine List.Pairwise.map _ (fun earlier later increasing same => ?_)
      (Registration.all_increasing 0 operations)
    exact Nat.ne_of_lt increasing (congrArg PlotId.number same)
  · rw [given]
    intro id member
    obtain ⟨registration, listed, rfl⟩ := List.mem_map.mp member
    exact Nat.zero_add operations.length ▸ Registration.id_lt_of_mem_all listed
  · rw [plot?_isSome_iff, sameIds, List.mem_map]
  · intro id plot held
    simp only [perform, withoutPlot, removePlot, held]
    exact ⟨_, rfl, rfl⟩
  · intro id absent
    simp only [perform, withoutPlot, removePlot, absent, and_self]

example (first second third : Plot α) :
    (Registration.lasting [.addPlot first, .addPlot second, .draw, .removePlot ⟨0⟩,
      .addPlot third]).map (fun registration => (registration.id, registration.plot)) =
      [(⟨1⟩, second), (⟨2⟩, third)] := rfl

end Chart
end CanvasChart
