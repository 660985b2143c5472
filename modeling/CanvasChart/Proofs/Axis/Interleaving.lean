import CanvasChart.Proofs.Axis.Gathering

set_option autoImplicit false

/-! Settling the range of an axis between its plots. The range that a later plot finds is then the
settled one, which may be a placeholder or wider than the data. Where the range is one of its own,
that settling leaves as it is, settling in between makes no difference. -/

namespace CanvasChart.Axis

variable {α : Type}

/-- What an axis goes through: it takes in a plot, or its range is settled. -/
inductive Step (α : Type) where
  | add (index : Nat) (plot : Plot α)
  | settle

def entries : List (Step α) → List (Nat × Plot α)
  | [] => []
  | .add index plot :: rest => (index, plot) :: entries rest
  | .settle :: rest => entries rest

variable [Scalar α]

def perform (axis : Axis α) : Step α → Except ChartError (Axis α)
  | .add index plot => axis.addPlot index plot
  | .settle => .ok axis.fix

def run (axis : Axis α) : List (Step α) → Except ChartError (Axis α)
  | [] => .ok axis
  | step :: rest => do run (← axis.perform step) rest

/-- Settling leaves the range of the axis as it is. What keys are is known by then, and the bounds
of an axis that is not discrete are finite and not the same. -/
structure OwnRange (axis : Axis α) : Prop where
  told : axis.kind = .x → axis.discrete ≠ none
  bounded : axis.isDiscrete = false → Scalar.isFinite axis.min = true ∧
    Scalar.isFinite axis.max = true ∧ ¬ axis.max ≤ axis.min

/-- The axes are not settled, and differ in nothing that their settled forms would show. -/
structure Alike (one other : Axis α) : Prop where
  plan : SamePlan one other
  size : other.size = one.size
  crossSize : other.crossSize = one.crossSize
  unfixed : one.fixed = false
  otherUnfixed : other.fixed = false
  bounds : one.isDiscrete = false → other.min = one.min ∧ other.max = one.max
  labels : one.kind = .x → one.discrete ≠ some false → other.labels = one.labels

/-! ### Settling -/

omit [Scalar α] in
theorem Alike.refl {axis : Axis α} (unfixed : axis.fixed = false) : axis.Alike axis :=
  ⟨⟨rfl, rfl, rfl, rfl, rfl, rfl⟩, rfl, rfl, unfixed, unfixed, fun _continuous => ⟨rfl, rfl⟩,
    fun _onX _told => rfl⟩

omit [Scalar α] in
theorem Alike.eq {one other : Axis α} (alike : one.Alike other) :
    other = { one with min := other.min, max := other.max, rmin := other.rmin, rmax := other.rmax,
                       labels := other.labels } := by
  obtain ⟨⟨options, side, kind, companion, discrete, plots⟩, size, crossSize, unfixed,
    otherUnfixed, _bounds, _labels⟩ := alike
  rw [← options, ← side, ← kind, ← companion, ← discrete, ← plots, ← size, ← crossSize, unfixed,
    ← otherUnfixed]

def withRange (axis : Axis α) (range : α × α) : Axis α :=
  let logarithmic := axis.isLog && !axis.isDiscrete
  let base := axis.options.logBase
  { axis with
    min := if logarithmic then logOf range.1 base else range.1
    max := if logarithmic then logOf range.2 base else range.2
    rmin := range.1
    rmax := range.2
    fixed := true }

section

variable {axis : Axis α} (unfixed : axis.fixed = false)

include unfixed

theorem fix_of_discrete (discrete : axis.isDiscrete = true) :
    axis.fix = axis.withRange (axis.extendEmpty axis.completeRange) := by
  rw [fix, unfixed, if_neg Bool.false_ne_true]
  exact if_pos discrete

private theorem fix_of_continuous (continuous : axis.isDiscrete = false) :
    axis.fix = { axis.withRange (axis.extendEmpty axis.completeRange) with
      labels := .values (axis.withRange (axis.extendEmpty axis.completeRange)).tickValues } := by
  rw [fix, unfixed, if_neg Bool.false_ne_true]
  exact if_neg (Bool.eq_false_iff.mp continuous)

private theorem fix_frame : axis.fix.size = axis.size ∧ axis.fix.crossSize = axis.crossSize ∧
    (axis.isDiscrete = true → axis.fix.labels = axis.labels) := by
  cases isDiscrete : axis.isDiscrete with
  | true =>
      rw [fix_of_discrete unfixed isDiscrete]
      exact ⟨rfl, rfl, fun _discrete => rfl⟩
  | false =>
      rw [fix_of_continuous unfixed isDiscrete]
      exact ⟨rfl, rfl, fun discrete => absurd discrete Bool.false_ne_true⟩

end

omit [Scalar α] in
private theorem isDiscrete_iff {axis : Axis α} :
    axis.isDiscrete = true ↔ axis.kind = .x ∧ axis.discrete = some true := by
  rw [isDiscrete, Bool.and_eq_true, decide_eq_true_iff]
  cases axis.discrete <;> simp

theorem Alike.fix_eq {one other : Axis α} (alike : one.Alike other) : other.fix = one.fix := by
  have extend (range : α × α) : other.extendEmpty range = one.extendEmpty range := by
    rw [extendEmpty, extendEmpty, alike.plan.options]
  have isLog : other.isLog = one.isLog := by rw [isLog, isLog, alike.plan.options]
  have otherDiscrete := alike.plan.isDiscrete
  cases isDiscrete : one.isDiscrete with
  | true =>
      obtain ⟨onX, told⟩ := isDiscrete_iff.mp isDiscrete
      have labels := alike.labels onX (by rw [told]; decide)
      have complete : other.completeRange = one.completeRange := by
        rw [completeRange, completeRange, otherDiscrete, isDiscrete, labels, if_pos rfl, if_pos rfl]
      rw [fix_of_discrete alike.unfixed isDiscrete,
        fix_of_discrete alike.otherUnfixed (otherDiscrete.trans isDiscrete), complete, extend,
        alike.eq, labels]
      rfl
  | false =>
      obtain ⟨min, max⟩ := alike.bounds isDiscrete
      have complete : other.completeRange = one.completeRange := by
        rw [completeRange, completeRange, otherDiscrete, isDiscrete, min, max, isLog,
          alike.plan.options, if_neg Bool.false_ne_true, if_neg Bool.false_ne_true]
      rw [fix_of_continuous alike.unfixed isDiscrete,
        fix_of_continuous alike.otherUnfixed (otherDiscrete.trans isDiscrete), complete, extend,
        alike.eq]
      rfl

theorem OwnRange.range_eq {axis : Axis α} (own : axis.OwnRange)
    (continuous : axis.isDiscrete = false) :
    axis.extendEmpty axis.completeRange = (axis.min, axis.max) := by
  obtain ⟨leastFinite, greatestFinite, wide⟩ := own.bounded continuous
  have complete : axis.completeRange = (axis.min, axis.max) := by
    simp [completeRange, continuous, leastFinite, greatestFinite]
  rw [complete, extendEmpty, if_neg wide]

/-- A range of its own is found again when a settled axis is reopened. -/
theorem OwnRange.alike {axis : Axis α} (own : axis.OwnRange) (unfixed : axis.fixed = false) :
    axis.Alike axis.fix.unfix := by
  obtain ⟨least, greatest, _fixed⟩ := fix_dataBounds unfixed
  obtain ⟨size, crossSize, labels⟩ := fix_frame unfixed
  have reopened := axis.unfix_fix
  refine ⟨axis.fix_samePlan.trans axis.fix.unfix_samePlan, ?size, ?crossSize, unfixed, ?unfixed,
    fun continuous => ?bounds, fun onX notContinuous => ?labels⟩
  case size => rwa [reopened]
  case crossSize => rwa [reopened]
  case unfixed => rw [reopened]
  case bounds =>
    rw [reopened, least, greatest, own.range_eq continuous]
    exact ⟨rfl, rfl⟩
  case labels =>
    have told : axis.discrete = some true := by
      cases told : axis.discrete with
      | none => exact absurd told (own.told onX)
      | some discrete =>
          cases discrete with
          | true => rfl
          | false => exact absurd told notContinuous
    rw [reopened]
    exact labels (isDiscrete_iff.mpr ⟨onX, told⟩)

/-! ### Taking in plots -/

private theorem absorb_frame (axis : Axis α) (plot : Plot α) :
    (axis.absorb plot).fixed = axis.fixed ∧ (axis.absorb plot).size = axis.size ∧
      (axis.absorb plot).crossSize = axis.crossSize := by
  unfold absorb
  split
  · split <;> exact ⟨rfl, rfl, rfl⟩
  · cases plot.boundingBox with
    | none => exact ⟨rfl, rfl, rfl⟩
    | some box =>
        unfold widen
        cases axis.options.scale <;> exact ⟨rfl, rfl, rfl⟩

theorem taking_of_unfixed {axis : Axis α} (unfixed : axis.fixed = false) (index : Nat)
    (plot : Plot α) :
    axis.taking index plot =
      { axis.informed plot with plots := axis.plots ++ [index] }.absorb plot := by
  have still : (axis.informed plot).fixed = false := unfixed
  rw [taking, unfix_of_unfixed still]
  rfl

theorem fixed_of_addPlots {axis final : Axis α} {entries : List (Nat × Plot α)}
    (unfixed : axis.fixed = false) (taken : axis.addPlots entries = .ok final) :
    final.fixed = false := by
  refine addPlots_induction (fun held _earlier => held.fixed = false) unfixed ?_ taken
  intro before earlier index plot next _member held added
  obtain ⟨rfl, _takes⟩ := taken_of_addPlot added
  rw [taking_of_unfixed held]
  exact (absorb_frame _ plot).1.trans held

private theorem absorb_labels {axis : Axis α} (discrete : axis.isDiscrete = true) (plot : Plot α) :
    (axis.absorb plot).labels =
      if axis.labels.length = 0 then .categories plot.categories else axis.labels := by
  rw [absorb, if_pos discrete]
  split <;> rfl

omit [Scalar α] in
theorem Takes.isDiscrete_before {axis next : Axis α} {index : Nat} {plot : Plot α}
    (takes : axis.Takes index plot next)
    (agreement : axis.kind = .x → ∀ discrete, axis.discrete = some discrete →
      discrete = plot.isDiscrete)
    (continuous : next.isDiscrete = false) : axis.isDiscrete = false := by
  rw [Bool.eq_false_iff] at continuous ⊢
  intro discrete
  obtain ⟨onX, told⟩ := isDiscrete_iff.mp discrete
  refine continuous (isDiscrete_iff.mpr ⟨takes.kind.trans onX, ?_⟩)
  rw [takes.discrete, if_pos onX, agreement onX true told]

omit [Scalar α] in
theorem SamePlan.takes {one other next otherNext : Axis α} {index : Nat} {plot : Plot α}
    (plan : SamePlan one other) (takes : one.Takes index plot next)
    (otherTakes : other.Takes index plot otherNext) : SamePlan next otherNext where
  options := otherTakes.options.trans (plan.options.trans takes.options.symm)
  side := otherTakes.side.trans (plan.side.trans takes.side.symm)
  kind := otherTakes.kind.trans (plan.kind.trans takes.kind.symm)
  companion := otherTakes.companion.trans (plan.companion.trans takes.companion.symm)
  discrete := by rw [otherTakes.discrete, takes.discrete, plan.kind, plan.discrete]
  plots := by rw [otherTakes.plots, takes.plots, plan.plots]

section Alike

variable {one other : Axis α} (alike : one.Alike other) (index : Nat) {plot : Plot α}

include alike

theorem Alike.bounds_of_taking (before : one.isDiscrete = false)
    (continuous : (one.taking index plot).isDiscrete = false)
    (otherContinuous : (other.taking index plot).isDiscrete = false) :
    (other.taking index plot).min = (one.taking index plot).min ∧
      (other.taking index plot).max = (one.taking index plot).max := by
  obtain ⟨_fixed, bounds⟩ := taking_bounds one index plot continuous
  obtain ⟨_otherFixed, otherBounds⟩ := taking_bounds other index plot otherContinuous
  rw [unfix_of_unfixed alike.unfixed] at bounds
  rw [unfix_of_unfixed alike.otherUnfixed] at otherBounds
  obtain ⟨min, max⟩ := alike.bounds before
  cases bounded : plot.boundingBox with
  | none =>
      rw [bounded] at bounds otherBounds
      exact ⟨otherBounds.1.trans (min.trans bounds.1.symm),
        otherBounds.2.trans (max.trans bounds.2.symm)⟩
  | some box =>
      rw [bounded] at bounds otherBounds
      obtain ⟨_fixed, widenedMin, widenedMax⟩ :=
        widen_bounds alike.plan.options alike.plan.kind min max box
      exact ⟨otherBounds.1.trans (widenedMin.trans bounds.1.symm),
        otherBounds.2.trans (widenedMax.trans bounds.2.symm)⟩

theorem Alike.labels_of_taking (onX : one.kind = .x) (discrete : plot.isDiscrete = true)
    (same : other.labels = one.labels) :
    (other.taking index plot).labels = (one.taking index plot).labels := by
  have told (axis : Axis α) (onX : axis.kind = .x) :
      { axis.informed plot with plots := axis.plots ++ [index] }.isDiscrete = true :=
    isDiscrete_iff.mpr ⟨onX, (if_pos onX).trans (congrArg some discrete)⟩
  rw [taking_of_unfixed alike.unfixed, taking_of_unfixed alike.otherUnfixed,
    absorb_labels (told one onX), absorb_labels (told other (alike.plan.kind.trans onX))]
  exact congrArg (fun labels => if labels.length = 0 then _ else labels) same

theorem Alike.taking (agreement : one.kind = .x → ∀ discrete, one.discrete = some discrete →
      discrete = plot.isDiscrete) :
    (one.taking index plot).Alike (other.taking index plot) := by
  have plan := alike.plan
  have otherAgreement : other.kind = .x → ∀ discrete, other.discrete = some discrete →
      discrete = plot.isDiscrete := plan.kind ▸ plan.discrete ▸ agreement
  have takes := (taken_of_addPlot (one.addPlot_eq_taking index plot agreement)).2
  have otherTakes := (taken_of_addPlot (other.addPlot_eq_taking index plot otherAgreement)).2
  have recorded := taking_of_unfixed alike.unfixed index plot
  have otherRecorded := taking_of_unfixed alike.otherUnfixed index plot
  obtain ⟨fixed, size, crossSize⟩ :=
    { one.informed plot with plots := one.plots ++ [index] }.absorb_frame plot
  obtain ⟨otherFixed, otherSize, otherCrossSize⟩ :=
    { other.informed plot with plots := other.plots ++ [index] }.absorb_frame plot
  rw [← recorded] at fixed size crossSize
  rw [← otherRecorded] at otherFixed otherSize otherCrossSize
  have samePlan := plan.takes takes otherTakes
  refine ⟨samePlan, otherSize.trans (alike.size.trans size.symm),
    otherCrossSize.trans (alike.crossSize.trans crossSize.symm), fixed.trans alike.unfixed,
    otherFixed.trans alike.otherUnfixed, fun continuous => ?bounds,
    fun onX notContinuous => ?labels⟩
  case bounds =>
    exact alike.bounds_of_taking index (takes.isDiscrete_before agreement continuous) continuous
      (samePlan.isDiscrete.trans continuous)
  case labels =>
    rw [takes.kind] at onX
    rw [takes.discrete, if_pos onX] at notContinuous
    have discrete : plot.isDiscrete = true := by
      cases told : plot.isDiscrete with
      | true => rfl
      | false => exact absurd (congrArg some told) notContinuous
    exact alike.labels_of_taking index onX discrete <| alike.labels onX fun continuous =>
      notContinuous (congrArg some (agreement onX false continuous).symm)

end Alike

theorem SamePlan.addPlot {one other : Axis α} (same : SamePlan one other) (index : Nat)
    (plot : Plot α) :
    ((one.kind = .x → ∀ discrete, one.discrete = some discrete → discrete = plot.isDiscrete) ∧
      one.addPlot index plot = .ok (one.taking index plot) ∧
      other.addPlot index plot = .ok (other.taking index plot)) ∨
    ∃ error, one.addPlot index plot = .error error ∧ other.addPlot index plot = .error error := by
  by_cases agreement :
      one.kind = .x → ∀ discrete, one.discrete = some discrete → discrete = plot.isDiscrete
  · refine .inl ⟨agreement, one.addPlot_eq_taking index plot agreement,
      other.addPlot_eq_taking index plot ?_⟩
    rwa [same.kind, same.discrete]
  · obtain ⟨onX, discrete, told, differs⟩ : one.kind = .x ∧ ∃ discrete,
        one.discrete = some discrete ∧ discrete ≠ plot.isDiscrete := by
      simpa only [Classical.not_imp, Classical.not_forall, exists_prop] using agreement
    refine .inr ⟨_, one.addPlot_of_disagreement index plot discrete onX told differs, ?_⟩
    rw [← same.side]
    exact other.addPlot_of_disagreement index plot discrete (same.kind.trans onX)
      (same.discrete.trans told) differs

private theorem addPlot_unfix (axis : Axis α) (index : Nat) (plot : Plot α) :
    axis.unfix.addPlot index plot = axis.addPlot index plot := by
  have reopened : (axis.unfix.informed plot).unfix = (axis.informed plot).unfix := by
    cases fixed : axis.fixed <;> simp [unfix, informed, fixed]
  rcases axis.unfix_samePlan.addPlot index plot with
    ⟨_agreement, taken, otherTaken⟩ | ⟨error, refused, otherRefused⟩
  · rw [taken, otherTaken, taking, taking, reopened]
  · rw [refused, otherRefused]

/-! ### Whole runs -/

/-- A settled axis takes in a plot only if the range that its plots gave it was its own. -/
def Timely (start : Axis α) (steps : List (Step α)) : Prop :=
  ∀ (before rest : List (Step α)) (index : Nat) (plot : Plot α),
    steps = before ++ .settle :: .add index plot :: rest →
    ∀ axis, start.addPlots (entries before) = .ok axis → axis.OwnRange

theorem Timely.of_settle {start : Axis α} {steps : List (Step α)}
    (timely : start.Timely (.settle :: steps)) : start.Timely steps :=
  fun before rest index plot same =>
    timely (.settle :: before) rest index plot (congrArg (.settle :: ·) same)

theorem Timely.of_add {start next : Axis α} {index : Nat} {plot : Plot α} {steps : List (Step α)}
    (timely : start.Timely (.add index plot :: steps))
    (added : start.addPlot index plot = .ok next) : next.Timely steps := by
  intro before rest other further same axis taken
  refine timely (.add index plot :: before) rest other further
    (congrArg (.add index plot :: ·) same) axis ?_
  rw [entries, addPlots, added]
  exact taken

private theorem run_alike (steps : List (Step α)) :
    (∀ plain held : Axis α, plain.Alike held → plain.Timely steps →
      (held.run steps).map fix = (plain.addPlots (entries steps)).map fix) ∧
    ∀ plain : Axis α, plain.fixed = false → plain.Timely (.settle :: steps) →
      (plain.fix.run steps).map fix = (plain.addPlots (entries steps)).map fix := by
  -- on the steps that are still to come, for an axis that was reopened and for one that is settled
  induction steps with
  | nil =>
      exact ⟨fun plain held alike _timely => congrArg Except.ok alike.fix_eq,
        fun plain _unfixed _timely => congrArg Except.ok plain.fix_fix⟩
  | cons step rest ih =>
      obtain ⟨reopened, settled⟩ := ih
      cases step with
      | settle =>
          constructor
          · intro plain held alike timely
            have same := settled plain alike.unfixed timely
            rw [← alike.fix_eq] at same
            exact same
          · intro plain unfixed timely
            have same := settled plain unfixed timely.of_settle
            rw [← plain.fix_fix] at same
            exact same
      | add index plot =>
          have further (plain held : Axis α) (alike : plain.Alike held)
              (timely : plain.Timely (.add index plot :: rest)) :
              (held.run (.add index plot :: rest)).map fix =
                (plain.addPlots (entries (.add index plot :: rest))).map fix := by
            rcases alike.plan.addPlot index plot with
              ⟨agreement, taken, otherTaken⟩ | ⟨error, refused, otherRefused⟩
            · simp only [run, perform, entries, addPlots, taken, otherTaken]
              exact reopened _ _ (alike.taking index agreement) (timely.of_add taken)
            · simp only [run, perform, entries, addPlots, refused, otherRefused]
              rfl
          refine ⟨further, fun plain unfixed timely => ?_⟩
          have own : plain.OwnRange := timely [] rest index plot rfl plain rfl
          have again := further plain _ (own.alike unfixed) timely.of_settle
          simp only [run, perform, addPlot_unfix] at again ⊢
          exact again

/-- Settling the range between the plots makes no difference to an axis, if the range of the
plots so far was its own whenever a plot is taken in after it. -/
theorem fix_run (start : Axis α) (unfixed : start.fixed = false) (steps : List (Step α))
    (timely : start.Timely steps) :
    (start.run steps).map fix = (start.addPlots (entries steps)).map fix :=
  (run_alike steps).1 start start (.refl unfixed) timely

theorem ownRange_of_discrete {axis : Axis α} (discrete : axis.isDiscrete = true) :
    axis.OwnRange where
  told _onX none := by simp [(isDiscrete_iff.mp discrete).2] at none
  bounded continuous := absurd (discrete.symm.trans continuous) (by decide)

theorem OwnRange.timely {axis : Axis α} (own : axis.OwnRange) (index : Nat) (plot : Plot α) :
    axis.Timely [.settle, .add index plot] := by
  intro before rest other further same held taken
  cases before with
  | nil =>
      cases taken
      exact own
  | cons step before =>
      have lengths := congrArg List.length same
      simp only [List.length_cons, List.length_append, List.length_nil] at lengths
      omega

private theorem run_singleton (axis : Axis α) (step : Step α) :
    axis.run [step] = axis.perform step := by
  rw [run]
  cases axis.perform step <;> rfl

private theorem addPlots_singleton (axis : Axis α) (index : Nat) (plot : Plot α) :
    axis.addPlots [(index, plot)] = axis.addPlot index plot := by
  rw [addPlots]
  cases axis.addPlot index plot <;> rfl

theorem OwnRange.addPlot_fix {axis : Axis α} (own : axis.OwnRange) (unfixed : axis.fixed = false)
    (index : Nat) (plot : Plot α) :
    (axis.fix.addPlot index plot).map fix = (axis.addPlot index plot).map fix := by
  have whole := fix_run axis unfixed _ (own.timely index plot)
  have settled : axis.run [.settle, .add index plot] = axis.fix.addPlot index plot :=
    axis.fix.run_singleton (.add index plot)
  rwa [settled, entries, entries, entries, addPlots_singleton] at whole

end CanvasChart.Axis
