import CanvasChart.Axis.AxisSet
import CanvasChart.Axis.Range

set_option autoImplicit false

/-! Taking in plots. An axis keeps its place, records the plots in order, and refuses a
plot exactly when it maps keys and disagrees with the earlier plots on what keys are. -/

namespace CanvasChart.Axis

variable {α : Type} [Scalar α]

/-- The axes agree on all but ranges, labels and lengths. -/
structure SamePlan (before after : Axis α) : Prop where
  options : after.options = before.options
  side : after.side = before.side
  kind : after.kind = before.kind
  companion : after.companion = before.companion
  discrete : after.discrete = before.discrete
  plots : after.plots = before.plots

omit [Scalar α] in
theorem SamePlan.trans {first second third : Axis α} (earlier : SamePlan first second)
    (later : SamePlan second third) : SamePlan first third :=
  ⟨later.options.trans earlier.options, later.side.trans earlier.side,
    later.kind.trans earlier.kind, later.companion.trans earlier.companion,
    later.discrete.trans earlier.discrete, later.plots.trans earlier.plots⟩

omit [Scalar α] in
theorem SamePlan.isDiscrete {before after : Axis α} (same : SamePlan before after) :
    after.isDiscrete = before.isDiscrete := by
  rw [Axis.isDiscrete, Axis.isDiscrete, same.kind, same.discrete]

private theorem widen_samePlan (axis : Axis α) (box : BoundingBox α) :
    SamePlan axis (axis.widen box) := by
  cases scale : axis.options.scale <;> simp only [widen, scale] <;>
    exact ⟨rfl, rfl, rfl, rfl, rfl, rfl⟩

omit [Scalar α] in
theorem unfix_samePlan (axis : Axis α) : SamePlan axis axis.unfix := by
  unfold unfix
  split <;> exact ⟨rfl, rfl, rfl, rfl, rfl, rfl⟩

omit [Scalar α] in
theorem unfix_of_unfixed {axis : Axis α} (unfixed : axis.fixed = false) : axis.unfix = axis := by
  rw [unfix, unfixed, if_neg Bool.false_ne_true]

private theorem absorb_samePlan (axis : Axis α) (plot : Plot α) :
    SamePlan axis (axis.absorb plot) := by
  unfold absorb
  split
  · split <;> exact ⟨rfl, rfl, rfl, rfl, rfl, rfl⟩
  · cases plot.boundingBox with
    | none => exact ⟨rfl, rfl, rfl, rfl, rfl, rfl⟩
    | some box => exact (widen_samePlan axis box).trans ⟨rfl, rfl, rfl, rfl, rfl, rfl⟩

omit [Scalar α] in
private theorem relabel_samePlan (axis : Axis α) (labels : AxisLabels α) :
    SamePlan axis (if axis.isDiscrete then axis else { axis with labels := labels }) := by
  split <;> exact ⟨rfl, rfl, rfl, rfl, rfl, rfl⟩

theorem fix_samePlan (axis : Axis α) : SamePlan axis axis.fix := by
  simp only [fix]
  by_cases fixed : axis.fixed = true
  · rw [if_pos fixed]
    exact ⟨rfl, rfl, rfl, rfl, rfl, rfl⟩
  · rw [if_neg fixed]
    refine SamePlan.trans ?settled (relabel_samePlan _ _)
    exact ⟨rfl, rfl, rfl, rfl, rfl, rfl⟩

omit [Scalar α] in
theorem withSizes_samePlan (axis : Axis α) (size crossSize : α) :
    SamePlan axis (axis.withSizes size crossSize) :=
  ⟨rfl, rfl, rfl, rfl, rfl, rfl⟩

def informed (axis : Axis α) (plot : Plot α) : Axis α :=
  { axis with discrete := if axis.kind = .x then some plot.isDiscrete else axis.discrete }

omit [Scalar α] in
private theorem agree_of_agreement (axis : Axis α) (plot : Plot α)
    (agreement : axis.kind = .x → ∀ discrete, axis.discrete = some discrete →
      discrete = plot.isDiscrete) :
    axis.agree plot = .ok (axis.informed plot) := by
  cases kind : axis.kind with
  | y =>
      simp only [agree, informed, kind, reduceCtorEq, if_false]
      rw [← kind]
  | x =>
      cases told : axis.discrete with
      | none => simp only [agree, informed, kind, told, if_true]
      | some discrete =>
          have same := agreement kind discrete told
          subst same
          simp only [agree, informed, kind, told, if_true]
          rw [← kind, ← told]

/-- The axis with the range, the labels and the record that a plot leads to. -/
def taking (axis : Axis α) (index : Nat) (plot : Plot α) : Axis α :=
  { (axis.informed plot).unfix with
    plots := (axis.informed plot).unfix.plots ++ [index] }.absorb plot

theorem widen_bounds {before after : Axis α} (options : after.options = before.options)
    (kind : after.kind = before.kind) (min : after.min = before.min)
    (max : after.max = before.max) (box : BoundingBox α) :
    (after.widen box).fixed = after.fixed ∧ (after.widen box).min = (before.widen box).min ∧
      (after.widen box).max = (before.widen box).max := by
  unfold widen
  rw [options, kind, min, max]
  cases before.options.scale <;> exact ⟨rfl, rfl, rfl⟩

theorem taking_bounds (axis : Axis α) (index : Nat) (plot : Plot α)
    (continuous : (axis.taking index plot).isDiscrete = false) :
    (axis.taking index plot).fixed = false ∧
      match plot.boundingBox with
      | none => (axis.taking index plot).min = axis.unfix.min ∧
          (axis.taking index plot).max = axis.unfix.max
      | some box => (axis.taking index plot).min = (axis.unfix.widen box).min ∧
          (axis.taking index plot).max = (axis.unfix.widen box).max := by
  have informed : (axis.informed plot).unfix = axis.unfix.informed plot := by
    cases fixed : axis.fixed <;> simp [unfix, Axis.informed, fixed]
  have reopened : axis.unfix.fixed = false := by
    unfold unfix
    split
    · rfl
    · exact Bool.not_eq_true _ ▸ ‹¬axis.fixed = true›
  unfold taking at continuous ⊢
  rw [(absorb_samePlan _ _).isDiscrete] at continuous
  unfold absorb
  rw [continuous, if_neg Bool.false_ne_true, informed]
  cases plot.boundingBox with
  | none => exact ⟨reopened, rfl, rfl⟩
  | some box =>
      let recorded : Axis α :=
        { axis.unfix.informed plot with plots := (axis.unfix.informed plot).plots ++ [index] }
      have same : axis.unfix.options = recorded.options := rfl
      obtain ⟨fixed, bounds⟩ := widen_bounds same.symm rfl rfl rfl box
      exact ⟨fixed.trans reopened, bounds⟩

theorem addPlot_eq_taking (axis : Axis α) (index : Nat) (plot : Plot α)
    (agreement : axis.kind = .x → ∀ discrete, axis.discrete = some discrete →
      discrete = plot.isDiscrete) :
    axis.addPlot index plot = .ok (axis.taking index plot) := by
  simp only [addPlot, axis.agree_of_agreement plot agreement, Except.map, taking]

theorem addPlot_of_continuous {axis : Axis α} (continuous : axis.isDiscrete = false)
    {plot : Plot α} (numeric : axis.kind = .x → plot.isDiscrete = false) (index : Nat) :
    axis.addPlot index plot = .ok (axis.taking index plot) := by
  refine axis.addPlot_eq_taking index plot fun onX discrete told => ?_
  rw [isDiscrete, onX, told] at continuous
  rw [numeric onX]
  exact continuous

/-- What a taken plot adds to the plan of an axis. -/
structure Takes (axis : Axis α) (index : Nat) (plot : Plot α) (next : Axis α) : Prop where
  options : next.options = axis.options
  side : next.side = axis.side
  kind : next.kind = axis.kind
  companion : next.companion = axis.companion
  discrete : next.discrete = if axis.kind = .x then some plot.isDiscrete else axis.discrete
  plots : next.plots = axis.plots ++ [index]

omit [Scalar α] in
theorem Takes.isDiscrete_eq_false {axis next : Axis α} {index : Nat} {plot : Plot α}
    (takes : axis.Takes index plot next)
    (continuous : axis.kind = .x → plot.isDiscrete = false) : next.isDiscrete = false := by
  rw [isDiscrete, takes.kind, takes.discrete]
  by_cases onX : axis.kind = .x
  · rw [if_pos onX, continuous onX]
    simp
  · simp [onX]

theorem addPlot_of_disagreement (axis : Axis α) (index : Nat) (plot : Plot α) (discrete : Bool)
    (onX : axis.kind = .x) (told : axis.discrete = some discrete)
    (differs : discrete ≠ plot.isDiscrete) :
    axis.addPlot index plot = .error (.discretenessMismatch axis.side) := by
  simp only [addPlot, agree, onX, told, if_neg differs]
  rfl

theorem addPlot_of_agreement (axis : Axis α) (index : Nat) (plot : Plot α)
    (agreement : axis.kind = .x → ∀ discrete, axis.discrete = some discrete →
      discrete = plot.isDiscrete) :
    ∃ next, axis.addPlot index plot = .ok next ∧ axis.Takes index plot next := by
  have reopened := unfix_samePlan (axis.informed plot)
  have absorbed := absorb_samePlan { (axis.informed plot).unfix with
    plots := (axis.informed plot).unfix.plots ++ [index] } plot
  exact ⟨_, axis.addPlot_eq_taking index plot agreement,
    { options := absorbed.options.trans reopened.options
      side := absorbed.side.trans reopened.side
      kind := absorbed.kind.trans reopened.kind
      companion := absorbed.companion.trans reopened.companion
      discrete := absorbed.discrete.trans reopened.discrete
      plots := absorbed.plots.trans (congrArg (· ++ [index]) reopened.plots) }⟩

/-- A taken plot agrees with the axis, so that what became of the axis is told. -/
theorem taken_of_addPlot {axis next : Axis α} {index : Nat} {plot : Plot α}
    (taken : axis.addPlot index plot = .ok next) :
    next = axis.taking index plot ∧ axis.Takes index plot next := by
  have agreement : axis.kind = .x → ∀ discrete, axis.discrete = some discrete →
      discrete = plot.isDiscrete := by
    intro onX discrete told
    by_cases same : discrete = plot.isDiscrete
    · exact same
    · rw [axis.addPlot_of_disagreement index plot discrete onX told same] at taken
      cases taken
  obtain ⟨held, added, takes⟩ := axis.addPlot_of_agreement index plot agreement
  have same : held = next := Except.ok.inj (added.symm.trans taken)
  rw [axis.addPlot_eq_taking index plot agreement] at added
  exact ⟨same ▸ (Except.ok.inj added).symm, same ▸ takes⟩

/-! ### Settling -/

section Settling

variable {axis : Axis α} (unfixed : axis.fixed = false)

include unfixed

theorem fix_dataBounds :
    axis.fix.rmin = (axis.extendEmpty axis.completeRange).1 ∧
      axis.fix.rmax = (axis.extendEmpty axis.completeRange).2 ∧ axis.fix.fixed = true := by
  simp only [fix, unfixed, if_neg Bool.false_ne_true, apply_ite Axis.rmin, apply_ite Axis.rmax,
    apply_ite Axis.fixed, ite_self, and_self]

theorem fix_logBounds (logarithmic : axis.isLog = true) (continuous : axis.isDiscrete = false) :
    axis.fix.min = logOf axis.fix.rmin axis.options.logBase ∧
      axis.fix.max = logOf axis.fix.rmax axis.options.logBase := by
  obtain ⟨rmin, rmax, _fixed⟩ := fix_dataBounds unfixed
  rw [rmin, rmax]
  simp only [fix, unfixed, if_neg Bool.false_ne_true, apply_ite Axis.min, apply_ite Axis.max,
    logarithmic, continuous, Bool.not_false, Bool.and_self, if_true, ite_self, and_self]

theorem fix_labels (continuous : axis.isDiscrete = false) :
    axis.fix.labels = .values axis.fix.tickValues := by
  simp only [fix, unfixed, if_neg Bool.false_ne_true]
  rw [if_neg (by simpa [isDiscrete] using continuous)]
  rfl

end Settling

private theorem fix_fixed (axis : Axis α) : axis.fix.fixed = true := by
  cases fixed : axis.fixed with
  | true => rw [fix, if_pos fixed, fixed]
  | false => exact (fix_dataBounds fixed).2.2

theorem fix_fix (axis : Axis α) : axis.fix.fix = axis.fix := by
  rw [fix, if_pos axis.fix_fixed]

theorem unfix_fix (axis : Axis α) : axis.fix.unfix =
    { axis.fix with min := axis.fix.rmin, max := axis.fix.rmax, fixed := false } := by
  rw [unfix, if_pos axis.fix_fixed]

end CanvasChart.Axis
