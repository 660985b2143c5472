import CanvasChart.Proofs.Axis.Gathering

set_option autoImplicit false

/-! What keeps plots from being drawn on one chart. Axis resolution succeeds exactly for
compatible plots, and otherwise tells the first fault of the first plot that has one. -/

namespace CanvasChart

variable {α : Type}

theorem Side.ne_of_perpendicular {side other : Side}
    (perpendicular : side.isPerpendicularTo other = true) : side ≠ other := by
  rintro rfl
  cases side <;> cases perpendicular

namespace Plot

/-- The plots can be drawn on one chart. -/
structure Compatible (plots : List (Plot α)) : Prop where
  perpendicular : ∀ plot ∈ plots,
    plot.options.xSide.isPerpendicularTo plot.options.ySide = true
  /-- No side is the X side of one plot and the Y side of another. -/
  oneRole : ∀ first ∈ plots, ∀ second ∈ plots, first.options.xSide ≠ second.options.ySide
  /-- Plots on one X axis agree on whether their keys are categories. -/
  agreement : ∀ first ∈ plots, ∀ second ∈ plots,
    first.options.xSide = second.options.xSide → first.isDiscrete = second.isDiscrete

/-- The first thing amiss with a plot by itself or with the plots before it. -/
def fault? (before : List (Plot α)) (plot : Plot α) : Option ChartError :=
  let x := plot.options.xSide
  let y := plot.options.ySide
  if !x.isPerpendicularTo y then some (.parallelAxes x y)
  else if ∃ earlier ∈ before, earlier.options.ySide = x then some (.axisRoleConflict x)
  else if ∃ earlier ∈ before,
      earlier.options.xSide = x ∧ earlier.isDiscrete ≠ plot.isDiscrete then
    some (.discretenessMismatch x)
  else if ∃ earlier ∈ before, earlier.options.xSide = y then some (.axisRoleConflict y)
  else none

/-- The error of the first plot that has a fault. -/
def FirstFault (plots : List (Plot α)) (error : ChartError) : Prop :=
  ∃ before plot after, plots = before ++ plot :: after ∧ Compatible before ∧
    fault? before plot = some error

theorem Compatible.nil : Compatible ([] : List (Plot α)) :=
  ⟨List.forall_mem_nil _, List.forall_mem_nil _, List.forall_mem_nil _⟩

theorem Compatible.of_append {before after : List (Plot α)}
    (compatible : Compatible (before ++ after)) : Compatible before where
  perpendicular plot member :=
    compatible.perpendicular plot (List.mem_append_left after member)
  oneRole first firstMember second secondMember :=
    compatible.oneRole first (List.mem_append_left after firstMember)
      second (List.mem_append_left after secondMember)
  agreement first firstMember second secondMember :=
    compatible.agreement first (List.mem_append_left after firstMember)
      second (List.mem_append_left after secondMember)

inductive Verdict (before : List (Plot α)) (plot : Plot α) : Option ChartError → Prop
  | parallel
      (parallel : plot.options.xSide.isPerpendicularTo plot.options.ySide = false) :
      Verdict before plot
        (some (.parallelAxes plot.options.xSide plot.options.ySide))
  | xConflict
      (perpendicular : plot.options.xSide.isPerpendicularTo plot.options.ySide = true)
      (conflict : ∃ earlier ∈ before, earlier.options.ySide = plot.options.xSide) :
      Verdict before plot (some (.axisRoleConflict plot.options.xSide))
  | disagreement
      (perpendicular : plot.options.xSide.isPerpendicularTo plot.options.ySide = true)
      (yApart : ∀ earlier ∈ before, earlier.options.ySide ≠ plot.options.xSide)
      (disagreement : ∃ earlier ∈ before, earlier.options.xSide = plot.options.xSide ∧
        earlier.isDiscrete ≠ plot.isDiscrete) :
      Verdict before plot (some (.discretenessMismatch plot.options.xSide))
  | yConflict
      (perpendicular : plot.options.xSide.isPerpendicularTo plot.options.ySide = true)
      (yApart : ∀ earlier ∈ before, earlier.options.ySide ≠ plot.options.xSide)
      (agreement : ∀ earlier ∈ before, earlier.options.xSide = plot.options.xSide →
        earlier.isDiscrete = plot.isDiscrete)
      (conflict : ∃ earlier ∈ before, earlier.options.xSide = plot.options.ySide) :
      Verdict before plot (some (.axisRoleConflict plot.options.ySide))
  | faultless
      (perpendicular : plot.options.xSide.isPerpendicularTo plot.options.ySide = true)
      (yApart : ∀ earlier ∈ before, earlier.options.ySide ≠ plot.options.xSide)
      (agreement : ∀ earlier ∈ before, earlier.options.xSide = plot.options.xSide →
        earlier.isDiscrete = plot.isDiscrete)
      (xApart : ∀ earlier ∈ before, earlier.options.xSide ≠ plot.options.ySide) :
      Verdict before plot none

theorem fault?_verdict (before : List (Plot α)) (plot : Plot α) :
    Verdict before plot (fault? before plot) := by
  simp only [fault?]
  split
  case isTrue parallel => exact .parallel (by simpa using parallel)
  case isFalse notParallel =>
    have perpendicular : plot.options.xSide.isPerpendicularTo plot.options.ySide = true := by
      simpa using notParallel
    split
    case isTrue conflict => exact .xConflict perpendicular conflict
    case isFalse noConflict =>
      have yApart : ∀ earlier ∈ before, earlier.options.ySide ≠ plot.options.xSide :=
        fun earlier member same => noConflict ⟨earlier, member, same⟩
      split
      case isTrue disagreement => exact .disagreement perpendicular yApart disagreement
      case isFalse noDisagreement =>
        have agreement : ∀ earlier ∈ before, earlier.options.xSide = plot.options.xSide →
            earlier.isDiscrete = plot.isDiscrete := by
          intro earlier member same
          by_cases agree : earlier.isDiscrete = plot.isDiscrete
          · exact agree
          · exact absurd ⟨earlier, member, same, agree⟩ noDisagreement
        split
        case isTrue conflict => exact .yConflict perpendicular yApart agreement conflict
        case isFalse noConflict =>
          exact .faultless perpendicular yApart agreement
            fun earlier member same => noConflict ⟨earlier, member, same⟩

theorem fault?_eq_none_iff (before : List (Plot α)) (plot : Plot α) :
    fault? before plot = none ↔
      plot.options.xSide.isPerpendicularTo plot.options.ySide = true ∧
      (∀ earlier ∈ before, earlier.options.ySide ≠ plot.options.xSide) ∧
      (∀ earlier ∈ before, earlier.options.xSide = plot.options.xSide →
        earlier.isDiscrete = plot.isDiscrete) ∧
      ∀ earlier ∈ before, earlier.options.xSide ≠ plot.options.ySide := by
  have verdict := fault?_verdict before plot
  constructor
  · intro faultless
    rw [faultless] at verdict
    cases verdict with
    | faultless perpendicular yApart agreement xApart =>
        exact ⟨perpendicular, yApart, agreement, xApart⟩
  · rintro ⟨perpendicular, yApart, agreement, xApart⟩
    generalize fault? before plot = told at verdict
    cases verdict with
    | parallel parallel =>
        rw [perpendicular] at parallel
        cases parallel
    | xConflict _ conflict =>
        obtain ⟨earlier, member, same⟩ := conflict
        exact absurd same (yApart earlier member)
    | disagreement _ _ disagreement =>
        obtain ⟨earlier, member, same, differs⟩ := disagreement
        exact absurd (agreement earlier member same) differs
    | yConflict _ _ _ conflict =>
        obtain ⟨earlier, member, same⟩ := conflict
        exact absurd same (xApart earlier member)
    | faultless => rfl

/-- A plot may follow compatible plots exactly when it has no fault. -/
theorem compatible_concat_iff (before : List (Plot α)) (plot : Plot α) :
    Compatible (before ++ [plot]) ↔ Compatible before ∧ fault? before plot = none := by
  rw [fault?_eq_none_iff]
  constructor
  · intro compatible
    have last : plot ∈ before ++ [plot] := by simp
    have earlierMember : ∀ earlier ∈ before, earlier ∈ before ++ [plot] :=
      fun earlier member => List.mem_append_left [plot] member
    refine ⟨compatible.of_append, compatible.perpendicular plot last, ?_, ?_, ?_⟩
    · intro earlier member same
      exact compatible.oneRole plot last earlier (earlierMember earlier member) same.symm
    · intro earlier member
      exact compatible.agreement earlier (earlierMember earlier member) plot last
    · intro earlier member
      exact compatible.oneRole earlier (earlierMember earlier member) plot last
  · rintro ⟨compatible, perpendicular, yApart, agreement, xApart⟩
    have ownSides := Side.ne_of_perpendicular perpendicular
    constructor
    · intro one member
      rcases List.mem_append.mp member with earlier | new
      · exact compatible.perpendicular one earlier
      · rw [List.mem_singleton.mp new]
        exact perpendicular
    · intro first firstMember second secondMember
      rcases List.mem_append.mp firstMember with firstEarlier | firstNew <;>
        rcases List.mem_append.mp secondMember with secondEarlier | secondNew
      · exact compatible.oneRole first firstEarlier second secondEarlier
      · rw [List.mem_singleton.mp secondNew]
        exact xApart first firstEarlier
      · rw [List.mem_singleton.mp firstNew]
        exact (yApart second secondEarlier).symm
      · rw [List.mem_singleton.mp firstNew, List.mem_singleton.mp secondNew]
        exact ownSides
    · intro first firstMember second secondMember same
      rcases List.mem_append.mp firstMember with firstEarlier | firstNew <;>
        rcases List.mem_append.mp secondMember with secondEarlier | secondNew
      · exact compatible.agreement first firstEarlier second secondEarlier same
      · rw [List.mem_singleton.mp secondNew] at same ⊢
        exact agreement first firstEarlier same
      · rw [List.mem_singleton.mp firstNew] at same ⊢
        exact (agreement second secondEarlier same.symm).symm
      · rw [List.mem_singleton.mp firstNew, List.mem_singleton.mp secondNew]

theorem compatible_pair {first second : Plot α} (alone : fault? [] first = none)
    (next : fault? [first] second = none) : Compatible [first, second] :=
  (compatible_concat_iff [first] second).mpr
    ⟨(compatible_concat_iff [] first).mpr ⟨.nil, alone⟩, next⟩

theorem FirstFault.not_compatible {plots : List (Plot α)} {error : ChartError}
    (fault : FirstFault plots error) : ¬ Compatible plots := by
  obtain ⟨before, plot, after, rfl, _earlier, faulty⟩ := fault
  intro compatible
  rw [List.append_cons] at compatible
  have faultless := ((compatible_concat_iff before plot).mp compatible.of_append).2
  rw [faulty] at faultless
  cases faultless

theorem FirstFault.ne_missingAxis {plots : List (Plot α)} {error : ChartError}
    (fault : FirstFault plots error) (side : Side) : error ≠ .missingAxis side := by
  obtain ⟨before, plot, _after, _split, _compatible, faulty⟩ := fault
  have verdict := fault?_verdict before plot
  rw [faulty] at verdict
  rintro rfl
  cases verdict

theorem FirstFault.unique {plots : List (Plot α)} {first second : ChartError}
    (firstFault : FirstFault plots first) (secondFault : FirstFault plots second) :
    first = second := by
  obtain ⟨before, plot, after, split, compatible, faulty⟩ := firstFault
  obtain ⟨other, one, rest, otherSplit, otherCompatible, otherFaulty⟩ := secondFault
  rw [split] at otherSplit
  -- where one list of earlier plots is longer, it holds the other's faulty plot
  rcases List.append_eq_append_iff.mp otherSplit with
    ⟨between, otherEq, tailEq⟩ | ⟨between, beforeEq, tailEq⟩
  · cases between with
    | nil =>
        simp only [List.append_nil, List.nil_append, List.cons.injEq] at otherEq tailEq
        rw [← tailEq.1, otherEq, faulty] at otherFaulty
        exact Option.some.inj otherFaulty
    | cons head tail =>
        simp only [List.cons_append, List.cons.injEq] at tailEq
        rw [otherEq, ← tailEq.1] at otherCompatible
        exact absurd otherCompatible
          (FirstFault.not_compatible ⟨before, plot, tail, rfl, compatible, faulty⟩)
  · cases between with
    | nil =>
        simp only [List.append_nil, List.nil_append, List.cons.injEq] at beforeEq tailEq
        rw [beforeEq, ← tailEq.1, otherFaulty] at faulty
        exact (Option.some.inj faulty).symm
    | cons head tail =>
        simp only [List.cons_append, List.cons.injEq] at tailEq
        rw [beforeEq, ← tailEq.1] at compatible
        exact absurd compatible
          (FirstFault.not_compatible ⟨other, one, tail, rfl, otherCompatible, otherFaulty⟩)

end Plot
end CanvasChart
