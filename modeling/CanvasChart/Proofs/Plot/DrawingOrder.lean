import Mathlib.Data.List.Perm.Basic
import CanvasChart.Chart.AxisResolution

set_option autoImplicit false

/-! The order in which plots are drawn: by X side, then by type, then by registration. Taken
apart in this way no plot is lost, and none is drawn twice. -/

namespace CanvasChart

variable {α : Type}

namespace Plot

def onSide (side : Side) (plots : List (Plot α)) : List (Plot α) :=
  plots.filter fun plot => plot.options.xSide = side

def ofKind (kind : PlotKind) (plots : List (Plot α)) : List (Plot α) :=
  plots.filter fun plot => plot.kind = kind

/-- The plots side by side and type by type. -/
def inDrawingOrder (plots : List (Plot α)) : List (Plot α) :=
  Side.all.flatMap fun side => PlotKind.all.flatMap fun kind => ofKind kind (onSide side plots)

private theorem flatMap_filter_perm {κ β : Type} [DecidableEq κ] (key : β → κ) (items : List β)
    (keys : List κ) (distinct : keys.Nodup) :
    (keys.flatMap fun wanted => items.filter fun item => key item = wanted).Perm
      (items.filter fun item => key item ∈ keys) := by
  induction keys with
  | nil => simp
  | cons first rest ih =>
      rw [List.nodup_cons] at distinct
      have parts := List.filter_append_perm (fun item => decide (key item = first))
        (items.filter fun item => key item ∈ first :: rest)
      have onFirst : (items.filter fun item => key item ∈ first :: rest).filter
          (fun item => decide (key item = first)) =
            items.filter fun item => key item = first := by
        rw [List.filter_filter]
        refine List.filter_congr fun item _member => ?_
        by_cases same : key item = first <;> simp [same]
      have onRest : (items.filter fun item => key item ∈ first :: rest).filter
          (fun item => !decide (key item = first)) =
            items.filter fun item => key item ∈ rest := by
        rw [List.filter_filter]
        refine List.filter_congr fun item _member => ?_
        by_cases same : key item = first
        · simp [same, distinct.1]
        · simp [same]
      rw [onFirst, onRest] at parts
      rw [List.flatMap_cons]
      exact ((List.Perm.refl _).append (ih distinct.2)).trans parts

theorem inDrawingOrder_perm (plots : List (Plot α)) : (inDrawingOrder plots).Perm plots := by
  have byKind (side : Side) :
      (PlotKind.all.flatMap fun kind => ofKind kind (onSide side plots)).Perm
        (onSide side plots) := by
    have parts := flatMap_filter_perm Plot.kind (onSide side plots) PlotKind.all (by decide)
    rwa [List.filter_eq_self.mpr] at parts
    intro plot _member
    cases plot.kind <;> rfl
  have bySide := flatMap_filter_perm (fun plot => plot.options.xSide) plots Side.all (by decide)
  rw [List.filter_eq_self.mpr] at bySide
  · exact (List.Perm.flatMap_left Side.all fun side _listed => byKind side).trans bySide
  · intro plot _member
    cases plot.options.xSide <;> rfl

end Plot
end CanvasChart
