import CanvasChart.Proofs.Exact.Powers

set_option autoImplicit false

/-! Finite numbers and lengths, and the ends of a list of numbers. -/

namespace CanvasChart

namespace Exact

def IsLength (value : EReal) : Prop := 0 ≤ value ∧ Finite value

variable {one other : EReal}

theorem IsLength.exists_real (length : IsLength one) : ∃ number : ℝ, one = number ∧ 0 ≤ number := by
  obtain ⟨number, rfl⟩ := length.2.exists_real
  exact ⟨number, rfl, EReal.coe_nonneg.mp length.1⟩

theorem isLength_coe {value : ℝ} (positive : 0 ≤ value) : IsLength value :=
  ⟨EReal.coe_nonneg.mpr positive, finite_coe value⟩

theorem isLength_natCast (value : ℕ) : IsLength value :=
  ⟨Nat.cast_nonneg' value, finite_natCast value⟩

theorem Finite.mul (left : Finite one) (right : Finite other) : Finite (one * other) := by
  obtain ⟨first, rfl⟩ := left.exists_real
  obtain ⟨second, rfl⟩ := right.exists_real
  exact EReal.coe_mul first second ▸ finite_coe _

theorem Finite.sub (left : Finite one) (right : Finite other) : Finite (one - other) := by
  obtain ⟨first, rfl⟩ := left.exists_real
  obtain ⟨second, rfl⟩ := right.exists_real
  exact EReal.coe_sub first second ▸ finite_coe _

theorem IsLength.mul (left : IsLength one) (right : IsLength other) : IsLength (one * other) :=
  ⟨EReal.mul_nonneg left.1 right.1, left.2.mul right.2⟩

variable [NumberTexts]

theorem IsLength.add (left : IsLength one) (right : IsLength other) : IsLength (one + other) :=
  ⟨add_nonneg left.1 right.1, left.2.add right.2⟩

theorem IsLength.le_of_beyond {start extent gap limit : EReal} (length : IsLength gap)
    (beyond : start + (extent + gap) ≤ limit) : start + extent ≤ limit :=
  (add_le_add le_rfl (le_add_of_nonneg_right length.1)).trans beyond

theorem Finite.scalarMax (left : Finite one) (right : Finite other) :
    Finite (Scalar.max one other) := by
  rw [max_eq]
  rcases le_total one other with less | less
  · rwa [max_eq_right less]
  · rwa [max_eq_left less]

theorem IsLength.scalarMax (left : IsLength one) (right : IsLength other) :
    IsLength (Scalar.max one other) := by
  refine ⟨?_, left.2.scalarMax right.2⟩
  rw [max_eq]
  exact left.1.trans (le_max_left _ _)

theorem half_coe (value : ℝ) :
    @HDiv.hDiv EReal EReal EReal (@instHDiv EReal Scalar.toDiv) value
      (@OfNat.ofNat EReal 2 (Scalar.instOfNat 2)) = ((value / 2 : ℝ) : EReal) := by
  rw [literal_eq, ← EReal.coe_natCast, div_coe value (by norm_num), Nat.cast_ofNat]

theorem Finite.half (finite : Finite one) :
    Finite (@HDiv.hDiv EReal EReal EReal (@instHDiv EReal Scalar.toDiv) one
      (@OfNat.ofNat EReal 2 (Scalar.instOfNat 2))) := by
  obtain ⟨number, rfl⟩ := finite.exists_real
  exact half_coe number ▸ finite_coe _

theorem foldl_max_bounds (values : List EReal) (start : EReal) :
    start ≤ values.foldl Scalar.max start ∧
      ∀ value ∈ values, value ≤ values.foldl Scalar.max start := by
  induction values generalizing start with
  | nil => exact ⟨le_rfl, List.forall_mem_nil _⟩
  | cons first rest ih =>
      rw [List.foldl_cons, max_eq]
      obtain ⟨above, each⟩ := ih (max start first)
      exact ⟨(le_max_left _ _).trans above,
        List.forall_mem_cons.mpr ⟨(le_max_right _ _).trans above, each⟩⟩

theorem least_corners {low high : EReal} (less : low ≤ high) :
    Scalar.least [low, high, low, high] = low ∧ Scalar.least [low, low, high, high] = low := by
  have start (value : EReal) : Scalar.min Scalar.infinity value = value := by
    rw [min_eq]
    exact min_eq_right le_top
  simp only [Scalar.least, List.foldl_cons, List.foldl_nil, start, min_eq, min_eq_left less,
    min_self, and_self]

theorem greatest_corners {low high : EReal} (less : low ≤ high) :
    Scalar.greatest [low, high, low, high] = high ∧
      Scalar.greatest [low, low, high, high] = high := by
  have start (value : EReal) : Scalar.max (-Scalar.infinity) value = value := by
    rw [max_eq]
    exact max_eq_right bot_le
  simp only [Scalar.greatest, List.foldl_cons, List.foldl_nil, start, max_eq, max_eq_right less,
    max_eq_left less, max_self, and_self]

end Exact

end CanvasChart
