set_option autoImplicit false

/-! Values kept under keys, in the order in which the keys were first used. A
value put under a key takes the place of the earlier one. -/

namespace CanvasChart.Association

variable {κ β : Type} [DecidableEq κ]

def put (key : κ) (value : β) : List (κ × β) → List (κ × β)
  | [] => [(key, value)]
  | (other, held) :: rest =>
      if other = key then (key, value) :: rest else (other, held) :: put key value rest

theorem lookup_put_same (key : κ) (value : β) (entries : List (κ × β)) :
    (put key value entries).lookup key = some value := by
  induction entries with
  | nil => simp [put]
  | cons entry rest ih =>
      obtain ⟨other, held⟩ := entry
      by_cases same : other = key
      · simp [put, same]
      · have different : (key == other) = false := by
          simpa using fun equal => same equal.symm
        simp only [put, if_neg same, List.lookup_cons, different, ih]

theorem lookup_put_other (key asked : κ) (value : β) (entries : List (κ × β))
    (different : asked ≠ key) :
    (put key value entries).lookup asked = entries.lookup asked := by
  have unequal : (asked == key) = false := by simpa using different
  induction entries with
  | nil => simp [put, different]
  | cons entry rest ih =>
      obtain ⟨other, held⟩ := entry
      by_cases same : other = key
      · subst same
        simp [put, List.lookup_cons, unequal]
      · simp only [put, if_neg same, List.lookup_cons, ih]

theorem put_held {key : κ} {value : β} {entries : List (κ × β)}
    (held : entries.lookup key = some value) : put key value entries = entries := by
  induction entries with
  | nil => cases held
  | cons entry rest ih =>
      obtain ⟨other, first⟩ := entry
      by_cases same : other = key
      · subst same
        rw [List.lookup_cons_self, Option.some.injEq] at held
        rw [put, if_pos rfl, held]
      · have different : (key == other) = false := by
          simpa using fun equal => same equal.symm
        rw [List.lookup_cons, different] at held
        rw [put, if_neg same, ih held]

end CanvasChart.Association
