import Mathlib.Algebra.Order.Field.Basic
import Mathlib.Data.List.TakeDrop
import Mathlib.Data.Rat.Defs
import Mathlib.Tactic.Ring
import CanvasChart.Decimal.Numeral

set_option autoImplicit false

/-! Positional texts are numerals: read back, they are the decimal that was written. -/

namespace CanvasChart.Decimal

/-! ### Digits -/

private theorem naturalOf_eq (written : List Char) :
    naturalOf written = Nat.ofDigitChars 10 written 0 := by
  rw [naturalOf, Nat.ofDigitChars_eq_foldl]
  congr 1
  funext value digit
  rw [Nat.mul_comm, digitValue]
  rfl

theorem naturalOf_digits (value : Nat) : naturalOf (digits value) = value := by
  rw [naturalOf_eq, digits, Nat.ofDigitChars_ten_toDigits]

private theorem naturalOf_zeros_append (zeros : Nat) (written : List Char) :
    naturalOf (List.replicate zeros '0' ++ written) = naturalOf written := by
  rw [naturalOf_eq, naturalOf_eq, Nat.ofDigitChars_append, Nat.ofDigitChars_replicate_zero,
    Nat.mul_zero]

private theorem naturalOf_append_zeros (written : List Char) (zeros : Nat) :
    naturalOf (written ++ List.replicate zeros '0') = naturalOf written * 10 ^ zeros := by
  rw [naturalOf_eq, naturalOf_eq, Nat.ofDigitChars_append, Nat.ofDigitChars_replicate_zero,
    Nat.mul_comm]

theorem isDigit_of_mem_digits {value : Nat} : ∀ digit ∈ digits value, digit.isDigit = true :=
  fun _digit member => Nat.isDigit_of_mem_toDigits (by decide) (by decide) member

private theorem isDigit_of_mem_zeros {zeros : Nat} :
    ∀ digit ∈ List.replicate zeros '0', digit.isDigit = true := by
  intro digit member
  rw [List.eq_of_mem_replicate member]
  rfl

/-! ### Numerals -/

private theorem span_digits {written : List Char} (rest : List Char)
    (allDigits : ∀ digit ∈ written, digit.isDigit = true)
    (stops : ∀ other ∈ rest.head?, other.isDigit = false) :
    (written ++ rest).span Char.isDigit = (written, rest) := by
  have none : rest.takeWhile Char.isDigit = [] ∧ rest.dropWhile Char.isDigit = rest := by
    cases rest with
    | nil => exact ⟨rfl, rfl⟩
    | cons other rest => simp [stops other rfl]
  rw [List.span_eq_takeWhile_dropWhile, List.takeWhile_append_of_pos allDigits,
    List.dropWhile_append_of_pos allDigits, none.1, none.2, List.append_nil]

theorem unsigned?_whole {written : List Char} (allDigits : ∀ digit ∈ written, digit.isDigit = true)
    (some : written ≠ []) : unsigned? written = Option.some (naturalOf written, 0) := by
  have spanned := span_digits [] allDigits nofun
  rw [List.append_nil] at spanned
  simp [unsigned?, spanned, some, exponent?, -List.span_eq_takeWhile_dropWhile]

private theorem unsigned?_point {whole fraction : List Char}
    (wholeDigits : ∀ digit ∈ whole, digit.isDigit = true)
    (fractionDigits : ∀ digit ∈ fraction, digit.isDigit = true) (some : whole ≠ []) :
    unsigned? (whole ++ '.' :: fraction) =
      Option.some (naturalOf (whole ++ fraction), -(fraction.length : Int)) := by
  have spanned := span_digits ('.' :: fraction) wholeDigits (by simp)
  have further := span_digits [] fractionDigits nofun
  rw [List.append_nil] at further
  simp [unsigned?, spanned, further, some, exponent?, -List.span_eq_takeWhile_dropWhile]

theorem splitSign_of_unsigned? {text : List Char} {read : Nat × Int}
    (reads : unsigned? text = some read) : splitSign text = (false, text) := by
  unfold splitSign
  split
  case h_1 =>
    simp [unsigned?] at reads
  case h_2 =>
    simp [unsigned?] at reads
  case h_3 => rfl

/-! ### Positional texts -/

private theorem unsigned?_placePoint (places value : Nat) :
    unsigned? (placePoint places value) = some (value, -(places : Int)) := by
  have length := Nat.length_toDigits_pos (b := 10) (n := value)
  let padded := List.replicate (places + 1 - (digits value).length) '0' ++ digits value
  have paddedDigits : ∀ digit ∈ padded, digit.isDigit = true :=
    List.forall_mem_append.mpr ⟨isDigit_of_mem_zeros, isDigit_of_mem_digits⟩
  have paddedValue : naturalOf padded = value := by
    rw [naturalOf_zeros_append, naturalOf_digits]
  have paddedLength : places + 1 ≤ padded.length := by
    rw [List.length_append, List.length_replicate]
    omega
  change unsigned? (if places = 0 then padded else
    padded.take (padded.length - places) ++ '.' :: padded.drop (padded.length - places)) = _
  split
  case isTrue none =>
    have some : padded ≠ [] := List.ne_nil_of_length_pos (by omega)
    rw [unsigned?_whole paddedDigits some, paddedValue, none]
    rfl
  case isFalse =>
    have some : padded.take (padded.length - places) ≠ [] :=
      List.ne_nil_of_length_pos (by rw [List.length_take]; omega)
    rw [unsigned?_point (fun digit member => paddedDigits digit (List.mem_of_mem_take member))
      (fun digit member => paddedDigits digit (List.mem_of_mem_drop member)) some,
      List.take_append_drop, paddedValue, List.length_drop]
    congr 4
    omega

private theorem stripZeros_value (fuel value : Nat) :
    (stripZeros fuel value).1 * 10 ^ (stripZeros fuel value).2 = value ∧
      (stripZeros fuel value).2 ≤ fuel := by
  induction fuel generalizing value with
  | zero => exact ⟨Nat.mul_one value, Nat.le_refl 0⟩
  | succ fuel ih =>
      simp only [stripZeros]
      split
      case isTrue divisible =>
        obtain ⟨kept, few⟩ := ih (value / 10)
        refine ⟨?_, Nat.succ_le_succ few⟩
        rw [Nat.pow_succ, ← Nat.mul_assoc, kept, Nat.div_mul_cancel (Nat.dvd_of_mod_eq_zero divisible.2)]
      case isFalse => exact ⟨Nat.mul_one value, Nat.zero_le _⟩

theorem unsigned?_positional (value : Nat) (exponent : Int) :
    ∃ (read : Nat) (place : Int), unsigned? (positional value exponent) = some (read, place) ∧
      (read : ℚ) * 10 ^ place = value * 10 ^ exponent := by
  cases exponent with
  | ofNat zeros =>
      have allDigits : ∀ digit ∈ positional value (.ofNat zeros), digit.isDigit = true :=
        List.forall_mem_append.mpr ⟨isDigit_of_mem_digits, isDigit_of_mem_zeros⟩
      have some : positional value (.ofNat zeros) ≠ [] :=
        List.append_ne_nil_of_left_ne_nil Nat.toDigits_ne_nil _
      refine ⟨_, 0, unsigned?_whole allDigits some, ?_⟩
      rw [positional, naturalOf_append_zeros, naturalOf_digits]
      by_cases none : value = 0
      · simp [none]
      · simp [none]
  | negSucc places =>
      obtain ⟨kept, few⟩ := stripZeros_value (places + 1) value
      refine ⟨(stripZeros (places + 1) value).1,
        -((places + 1 - (stripZeros (places + 1) value).2 : Nat) : Int),
        unsigned?_placePoint _ _, ?_⟩
      have shifted : -((places + 1 - (stripZeros (places + 1) value).2 : Nat) : Int) =
          (stripZeros (places + 1) value).2 + Int.negSucc places := by omega
      have whole : ((stripZeros (places + 1) value).1 : ℚ) * 10 ^ (stripZeros (places + 1) value).2 =
          value := by exact_mod_cast kept
      rw [shifted, zpow_add₀ (by norm_num), ← mul_assoc, zpow_natCast, whole]

end CanvasChart.Decimal
