import CanvasChart.Proofs.Binary64.Whole
import CanvasChart.Proofs.Decimal.Shortest

set_option autoImplicit false

/-! Shortest texts read back. The decimal of a text is rounded to the number that was written, and
whole numbers are written with their own digits. -/

namespace CanvasChart.Decimal

open Binary64

/-! ### Decimals in the interval of a number -/

namespace Neighbourhood

variable {mantissa : ℕ} {exponent : ℤ} {number : ℚ}

private theorem nearest_of_lowest (above : (2 ^ 54 - 1) * 2 ^ exponent ≤ 4 * number)
    (below : number < 2 ^ 52 * 2 ^ exponent) (least : -1074 < exponent) :
    nearest number = 2 ^ 52 * 2 ^ exponent := by
  have unit := two_zpow_pos (exponent - 1)
  have double : (2 : ℚ) ^ exponent = 2 ^ (exponent - 1) * 2 := by
    rw [← zpow_add_one₀ (by norm_num)]
    congr 1
    ring
  rw [double] at above below ⊢
  have positive : 0 < number := by nlinarith
  have place : lastPlace number = exponent - 1 := by
    refine lastPlace_eq positive.ne' (by omega) (.inl ?_) ?_
    · rw [abs_of_pos positive, two_zpow_add]
      norm_num
      nlinarith
    · rw [abs_of_pos positive, two_zpow_add]
      norm_num
      linarith
  have rounded : nearest number = (2 ^ 53 : ℤ) * 2 ^ (exponent - 1) := by
    refine nearest_eq place ?_ fun _half => by norm_num
    rw [abs_le]
    push_cast
    constructor <;> linarith
  rw [rounded]
  push_cast
  ring

private theorem nearest_of_within (above : (4 * mantissa - 2) * 2 ^ exponent ≤ 4 * number)
    (below : 4 * number ≤ (4 * mantissa + 2) * 2 ^ exponent)
    (inside : mantissa % 2 = 1 → (4 * mantissa - 2) * 2 ^ exponent < 4 * number ∧
      4 * number < (4 * mantissa + 2) * 2 ^ exponent)
    (place : lastPlace number = exponent) : nearest number = mantissa * 2 ^ exponent := by
  have cast : (((mantissa : ℕ) : ℤ) : ℚ) = mantissa := Int.cast_natCast mantissa
  rw [← cast]
  refine nearest_eq place ?_ fun half => ?_
  · rw [cast, abs_le]
    constructor <;> linarith
  · by_contra odd
    obtain ⟨strictlyAbove, strictlyBelow⟩ := inside (by omega)
    refine absurd half (ne_of_lt ?_)
    rw [cast, abs_lt]
    constructor <;> linarith

private theorem nearest_of_contains (canonical : Canonical mantissa exponent)
    (contains : (ofBinary64 mantissa exponent).Contains number) :
    nearest number = mantissa * 2 ^ exponent := by
  have positive := contains.positive (proper_ofBinary64 canonical)
  obtain ⟨above, below, inside⟩ := contains_ofBinary64 contains
  have unit := two_zpow_pos exponent
  have some := canonical.positive
  by_cases lowest : (mantissa = 2 ^ 52 ∧ -1074 < exponent) ∧ number < 2 ^ 52 * 2 ^ exponent
  · obtain ⟨⟨rfl, least⟩, low⟩ := lowest
    have quarters : (lowQuarters (2 ^ 52) exponent : ℚ) = 2 ^ 54 - 1 := by
      rw [lowQuarters, if_pos ⟨rfl, least⟩]
      norm_num
    rw [quarters] at above
    rw [Nat.cast_pow, Nat.cast_ofNat]
    exact nearest_of_lowest above low least
  · have quarters : 4 * (mantissa : ℚ) - 2 ≤ lowQuarters mantissa exponent := by
      have whole : 4 * mantissa ≤ lowQuarters mantissa exponent + 2 := by
        unfold lowQuarters
        split <;> omega
      have cast : ((4 * mantissa : ℕ) : ℚ) ≤ (lowQuarters mantissa exponent + 2 : ℕ) := by
        exact_mod_cast whole
      push_cast at cast
      linarith
    have lower := (mul_le_mul_of_nonneg_right quarters unit.le).trans above
    refine nearest_of_within lower below (fun odd => ?_) ?_
    · obtain ⟨strictlyAbove, strictlyBelow⟩ := inside odd
      exact ⟨(mul_le_mul_of_nonneg_right quarters unit.le).trans_lt strictlyAbove, strictlyBelow⟩
    · refine lastPlace_eq positive.ne' canonical.least ?_ ?_ <;> rw [abs_of_pos positive]
      · rcases canonical.normal with many | low
        · by_cases least : exponent = -1074
          · exact .inr least
          · left
            rw [add_comm, two_zpow_add]
            have least' := canonical.least
            rcases many.eq_or_lt with rfl | more
            · exact not_lt.mp fun low => lowest ⟨⟨rfl, by omega⟩, low⟩
            · have cast : (2 ^ 52 + 1 : ℚ) ≤ mantissa := by exact_mod_cast more
              have scaled := mul_le_mul_of_nonneg_right cast unit.le
              norm_num at scaled ⊢
              linarith
        · exact .inr low
      · have cast : (mantissa : ℚ) + 1 ≤ 2 ^ 53 := by exact_mod_cast canonical.small
        have scaled := mul_le_mul_of_nonneg_right cast unit.le
        rw [add_comm, two_zpow_add]
        norm_num at scaled ⊢
        linarith

/-! ### Whole numbers -/

private theorem grids_pairwise (start : ℤ) :
    ((List.range 17).map fun (index : ℕ) => start - (index : ℤ)).Pairwise (· > ·) := by
  rw [List.pairwise_map]
  refine List.pairwise_lt_range.imp fun less => ?_
  omega

private theorem findSome?_ge {grids : List ℤ} (decreasing : grids.Pairwise (· > ·))
    {offer : ℤ → Option ℕ}
    {grid : ℤ} (listed : grid ∈ grids) (offered : (offer grid).isSome = true) {hit : ℕ × ℤ}
    (found : (grids.findSome? fun exponent => (offer exponent).map fun value => (value, exponent)) =
      some hit) : grid ≤ hit.2 ∧ offer hit.2 = some hit.1 := by
  obtain ⟨before, first, after, rfl, hits, missed⟩ := List.findSome?_eq_some_iff.mp found
  obtain ⟨value, taken, rfl⟩ := Option.map_eq_some_iff.mp hits
  refine ⟨?_, taken⟩
  rcases List.mem_append.mp listed with earlier | later
  · have none := missed grid earlier
    rw [Option.map_eq_none_iff] at none
    rw [none] at offered
    cases offered
  · rcases List.mem_cons.mp later with rfl | following
    · exact le_rfl
    · have later := (List.pairwise_append.mp decreasing).2.1
      exact le_of_lt ((List.pairwise_cons.mp later).1 grid following)

section Whole

variable {whole : ℕ} (value_eq : (mantissa : ℚ) * 2 ^ exponent = whole)

include value_eq

private theorem value_of_whole :
    (ofBinary64 mantissa exponent).value = whole * (ofBinary64 mantissa exponent).denominator := by
  have value : ((ofBinary64 mantissa exponent).value : ℚ) = 4 * mantissa * 2 ^ exponent.toNat := by
    exact_mod_cast rfl
  have denominator : ((ofBinary64 mantissa exponent).denominator : ℚ) =
      4 * 2 ^ (-exponent).toNat := by exact_mod_cast rfl
  have cast : ((ofBinary64 mantissa exponent).value : ℚ) =
      whole * (ofBinary64 mantissa exponent).denominator := by
    rw [value, denominator, ← value_eq, ← toNat_zpow 2 (by norm_num) exponent]
    ring
  exact_mod_cast cast

variable (canonical : Canonical mantissa exponent)

include canonical

private theorem whole_pos : 0 < whole := by
  have positive := canonical.magnitude_pos
  rw [value_eq] at positive
  exact_mod_cast positive

private theorem magnitude_nonneg : 0 ≤ (ofBinary64 mantissa exponent).magnitude := by
  have some := whole_pos value_eq canonical
  have proper := proper_ofBinary64 canonical
  have more :
      (ofBinary64 mantissa exponent).denominator ≤ (ofBinary64 mantissa exponent).value := by
    rw [value_of_whole value_eq]
    exact Nat.le_mul_of_pos_left _ some
  have digits : digitCount (ofBinary64 mantissa exponent).denominator ≤
      digitCount (ofBinary64 mantissa exponent).value := by
    by_contra fewer
    have less := lt_pow_digitCount (ofBinary64 mantissa exponent).value
    have least := pow_digitCount_le proper.denominator_pos
    have power := Nat.pow_le_pow_right (n := 10) (by decide)
      (Nat.le_sub_one_of_lt (not_le.mp fewer))
    omega
  unfold magnitude
  dsimp only
  split
  case isTrue => omega
  case isFalse exceeds =>
    by_contra negative
    have none : (digitCount (ofBinary64 mantissa exponent).value : ℤ) -
        digitCount (ofBinary64 mantissa exponent).denominator = 0 := by omega
    rw [none] at exceeds
    simp only [Int.toNat_zero, neg_zero, Nat.pow_eq, Nat.pow_zero, Nat.mul_one] at exceeds
    exact exceeds more

private theorem magnitude_lt (small : whole < 2 ^ 53) :
    (ofBinary64 mantissa exponent).magnitude < 16 := by
  by_contra large
  have leading := magnitude_le (proper_ofBinary64 canonical)
  have none : (-(ofBinary64 mantissa exponent).magnitude).toNat = 0 := by omega
  have many : 16 ≤ (ofBinary64 mantissa exponent).magnitude.toNat := by omega
  rw [none, Nat.pow_zero, Nat.mul_one, value_of_whole value_eq, Nat.mul_comm] at leading
  have bounded := Nat.le_of_mul_le_mul_right leading (proper_ofBinary64 canonical).denominator_pos
  have power := Nat.pow_le_pow_right (n := 10) (by decide) many
  omega

private theorem onGrid?_zero (ties : TieRule) :
    ((ofBinary64 mantissa exponent).onGrid? ties 0).isSome = true := by
  have proper := proper_ofBinary64 canonical
  have below := proper.low_lt
  refine choice_isSome (.inr ?_)
  have lower : (ofBinary64 mantissa exponent).value * Nat.pow 10 (-(0 : ℤ)).toNat /
      ((ofBinary64 mantissa exponent).denominator * Nat.pow 10 (0 : ℤ).toNat) = whole := by
    simp only [neg_zero, Int.toNat_zero, Nat.pow_eq, Nat.pow_zero, Nat.mul_one]
    rw [value_of_whole value_eq, Nat.mul_div_cancel _ proper.denominator_pos]
  rw [lower]
  simp only [neg_zero, Int.toNat_zero, Nat.pow_eq, Nat.pow_zero, Nat.mul_one]
  rw [← value_of_whole value_eq]
  split
  · exact below.le
  · exact below

private theorem shortest_whole (small : whole < 2 ^ 53) (ties : TieRule) :
    ∃ zeros : ℕ, ((ofBinary64 mantissa exponent).shortest ties).2 = zeros ∧
      ((ofBinary64 mantissa exponent).shortest ties).1 * 10 ^ zeros = whole := by
  let near := ofBinary64 mantissa exponent
  have proper : near.Proper := proper_ofBinary64 canonical
  have start : 0 ≤ near.magnitude := magnitude_nonneg value_eq canonical
  have few : near.magnitude < 16 := magnitude_lt value_eq canonical small
  have offered : (near.onGrid? ties 0).isSome = true := onGrid?_zero value_eq canonical ties
  let offer := fun exponent => (near.onGrid? ties exponent).map fun value => (value, exponent)
  have listed : (0 : ℤ) ∈ (List.range 17).map fun (index : ℕ) => near.magnitude - (index : ℤ) :=
    List.mem_map.mpr ⟨near.magnitude.toNat, List.mem_range.mpr (by omega), by omega⟩
  have offeredPair : (offer 0).isSome = true := by rwa [Option.isSome_map]
  obtain ⟨hit, found⟩ := Option.isSome_iff_exists.mp
    (List.findSome?_isSome_iff.mpr ⟨0, listed, offeredPair⟩)
  have shortest : near.shortest ties = hit := congrArg (Option.getD · (0, 0)) found
  obtain ⟨coarse, taken⟩ := findSome?_ge (grids_pairwise near.magnitude) listed offered found
  have inside := nearest_of_contains canonical (onGrid?_contains proper taken)
  obtain ⟨zeros, places⟩ := Int.eq_ofNat_of_zero_le coarse
  have decimal : (hit.1 : ℚ) * 10 ^ hit.2 = ((hit.1 * 10 ^ zeros : ℕ) : ℤ) := by
    rw [places]
    push_cast
    rfl
  rw [decimal, value_eq] at inside
  refine ⟨zeros, by rw [shortest, places], ?_⟩
  rw [shortest]
  have bounded : |((hit.1 * 10 ^ zeros : ℕ) : ℤ)| ≤ 2 ^ 53 := by
    rw [Nat.abs_cast]
    by_contra beyond
    have bound : Representable ((2 ^ 53 : ℤ) : ℚ) := representable_intCast (by norm_num)
    have above : ((2 ^ 53 : ℤ) : ℚ) ≤ ((hit.1 * 10 ^ zeros : ℕ) : ℤ) := by
      exact_mod_cast (not_le.mp beyond).le
    have large := le_nearest_of_representable bound above
    rw [inside] at large
    have contrary : 2 ^ 53 ≤ whole := by exact_mod_cast large
    omega
  rw [nearest_intCast bounded] at inside
  exact_mod_cast inside

end Whole

end Neighbourhood

/-! ### Texts of whole numbers -/

private theorem digits_mul_pow {value : ℕ} (positive : 0 < value) (zeros : ℕ) :
    digits (value * 10 ^ zeros) = digits value ++ List.replicate zeros '0' := by
  induction zeros with
  | zero => rw [pow_zero, mul_one, List.replicate_zero, List.append_nil]
  | succ zeros ih =>
      have longer : Nat.toDigits 10 (value * 10 ^ zeros) ++ Nat.toDigits 10 0 =
          Nat.toDigits 10 (10 * (value * 10 ^ zeros) + 0) :=
        Nat.toDigits_append_toDigits (by decide) (by positivity) (by decide)
      have product : value * 10 ^ (zeros + 1) = 10 * (value * 10 ^ zeros) + 0 := by ring
      rw [digits, product, ← longer, Nat.toDigits_zero]
      unfold digits at ih
      rw [ih, List.append_assoc, List.replicate_succ']
      rfl

private theorem canonical_unique {mantissa mantissa' : ℕ} {exponent exponent' : ℤ}
    (canonical : Canonical mantissa exponent) (canonical' : Canonical mantissa' exponent')
    (same : (mantissa : ℚ) * 2 ^ exponent = mantissa' * 2 ^ exponent') :
    mantissa = mantissa' ∧ exponent = exponent' := by
  have notLess := mt (canonical.lt_of_lex canonical') same.not_lt
  have notGreater := mt (canonical'.lt_of_lex canonical) same.not_gt
  omega

private theorem positional_whole {mantissa whole : ℕ} {exponent : ℤ}
    (canonical : Canonical mantissa exponent)
    (value_eq : (mantissa : ℚ) * 2 ^ exponent = whole) (small : whole ≤ 2 ^ 53) :
    positional ((Neighbourhood.ofBinary64 mantissa exponent).shortest .upward).1
      ((Neighbourhood.ofBinary64 mantissa exponent).shortest .upward).2 = digits whole := by
  have some := Neighbourhood.whole_pos value_eq canonical
  rcases small.lt_or_eq with less | rfl
  · obtain ⟨zeros, place, decimal⟩ :=
      Neighbourhood.shortest_whole value_eq canonical less TieRule.upward
    generalize (Neighbourhood.ofBinary64 mantissa exponent).shortest .upward = shortest at *
    have found : 0 < shortest.1 := by
      rw [← decimal] at some
      exact Nat.pos_of_mul_pos_right some
    rw [place, ← decimal, digits_mul_pow found]
    change digits shortest.1 ++ List.replicate (if shortest.1 = 0 then 0 else zeros) '0' = _
    rw [if_neg found.ne']
  · -- the places of the greatest one are two units wide
    have greatest : Canonical (2 ^ 52) 1 := by constructor <;> decide
    have same : (mantissa : ℚ) * 2 ^ exponent = (2 ^ 52 : ℕ) * 2 ^ (1 : ℤ) := by
      rw [value_eq]
      norm_num
    obtain ⟨rfl, rfl⟩ := canonical_unique canonical greatest same
    rfl

/-- A whole number of up to 53 binary digits is written with its decimal digits. -/
theorem shortestText_whole {value : Float} {whole : ℤ} (finite : value.isFinite = true)
    (value_eq : toRat value = whole) (small : |whole| ≤ 2 ^ 53) (nonzero : whole ≠ 0) :
    shortestText value = toString whole := by
  obtain ⟨negative, mantissa, exponent, taken⟩ := exists_parts finite
  obtain ⟨_finite, number, _digits⟩ := toRat_of_parts taken
  rw [value_eq] at number
  have some : mantissa ≠ 0 := by
    rintro rfl
    rw [Nat.cast_zero, zero_mul, mul_zero] at number
    exact nonzero (by exact_mod_cast number)
  have canonical := (parts_finite taken).resolve_left fun none => some none.1
  have positive := canonical.magnitude_pos
  simp only [shortestText, taken, if_neg some]
  cases negative with
  | false =>
      rw [if_neg Bool.false_ne_true, one_mul] at number
      have nonneg : 0 ≤ whole := by exact_mod_cast number.ge.trans' positive.le
      obtain ⟨magnitude, rfl⟩ := Int.eq_ofNat_of_zero_le nonneg
      rw [Int.cast_natCast] at number
      rw [Nat.abs_cast] at small
      rw [positional_whole canonical number.symm (by exact_mod_cast small),
        if_neg Bool.false_ne_true]
      exact Nat.toString_eq_ofList_toDigits.symm
  | true =>
      rw [if_pos rfl, neg_one_mul] at number
      have negative : whole < 0 := by
        have below : (whole : ℚ) < 0 := by linarith
        exact_mod_cast below
      obtain ⟨magnitude, rfl⟩ := Int.eq_negSucc_of_lt_zero negative
      have value : (mantissa : ℚ) * 2 ^ exponent = (magnitude + 1 : ℕ) := by
        rw [Int.cast_negSucc] at number
        linarith
      rw [abs_of_neg negative, Int.neg_negSucc] at small
      rw [positional_whole canonical value (by exact_mod_cast small), if_pos rfl]
      have text : toString (Int.negSucc magnitude) = "-" ++ (magnitude + 1).repr := rfl
      have split : '-' :: digits (magnitude + 1) = ['-'] ++ digits (magnitude + 1) := rfl
      rw [text, split, String.ofList_append, Nat.repr_eq_ofList_toDigits]
      rfl

/-! ### Reading back -/

/-- Read back, the text of a finite number is its sign and a decimal that is rounded to it. -/
private theorem shortestText_reads {value : Float} {negative : Bool} {mantissa : ℕ} {exponent : ℤ}
    (taken : parts value = .finite negative mantissa exponent) :
    ∃ (body : List Char) (read : ℕ) (place : ℤ),
      (shortestText value).toList = (if negative then '-' :: body else body) ∧
        unsigned? body = some (read, place) ∧
        nearest (read * 10 ^ place) = mantissa * 2 ^ exponent := by
  obtain ⟨body, read, place, written, reads, inside⟩ := shortestText_written taken
  refine ⟨body, read, place, written, reads, ?_⟩
  unfold Reads at inside
  rcases parts_finite taken with ⟨rfl, _exponent⟩ | canonical
  · rw [if_pos rfl] at inside
    rw [inside, nearest_zero, Nat.cast_zero, zero_mul]
  · rw [if_neg canonical.positive.ne'] at inside
    exact Neighbourhood.nearest_of_contains canonical inside

theorem shortestText_positive {value : Float} (finite : value.isFinite = true)
    (positive : 0 < toRat value) :
    ∃ (read : ℕ) (place : ℤ), unsigned? (shortestText value).toList = some (read, place) ∧
      nearest (read * 10 ^ place) = toRat value := by
  obtain ⟨negative, mantissa, exponent, taken⟩ := exists_parts finite
  obtain ⟨_finite, number, _digits⟩ := toRat_of_parts taken
  obtain ⟨body, read, place, written, reads, rounded⟩ := shortestText_reads taken
  cases negative with
  | false =>
      rw [if_neg Bool.false_ne_true] at written number
      rw [written, number, one_mul]
      exact ⟨read, place, reads, rounded⟩
  | true =>
      have magnitude : (0 : ℚ) ≤ mantissa * 2 ^ exponent := by positivity
      rw [if_pos rfl, neg_one_mul] at number
      linarith

end CanvasChart.Decimal
