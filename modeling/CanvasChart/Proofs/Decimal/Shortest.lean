import Mathlib.Tactic.Linarith
import CanvasChart.Decimal.Shortest
import CanvasChart.Proofs.Binary64.Packing
import CanvasChart.Proofs.Decimal.Reading

set_option autoImplicit false

/-! The shortest texts of binary64 numbers. Read back, the text of a number lies in the interval
of what rounds to it; these intervals do not meet, so that no two numbers have one text. -/

namespace CanvasChart.Decimal

open Binary64

/-! ### Counting digits -/

theorem lt_pow_digitCount (value : Nat) : value < 10 ^ digitCount value :=
  (Nat.length_toDigits_le_iff (by decide) Nat.length_toDigits_pos).mp (Nat.le_refl _)

theorem pow_digitCount_le {value : Nat} (positive : 0 < value) :
    10 ^ (digitCount value - 1) ≤ value := by
  by_contra small
  rw [Nat.not_le] at small
  rcases Nat.eq_zero_or_pos (digitCount value - 1) with one | more
  · rw [one] at small
    omega
  · have fewer := (Nat.length_toDigits_le_iff (by decide) more).mpr small
    have some : 0 < digitCount value := Nat.length_toDigits_pos
    change digitCount value ≤ digitCount value - 1 at fewer
    omega

/-! ### Grids of decimals around a number -/

namespace Neighbourhood

variable {near : Neighbourhood} {ties : TieRule} {exponent : Int}

/-- A number in the interval, whose ends belong to it when it is closed. -/
structure Contains (near : Neighbourhood) (number : ℚ) : Prop where
  above : near.low ≤ number * near.denominator
  below : number * near.denominator ≤ near.high
  inside : near.closed = false →
    near.low < number * near.denominator ∧ number * near.denominator < near.high

/-- The interval is around its number, and wide enough for decimals of seventeen digits. -/
structure Proper (near : Neighbourhood) : Prop where
  positive : 0 < near.low
  low_lt : near.low < near.value
  value_lt : near.value < near.high
  denominator_pos : 0 < near.denominator
  wide : near.value + near.low * 10 ^ 16 < near.high * 10 ^ 16

theorem Contains.positive (proper : near.Proper) {number : ℚ} (contains : near.Contains number) :
    0 < number := by
  have low : (0 : ℚ) < near.low := by exact_mod_cast proper.positive
  have denominator : (0 : ℚ) < near.denominator := by exact_mod_cast proper.denominator_pos
  exact pos_of_mul_pos_left (low.trans_le contains.above) denominator.le

theorem toNat_zpow (base : ℚ) (nonzero : base ≠ 0) (exponent : Int) :
    base ^ exponent * base ^ (-exponent).toNat = base ^ exponent.toNat := by
  rw [← zpow_natCast, ← zpow_natCast, ← zpow_add₀ nonzero]
  congr 1
  omega

private theorem contains_of_scaled (found : Nat)
    (above : near.low * 10 ^ (-exponent).toNat ≤ found * (near.denominator * 10 ^ exponent.toNat))
    (below : found * (near.denominator * 10 ^ exponent.toNat) ≤ near.high * 10 ^ (-exponent).toNat)
    (inside : near.closed = false →
      near.low * 10 ^ (-exponent).toNat < found * (near.denominator * 10 ^ exponent.toNat) ∧
        found * (near.denominator * 10 ^ exponent.toNat) <
          near.high * 10 ^ (-exponent).toNat) :
    near.Contains (found * 10 ^ exponent) := by
  have scale : (0 : ℚ) < 10 ^ (-exponent).toNat := by positivity
  have scaled : (found * 10 ^ exponent * near.denominator : ℚ) * 10 ^ (-exponent).toNat =
      found * (near.denominator * 10 ^ exponent.toNat) := by
    rw [← toNat_zpow 10 (by norm_num) exponent]
    ring
  constructor
  · refine le_of_mul_le_mul_right ?_ scale
    rw [scaled]
    exact_mod_cast above
  · refine le_of_mul_le_mul_right ?_ scale
    rw [scaled]
    exact_mod_cast below
  · intro isOpen
    constructor
    · refine lt_of_mul_lt_mul_right ?_ scale.le
      rw [scaled]
      exact_mod_cast (inside isOpen).1
    · refine lt_of_mul_lt_mul_right ?_ scale.le
      rw [scaled]
      exact_mod_cast (inside isOpen).2

section Choice

variable {upperHits lowerHits upperIsBetter : Prop} [Decidable upperHits] [Decidable lowerHits]
  [Decidable upperIsBetter] {lower : Nat}

private theorem of_choice_eq_some {found : Nat}
    (hit : (if upperHits ∧ (¬ lowerHits ∨ upperIsBetter) then some (lower + 1)
      else if lowerHits then some lower else none) = some found) :
    found = lower + 1 ∧ upperHits ∨ found = lower ∧ lowerHits := by
  split at hit
  case isTrue upper => exact .inl ⟨(Option.some.inj hit).symm, upper.1⟩
  case isFalse =>
    split at hit
    case isTrue lower => exact .inr ⟨(Option.some.inj hit).symm, lower⟩
    case isFalse => cases hit

theorem choice_isSome (hits : upperHits ∨ lowerHits) :
    (if upperHits ∧ (¬ lowerHits ∨ upperIsBetter) then some (lower + 1)
      else if lowerHits then some lower else none).isSome = true := by
  by_cases lowerHit : lowerHits
  · rw [if_pos lowerHit]
    split <;> rfl
  · rw [if_pos ⟨hits.resolve_right lowerHit, .inl lowerHit⟩]
    rfl

end Choice

theorem onGrid?_contains (proper : near.Proper) {found : Nat}
    (hit : near.onGrid? ties exponent = some found) : near.Contains (found * 10 ^ exponent) := by
  have up : 0 < 10 ^ (-exponent).toNat := Nat.pow_pos (by decide)
  have unit : 0 < near.denominator * 10 ^ exponent.toNat :=
    Nat.mul_pos proper.denominator_pos (Nat.pow_pos (by decide))
  have lowBelow := Nat.mul_lt_mul_of_pos_right proper.low_lt up
  have highAbove := Nat.mul_lt_mul_of_pos_right proper.value_lt up
  have lowerBelow := Nat.div_mul_le_self (near.value * 10 ^ (-exponent).toNat)
    (near.denominator * 10 ^ exponent.toNat)
  have upperAbove := Nat.lt_div_mul_add unit (a := near.value * 10 ^ (-exponent).toNat)
  rw [← Nat.add_one_mul] at upperAbove
  simp only [onGrid?, Nat.pow_eq] at hit
  rcases of_choice_eq_some hit with ⟨rfl, hits⟩ | ⟨rfl, hits⟩
  · refine contains_of_scaled _ (by omega) ?_ fun isOpen => ⟨by omega, ?_⟩
    · split at hits
      · exact hits
      · exact hits.le
    · rwa [isOpen, if_neg Bool.false_ne_true] at hits
  · refine contains_of_scaled _ ?_ (by omega) fun isOpen => ⟨?_, by omega⟩
    · split at hits
      · exact hits
      · exact hits.le
    · rwa [isOpen, if_neg Bool.false_ne_true] at hits

private theorem onGrid?_isSome
    (narrow : near.denominator * 10 ^ exponent.toNat + near.low * 10 ^ (-exponent).toNat <
      near.high * 10 ^ (-exponent).toNat) : (near.onGrid? ties exponent).isSome = true := by
  have lowerOrUpper (lower unit low high : Nat) (narrow : unit + low < high) :
      (if near.closed then (lower + 1) * unit ≤ high else (lower + 1) * unit < high) ∨
        (if near.closed then low ≤ lower * unit else low < lower * unit) := by
    rw [Nat.succ_mul]
    split <;> omega
  exact choice_isSome (lowerOrUpper _ _ _ _ narrow)

/-! ### Seventeen digits -/

theorem magnitude_le (proper : near.Proper) :
    near.denominator * 10 ^ near.magnitude.toNat ≤
      near.value * 10 ^ (-near.magnitude).toNat := by
  have positive : 0 < near.value := Nat.lt_trans proper.positive proper.low_lt
  have some : 0 < digitCount near.value := Nat.length_toDigits_pos
  simp only [magnitude, Nat.pow_eq]
  split
  case isTrue fits => exact fits
  case isFalse =>
    -- one digit less is never too much
    have least := pow_digitCount_le positive
    have greatest := (lt_pow_digitCount near.denominator).le
    generalize estimated : (digitCount near.value : Int) - digitCount near.denominator - 1 = place
    have digits : digitCount near.denominator + place.toNat =
        digitCount near.value - 1 + (-place).toNat := by omega
    calc near.denominator * 10 ^ place.toNat
        ≤ 10 ^ digitCount near.denominator * 10 ^ place.toNat := Nat.mul_le_mul_right _ greatest
      _ = 10 ^ (digitCount near.value - 1) * 10 ^ (-place).toNat := by
          rw [← Nat.pow_add, ← Nat.pow_add, digits]
      _ ≤ near.value * 10 ^ (-place).toNat := Nat.mul_le_mul_right _ least

private theorem narrow_of_magnitude (proper : near.Proper)
    (finest : exponent = near.magnitude - 16) :
    near.denominator * 10 ^ exponent.toNat + near.low * 10 ^ (-exponent).toNat <
      near.high * 10 ^ (-exponent).toNat := by
  have leading := magnitude_le proper
  generalize near.magnitude = place at *
  have digits : exponent.toNat + 16 + (-place).toNat = place.toNat + (-exponent).toNat := by omega
  have spacing : near.denominator * 10 ^ exponent.toNat * 10 ^ 16 ≤
      near.value * 10 ^ (-exponent).toNat := by
    refine Nat.le_of_mul_le_mul_right ?_ (Nat.pow_pos (n := (-place).toNat) (by decide : 0 < 10))
    calc near.denominator * 10 ^ exponent.toNat * 10 ^ 16 * 10 ^ (-place).toNat
        = near.denominator * 10 ^ place.toNat * 10 ^ (-exponent).toNat := by
          rw [Nat.mul_assoc, Nat.mul_assoc, ← Nat.pow_add, ← Nat.pow_add, ← Nat.add_assoc, digits,
            Nat.pow_add, Nat.mul_assoc]
      _ ≤ near.value * 10 ^ (-place).toNat * 10 ^ (-exponent).toNat :=
          Nat.mul_le_mul_right _ leading
      _ = near.value * 10 ^ (-exponent).toNat * 10 ^ (-place).toNat := Nat.mul_right_comm _ _ _
  have up : 0 < 10 ^ (-exponent).toNat := Nat.pow_pos (by decide)
  have wide := Nat.mul_lt_mul_of_pos_right proper.wide up
  rw [Nat.add_mul, Nat.mul_right_comm near.low, Nat.mul_right_comm near.high] at wide
  omega

private theorem shortest_contains (proper : near.Proper) (ties : TieRule) :
    near.Contains ((near.shortest ties).1 * 10 ^ (near.shortest ties).2) := by
  let grids := (List.range 17).map fun (index : Nat) => near.magnitude - (index : Int)
  let offer := fun exponent => (near.onGrid? ties exponent).map fun found => (found, exponent)
  have finest : near.magnitude - 16 ∈ grids :=
    List.mem_map.mpr ⟨16, List.mem_range.mpr (by decide), rfl⟩
  have offered : (offer (near.magnitude - 16)).isSome = true := by
    rw [Option.isSome_map]
    exact onGrid?_isSome (narrow_of_magnitude proper rfl)
  obtain ⟨chosen, found⟩ := Option.isSome_iff_exists.mp
    (List.findSome?_isSome_iff.mpr ⟨_, finest, offered⟩)
  have shortest : near.shortest ties = chosen := congrArg (Option.getD · (0, 0)) found
  obtain ⟨exponent, _listed, fits⟩ := List.exists_of_findSome?_eq_some found
  obtain ⟨value, hit, rfl⟩ := Option.map_eq_some_iff.mp fits
  rw [shortest]
  exact onGrid?_contains proper hit

/-! ### The intervals of binary64 numbers -/

def lowQuarters (mantissa : Nat) (exponent : Int) : Nat :=
  4 * mantissa - if mantissa = 2 ^ 52 ∧ -1074 < exponent then 1 else 2

variable {mantissa mantissa' : Nat} {exponent' : Int}

theorem proper_ofBinary64 (canonical : Canonical mantissa exponent) :
    (ofBinary64 mantissa exponent).Proper := by
  have scale : 0 < 2 ^ exponent.toNat := Nat.pow_pos (by decide)
  have positive := canonical.positive
  have small := canonical.small
  have quarters : 0 < lowQuarters mantissa exponent ∧
      lowQuarters mantissa exponent < 4 * mantissa ∧
      4 * mantissa + lowQuarters mantissa exponent * 10 ^ 16 < (4 * mantissa + 2) * 10 ^ 16 := by
    unfold lowQuarters
    split <;> omega
  constructor
  · exact Nat.mul_pos quarters.1 scale
  · exact Nat.mul_lt_mul_of_pos_right quarters.2.1 scale
  · exact Nat.mul_lt_mul_of_pos_right (by omega) scale
  · exact Nat.mul_pos (by decide) (Nat.pow_pos (by decide))
  · have wide := Nat.mul_lt_mul_of_pos_right quarters.2.2 scale
    rw [Nat.add_mul, Nat.mul_right_comm _ (10 ^ 16), Nat.mul_right_comm _ (10 ^ 16)] at wide
    exact wide

theorem contains_ofBinary64 {number : ℚ}
    (contains : (ofBinary64 mantissa exponent).Contains number) :
    lowQuarters mantissa exponent * 2 ^ exponent ≤ 4 * number ∧
      4 * number ≤ (4 * mantissa + 2) * 2 ^ exponent ∧
      (mantissa % 2 = 1 → lowQuarters mantissa exponent * 2 ^ exponent < 4 * number ∧
        4 * number < (4 * mantissa + 2) * 2 ^ exponent) := by
  have scale : (0 : ℚ) < 2 ^ (-exponent).toNat := by positivity
  have power := toNat_zpow 2 (by norm_num) exponent
  have low : ((ofBinary64 mantissa exponent).low : ℚ) =
      lowQuarters mantissa exponent * 2 ^ exponent * 2 ^ (-exponent).toNat := by
    rw [mul_assoc, power]
    exact_mod_cast rfl
  have high : ((ofBinary64 mantissa exponent).high : ℚ) =
      (4 * mantissa + 2) * 2 ^ exponent * 2 ^ (-exponent).toNat := by
    rw [mul_assoc, power]
    exact_mod_cast rfl
  have number_eq : number * (ofBinary64 mantissa exponent).denominator =
      4 * number * 2 ^ (-exponent).toNat := by
    have denominator : ((ofBinary64 mantissa exponent).denominator : ℚ) =
        4 * 2 ^ (-exponent).toNat := by exact_mod_cast rfl
    rw [denominator]
    ring
  obtain ⟨above, below, inside⟩ := contains
  rw [low, high, number_eq] at *
  refine ⟨le_of_mul_le_mul_right above scale, le_of_mul_le_mul_right below scale, fun odd => ?_⟩
  have isOpen : (ofBinary64 mantissa exponent).closed = false := by
    simp [ofBinary64, odd]
  obtain ⟨strictlyAbove, strictlyBelow⟩ := inside isOpen
  exact ⟨lt_of_mul_lt_mul_right strictlyAbove scale.le, lt_of_mul_lt_mul_right strictlyBelow scale.le⟩

/-- The interval of a lesser number ends where that of a greater one begins, or before it. Where
the ends meet, one of the intervals is open. -/
private theorem quarters_apart (canonical : Canonical mantissa exponent)
    (canonical' : Canonical mantissa' exponent') {places : Nat}
    (apart : exponent' = exponent + places)
    (less : 0 < places ∨ mantissa < mantissa') :
    4 * mantissa + 2 < lowQuarters mantissa' exponent' * 2 ^ places ∨
      4 * mantissa + 2 = lowQuarters mantissa' exponent' * 2 ^ places ∧
        (mantissa % 2 = 1 ∨ mantissa' % 2 = 1) := by
  have small := canonical.small
  have least := canonical.least
  have normal := canonical'.normal
  rcases Nat.eq_zero_or_pos places with rfl | more
  · unfold lowQuarters
    split <;> omega
  · have double : 2 ≤ 2 ^ places := Nat.le_self_pow (Nat.ne_of_gt more) 2
    have grown := Nat.mul_le_mul_left (lowQuarters mantissa' exponent') double
    have high : 2 ^ 54 - 1 ≤ lowQuarters mantissa' exponent' := by
      unfold lowQuarters
      split <;> omega
    omega

private theorem not_contains_both (places : Nat) (canonical : Canonical mantissa exponent)
    (canonical' : Canonical mantissa' exponent')
    (apart : exponent' = exponent + places) (less : 0 < places ∨ mantissa < mantissa')
    {number : ℚ} (contains : (ofBinary64 mantissa exponent).Contains number)
    (contains' : (ofBinary64 mantissa' exponent').Contains number) : False := by
  obtain ⟨_above, below, inside⟩ := contains_ofBinary64 contains
  obtain ⟨above', _below', inside'⟩ := contains_ofBinary64 contains'
  have unit : (0 : ℚ) < 2 ^ exponent := zpow_pos (by norm_num) exponent
  have scaled : (lowQuarters mantissa' exponent' : ℚ) * 2 ^ exponent' =
      (lowQuarters mantissa' exponent' * 2 ^ places : Nat) * 2 ^ exponent := by
    rw [apart, zpow_add₀ (by norm_num), zpow_natCast]
    push_cast
    ring
  have high : ((4 * mantissa + 2 : ℚ)) = (4 * mantissa + 2 : Nat) := by push_cast; rfl
  rw [scaled] at above' inside'
  rw [high] at below inside
  have meet : lowQuarters mantissa' exponent' * 2 ^ places ≤ 4 * mantissa + 2 := by
    have ordered := le_of_mul_le_mul_right (above'.trans below) unit
    exact_mod_cast ordered
  rcases quarters_apart canonical canonical' apart less with beyond | ⟨touching, odd⟩
  · omega
  · have strict : ((lowQuarters mantissa' exponent' * 2 ^ places : Nat) : ℚ) * 2 ^ exponent <
        (4 * mantissa + 2 : Nat) * 2 ^ exponent := by
      rcases odd with odd | odd
      · exact above'.trans_lt (inside odd).2
      · exact (inside' odd).1.trans_le below
    rw [touching] at strict
    exact lt_irrefl _ strict

/-- No number lies in the intervals of two binary64 numbers. -/
private theorem eq_of_contains (canonical : Canonical mantissa exponent)
    (canonical' : Canonical mantissa' exponent') {number : ℚ}
    (contains : (ofBinary64 mantissa exponent).Contains number)
    (contains' : (ofBinary64 mantissa' exponent').Contains number) :
    mantissa = mantissa' ∧ exponent = exponent' := by
  rcases Int.lt_trichotomy exponent exponent' with less | same | greater
  · obtain ⟨places, apart⟩ := Int.le.dest less.le
    exact (not_contains_both places canonical canonical' apart.symm (.inl (by omega)) contains
      contains').elim
  · refine ⟨?_, same⟩
    rcases Nat.lt_trichotomy mantissa mantissa' with less | same' | greater
    · exact (not_contains_both 0 canonical canonical' (by omega) (.inr less) contains
        contains').elim
    · exact same'
    · exact (not_contains_both 0 canonical' canonical (by omega) (.inr greater)
        contains' contains).elim
  · obtain ⟨places, apart⟩ := Int.le.dest greater.le
    exact (not_contains_both places canonical' canonical apart.symm (.inl (by omega)) contains'
      contains).elim

end Neighbourhood

/-! ### Texts -/

theorem parts_finite {value : Float} {negative : Bool} {mantissa : Nat} {exponent : Int}
    (taken : parts value = .finite negative mantissa exponent) :
    mantissa = 0 ∧ exponent = 0 ∨ Canonical mantissa exponent := by
  obtain ⟨_sign, _same, ⟨_unpacked, zero⟩ | ⟨_positive, _unpacked, canonical⟩⟩ :=
    unpack_of_parts taken
  · exact .inl zero
  · exact .inr canonical

private theorem isNegative_injective : Function.Injective isNegative := by
  intro left right same
  cases left <;> cases right <;> first | rfl | cases same

private theorem parts_injective : Function.Injective parts := by
  intro left right same
  suffices unpacked : left.toModel.unpack = right.toModel.unpack by
    rw [← ofModel_pack_unpack left, unpacked, ofModel_pack_unpack]
  unfold parts at same
  generalize left.toModel.unpack = first at *
  generalize right.toModel.unpack = second at *
  cases first <;> cases second <;>
    simp only [Parts.infinite.injEq, Parts.finite.injEq, reduceCtorEq] at same
  case notANumber.notANumber => rfl
  case infinity.infinity => rw [isNegative_injective same]
  case zero.zero => rw [isNegative_injective same.1]
  case finite.finite =>
    obtain ⟨sign, rfl, rfl⟩ := same
    rw [isNegative_injective sign]
  case zero.finite nonzero => omega
  case finite.zero nonzero => omega

/-- What the unsigned text of a finite number may read back as. -/
def Reads (mantissa : Nat) (exponent : Int) (number : ℚ) : Prop :=
  if mantissa = 0 then number = 0
  else (Neighbourhood.ofBinary64 mantissa exponent).Contains number

/-- The text of a finite number is a numeral after its sign. -/
theorem shortestText_written {value : Float} {negative : Bool} {mantissa : Nat} {exponent : Int}
    (taken : parts value = .finite negative mantissa exponent) :
    ∃ (body : List Char) (read : Nat) (place : Int),
      (shortestText value).toList = (if negative then '-' :: body else body) ∧
        unsigned? body = some (read, place) ∧ Reads mantissa exponent (read * 10 ^ place) := by
  simp only [shortestText, taken, String.toList_ofList]
  by_cases zero : mantissa = 0
  · exact ⟨['0'], 0, 0, by rw [if_pos zero], by decide, by simp [Reads, zero]⟩
  · have canonical := (parts_finite taken).resolve_left fun none => zero none.1
    have fits := Neighbourhood.shortest_contains (Neighbourhood.proper_ofBinary64 canonical)
      TieRule.upward
    obtain ⟨read, place, reads, same⟩ := unsigned?_positional
      ((Neighbourhood.ofBinary64 mantissa exponent).shortest .upward).1
      ((Neighbourhood.ofBinary64 mantissa exponent).shortest .upward).2
    refine ⟨_, read, place, by rw [if_neg zero], reads, ?_⟩
    rw [Reads, if_neg zero, same]
    exact fits

private theorem shortestText_finite {value : Float} {negative : Bool} {mantissa : Nat}
    {exponent : Int} (taken : parts value = .finite negative mantissa exponent) :
    ∃ (body : List Char) (read : Nat) (place : Int),
      splitSign (shortestText value).toList = (negative, body) ∧
        unsigned? body = some (read, place) ∧ Reads mantissa exponent (read * 10 ^ place) := by
  obtain ⟨body, read, place, written, reads, inside⟩ := shortestText_written taken
  refine ⟨body, read, place, ?_, reads, inside⟩
  rw [written]
  cases negative with
  | false => exact splitSign_of_unsigned? reads
  | true => rfl

private theorem shortestText_special {value : Float}
    (special : ∀ negative mantissa exponent, parts value ≠ .finite negative mantissa exponent) :
    unsigned? (splitSign (shortestText value).toList).2 = none := by
  unfold shortestText
  cases taken : parts value with
  | notANumber => decide
  | infinite negative => cases negative <;> decide
  | finite negative mantissa exponent => exact absurd taken (special _ _ _)

private theorem eq_of_reads {mantissa mantissa' : Nat} {exponent exponent' : Int}
    (known : mantissa = 0 ∧ exponent = 0 ∨ Canonical mantissa exponent)
    (known' : mantissa' = 0 ∧ exponent' = 0 ∨ Canonical mantissa' exponent') {number : ℚ}
    (reads : Reads mantissa exponent number) (reads' : Reads mantissa' exponent' number) :
    mantissa = mantissa' ∧ exponent = exponent' := by
  unfold Reads at reads reads'
  rcases known with ⟨rfl, rfl⟩ | canonical <;> rcases known' with ⟨rfl, rfl⟩ | canonical'
  · exact ⟨rfl, rfl⟩
  · rw [if_pos rfl] at reads
    rw [if_neg canonical'.positive.ne'] at reads'
    have positive := reads'.positive (Neighbourhood.proper_ofBinary64 canonical')
    exact absurd reads positive.ne'
  · rw [if_neg canonical.positive.ne'] at reads
    rw [if_pos rfl] at reads'
    have positive := reads.positive (Neighbourhood.proper_ofBinary64 canonical)
    exact absurd reads' positive.ne'
  · rw [if_neg canonical.positive.ne'] at reads
    rw [if_neg canonical'.positive.ne'] at reads'
    exact Neighbourhood.eq_of_contains canonical canonical' reads reads'

/-- Every binary64 number has a text of its own, the sign of a zero included. -/
theorem shortestText_injective : Function.Injective shortestText := by
  intro left right same
  apply parts_injective
  cases leftParts : parts left with
  | finite =>
      obtain ⟨body, read, place, split, reads, inside⟩ := shortestText_finite leftParts
      cases rightParts : parts right with
      | finite =>
          obtain ⟨body', read', place', split', reads', inside'⟩ := shortestText_finite rightParts
          rw [same, split', Prod.mk.injEq] at split
          obtain ⟨rfl, rfl⟩ := split
          rw [reads', Option.some.injEq, Prod.mk.injEq] at reads
          obtain ⟨rfl, rfl⟩ := reads
          obtain ⟨rfl, rfl⟩ := eq_of_reads (parts_finite leftParts) (parts_finite rightParts)
            inside inside'
          rfl
      | notANumber | infinite =>
          have unread : unsigned? (splitSign (shortestText right).toList).2 = none :=
            shortestText_special (by simp [rightParts])
          rw [← same, split, reads] at unread
          cases unread
  | notANumber | infinite =>
      have unread : unsigned? (splitSign (shortestText left).toList).2 = none :=
        shortestText_special (by simp [leftParts])
      cases rightParts : parts right with
      | finite =>
          obtain ⟨body, read, place, split, reads, _inside⟩ := shortestText_finite rightParts
          rw [same, split, reads] at unread
          cases unread
      | notANumber | infinite =>
          simp only [shortestText, leftParts, rightParts] at same
          grind

end CanvasChart.Decimal
