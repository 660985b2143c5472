import CanvasChart.Proofs.Label.WholeNumbers

set_option autoImplicit false

/-! The suffixes of abbreviated labels. The suffix is chosen by the number and the number before it
is rounded afterwards, so that a number just below a power of one thousand keeps the lesser suffix
and is rounded up to one thousand of it. -/

namespace CanvasChart.LabelFormat

open Binary64

variable {value : Float} {number other : ℚ}

/-! ### The number that a text shows -/

/-- The text is the numeral of a number without a sign. -/
def Shows (text : String) (number : ℚ) : Prop :=
  ∃ (read : ℕ) (place : ℤ), Decimal.unsigned? text.toList = some (read, place) ∧
    number = read * 10 ^ place

private theorem shows_toString (whole : ℕ) : Shows (toString (whole : ℤ)) whole := by
  refine ⟨whole, 0, ?_, by rw [zpow_zero, mul_one]⟩
  have digits : (toString (whole : ℤ)).toList = Decimal.digits whole := Nat.toList_repr
  rw [digits, Decimal.unsigned?_whole Decimal.isDigit_of_mem_digits Nat.toDigits_ne_nil,
    Decimal.naturalOf_digits]

/-- A positive number is shown as a decimal that is rounded to it. So it is on the same side of
every whole number as what is shown. -/
private theorem shows_shortestText (finite : value.isFinite = true) (positive : 0 < toRat value) :
    ∃ number, Shows (Decimal.shortestText value) number ∧ ∀ whole : ℕ, whole ≤ 2 ^ 53 →
      (whole ≤ number ↔ whole ≤ toRat value) ∧ (number ≤ whole ↔ toRat value ≤ whole) := by
  by_cases isWhole : ∃ whole : ℕ, whole ≤ 2 ^ 53 ∧ toRat value = whole
  · obtain ⟨whole, small, same⟩ := isWhole
    have nonzero : (whole : ℤ) ≠ 0 := by
      rintro zero
      rw [same] at positive
      exact positive.ne' (by exact_mod_cast zero)
    have text := Decimal.shortestText_whole finite (same.trans (Int.cast_natCast whole).symm)
      (by rw [Nat.abs_cast]; exact_mod_cast small) nonzero
    refine ⟨whole, by rw [text]; exact shows_toString whole, fun other _small => ?_⟩
    rw [same]
    exact ⟨Iff.rfl, Iff.rfl⟩
  · obtain ⟨read, place, reads, rounded⟩ := Decimal.shortestText_positive finite positive
    refine ⟨read * 10 ^ place, ⟨read, place, reads, rfl⟩, fun whole small => ?_⟩
    have different : toRat value ≠ whole := fun same => isWhole ⟨whole, small, same⟩
    have representable : Representable (whole : ℤ) :=
      representable_intCast (by rw [Nat.abs_cast]; exact_mod_cast small)
    rw [Int.cast_natCast] at representable
    rw [← rounded] at different ⊢
    refine ⟨⟨le_nearest_of_representable representable, fun le => ?_⟩,
      ⟨nearest_le_of_representable representable, fun le => ?_⟩⟩
    · by_contra below
      exact different
        (le_antisymm (nearest_le_of_representable representable (not_le.mp below).le) le)
    · by_contra above
      exact different
        (le_antisymm le (le_nearest_of_representable representable (not_le.mp above).le))

/-! ### Magnitudes in units -/

def shownIn (unit number : ℚ) : ℚ := throughTenPlaces (nearest (number / unit))

private theorem shownIn_mono {unit : ℚ} (positive : 0 < unit) (le : number ≤ other) :
    shownIn unit number ≤ shownIn unit other :=
  throughTenPlaces_mono (nearest_mono (div_le_div_of_nonneg_right le positive.le))

private theorem throughTenPlaces_natCast {whole : ℕ} (small : whole ≤ 922337204) :
    throughTenPlaces whole = whole := by
  have bounded : |(whole : ℤ)| ≤ 922337204 := by
    rw [Nat.abs_cast]
    exact_mod_cast small
  have same := (throughTenPlaces_eq_iff (bounded.trans (by norm_num))).mpr
    (keepsDigits_of_small bounded)
  rwa [Int.cast_natCast] at same

private theorem nearest_natCast {whole : ℕ} (small : whole ≤ 2 ^ 53) : nearest whole = whole := by
  have bounded : |(whole : ℤ)| ≤ 2 ^ 53 := by
    rw [Nat.abs_cast]
    exact_mod_cast small
  exact_mod_cast nearest_intCast bounded

private theorem shownIn_natCast {unit : ℚ} (positive : 0 < unit) {whole : ℕ}
    (small : whole ≤ 922337204) : shownIn unit (whole * unit) = whole := by
  rw [shownIn, mul_div_cancel_right₀ _ positive.ne', nearest_natCast (small.trans (by norm_num)),
    throughTenPlaces_natCast small]

section Units

variable {magnitude : Float} {unit : ℕ}

/-- The product that rounding to ten places starts from does not exceed the greatest number. -/
def Fits (unit number : ℚ) : Prop := nearest (nearest (number / unit) * 10 ^ 10) < overflowBound

private theorem product_nonneg (nonneg : 0 ≤ number) :
    0 ≤ nearest (nearest (number / unit) * 10 ^ 10) :=
  nearest_nonneg (mul_nonneg (nearest_nonneg (div_nonneg nonneg (Nat.cast_nonneg unit)))
    (by norm_num))

private theorem fits_of_le (nonneg : 0 ≤ number) (some : 0 < unit) (le : number ≤ 1000 * unit) :
    Fits unit number := by
  have positive : (0 : ℚ) < unit := by exact_mod_cast some
  have quotient : |number / unit| ≤ (1000 : ℤ) := by
    rw [abs_of_nonneg (by positivity), div_le_iff₀ positive]
    exact_mod_cast le
  have rounded := abs_nearest_le (representable_intCast (by norm_num)) quotient
  have product : |nearest (number / unit) * 10 ^ 10| ≤ 2 ^ (44 : ℤ) := by
    rw [abs_mul, abs_of_pos (by norm_num : (0 : ℚ) < 10 ^ 10)]
    norm_num at rounded ⊢
    linarith
  exact (le_abs_self _).trans_lt
    ((abs_nearest_le (representable_zpow (by norm_num)) product).trans_lt
      (two_zpow_lt.mpr (by norm_num)))

variable (finite : magnitude.isFinite = true) (nonneg : 0 ≤ toRat magnitude) (some : 0 < unit)
  (small : unit ≤ 2 ^ 53)

include finite some small

private theorem toRat_div_unit : (magnitude / Float.ofNat unit).isFinite = true ∧
    toRat (magnitude / Float.ofNat unit) = nearest (toRat magnitude / unit) := by
  obtain ⟨unitFinite, unitValue⟩ := toRat_ofNat small
  have least : (1 : ℚ) ≤ unit := by exact_mod_cast some
  have quotient := div_rounds finite unitFinite (by rw [unitValue]; positivity)
  rw [unitValue] at quotient
  refine quotient.of_abs_le (representable_toRat magnitude).abs (abs_toRat_lt finite) ?_
  rw [abs_div, abs_of_pos (by linarith : (0 : ℚ) < unit)]
  exact div_le_self (abs_nonneg _) least

include nonneg

private theorem toRat_shown (fits : Fits unit (toRat magnitude)) :
    (tenPlaces (magnitude / Float.ofNat unit)).isFinite = true ∧
      toRat (tenPlaces (magnitude / Float.ofNat unit)) = shownIn unit (toRat magnitude) := by
  obtain ⟨quotientFinite, quotient⟩ := toRat_div_unit finite some small
  have rounded := toRat_tenPlaces quotientFinite
  rw [quotient] at rounded
  refine rounded ?_
  rw [abs_of_nonneg (product_nonneg nonneg)]
  exact fits

private theorem isFinite_product_iff :
    (magnitude / Float.ofNat unit * 10000000000).isFinite = true ↔
    Fits unit (toRat magnitude) := by
  obtain ⟨quotientFinite, quotient⟩ := toRat_div_unit finite some small
  have product := mul_rounds quotientFinite toRat_tenBillion.1
  rw [quotient, toRat_tenBillion.2] at product
  rw [product.isFinite_iff, abs_of_nonneg (product_nonneg nonneg)]
  exact Iff.rfl

private theorem exists_shown (fits : Fits unit (toRat magnitude)) (large : unit ≤ toRat magnitude) :
    ∃ number, Shows (plainText (magnitude / Float.ofNat unit)) number ∧ 1 ≤ number ∧
      ∀ whole : ℕ, whole ≤ 2 ^ 53 →
        (number ≤ whole ↔ shownIn unit (toRat magnitude) ≤ whole) ∧
        (number < whole ↔ shownIn unit (toRat magnitude) < whole) := by
  have positive : (0 : ℚ) < unit := by exact_mod_cast some
  obtain ⟨shownFinite, shown⟩ := toRat_shown finite nonneg some small fits
  have least : 1 ≤ shownIn unit (toRat magnitude) := by
    have one := shownIn_natCast positive (by norm_num : 1 ≤ 922337204)
    rw [Nat.cast_one, one_mul] at one
    rw [← one]
    exact shownIn_mono positive large
  have shownPositive : 0 < toRat (tenPlaces (magnitude / Float.ofNat unit)) := by
    rw [shown]
    linarith
  obtain ⟨number, shows, sides⟩ := shows_shortestText shownFinite shownPositive
  rw [shown] at sides
  refine ⟨number, ?_, ?_, fun whole small => ⟨(sides whole small).2, ?_⟩⟩
  · rwa [plainText_of_nonzero shownPositive.ne']
  · have one := (sides 1 (by norm_num)).1
    rw [Nat.cast_one] at one
    exact one.mpr least
  · rw [← not_le, ← not_le, (sides whole small).1]

end Units

/-! ### Where the rounding turns over -/

def Adjacent (last first : Float) : Prop :=
  ∃ (mantissa : ℕ) (exponent : ℤ), 2 ^ 52 ≤ mantissa ∧
    parts last = .finite false mantissa exponent ∧
    parts first = .finite false (mantissa + 1) exponent

/-- In a unit the last number is shown as less than a thousand of them, and the first one is not. -/
def TurnsOver (unit : ℕ) (last first : Float) : Prop :=
  last ≤ Float.ofNat (1000 * unit) ∧ first ≤ Float.ofNat (1000 * unit) ∧
    tenPlaces (last / Float.ofNat unit) < Float.ofNat 1000 ∧
    Float.ofNat 1000 ≤ tenPlaces (first / Float.ofNat unit)

section Adjacent

variable {last first : Float} (adjacent : Adjacent last first)

include adjacent

theorem Adjacent.isFinite : last.isFinite = true ∧ first.isFinite = true := by
  obtain ⟨mantissa, exponent, _normal, lastParts, firstParts⟩ := adjacent
  exact ⟨(toRat_of_parts lastParts).1, (toRat_of_parts firstParts).1⟩

theorem Adjacent.nonneg : 0 ≤ toRat last ∧ 0 ≤ toRat first := by
  obtain ⟨mantissa, exponent, _normal, lastParts, firstParts⟩ := adjacent
  rw [(toRat_of_parts lastParts).2.1, (toRat_of_parts firstParts).2.1, if_neg Bool.false_ne_true,
    one_mul, one_mul]
  constructor <;> positivity

theorem Adjacent.le_of_lt (representable : Representable number) (less : number < toRat first) :
    number ≤ toRat last := by
  obtain ⟨mantissa, exponent, normal, lastParts, firstParts⟩ := adjacent
  obtain ⟨_finite, lastValue, _digits⟩ := toRat_of_parts lastParts
  obtain ⟨_finite', firstValue, _digits'⟩ := toRat_of_parts firstParts
  rw [if_neg Bool.false_ne_true, one_mul] at lastValue firstValue
  rw [lastValue]
  rw [firstValue] at less
  exact_mod_cast representable.le_of_lt_next (by exact_mod_cast normal) (by exact_mod_cast less)

theorem Adjacent.lt_iff {shown : ℚ → ℚ} (mono : Monotone shown) {bound : ℚ}
    (below : shown (toRat last) < bound) (above : bound ≤ shown (toRat first))
    (representable : Representable number) :
    shown number < bound ↔ number < toRat first := by
  constructor
  · intro less
    by_contra passed
    exact absurd (above.trans (mono (not_lt.mp passed))) (not_le.mpr less)
  · intro less
    exact (mono (adjacent.le_of_lt representable less)).trans_lt below

theorem Adjacent.shownIn_lt_iff {unit : ℕ} (some : 0 < unit) (small : 1000 * unit ≤ 2 ^ 53)
    (turns : TurnsOver unit last first) (representable : Representable number) :
    shownIn unit number < 1000 ↔ number < toRat first := by
  obtain ⟨lastFits, firstFits, below, above⟩ := turns
  have unitSmall : unit ≤ 2 ^ 53 := (Nat.le_mul_of_pos_left unit (by decide)).trans small
  obtain ⟨boundFinite, bound⟩ := toRat_ofNat small
  obtain ⟨thousandFinite, thousand⟩ := toRat_ofNat (by decide : 1000 ≤ 2 ^ 53)
  obtain ⟨lastFinite, firstFinite⟩ := adjacent.isFinite
  obtain ⟨lastNonneg, firstNonneg⟩ := adjacent.nonneg
  rw [le_iff_toRat lastFinite boundFinite, bound] at lastFits
  rw [le_iff_toRat firstFinite boundFinite, bound] at firstFits
  push_cast at lastFits firstFits
  obtain ⟨lastShownFinite, lastShown⟩ := toRat_shown lastFinite lastNonneg some unitSmall
    (fits_of_le lastNonneg some lastFits)
  obtain ⟨firstShownFinite, firstShown⟩ := toRat_shown firstFinite firstNonneg some unitSmall
    (fits_of_le firstNonneg some firstFits)
  rw [lt_iff_toRat lastShownFinite thousandFinite, lastShown, thousand] at below
  rw [le_iff_toRat thousandFinite firstShownFinite, firstShown, thousand] at above
  push_cast at below above
  exact adjacent.lt_iff (fun _ _ le => shownIn_mono (by exact_mod_cast some) le) below above
    representable

theorem Adjacent.fits_iff {unit : ℕ} (some : 0 < unit) (small : unit ≤ 2 ^ 53)
    (below : (last / Float.ofNat unit * 10000000000).isFinite = true)
    (above : (first / Float.ofNat unit * 10000000000).isFinite = false)
    (representable : Representable number) : Fits unit number ↔ number < toRat first := by
  have lastFits := (isFinite_product_iff adjacent.isFinite.1 adjacent.nonneg.1 some small).mp below
  have firstFails := mt (isFinite_product_iff adjacent.isFinite.2 adjacent.nonneg.2 some small).mpr
    (Bool.eq_false_iff.mp above)
  have mono : Monotone fun number : ℚ => nearest (nearest (number / unit) * 10 ^ 10) :=
    fun _ _ le =>
    nearest_mono (mul_le_mul_of_nonneg_right
      (nearest_mono (div_le_div_of_nonneg_right le (Nat.cast_nonneg unit))) (by norm_num))
  unfold Fits at lastFits firstFails ⊢
  exact adjacent.lt_iff mono lastFits (not_lt.mp firstFails) representable

end Adjacent

/-- The least number that is shown as a thousand of thousands. -/
def thousandsEnd : Float := 999999.9999999499

/-- The least number that is shown as a thousand of millions. -/
def millionsEnd : Float := 999999999.9999499

/-- The least number whose billions are too many to be rounded. -/
def billionsEnd : Float := 1.797693134862316e307

/-- The numbers on both sides of each turn. -/
private theorem parts_ends :
    (parts 999999.9999999498 = .finite false 0x1e847ffffffe51 (-33) ∧
      parts thousandsEnd = .finite false 0x1e847ffffffe52 (-33)) ∧
    (parts 999999999.9999498 = .finite false 0x1dcd64fffffe5b (-23) ∧
      parts millionsEnd = .finite false 0x1dcd64fffffe5c (-23)) ∧
    parts 1.7976931348623158e307 = .finite false 0x19999999999999 968 ∧
      parts billionsEnd = .finite false 0x1999999999999a 968 := by
  decide +kernel

private theorem turnsOver_ends :
    TurnsOver 1000 999999.9999999498 thousandsEnd ∧
    TurnsOver 1000000 999999999.9999498 millionsEnd ∧
    (1.7976931348623158e307 / Float.ofNat 1000000000 * 10000000000).isFinite = true ∧
    (billionsEnd / Float.ofNat 1000000000 * 10000000000).isFinite = false ∧
    1000000000 ≤ billionsEnd := by
  unfold TurnsOver
  decide +kernel

private theorem adjacent_thousandsEnd : Adjacent 999999.9999999498 thousandsEnd :=
  ⟨_, _, by decide, parts_ends.1.1, parts_ends.1.2⟩

private theorem adjacent_millionsEnd : Adjacent 999999999.9999498 millionsEnd :=
  ⟨_, _, by decide, parts_ends.2.1.1, parts_ends.2.1.2⟩

private theorem adjacent_billionsEnd : Adjacent 1.7976931348623158e307 billionsEnd :=
  ⟨_, _, by decide, parts_ends.2.2.1, parts_ends.2.2.2⟩

private theorem shownIn_thousands (representable : Representable number) :
    shownIn (1000 : ℕ) number < 1000 ↔ number < toRat thousandsEnd :=
  adjacent_thousandsEnd.shownIn_lt_iff (by decide) (by decide) turnsOver_ends.1 representable

private theorem shownIn_millions (representable : Representable number) :
    shownIn (1000000 : ℕ) number < 1000 ↔ number < toRat millionsEnd :=
  adjacent_millionsEnd.shownIn_lt_iff (by decide) (by decide) turnsOver_ends.2.1 representable

private theorem fits_billions (representable : Representable number) :
    Fits (1000000000 : ℕ) number ↔ number < toRat billionsEnd :=
  adjacent_billionsEnd.fits_iff (by decide) (by decide) turnsOver_ends.2.2.1
    turnsOver_ends.2.2.2.1 representable

/-! ### Suffixes -/

def signOf (value : Float) : String := if value < 0 then "-" else ""

/-- The text is the sign of a value, the numeral of a number and a suffix. -/
def Abbreviates (text : String) (value : Float) (suffix : String) (number : ℚ) : Prop :=
  ∃ body, text = signOf value ++ body ++ suffix ∧ Shows body number

section Branches

variable (value : Float)

private theorem compactText_billions (large : 1000000000 ≤ Scalar.abs value) :
    compactText value =
      signOf value ++ plainText (Scalar.abs value / Float.ofNat 1000000000) ++ "B" :=
  if_pos large

private theorem compactText_millions (few : ¬ 1000000000 ≤ Scalar.abs value)
    (large : 1000000 ≤ Scalar.abs value) :
    compactText value = signOf value ++ plainText (Scalar.abs value / Float.ofNat 1000000) ++ "M" :=
  (if_neg few).trans (if_pos large)

private theorem compactText_thousands (few : ¬ 1000000000 ≤ Scalar.abs value)
    (fewer : ¬ 1000000 ≤ Scalar.abs value) (large : 1000 ≤ Scalar.abs value) :
    compactText value = signOf value ++ plainText (Scalar.abs value / Float.ofNat 1000) ++ "K" :=
  (if_neg few).trans ((if_neg fewer).trans (if_pos large))

end Branches

private theorem exists_abbreviation (finite : value.isFinite = true) {unit : ℕ} {suffix : String}
    {first : Float} (some : 0 < unit) (small : 1000 * unit ≤ 2 ^ 53)
    (firstFinite : first.isFinite = true)
    (turn : ∀ {number : ℚ}, Representable number →
      (shownIn unit number < 1000 ↔ number < toRat first))
    (text : compactText value =
      signOf value ++ plainText (Scalar.abs value / Float.ofNat unit) ++ suffix)
    (large : Float.ofNat unit ≤ Scalar.abs value)
    (few : Scalar.abs value < Float.ofNat (1000 * unit)) :
    ∃ number, Abbreviates (compact.text value) value suffix number ∧ 1 ≤ number ∧ number ≤ 1000 ∧
      (number < 1000 ↔ Scalar.abs value < first) := by
  obtain ⟨absFinite, magnitude⟩ := toRat_abs finite
  have unitSmall : unit ≤ 2 ^ 53 := (Nat.le_mul_of_pos_left unit (by decide)).trans small
  obtain ⟨unitFinite, unitValue⟩ := toRat_ofNat unitSmall
  obtain ⟨nextFinite, next⟩ := toRat_ofNat small
  have positive : (0 : ℚ) < unit := by exact_mod_cast some
  have least := (le_iff_toRat unitFinite absFinite).mp large
  have most := (lt_iff_toRat absFinite nextFinite).mp few
  rw [unitValue] at least
  rw [next] at most
  push_cast at most
  have nonneg : 0 ≤ toRat (Scalar.abs value) := positive.le.trans least
  obtain ⟨number, shows, one, sides⟩ :=
    exists_shown absFinite nonneg some unitSmall (fits_of_le nonneg some most.le) least
  have thousand := sides 1000 (by norm_num)
  have greatest := shownIn_natCast positive (by norm_num : 1000 ≤ 922337204)
  rw [Nat.cast_ofNat] at thousand greatest
  refine ⟨number, ⟨_, text, shows⟩, one, thousand.1.mpr ?_, ?_⟩
  · rw [← greatest]
    exact shownIn_mono positive most.le
  · rw [thousand.2, turn (representable_toRat _), lt_iff_toRat absFinite firstFinite]

private theorem exists_billions (finite : value.isFinite = true)
    (large : 1000000000 ≤ Scalar.abs value) (few : Scalar.abs value < billionsEnd) :
    ∃ number, Abbreviates (compact.text value) value "B" number ∧ 1 ≤ number := by
  obtain ⟨absFinite, magnitude⟩ := toRat_abs finite
  obtain ⟨billionFinite, billion⟩ := toRat_ofNat (by decide : 1000000000 ≤ 2 ^ 53)
  have least := (le_iff_toRat billionFinite absFinite).mp large
  rw [billion] at least
  have nonneg : 0 ≤ toRat (Scalar.abs value) := (Nat.cast_nonneg _).trans least
  have fits := (fits_billions (representable_toRat _)).mpr
    ((lt_iff_toRat absFinite adjacent_billionsEnd.isFinite.2).mp few)
  obtain ⟨number, shows, one, _sides⟩ :=
    exists_shown absFinite nonneg (by decide) (by decide) fits least
  exact ⟨number, ⟨_, compactText_billions value large, shows⟩, one⟩

private theorem compactText_of_ge (finite : value.isFinite = true)
    (large : billionsEnd ≤ Scalar.abs value) :
    compact.text value = signOf value ++ "inf" ++ "B" := by
  obtain ⟨absFinite, magnitude⟩ := toRat_abs finite
  obtain ⟨quotientFinite, quotient⟩ :=
    toRat_div_unit absFinite (by decide) (by decide : 1000000000 ≤ 2 ^ 53)
  have most := (le_iff_toRat adjacent_billionsEnd.isFinite.2 absFinite).mp large
  have exceeds := mt (fits_billions (representable_toRat _)).mp (not_lt.mpr most)
  rw [Fits, not_lt, ← quotient] at exceeds
  rw [← tenPlaces_overflow quotientFinite exceeds]
  exact compactText_billions value (le_trans turnsOver_ends.2.2.2.2 large)

private theorem million_le_billion : (1000000 : Float) ≤ 1000000000 := by
  obtain ⟨finite, value⟩ := toRat_ofNat (show 1000000 ≤ 2 ^ 53 by norm_num)
  obtain ⟨finite', value'⟩ := toRat_ofNat (show 1000000000 ≤ 2 ^ 53 by norm_num)
  exact (le_iff_toRat finite finite').mpr (by rw [value, value']; norm_num)

/-- A finite value of at least one thousand is abbreviated to a number of at least one with a
suffix. Thousands and millions are less than a thousand exactly when the value is below a bound
just under the next power; from there on they are shown as one thousand. Billions that exceed the
greatest number when they are rounded are shown as infinite. -/
theorem compactText_suffix (value : Float) (finite : value.isFinite = true)
    (large : 1000 ≤ Scalar.abs value) :
    (Scalar.abs value < 1000000 → ∃ number,
      Abbreviates (compact.text value) value "K" number ∧ 1 ≤ number ∧ number ≤ 1000 ∧
        (number < 1000 ↔ Scalar.abs value < thousandsEnd)) ∧
      (1000000 ≤ Scalar.abs value → Scalar.abs value < 1000000000 → ∃ number,
        Abbreviates (compact.text value) value "M" number ∧ 1 ≤ number ∧ number ≤ 1000 ∧
          (number < 1000 ↔ Scalar.abs value < millionsEnd)) ∧
      (1000000000 ≤ Scalar.abs value → Scalar.abs value < billionsEnd → ∃ number,
        Abbreviates (compact.text value) value "B" number ∧ 1 ≤ number) ∧
      (billionsEnd ≤ Scalar.abs value → compact.text value = signOf value ++ "inf" ++ "B") := by
  obtain ⟨absFinite, _magnitude⟩ := toRat_abs finite
  have number := isNaN_of_isFinite absFinite
  have notMillion : Scalar.abs value < 1000000 → ¬ 1000000 ≤ Scalar.abs value := fun few more =>
    (not_lt_iff number (isNaN_ofNat 1000000)).mpr more few
  have notBillion : Scalar.abs value < 1000000000 → ¬ 1000000000 ≤ Scalar.abs value :=
    fun few more => (not_lt_iff number (isNaN_ofNat 1000000000)).mpr more few
  refine ⟨fun few => ?_, fun more few => ?_, exists_billions finite, compactText_of_ge finite⟩
  · have fewer : ¬ 1000000000 ≤ Scalar.abs value := fun more =>
      notMillion few (le_trans million_le_billion more)
    exact exists_abbreviation finite (by decide) (by decide) adjacent_thousandsEnd.isFinite.2
      shownIn_thousands (compactText_thousands value fewer (notMillion few) large) large few
  · exact exists_abbreviation finite (by decide) (by decide) adjacent_millionsEnd.isFinite.2
      shownIn_millions (compactText_millions value (notBillion few) more) more few

theorem compactText_suffix_fifteenHundred : (1500 : Float).isFinite = true ∧
    1000 ≤ Scalar.abs (1500 : Float) ∧
    ∃ number, Abbreviates (compact.text (1500 : Float)) 1500 "K" number ∧ 1 ≤ number ∧
      number < 1000 := by
  have finite : (1500 : Float).isFinite = true := by decide +kernel
  have large : 1000 ≤ Scalar.abs (1500 : Float) := by decide +kernel
  obtain ⟨number, abbreviates, one, _greatest, below⟩ :=
    (compactText_suffix 1500 finite large).1 (by decide +kernel)
  exact ⟨finite, large, number, abbreviates, one, below.mpr (by decide +kernel)⟩

/-- Just under a million there are a thousand thousands. -/
theorem not_compactText_suffix : ¬ ∀ (value : Float) (number : ℚ), value.isFinite = true →
    1000 ≤ Scalar.abs value →
    (Abbreviates (compact.text value) value "K" number →
      1 ≤ number ∧ number < 1000) ∧
    (Abbreviates (compact.text value) value "M" number →
      1 ≤ number ∧ number < 1000) ∧
    (Abbreviates (compact.text value) value "B" number → 1 ≤ number) := by
  intro suffix
  have text : compact.text (999999.9999999999 : Float) =
      signOf 999999.9999999999 ++ "1000" ++ "K" := by
    decide +kernel
  have thousand : Shows "1000" 1000 := ⟨1000, 0, by decide, by norm_num⟩
  have less := ((suffix 999999.9999999999 1000 (by decide +kernel) (by decide +kernel)).1
    ⟨"1000", text, thousand⟩).2
  exact lt_irrefl 1000 less

end CanvasChart.LabelFormat
