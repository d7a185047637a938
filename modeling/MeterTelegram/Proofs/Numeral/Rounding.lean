import MeterTelegram.Proofs.Binary64.Nearest
import MeterTelegram.Proofs.Numeral

namespace MeterTelegram.Numeral

/-! A positive fraction rounded to significant digits: how near the numeral is to the fraction,
and that digits which end in zeros are those of a lower precision. -/

open Binary64

variable {numeral : Numeral} {negative : Bool}
  {numerator denominator precision count more leading otherLeading whole : Nat}

/-- The value a numeral spells, but for its sign. -/
def value (numeral : Numeral) : ℚ :=
  numeral.coefficient * 10 ^ (numeral.exponent - (numeral.precision - 1))

theorem toBinary64_eq (numeral : Numeral) :
    numeral.toBinary64 = nearest numeral.negative numeral.value := by
  unfold toBinary64 value
  generalize numeral.exponent - (numeral.precision - 1) = shift
  dsimp only
  split
  · rename_i raised
    obtain ⟨zeros, rfl⟩ := Int.eq_ofNat_of_zero_le raised
    rw [← nearest_div Nat.one_pos]
    simp
  · rename_i lowered
    obtain ⟨places, rfl⟩ : ∃ places : Nat, shift = -places := ⟨(-shift).toNat, by omega⟩
    have positive : 0 < Nat.pow 10 (- -(places : Int)).toNat := Nat.pow_pos (by decide)
    rw [← nearest_div positive]
    simp [div_eq_mul_inv]

theorem roundScaled_eq (positive : 0 < denominator) (numerator : Nat) (shift : Int) :
    ∃ top bottom, 0 < bottom ∧
      roundScaled numerator denominator shift = roundHalfEven top bottom ∧
      (top / bottom : ℚ) = numerator / denominator * 10 ^ shift := by
  unfold roundScaled
  split
  · rename_i raised
    obtain ⟨zeros, rfl⟩ := Int.eq_ofNat_of_zero_le raised
    refine ⟨_, _, positive, rfl, ?_⟩
    simp [div_mul_eq_mul_div]
  · rename_i lowered
    obtain ⟨places, rfl⟩ : ∃ places : Nat, shift = -places := ⟨(-shift).toNat, by omega⟩
    refine ⟨_, _, Nat.mul_pos positive (Nat.pow_pos (by decide)), rfl, ?_⟩
    rw [Nat.cast_mul, neg_neg, Int.toNat_natCast, Nat.cast_pow, Nat.cast_ofNat, ← div_div,
      zpow_neg, zpow_natCast, div_eq_mul_inv _ (10 ^ places : ℚ)]

/-- Positive, and not too small for its leading digit to be found. -/
structure Measured (numerator denominator : Nat) : Prop where
  positive : 0 < denominator
  large : denominator ≤ numerator * Nat.pow 10 400

theorem length_toDigits_bounds {value : Nat} (present : 0 < value) :
    ∃ length, (Nat.toDigits 10 value).length = length + 1 ∧ 10 ^ length ≤ value ∧
      value < 10 ^ (length + 1) := by
  obtain ⟨length, long⟩ : ∃ length, (Nat.toDigits 10 value).length = length + 1 :=
    Nat.exists_eq_add_one.mpr (List.length_pos_of_ne_nil Nat.toDigits_ne_nil)
  refine ⟨length, long, ?_,
    (Nat.length_toDigits_le_iff (by decide) (Nat.succ_pos length)).mp (Nat.le_of_eq long)⟩
  rcases Nat.eq_zero_or_pos length with rfl | some
  · exact present
  · refine Nat.le_of_not_lt fun short => ?_
    have shorter := (Nat.length_toDigits_le_iff (by decide) some).mpr short
    omega

theorem ten_zpow_mul {left right total : Int} (sum : left + right = total) :
    (10 : ℚ) ^ left * 10 ^ right = 10 ^ total := by
  rw [← zpow_add₀ (by norm_num), sum]

/-- The leading digit of a fraction stands at the power of ten that bounds it from below. -/
theorem leadingExponent_spec (measured : Measured numerator denominator) :
    (10 : ℚ) ^ leadingExponent numerator denominator ≤ numerator / denominator ∧
      (numerator / denominator : ℚ) < 10 ^ (leadingExponent numerator denominator + 1) := by
  obtain ⟨positive, large⟩ := measured
  unfold leadingExponent
  generalize same : 400 = scale at large ⊢
  rw [Nat.pow_eq] at large ⊢
  obtain ⟨length, long, lower, upper⟩ := length_toDigits_bounds (Nat.div_pos large positive)
  have lower := (Nat.le_div_iff_mul_le positive).mp lower
  have upper := (Nat.div_lt_iff_lt_mul positive).mp upper
  have unit : (0 : ℚ) < 10 ^ (scale : Int) := zpow_pos (by norm_num) _
  have some : (0 : ℚ) < denominator := by exact_mod_cast positive
  have least : ((length + 1 : Nat) : Int) - 401 + scale = length := by omega
  have next : ((length + 1 : Nat) : Int) - 401 + 1 + scale = (length + 1 : Nat) := by omega
  rw [long, le_div_iff₀ some, div_lt_iff₀ some, ← mul_le_mul_iff_left₀ unit,
    ← mul_lt_mul_iff_left₀ unit, mul_right_comm _ (denominator : ℚ),
    mul_right_comm _ (denominator : ℚ), ten_zpow_mul least, ten_zpow_mul next, zpow_natCast,
    zpow_natCast, zpow_natCast]
  constructor
  · exact_mod_cast lower
  · exact_mod_cast upper

/-- The digits of a fraction rounded to a count of them; what is rounded up to the next power
of ten has one more. -/
def rounded (numerator denominator precision : Nat) : Nat :=
  roundScaled numerator denominator (precision - 1 - leadingExponent numerator denominator)

theorem rounded_near (positive : 0 < denominator) (numerator precision : Nat) :
    |(numerator / denominator : ℚ) * 10 ^ (precision - 1 - leadingExponent numerator denominator) -
      rounded numerator denominator precision| ≤ 1 / 2 := by
  obtain ⟨top, bottom, some, same, scaled⟩ := roundScaled_eq positive numerator
    (precision - 1 - leadingExponent numerator denominator)
  rw [rounded, same, ← scaled]
  exact roundHalfEven_near some

theorem rounded_eq (positive : 0 < denominator)
    (near : |(numerator / denominator : ℚ) *
      10 ^ (precision - 1 - leadingExponent numerator denominator) - whole| < 1 / 2) :
    rounded numerator denominator precision = whole := by
  obtain ⟨top, bottom, some, same, scaled⟩ := roundScaled_eq positive numerator
    (precision - 1 - leadingExponent numerator denominator)
  rw [rounded, same]
  rw [← scaled] at near
  exact roundHalfEven_eq some near

/-- Digits that end in zeros are the digits of a lower precision. -/
theorem rounded_coarser (positive : 0 < denominator)
    (zeros : rounded numerator denominator (count + more) = leading * 10 ^ more) :
    rounded numerator denominator count = leading := by
  obtain rfl | some := Nat.eq_zero_or_pos more
  · simpa using zeros
  · have near := rounded_near positive numerator (count + more)
    have unit : (0 : ℚ) < 10 ^ more := by positivity
    have tens : (10 : ℚ) ≤ 10 ^ more := le_self_pow₀ (by norm_num) (Nat.ne_of_gt some)
    have split :
        (10 : ℚ) ^ (((count + more : Nat) : Int) - 1 - leadingExponent numerator denominator) =
        10 ^ (count - 1 - leadingExponent numerator denominator) * 10 ^ more := by
      rw [← zpow_natCast, ten_zpow_mul]
      omega
    rw [zeros, split, ← mul_assoc, Nat.cast_mul, Nat.cast_pow, Nat.cast_ofNat, ← sub_mul, abs_mul,
      abs_of_pos unit] at near
    refine rounded_eq positive (lt_of_not_ge fun far => ?_)
    have most := mul_le_mul far tens (by norm_num) (abs_nonneg _)
    linarith

/-- A fraction has as many digits before the point as it is to be rounded to. -/
theorem scaled_bounds (measured : Measured numerator denominator) (some : 0 < precision) :
    (10 : ℚ) ^ (precision - 1) ≤ numerator / denominator *
        10 ^ ((precision : Int) - 1 - leadingExponent numerator denominator) ∧
      (numerator / denominator : ℚ) *
        10 ^ ((precision : Int) - 1 - leadingExponent numerator denominator) < 10 ^ precision := by
  obtain ⟨lower, upper⟩ := leadingExponent_spec measured
  generalize leadingExponent numerator denominator = exponent at lower upper ⊢
  have unit : (0 : ℚ) < 10 ^ ((precision : Int) - 1 - exponent) := zpow_pos (by norm_num) _
  have least : exponent + (precision - 1 - exponent) = ((precision - 1 : Nat) : Int) := by omega
  have next : exponent + 1 + (precision - 1 - exponent) = (precision : Int) := by omega
  have lower := mul_le_mul_of_nonneg_right lower (le_of_lt unit)
  have upper := mul_lt_mul_of_pos_right upper unit
  rw [ten_zpow_mul least, zpow_natCast] at lower
  rw [ten_zpow_mul next, zpow_natCast] at upper
  exact ⟨lower, upper⟩

theorem rounded_bounds (measured : Measured numerator denominator) (some : 0 < precision) :
    10 ^ (precision - 1) ≤ rounded numerator denominator precision ∧
      rounded numerator denominator precision ≤ 10 ^ precision := by
  obtain ⟨lower, upper⟩ := scaled_bounds measured some
  have near := abs_le.mp (rounded_near measured.positive numerator precision)
  constructor
  · have above : (10 : ℚ) ^ (precision - 1) < rounded numerator denominator precision + 1 := by
      linarith
    exact Nat.lt_succ_iff.mp (by exact_mod_cast above)
  · have below : (rounded numerator denominator precision : ℚ) < 10 ^ precision + 1 := by
      linarith
    exact Nat.lt_succ_iff.mp (by exact_mod_cast below)

theorem ofFraction_eq (negative : Bool) (precision numerator denominator : Nat) :
    ofFraction negative precision numerator denominator =
      if rounded numerator denominator precision = 10 ^ precision then
        ⟨negative, precision, 10 ^ (precision - 1), leadingExponent numerator denominator + 1⟩
      else
        ⟨negative, precision, rounded numerator denominator precision,
          leadingExponent numerator denominator⟩ :=
  rfl

@[simp] theorem precision_ofFraction (negative : Bool) (precision numerator denominator : Nat) :
    (ofFraction negative precision numerator denominator).precision = precision := by
  rw [ofFraction_eq]
  split <;> rfl

theorem value_ofFraction (some : 0 < precision) (negative : Bool) :
    (ofFraction negative precision numerator denominator).value =
      rounded numerator denominator precision *
        10 ^ (leadingExponent numerator denominator - (precision - 1)) := by
  rw [ofFraction_eq]
  split
  · rename_i carried
    unfold value
    dsimp only
    have same : ((precision - 1 : Nat) : Int) +
        (leadingExponent numerator denominator + 1 - (precision - 1)) =
        precision + (leadingExponent numerator denominator - (precision - 1)) := by omega
    rw [carried, Nat.cast_pow, Nat.cast_pow, Nat.cast_ofNat, ← zpow_natCast, ← zpow_natCast,
      ten_zpow_mul same, ten_zpow_mul rfl]
  · rfl

/-- Seventeen digits are nearer to the fraction than half a unit of the last one. -/
theorem value_ofFraction_near (measured : Measured numerator denominator) (negative : Bool) :
    |(ofFraction negative 17 numerator denominator).value - numerator / denominator| ≤
      numerator / denominator / (2 * 10 ^ 16) := by
  have near := rounded_near measured.positive numerator 17
  have lower := (leadingExponent_spec measured).1
  rw [value_ofFraction (by decide)]
  generalize leadingExponent numerator denominator = exponent at near lower ⊢
  have unit : (0 : ℚ) < 10 ^ (exponent - ((17 : Nat) - 1)) := zpow_pos (by norm_num) _
  have inverse : ((17 : Nat) : Int) - 1 - exponent + (exponent - ((17 : Nat) - 1)) = 0 := by omega
  have last : (10 : ℚ) ^ (exponent - ((17 : Nat) - 1)) = 10 ^ exponent / 10 ^ 16 := by
    rw [zpow_sub₀ (by norm_num)]
    rfl
  have scaled := mul_le_mul_of_nonneg_right near (le_of_lt unit)
  rw [← abs_of_pos unit, ← abs_mul, sub_mul, abs_of_pos unit, mul_assoc, ten_zpow_mul inverse,
    zpow_zero, mul_one, abs_sub_comm] at scaled
  rw [last] at scaled ⊢
  linarith

theorem coefficient_bounds (measured : Measured numerator denominator) (some : 0 < precision)
    (negative : Bool) :
    10 ^ (precision - 1) ≤ (ofFraction negative precision numerator denominator).coefficient ∧
      (ofFraction negative precision numerator denominator).coefficient < 10 ^ precision := by
  obtain ⟨lower, upper⟩ := rounded_bounds measured some
  rw [ofFraction_eq]
  split
  · exact ⟨Nat.le_refl _, Nat.pow_lt_pow_right (by decide) (by omega)⟩
  · rename_i below
    exact ⟨lower, Nat.lt_of_le_of_ne upper below⟩

/-- The digits of a numeral are those of `leading`, `count` of them, and zeros. -/
structure Shows (numeral : Numeral) (leading count : Nat) : Prop where
  some : 0 < count
  within : count ≤ numeral.precision
  lower : 10 ^ (count - 1) ≤ leading
  upper : leading < 10 ^ count
  last : leading % 10 ≠ 0
  coefficient : numeral.coefficient = leading * 10 ^ (numeral.precision - count)

theorem exists_leading {coefficient : Nat} (some : 0 < precision)
    (lower : 10 ^ (precision - 1) ≤ coefficient) (upper : coefficient < 10 ^ precision) :
    ∃ leading count, 0 < count ∧ count ≤ precision ∧ 10 ^ (count - 1) ≤ leading ∧
      leading < 10 ^ count ∧ leading % 10 ≠ 0 ∧
      coefficient = leading * 10 ^ (precision - count) := by
  induction precision generalizing coefficient with
  | zero => contradiction
  | succ precision ih =>
      by_cases last : coefficient % 10 = 0
      · have large : 10 ≤ coefficient := by
          have present : 0 < coefficient := Nat.lt_of_lt_of_le (Nat.pow_pos (by decide)) lower
          omega
        obtain ⟨before, rfl⟩ : ∃ before, precision = before + 1 := by
          refine Nat.exists_eq_add_one.mpr (Nat.pos_of_ne_zero ?_)
          rintro rfl
          omega
        have split := Nat.div_add_mod coefficient 10
        rw [Nat.pow_succ] at upper
        rw [Nat.add_sub_cancel, Nat.pow_succ] at lower
        have rest : 10 ^ (before + 1 - 1) ≤ coefficient / 10 := by
          rw [Nat.add_sub_cancel]
          omega
        obtain ⟨leading, count, some, within, lower, upper, ends, same⟩ :=
          ih (Nat.succ_pos before) rest (by omega)
        refine ⟨leading, count, some, by omega, lower, upper, ends, ?_⟩
        rw [Nat.succ_sub within, Nat.pow_succ, ← Nat.mul_assoc, ← same]
        omega
      · exact ⟨coefficient, precision + 1, some, Nat.le_refl _, lower, upper, last, by simp⟩

theorem exists_shows (measured : Measured numerator denominator) (some : 0 < precision)
    (negative : Bool) :
    ∃ leading count, Shows (ofFraction negative precision numerator denominator) leading count := by
  obtain ⟨lower, upper⟩ := coefficient_bounds measured some negative
  have same := precision_ofFraction negative precision numerator denominator
  obtain ⟨leading, count, some, within, lower, upper, last, spelled⟩ :=
    exists_leading some lower upper
  exact ⟨leading, count, some, by rwa [same], lower, upper, last, by rw [spelled, same]⟩

/-- Digits behind which only zeros follow are found at their own precision. -/
theorem ofFraction_of_shows (positive : 0 < denominator)
    (shows : Shows (ofFraction negative precision numerator denominator) leading count) :
    ofFraction negative count numerator denominator =
      ⟨negative, count, leading,
        (ofFraction negative precision numerator denominator).exponent⟩ := by
  obtain ⟨some, within, lower, upper, last, spelled⟩ := shows
  rw [ofFraction_eq] at within spelled ⊢
  rw [ofFraction_eq]
  by_cases carried : rounded numerator denominator precision = 10 ^ precision
  · simp only [if_pos carried] at within spelled ⊢
    obtain ⟨zeros, rfl⟩ := Nat.exists_eq_add_of_le within
    rw [Nat.add_sub_cancel_left, Nat.sub_add_comm some, Nat.pow_add] at spelled
    have power : 10 ^ (count - 1) = leading :=
      Nat.eq_of_mul_eq_mul_right (Nat.pow_pos (by decide)) spelled
    rw [Nat.pow_add] at carried
    rw [if_pos (rounded_coarser positive carried), power]
  · simp only [if_neg carried] at within spelled ⊢
    obtain ⟨zeros, rfl⟩ := Nat.exists_eq_add_of_le within
    rw [Nat.add_sub_cancel_left] at spelled
    rw [rounded_coarser positive spelled, if_neg (Nat.ne_of_lt upper)]

/-- A numeral without zeros behind its digits may stand one power of ten above the leading digit
of the fraction, but then it is that power alone. -/
theorem exponent_ofFraction (negative : Bool) (precision numerator denominator : Nat) :
    (ofFraction negative precision numerator denominator).exponent =
        leadingExponent numerator denominator ∨
      (ofFraction negative precision numerator denominator).exponent =
          leadingExponent numerator denominator + 1 ∧
        (ofFraction negative precision numerator denominator).coefficient =
          10 ^ (precision - 1) := by
  rw [ofFraction_eq]
  split
  · exact .inr ⟨rfl, rfl⟩
  · exact .inl rfl

theorem Shows.count_of_power (shows : Shows numeral leading count)
    (power : numeral.coefficient = 10 ^ (numeral.precision - 1)) : count = 1 := by
  obtain ⟨some, within, -, -, last, spelled⟩ := shows
  have split : numeral.precision - 1 = count - 1 + (numeral.precision - count) := by omega
  rw [spelled, split, Nat.pow_add] at power
  have power : leading = 10 ^ (count - 1) :=
    Nat.eq_of_mul_eq_mul_right (Nat.pow_pos (by decide)) power
  refine Nat.le_antisymm (Nat.le_of_not_lt fun more => last ?_) some
  obtain ⟨zeros, same⟩ := Nat.exists_eq_add_of_lt more
  rw [power, same, Nat.add_sub_cancel, Nat.add_comm 1, Nat.pow_succ, Nat.mul_mod_left]

/-- With more digits the exponent stays, unless a power of ten was rounded up to. -/
theorem exponent_of_shows
    (fewer : Shows (ofFraction negative precision numerator denominator) leading precision)
    (other : Shows (ofFraction negative count numerator denominator) otherLeading count)
    (ordered : precision ≤ count) :
    (ofFraction negative precision numerator denominator).exponent =
        (ofFraction negative count numerator denominator).exponent ∨
      precision = 1 ∧ 2 ≤ count ∧
        (ofFraction negative precision numerator denominator).exponent =
          (ofFraction negative count numerator denominator).exponent + 1 := by
  have some := fewer.some
  rcases exponent_ofFraction negative precision numerator denominator with same | ⟨above, power⟩
  · rcases exponent_ofFraction negative count numerator denominator with otherSame | ⟨-, otherPower⟩
    · exact .inl (same.trans otherSame.symm)
    · obtain rfl := other.count_of_power (by rwa [precision_ofFraction])
      obtain rfl : precision = 1 := by omega
      exact .inl rfl
  · obtain rfl := fewer.count_of_power (by rwa [precision_ofFraction])
    rcases exponent_ofFraction negative count numerator denominator with otherSame | ⟨otherAbove, -⟩
    · rcases Nat.eq_or_lt_of_le ordered with rfl | more
      · exact .inl rfl
      · exact .inr ⟨rfl, more, by rw [above, otherSame]⟩
    · exact .inl (above.trans otherAbove.symm)

/-- The leading exponent of a whole number counts the digits behind the first one. -/
theorem leadingExponent_of_whole (measured : Measured numerator denominator)
    (same : (numerator / denominator : ℚ) = whole) :
    ∃ length, leadingExponent numerator denominator = (length : Nat) ∧ 10 ^ length ≤ whole ∧
      whole < 10 ^ (length + 1) := by
  obtain ⟨lower, upper⟩ := leadingExponent_spec measured
  rw [same] at lower upper
  have present : 0 < whole := by
    have some : (0 : ℚ) < whole := lt_of_lt_of_le (zpow_pos (by norm_num) _) lower
    exact_mod_cast some
  have nonnegative : 0 ≤ leadingExponent numerator denominator := by
    refine le_of_not_gt fun below => ?_
    have tiny : (10 : ℚ) ^ (leadingExponent numerator denominator + 1) ≤ 10 ^ (0 : Int) :=
      zpow_le_zpow_right₀ (by norm_num) (by omega)
    have one : (1 : ℚ) ≤ whole := by exact_mod_cast present
    rw [zpow_zero] at tiny
    linarith
  obtain ⟨length, exponent⟩ := Int.eq_ofNat_of_zero_le nonnegative
  rw [exponent] at lower upper
  exact ⟨length, exponent, by exact_mod_cast lower, by exact_mod_cast upper⟩

theorem ofFraction_of_exact (positive : 0 < denominator)
    (exact : (numerator / denominator : ℚ) *
      10 ^ (precision - 1 - leadingExponent numerator denominator) = whole)
    (small : whole < 10 ^ precision) (negative : Bool) :
    ofFraction negative precision numerator denominator =
      ⟨negative, precision, whole, leadingExponent numerator denominator⟩ := by
  have same : rounded numerator denominator precision = whole := by
    refine rounded_eq positive ?_
    rw [exact, sub_self, abs_zero]
    norm_num
  rw [ofFraction_eq, same, if_neg (Nat.ne_of_lt small)]

theorem value_of_shows (shows : Shows numeral leading count) :
    numeral.value = leading * 10 ^ (numeral.exponent - (count - 1)) := by
  have places : ((numeral.precision - count : Nat) : Int) +
      (numeral.exponent - (numeral.precision - 1)) = numeral.exponent - (count - 1) := by
    have within := shows.within
    omega
  rw [value, shows.coefficient, Nat.cast_mul, Nat.cast_pow, Nat.cast_ofNat, ← zpow_natCast,
    mul_assoc, ten_zpow_mul places]

end MeterTelegram.Numeral
