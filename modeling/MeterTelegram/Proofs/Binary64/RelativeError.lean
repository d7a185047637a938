import MeterTelegram.Proofs.Binary64.Nearest

namespace MeterTelegram.Binary64

/-! How far the nearest number is from a value: where the significand has all its bits, half a
unit of it, so at most one part in `2 ^ 53`. -/

variable {negative : Bool} {numerator denominator : Nat} {value : ℚ}

theorem log2_bounds {quotient : Nat} (large : exponentUnit ≤ quotient) :
    exponentUnit * 2 ^ (quotient.log2 - 52) ≤ quotient ∧
      quotient < 2 * exponentUnit * 2 ^ (quotient.log2 - 52) := by
  have unit : exponentUnit = 2 ^ 52 := rfl
  have double : 2 * exponentUnit = 2 ^ 53 := rfl
  have some : quotient ≠ 0 := Nat.ne_of_gt (Nat.lt_of_lt_of_le (by decide) large)
  have long : 52 ≤ quotient.log2 := (Nat.le_log2 some).mpr large
  rw [double, unit, ← Nat.pow_add, ← Nat.pow_add]
  have lower : 52 + (quotient.log2 - 52) = quotient.log2 := by omega
  have upper : 53 + (quotient.log2 - 52) = quotient.log2 + 1 := by omega
  rw [lower, upper]
  exact ⟨Nat.log2_self_le some, Nat.lt_log2_self⟩

/-- A fraction that fills the significand is rounded by at most half of its last unit. -/
theorem view_ofUnits (positive : 0 < denominator)
    (large : exponentUnit ≤ numerator / denominator)
    (short : (numerator / denominator).log2 ≤ 2096) (negative : Bool) :
    ∃ significand scale, exponentUnit ≤ significand ∧
      (ofUnits negative numerator denominator).view = .finite negative significand scale ∧
      |(numerator / denominator : ℚ) - significand * 2 ^ scale| ≤ 2 ^ scale / 2 := by
  obtain ⟨lower, -⟩ := log2_bounds large
  have upper := significand_le numerator denominator
  have finite : (numerator / denominator).log2 - 52 ≤ 2044 := by omega
  have unfolded : ofUnits negative numerator denominator =
      ofMagnitude negative (min infinity (((numerator / denominator).log2 - 52) * exponentUnit +
        roundHalfEven numerator (denominator *
          Nat.pow 2 ((numerator / denominator).log2 - 52)))) := rfl
  generalize (numerator / denominator).log2 - 52 = scale at lower upper finite unfolded
  have step : (0 : ℚ) < 2 ^ scale := by positivity
  have unit : 0 < denominator * 2 ^ scale := Nat.mul_pos positive (Nat.two_pow_pos scale)
  have filled : exponentUnit ≤ roundHalfEven numerator (denominator * 2 ^ scale) := by
    refine Nat.le_trans ?_ (le_roundHalfEven numerator (denominator * 2 ^ scale))
    rw [← Nat.div_div_eq_div_mul]
    exact (Nat.le_div_iff_mul_le (Nat.two_pow_pos scale)).mpr lower
  have near := @roundHalfEven_near numerator (denominator * 2 ^ scale) unit
  rw [Nat.pow_eq] at upper unfolded
  generalize roundHalfEven numerator (denominator * 2 ^ scale) = rounded at *
  have near : |(numerator / denominator : ℚ) - rounded * 2 ^ scale| ≤ 2 ^ scale / 2 := by
    have scaled : (numerator / denominator : ℚ) - rounded * 2 ^ scale =
        (numerator / (denominator * 2 ^ scale : Nat) - rounded) * 2 ^ scale := by
      push_cast
      field_simp
    have most := mul_le_mul_of_nonneg_right near (le_of_lt step)
    rw [scaled, abs_mul, abs_of_pos step]
    linarith
  rcases Nat.lt_or_eq_of_le upper with bounded | carried
  · have fits : Fits rounded scale := ⟨bounded, .inr filled, by omega⟩
    rw [Nat.min_eq_right (Nat.le_of_lt fits.lt_infinity)] at unfolded
    exact ⟨rounded, scale, filled, by rw [unfolded, view_ofMagnitude fits], near⟩
  · have fits : Fits exponentUnit (scale + 1) := ⟨by decide, .inr (Nat.le_refl _), by omega⟩
    have next : scale * exponentUnit + rounded = (scale + 1) * exponentUnit + exponentUnit := by
      rw [carried]
      ring
    have same : (exponentUnit : ℚ) * 2 ^ (scale + 1) = rounded * 2 ^ scale := by
      rw [carried, pow_succ]
      push_cast
      ring
    rw [next, Nat.min_eq_right (Nat.le_of_lt fits.lt_infinity)] at unfolded
    refine ⟨exponentUnit, scale + 1, Nat.le_refl _, by rw [unfolded, view_ofMagnitude fits], ?_⟩
    rw [same, pow_succ]
    linarith

/-- Values whose nearest numbers have all bits of the significand. -/
structure Normal (value : ℚ) : Prop where
  lower : amount exponentUnit 0 ≤ value
  upper : value < 2 ^ 1023

theorem Normal.pos (normal : Normal value) : 0 < value :=
  lt_of_lt_of_le (amount_pos (by decide) 0) normal.lower

theorem normal_of_bounds (lower : 1 / 2 ^ 64 ≤ value) (upper : value < 2 ^ 64) :
    Normal value := by
  refine ⟨le_trans ?_ lower, lt_of_lt_of_le upper (pow_le_pow_right₀ (by norm_num) (by decide))⟩
  have unit : exponentUnit = 2 ^ 52 := rfl
  have enough : 2 ^ 52 * 2 ^ 64 ≤ unitsInOne := by
    obtain ⟨exponent, units⟩ : ∃ exponent, exponent = 1074 := ⟨_, rfl⟩
    rw [unitsInOne_eq units, ← Nat.pow_add]
    exact Nat.pow_le_pow_right (by decide) (by omega)
  have enough : (2 : ℚ) ^ 52 * 2 ^ 64 ≤ unitsInOne := by exact_mod_cast enough
  rw [amount, unit, pow_zero, mul_one, div_le_div_iff₀ unitsInOne_cast_pos (by positivity), one_mul]
  exact_mod_cast enough

/-- Rounding changes a value by at most one part in `2 ^ 53`. -/
theorem view_nearest (normal : Normal value) (negative : Bool) :
    ∃ significand scale, 0 < significand ∧
      (nearest negative value).view = .finite negative significand scale ∧
      |value - amount significand scale| ≤ amount significand scale / 2 ^ 53 := by
  have units := unitsInOne_cast_pos
  have exact := natAbs_div_den (le_of_lt normal.pos) unitsInOne
  have large : exponentUnit ≤ value.num.natAbs * unitsInOne / value.den := by
    have least := mul_le_mul_of_nonneg_right normal.lower (le_of_lt units)
    rw [amount_mul, pow_zero, mul_one, ← exact, le_div_iff₀ (Nat.cast_pos.mpr value.den_pos)]
      at least
    exact (Nat.le_div_iff_mul_le value.den_pos).mpr (by exact_mod_cast least)
  have short : (value.num.natAbs * unitsInOne / value.den).log2 < 1023 + 1074 := by
    have most := mul_lt_mul_of_pos_right normal.upper units
    rw [← exact, div_lt_iff₀ (Nat.cast_pos.mpr value.den_pos)] at most
    generalize 1023 = exponent at most ⊢
    have most : value.num.natAbs * unitsInOne < 2 ^ exponent * unitsInOne * value.den := by
      exact_mod_cast most
    have bound := (Nat.div_lt_iff_lt_mul value.den_pos).mpr most
    generalize value.num.natAbs * unitsInOne / value.den = quotient at large bound ⊢
    have some : quotient ≠ 0 := Nat.ne_of_gt (Nat.lt_of_lt_of_le (by decide) large)
    unfold unitsInOne at bound
    have bits := log2_lt_of_lt_mul some bound
    omega
  obtain ⟨significand, scale, filled, viewed, near⟩ :=
    view_ofUnits value.den_pos large (by omega) negative
  refine ⟨significand, scale, Nat.lt_of_lt_of_le (by decide) filled, viewed, ?_⟩
  have scaled : value - amount significand scale =
      (value * unitsInOne - significand * 2 ^ scale) / unitsInOne := by
    rw [← amount_mul, ← sub_mul, mul_div_cancel_right₀ _ (ne_of_gt units)]
  have filled : (2 : ℚ) ^ 52 ≤ significand := by
    have filled : 2 ^ 52 ≤ significand := filled
    exact_mod_cast filled
  have most := mul_le_mul_of_nonneg_right filled (show (0 : ℚ) ≤ 2 ^ scale by positivity)
  rw [exact] at near
  rw [scaled, abs_div, abs_of_pos units, amount, div_right_comm]
  exact div_le_div_of_nonneg_right (by linarith) (le_of_lt units)

/-- A count divided by a whole number is rounded once. -/
theorem quotient_ofNat {divisor : Nat} (some : 0 < divisor) (small : divisor < 2 ^ 53)
    (count : Nat) : quotient count (ofNat divisor) = nearest false (count / divisor) := by
  obtain ⟨significand, scale, viewed, exact⟩ := view_nearest_whole small false
  rw [nearest_natCast] at viewed
  rw [amount_eq_iff] at exact
  have units := unitsInOne_pos
  have present : significand ≠ 0 := by
    rintro rfl
    have positive := Nat.mul_pos some units
    omega
  rw [quotient, ofNat, viewed, nearest_div some]
  dsimp only
  rw [if_neg present, Nat.pow_eq, exact]
  exact ofUnits_congr (Nat.mul_pos some units) some (by ring) false

end MeterTelegram.Binary64
