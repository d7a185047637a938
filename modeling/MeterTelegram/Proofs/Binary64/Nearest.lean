import Mathlib.Data.Rat.Floor
import Mathlib.Tactic.FieldSimp
import Mathlib.Tactic.Linarith
import Mathlib.Tactic.NormNum
import Mathlib.Tactic.Positivity
import Mathlib.Tactic.Ring
import MeterTelegram.Proofs.Binary64

namespace MeterTelegram.Binary64

/-! The number nearest to a fraction depends on the value of the fraction alone. A number is
nearest to all that is closer to it than half the way to its neighbours. Whole numbers are
nearest to whole numbers, and those below `2 ^ 53` to themselves. -/

variable {number : Binary64} {negative : Bool} {significand scale : Nat}
  {numerator denominator otherNumerator otherDenominator factor whole : Nat}

theorem roundHalfEven_bounds (positive : 0 < denominator) :
    2 * numerator ≤ (2 * roundHalfEven numerator denominator + 1) * denominator ∧
      2 * roundHalfEven numerator denominator * denominator ≤ 2 * numerator + denominator := by
  have split := Nat.div_add_mod numerator denominator
  have small := Nat.mod_lt numerator positive
  simp only [roundHalfEven]
  generalize numerator / denominator = quotient at *
  generalize numerator % denominator = remainder at *
  subst split
  split
  · constructor <;> nlinarith
  · split
    · constructor <;> nlinarith
    · rcases Nat.mod_two_eq_zero_or_one quotient with even | odd
      · rw [even]
        constructor <;> nlinarith
      · rw [odd]
        constructor <;> nlinarith

theorem roundHalfEven_near (positive : 0 < denominator) :
    |(numerator / denominator : ℚ) - roundHalfEven numerator denominator| ≤ 1 / 2 := by
  obtain ⟨upper, lower⟩ := @roundHalfEven_bounds numerator denominator positive
  have positive : (0 : ℚ) < denominator := by exact_mod_cast positive
  have upper : (2 : ℚ) * numerator ≤
      (2 * roundHalfEven numerator denominator + 1) * denominator := by
    exact_mod_cast upper
  have lower : (2 : ℚ) * roundHalfEven numerator denominator * denominator ≤
      2 * numerator + denominator := by
    exact_mod_cast lower
  have difference : (numerator / denominator : ℚ) - roundHalfEven numerator denominator =
      (numerator - roundHalfEven numerator denominator * denominator) / denominator := by
    field_simp
  rw [difference, abs_div, abs_of_pos positive, div_le_iff₀ positive, abs_le]
  constructor <;> linarith

/-- Only one whole number is nearer than a half. -/
theorem roundHalfEven_eq (positive : 0 < denominator)
    (near : |(numerator / denominator : ℚ) - whole| < 1 / 2) :
    roundHalfEven numerator denominator = whole := by
  have rounded := @roundHalfEven_near numerator denominator positive
  rw [abs_le] at rounded
  rw [abs_lt] at near
  have below : (roundHalfEven numerator denominator : ℚ) < whole + 1 := by linarith
  have above : (whole : ℚ) < roundHalfEven numerator denominator + 1 := by linarith
  have below : roundHalfEven numerator denominator < whole + 1 := by exact_mod_cast below
  have above : whole < roundHalfEven numerator denominator + 1 := by exact_mod_cast above
  omega

theorem roundHalfEven_mul (positive : 0 < factor) (numerator denominator : Nat) :
    roundHalfEven (numerator * factor) (denominator * factor) =
      roundHalfEven numerator denominator := by
  have small : 2 * (numerator * factor % (denominator * factor)) < denominator * factor ↔
      2 * (numerator % denominator) < denominator := by
    rw [Nat.mul_mod_mul_right, ← Nat.mul_assoc]
    exact Nat.mul_lt_mul_right positive
  have large : denominator * factor < 2 * (numerator * factor % (denominator * factor)) ↔
      denominator < 2 * (numerator % denominator) := by
    rw [Nat.mul_mod_mul_right, ← Nat.mul_assoc]
    exact Nat.mul_lt_mul_right positive
  simp only [roundHalfEven, small, large, Nat.mul_div_mul_right numerator denominator positive]

theorem ofUnits_mul (positive : 0 < factor) (negative : Bool) (numerator denominator : Nat) :
    ofUnits negative (numerator * factor) (denominator * factor) =
      ofUnits negative numerator denominator := by
  simp only [ofUnits, Nat.mul_div_mul_right numerator denominator positive,
    Nat.mul_right_comm denominator factor, roundHalfEven_mul positive]

theorem ofUnits_congr (positive : 0 < denominator) (otherPositive : 0 < otherDenominator)
    (same : numerator * otherDenominator = otherNumerator * denominator) (negative : Bool) :
    ofUnits negative numerator denominator = ofUnits negative otherNumerator otherDenominator := by
  rw [← ofUnits_mul otherPositive negative numerator denominator, same,
    Nat.mul_comm denominator otherDenominator, ofUnits_mul positive]

/-- The number nearest to a value, whose sign is given beside it. -/
def nearest (negative : Bool) (value : ℚ) : Binary64 :=
  ofFraction negative value.num.natAbs value.den

theorem nearest_div (positive : 0 < denominator) (negative : Bool) (numerator : Nat) :
    nearest negative (numerator / denominator) = ofFraction negative numerator denominator := by
  have some : (denominator : ℚ) ≠ 0 := by exact_mod_cast Nat.ne_of_gt positive
  obtain ⟨value, same⟩ : ∃ value : ℚ, value = numerator / denominator := ⟨_, rfl⟩
  have nonnegative : 0 ≤ value := by
    rw [same]
    positivity
  have absolute : (value.num.natAbs : ℚ) = value.num := by
    rw [Nat.cast_natAbs, abs_of_nonneg (Rat.num_nonneg.mpr nonnegative)]
  have crossed : (value.num.natAbs : ℚ) * denominator = numerator * value.den := by
    rw [absolute, ← Rat.mul_den_eq_num, same]
    field_simp
  have crossed : value.num.natAbs * denominator = numerator * value.den := by exact_mod_cast crossed
  rw [← same]
  refine ofUnits_congr value.den_pos positive ?_ negative
  rw [Nat.mul_right_comm, crossed, Nat.mul_right_comm]

theorem nearest_natCast (negative : Bool) (whole : Nat) :
    nearest negative whole = ofFraction negative whole 1 := by
  rw [← nearest_div Nat.one_pos, Nat.cast_one, div_one]

/-- A significand and a scale that are kept in the bits of a finite number. -/
structure Fits (significand scale : Nat) : Prop where
  bounded : significand < 2 * exponentUnit
  normal : scale = 0 ∨ exponentUnit ≤ significand
  finite : scale ≤ 2045

theorem ofMagnitude_magnitude (number : Binary64) :
    ofMagnitude number.isNegative number.magnitude = number := by
  have sign : signBit = 9223372036854775808 := rfl
  have bound := number.bits.toNat_lt
  have whole : (if number.isNegative then signBit else 0) + number.magnitude =
      number.bits.toNat := by
    rw [isNegative, magnitude, sign]
    split <;> rename_i above <;> simp only [decide_eq_true_eq] at above <;> omega
  rw [ofMagnitude, whole, UInt64.ofNat_toNat]

theorem isNegative_ofMagnitude {magnitude : Nat} (small : magnitude < signBit) (negative : Bool) :
    (ofMagnitude negative magnitude).isNegative = negative := by
  have sign : signBit = 9223372036854775808 := rfl
  rw [sign] at small
  cases negative <;>
    · simp only [ofMagnitude, isNegative, UInt64.toNat_ofNat', sign, Bool.false_eq_true, if_false,
        if_true, decide_eq_true_eq, decide_eq_false_iff_not]
      omega

theorem fits_of_view (viewed : number.view = .finite negative significand scale) :
    Fits significand scale ∧
      number = ofMagnitude negative (scale * exponentUnit + significand) := by
  have unit : exponentUnit = 4503599627370496 := rfl
  have top : infinity = 2047 * exponentUnit := rfl
  have positive : 0 < exponentUnit := by decide
  have same := ofMagnitude_magnitude number
  unfold view at viewed
  dsimp only at viewed
  split at viewed
  · cases viewed
  · split at viewed
    · cases viewed
    · split at viewed
      · rename_i first
        cases viewed
        have tiny : number.magnitude < exponentUnit := Nat.lt_of_div_eq_zero positive first
        rw [Nat.mod_eq_of_lt tiny, Nat.zero_mul, Nat.zero_add]
        exact ⟨⟨by omega, .inl rfl, Nat.zero_le _⟩, same.symm⟩
      · rename_i ordered bounded later
        cases viewed
        have split := Nat.div_add_mod number.magnitude exponentUnit
        have small := Nat.mod_lt number.magnitude positive
        have whole : (number.magnitude / exponentUnit - 1) * exponentUnit +
            (exponentUnit + number.magnitude % exponentUnit) = number.magnitude := by
          rw [unit] at split small later ⊢
          omega
        rw [whole]
        refine ⟨⟨by omega, .inr (Nat.le_add_right _ _), ?_⟩, same.symm⟩
        rw [top, unit] at ordered bounded
        rw [unit]
        omega

theorem Fits.lt_infinity (fits : Fits significand scale) :
    scale * exponentUnit + significand < infinity := by
  have top : infinity = 2047 * exponentUnit := rfl
  obtain ⟨bounded, -, finite⟩ := fits
  have scaled := Nat.mul_le_mul_right exponentUnit finite
  omega

theorem view_ofMagnitude (fits : Fits significand scale) (negative : Bool) :
    (ofMagnitude negative (scale * exponentUnit + significand)).view =
      .finite negative significand scale := by
  have unit : exponentUnit = 4503599627370496 := rfl
  have small := fits.lt_infinity
  have below : scale * exponentUnit + significand < signBit :=
    Nat.lt_trans small (by decide)
  obtain ⟨bounded, normal, finite⟩ := fits
  unfold view
  dsimp only
  rw [magnitude_ofMagnitude below, isNegative_ofMagnitude below,
    if_neg (Nat.not_lt_of_lt small), if_neg (Nat.ne_of_lt small)]
  by_cases large : exponentUnit ≤ significand
  · have exponent : (scale * exponentUnit + significand) / exponentUnit = scale + 1 := by
      rw [unit] at bounded large ⊢
      omega
    have fraction : (scale * exponentUnit + significand) % exponentUnit =
        significand - exponentUnit := by
      rw [unit] at bounded large ⊢
      omega
    rw [exponent, fraction, if_neg (Nat.succ_ne_zero scale), Nat.add_sub_cancel' large,
      Nat.add_sub_cancel]
  · obtain rfl := normal.resolve_right large
    have tiny := Nat.lt_of_not_le large
    rw [Nat.zero_mul, Nat.zero_add, Nat.div_eq_of_lt tiny, Nat.mod_eq_of_lt tiny, if_pos rfl]

theorem scale_eq (positive : 0 < denominator) (upper : numerator < denominator * 2 ^ (scale + 53))
    (lower : scale = 0 ∨ denominator * 2 ^ (scale + 52) ≤ numerator) :
    (numerator / denominator).log2 - 52 = scale := by
  have below : numerator / denominator < 2 ^ (scale + 53) := Nat.div_lt_of_lt_mul upper
  by_cases zero : numerator / denominator = 0
  · rw [zero]
    obtain rfl | above := lower
    · rfl
    · have some : 2 ^ (scale + 52) ≤ numerator / denominator :=
        (Nat.le_div_iff_mul_le positive).mpr (by rwa [Nat.mul_comm])
      rw [zero] at some
      exact absurd some (Nat.not_le_of_lt (Nat.two_pow_pos _))
  · have short := (Nat.log2_lt zero).mpr below
    obtain rfl | above := lower
    · omega
    · have some : 2 ^ (scale + 52) ≤ numerator / denominator :=
        (Nat.le_div_iff_mul_le positive).mpr (by rwa [Nat.mul_comm])
      have long := (Nat.le_log2 zero).mpr some
      omega

/-- A fraction is rounded to the nearest multiple of its scale. -/
theorem ofUnits_of_scale (positive : 0 < denominator)
    (upper : numerator < denominator * 2 ^ (scale + 53))
    (lower : scale = 0 ∨ denominator * 2 ^ (scale + 52) ≤ numerator)
    (near : |(numerator / denominator : ℚ) - significand * 2 ^ scale| < 2 ^ scale / 2)
    (negative : Bool) :
    ofUnits negative numerator denominator =
      ofMagnitude negative (min infinity (scale * exponentUnit + significand)) := by
  have unit : (0 : ℚ) < 2 ^ scale := by positivity
  have some : (denominator : ℚ) ≠ 0 := by exact_mod_cast Nat.ne_of_gt positive
  have rounded : roundHalfEven numerator (denominator * 2 ^ scale) = significand := by
    refine roundHalfEven_eq (Nat.mul_pos positive (Nat.two_pow_pos scale)) ?_
    have scaled : (numerator / (denominator * 2 ^ scale : Nat) : ℚ) - significand =
        ((numerator / denominator : ℚ) - significand * 2 ^ scale) / 2 ^ scale := by
      push_cast
      field_simp
    rw [scaled, abs_div, abs_of_pos unit, div_lt_iff₀ unit]
    linarith
  simp only [ofUnits, scale_eq positive upper lower, Nat.pow_eq, rounded]

/-- Just below a power of two, a fraction is rounded up to it on the scale before. -/
theorem ofUnits_of_carry (positive : 0 < denominator)
    (upper : numerator < denominator * 2 ^ (scale + 53))
    (near : |(numerator / denominator : ℚ) - 2 ^ 53 * 2 ^ scale| < 2 ^ scale / 2)
    (negative : Bool) :
    ofUnits negative numerator denominator =
      ofMagnitude negative (min infinity (scale * exponentUnit + 2 ^ 53)) := by
  have some : (0 : ℚ) < denominator := by exact_mod_cast positive
  have step : (0 : ℚ) < 2 ^ scale := by positivity
  have lower : denominator * 2 ^ (scale + 52) ≤ numerator := by
    have value : (2 : ℚ) ^ (scale + 52) ≤ numerator / denominator := by
      rw [abs_lt] at near
      rw [pow_add]
      linarith
    rw [le_div_iff₀ some, mul_comm] at value
    exact_mod_cast value
  exact ofUnits_of_scale positive upper (.inr lower) (by push_cast; exact near) negative

theorem lt_of_near (positive : 0 < denominator) (bounded : significand < 2 * exponentUnit)
    (near : |(numerator / denominator : ℚ) - significand * 2 ^ scale| < 2 ^ scale / 2) :
    numerator < denominator * 2 ^ (scale + 53) := by
  have step : (0 : ℚ) < 2 ^ scale := by positivity
  have some : (0 : ℚ) < denominator := by exact_mod_cast positive
  have whole : (significand : ℚ) + 1 ≤ 2 ^ 53 := by
    have bounded : significand + 1 ≤ 2 ^ 53 := bounded
    exact_mod_cast bounded
  have most := mul_le_mul_of_nonneg_right whole (le_of_lt step)
  have value : (numerator / denominator : ℚ) < 2 ^ (scale + 53) := by
    rw [abs_lt] at near
    rw [pow_add]
    linarith
  rw [div_lt_iff₀ some, mul_comm] at value
  exact_mod_cast value

/-- Of the significands of a scale only the least is near to fractions of the scale before. -/
theorem significand_of_below (positive : 0 < denominator) (large : exponentUnit ≤ significand)
    (near : |(numerator / denominator : ℚ) - significand * 2 ^ (scale + 1)| < 2 ^ (scale + 1) / 2)
    (below : numerator < denominator * 2 ^ (scale + 53)) : significand = exponentUnit := by
  have half : (0 : ℚ) < 2 ^ scale := by positivity
  have some : (0 : ℚ) < denominator := by exact_mod_cast positive
  refine Nat.le_antisymm (Nat.le_of_not_lt fun larger => ?_) large
  have larger : (2 : ℚ) ^ 52 + 1 ≤ significand := by
    have larger : 2 ^ 52 + 1 ≤ significand := larger
    exact_mod_cast larger
  have most := mul_le_mul_of_nonneg_right larger (le_of_lt half)
  have value : (numerator / denominator : ℚ) < 2 ^ 53 * 2 ^ scale := by
    rw [div_lt_iff₀ some, mul_comm, ← pow_add, Nat.add_comm 53]
    exact_mod_cast below
  rw [abs_lt, pow_succ] at near
  linarith

/-- A number is nearest to what is less than half a unit of its significand away from it, or a
quarter where the units below it are half as great. -/
theorem ofUnits_of_near (positive : 0 < denominator) (fits : Fits significand scale)
    (near : |(numerator / denominator : ℚ) - significand * 2 ^ scale| < 2 ^ scale / 2)
    (boundary : significand ≤ exponentUnit →
      |(numerator / denominator : ℚ) - significand * 2 ^ scale| < 2 ^ scale / 4)
    (negative : Bool) :
    ofUnits negative numerator denominator =
      ofMagnitude negative (scale * exponentUnit + significand) := by
  have small := Nat.le_of_lt fits.lt_infinity
  obtain ⟨bounded, normal, finite⟩ := fits
  by_cases lower : scale = 0 ∨ denominator * 2 ^ (scale + 52) ≤ numerator
  · rw [ofUnits_of_scale positive (lt_of_near positive bounded near) lower near,
      Nat.min_eq_right small]
  · obtain ⟨before, rfl⟩ : ∃ before, scale = before + 1 :=
      Nat.exists_eq_succ_of_ne_zero fun first => lower (.inl first)
    have below : numerator < denominator * 2 ^ (before + 53) :=
      Nat.lt_of_not_le fun large => lower (.inr large)
    obtain rfl := significand_of_below positive (normal.resolve_left (Nat.succ_ne_zero before))
      near below
    have unit : exponentUnit = 2 ^ 52 := rfl
    have close := boundary (Nat.le_refl _)
    have same : (exponentUnit : ℚ) * 2 ^ (before + 1) = 2 ^ 53 * 2 ^ before := by
      rw [unit]
      push_cast
      ring
    have quarter : (2 : ℚ) ^ (before + 1) / 4 = 2 ^ before / 2 := by
      rw [pow_succ]
      ring
    rw [same, quarter] at close
    have carried : before * exponentUnit + 2 ^ 53 = (before + 1) * exponentUnit + exponentUnit := by
      rw [unit]
      omega
    rw [ofUnits_of_carry positive below close, carried, Nat.min_eq_right small]

/-- The value of a significand on a scale. -/
def amount (significand scale : Nat) : ℚ :=
  significand * 2 ^ scale / unitsInOne

variable {value : ℚ}

theorem unitsInOne_eq {exponent : Nat} (same : exponent = 1074) : unitsInOne = 2 ^ exponent := by
  unfold unitsInOne
  rw [← same]
  exact Nat.pow_eq

theorem unitsInOne_cast_pos : (0 : ℚ) < unitsInOne :=
  Nat.cast_pos.mpr unitsInOne_pos

@[simp] theorem amount_zero (scale : Nat) : amount 0 scale = 0 := by
  rw [amount, Nat.cast_zero, zero_mul, zero_div]

theorem amount_mul (significand scale : Nat) :
    amount significand scale * unitsInOne = significand * 2 ^ scale := by
  rw [amount, div_mul_cancel₀ _ (ne_of_gt unitsInOne_cast_pos)]

theorem amount_nonneg (significand scale : Nat) : 0 ≤ amount significand scale :=
  div_nonneg (by positivity) (le_of_lt unitsInOne_cast_pos)

theorem amount_pos (positive : 0 < significand) (scale : Nat) : 0 < amount significand scale :=
  div_pos (by positivity) unitsInOne_cast_pos

theorem natAbs_div_den (nonnegative : 0 ≤ value) (factor : Nat) :
    ((value.num.natAbs * factor : Nat) / value.den : ℚ) = value * factor := by
  have absolute : (value.num.natAbs : ℚ) = value.num := by
    rw [Nat.cast_natAbs, abs_of_nonneg (Rat.num_nonneg.mpr nonnegative)]
  rw [Nat.cast_mul, absolute, mul_div_right_comm, Rat.num_div_den]

/-- A number is nearest to what is closer to it, relative to its size, than seventeen digits
round. -/
theorem nearest_of_relative (fits : Fits significand scale)
    (near : |value - amount significand scale| ≤ amount significand scale / (2 * 10 ^ 16))
    (negative : Bool) :
    nearest negative value = ofMagnitude negative (scale * exponentUnit + significand) := by
  have step : (0 : ℚ) < 2 ^ scale := by positivity
  have nonnegative : 0 ≤ value := by
    have lower := neg_le_of_abs_le near
    have amountNonnegative := amount_nonneg significand scale
    linarith
  have scaled : |value * unitsInOne - significand * 2 ^ scale| ≤
      significand * 2 ^ scale / (2 * 10 ^ 16) := by
    rw [← amount_mul, ← sub_mul, abs_mul, abs_of_pos unitsInOne_cast_pos, mul_div_right_comm]
    exact mul_le_mul_of_nonneg_right near (le_of_lt unitsInOne_cast_pos)
  have bounded : (significand : ℚ) ≤ 2 ^ 53 := by
    have bounded : significand ≤ 2 ^ 53 := Nat.le_of_lt fits.bounded
    exact_mod_cast bounded
  have most := mul_le_mul_of_nonneg_right bounded (le_of_lt step)
  refine ofUnits_of_near value.den_pos fits ?_ (fun least => ?_) negative
  · rw [natAbs_div_den nonnegative]
    linarith
  · have least : (significand : ℚ) ≤ 2 ^ 52 := by
      have least : significand ≤ 2 ^ 52 := least
      exact_mod_cast least
    have most := mul_le_mul_of_nonneg_right least (le_of_lt step)
    rw [natAbs_div_den nonnegative]
    linarith

/-- Every finite number is the number nearest to its value. -/
theorem nearest_amount (viewed : number.view = .finite negative significand scale) :
    nearest negative (amount significand scale) = number := by
  obtain ⟨fits, same⟩ := fits_of_view viewed
  rw [same]
  refine nearest_of_relative fits ?_ negative
  rw [sub_self, abs_zero]
  exact div_nonneg (amount_nonneg significand scale) (by norm_num)

theorem amount_eq_iff : amount significand scale = whole ↔
    significand * 2 ^ scale = whole * unitsInOne := by
  rw [amount, div_eq_iff (ne_of_gt unitsInOne_cast_pos)]
  exact_mod_cast Iff.rfl

theorem exists_fits (small : whole < 2 ^ 53) :
    ∃ significand scale, Fits significand scale ∧ amount significand scale = whole := by
  by_cases zero : whole = 0
  · exact ⟨0, 0, ⟨by decide, .inl rfl, by decide⟩, by rw [amount_zero, zero, Nat.cast_zero]⟩
  · have short : whole.log2 < 53 := (Nat.log2_lt zero).mpr small
    have lower : 2 ^ whole.log2 ≤ whole := Nat.log2_self_le zero
    have upper : whole < 2 ^ (whole.log2 + 1) := Nat.lt_log2_self
    have positive : 0 < 2 ^ (52 - whole.log2) := Nat.two_pow_pos _
    refine ⟨whole * 2 ^ (52 - whole.log2), 1022 + whole.log2, ⟨?_, .inr ?_, by omega⟩, ?_⟩
    · have unit : 2 * exponentUnit = 2 ^ (whole.log2 + 1) * 2 ^ (52 - whole.log2) := by
        rw [← Nat.pow_add, show whole.log2 + 1 + (52 - whole.log2) = 53 by omega]
        rfl
      rw [unit]
      exact Nat.mul_lt_mul_of_pos_right upper positive
    · have unit : exponentUnit = 2 ^ whole.log2 * 2 ^ (52 - whole.log2) := by
        rw [← Nat.pow_add, show whole.log2 + (52 - whole.log2) = 52 by omega]
        rfl
      rw [unit]
      exact Nat.mul_le_mul_right _ lower
    · have sum : 52 - whole.log2 + (1022 + whole.log2) = 1074 := by omega
      rw [amount_eq_iff, unitsInOne_eq sum, Nat.mul_assoc, ← Nat.pow_add]

theorem view_nearest_whole (small : whole < 2 ^ 53) (negative : Bool) :
    ∃ significand scale, (nearest negative whole).view = .finite negative significand scale ∧
      amount significand scale = whole := by
  obtain ⟨significand, scale, fits, exact⟩ := exists_fits small
  refine ⟨significand, scale, ?_, exact⟩
  rw [← exact, ← view_ofMagnitude fits negative]
  exact congrArg view (nearest_amount (view_ofMagnitude fits negative))

/-- What is nearest to a great whole number has a scale on which all numbers are whole. -/
theorem scale_of_nearest_large (large : 2 ^ 53 ≤ whole)
    (viewed : (nearest negative whole).view = .finite negative significand scale) :
    1074 ≤ scale := by
  obtain ⟨fits, same⟩ := fits_of_view viewed
  have direct := nearest_natCast negative whole
  have long : 1127 ≤ (whole * unitsInOne / 1).log2 := by
    obtain ⟨exponent, same⟩ : ∃ exponent, exponent = 1074 := ⟨_, rfl⟩
    have scaled : 2 ^ (53 + exponent) ≤ whole * unitsInOne := by
      rw [unitsInOne_eq same, Nat.pow_add]
      exact Nat.mul_le_mul_right (2 ^ exponent) large
    have some : whole * unitsInOne ≠ 0 :=
      Nat.ne_of_gt (Nat.lt_of_lt_of_le (Nat.two_pow_pos _) scaled)
    have bound := (Nat.le_log2 some).mpr scaled
    rw [Nat.div_one]
    omega
  have magnitudes := congrArg magnitude (direct.symm.trans same)
  have top : infinity < signBit := by decide
  have below := fits.lt_infinity
  simp only [ofFraction, ofUnits] at magnitudes
  rw [magnitude_ofMagnitude (Nat.lt_of_le_of_lt (Nat.min_le_left _ _) top),
    magnitude_ofMagnitude (Nat.lt_trans below top)] at magnitudes
  have bounded := fits.bounded
  have wide := Nat.mul_le_mul_right exponentUnit (Nat.sub_le_sub_right long 52)
  refine Nat.le_of_not_lt fun small => ?_
  have narrow := Nat.mul_le_mul_right exponentUnit (Nat.lt_succ_iff.mp small)
  omega

/-- What is nearest to a whole number is whole, and that number itself if it is not too great. -/
theorem whole_of_nearest
    (viewed : (nearest negative whole).view = .finite negative significand scale) :
    ∃ exact : Nat, amount significand scale = exact ∧ (whole < 2 ^ 53 → exact = whole) := by
  by_cases small : whole < 2 ^ 53
  · obtain ⟨otherSignificand, otherScale, otherViewed, exact⟩ := view_nearest_whole small negative
    obtain ⟨-, rfl, rfl⟩ := View.finite.inj (viewed.symm.trans otherViewed)
    exact ⟨whole, exact, fun _ => rfl⟩
  · have scaled := scale_of_nearest_large (Nat.le_of_not_lt small) viewed
    obtain ⟨more, same⟩ := Nat.exists_eq_add_of_le' scaled
    obtain ⟨exponent, bound⟩ : ∃ exponent, exponent = 1074 := ⟨_, rfl⟩
    refine ⟨significand * 2 ^ more, ?_, fun below => absurd below small⟩
    rw [amount_eq_iff, same, unitsInOne_eq bound, ← bound, Nat.pow_add, Nat.mul_assoc]

/-- Only the zeros are of equal value and not the same. -/
theorem sameValue_iff {other : Binary64} (viewed : number.view = .finite negative significand scale)
    (positive : 0 < significand) : other.sameValue number = true ↔ other = number := by
  obtain ⟨bits⟩ := other
  obtain ⟨otherBits⟩ := number
  unfold sameValue
  rw [viewed, mk.injEq]
  split
  · rename_i none
    refine iff_of_false Bool.false_ne_true fun same => ?_
    rw [same, viewed] at none
    cases none
  · rename_i zero
    cases zero
    exact absurd positive (Nat.lt_irrefl 0)
  · exact beq_iff_eq

theorem sameValue_self (viewed : number.view = .finite negative significand scale) :
    number.sameValue number = true := by
  cases significand with
  | zero => simp only [sameValue, viewed]
  | succ significand => exact (sameValue_iff viewed (Nat.succ_pos significand)).mpr rfl

end MeterTelegram.Binary64
