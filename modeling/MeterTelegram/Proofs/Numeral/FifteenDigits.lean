import MeterTelegram.Proofs.Binary64.RelativeError
import MeterTelegram.Proofs.Numeral.Shortest

namespace MeterTelegram

/-! Decimal fractions of fifteen digits survive in binary: the number nearest to such a fraction
is written as the fraction itself. Only one decimal of fifteen digits is as near to a number as
what is rounded to it, so none of fewer digits reads back in its place. -/

namespace Numeral

variable {numeral : Numeral} {text : Text} {value other : ℚ}

/-- The rational number that a numeral stands for. -/
def signed (numeral : Numeral) : ℚ :=
  if numeral.negative then -numeral.value else numeral.value

def Denotes (text : Text) (value : ℚ) : Prop :=
  ∃ numeral, ofText? text = some numeral ∧ numeral.signed = value

theorem Denotes.unique (denotes : Denotes text value) (others : Denotes text other) :
    value = other := by
  obtain ⟨numeral, read, rfl⟩ := denotes
  obtain ⟨another, readAgain, rfl⟩ := others
  rw [Option.some.inj (read.symm.trans readAgain)]

theorem denotes_text (fills : numeral.Fills) : Denotes numeral.text numeral.signed := by
  obtain ⟨read, found, sign, same⟩ := value_of_text fills
  exact ⟨read, found, by rw [signed, sign, same, signed]⟩

/-- Multiples of a power of ten. -/
def OnGrid (places : Int) (value : ℚ) : Prop :=
  ∃ whole : Nat, value * 10 ^ places = whole

theorem OnGrid.eq {places : Int} (grid : OnGrid places value) (otherGrid : OnGrid places other)
    (near : |value - other| * 10 ^ places < 1) : value = other := by
  have unit : (0 : ℚ) < 10 ^ places := zpow_pos (by norm_num) _
  obtain ⟨whole, same⟩ := grid
  obtain ⟨otherWhole, otherSame⟩ := otherGrid
  rw [← abs_of_pos unit, ← abs_mul, sub_mul, same, otherSame] at near
  have wholes : whole = otherWhole := by
    have integers : |(whole : Int) - otherWhole| < 1 := by exact_mod_cast near
    rw [Int.abs_lt_one_iff] at integers
    omega
  rw [wholes, ← otherSame] at same
  exact mul_right_cancel₀ (ne_of_gt unit) same

end Numeral

namespace Binary64

variable {number : Binary64} {negative : Bool} {significand scale precision digits : Nat}
  {value other : ℚ}

/-- As near as a value is to the number that it is rounded to. -/
def Near (value : ℚ) (significand scale : Nat) : Prop :=
  |value - amount significand scale| ≤ amount significand scale / 2 ^ 53

/-- The power of ten of the leading digit. -/
def leading (significand scale : Nat) : Int :=
  Numeral.leadingExponent (significand * Nat.pow 2 scale) unitsInOne

theorem leading_spec (some : 0 < significand) (scale : Nat) :
    (10 : ℚ) ^ leading significand scale ≤ amount significand scale ∧
      amount significand scale < 10 ^ (leading significand scale + 1) := by
  rw [← amount_eq]
  exact Numeral.leadingExponent_spec (measured some scale)

/-- The distance of a near value is small beside the unit of the fifteenth digit. -/
theorem Near.scaled (near : Near value significand scale) (some : 0 < significand) :
    |value - amount significand scale| * 10 ^ (14 - leading significand scale) < 1 / 8 := by
  have unit : (0 : ℚ) < 10 ^ (14 - leading significand scale) := zpow_pos (by norm_num) _
  have all : leading significand scale + 1 + (14 - leading significand scale) = (15 : Nat) := by
    push_cast
    ring
  have upper := mul_lt_mul_of_pos_right (leading_spec some scale).2 unit
  rw [Numeral.ten_zpow_mul all, zpow_natCast] at upper
  calc |value - amount significand scale| * 10 ^ (14 - leading significand scale)
    _ ≤ amount significand scale / 2 ^ 53 * 10 ^ (14 - leading significand scale) :=
      mul_le_mul_of_nonneg_right near (le_of_lt unit)
    _ = amount significand scale * 10 ^ (14 - leading significand scale) / 2 ^ 53 := by ring
    _ < 10 ^ 15 / 2 ^ 53 := by linarith
    _ < 1 / 8 := by norm_num

theorem eq_of_near (some : 0 < significand) (near : Near value significand scale)
    (nearOther : Near other significand scale)
    (grid : Numeral.OnGrid (14 - leading significand scale) value)
    (otherGrid : Numeral.OnGrid (14 - leading significand scale) other) : value = other := by
  refine grid.eq otherGrid ?_
  have unit : (0 : ℚ) < 10 ^ (14 - leading significand scale) := zpow_pos (by norm_num) _
  have apart : |value - other| ≤
      |value - amount significand scale| + |other - amount significand scale| := by
    rw [abs_sub_comm other]
    exact abs_sub_le _ _ _
  have scaled := mul_le_mul_of_nonneg_right apart (le_of_lt unit)
  have first := near.scaled some
  have second := nearOther.scaled some
  rw [add_mul] at scaled
  linarith

theorem value_numeral (some : 0 < significand) (present : 0 < precision) (negative : Bool)
    (scale : Nat) :
    (numeral negative significand scale precision).value =
      Numeral.rounded (significand * Nat.pow 2 scale) unitsInOne precision *
        10 ^ (leading significand scale - (precision - 1)) := by
  rw [numeral_of_pos some, Numeral.value_ofFraction present]
  rfl

/-- With fifteen digits a number is rounded to the decimal it was made from. -/
theorem value_numeral_of_near (some : 0 < significand) (near : Near value significand scale)
    (grid : Numeral.OnGrid (14 - leading significand scale) value) (negative : Bool) :
    (numeral negative significand scale 15).value = value := by
  obtain ⟨whole, same⟩ := grid
  have places : ((15 : Nat) : Int) - 1 - leading significand scale =
      14 - leading significand scale := by omega
  have back : 14 - leading significand scale + (leading significand scale - ((15 : Nat) - 1)) =
      0 := by omega
  have rounded : Numeral.rounded (significand * Nat.pow 2 scale) unitsInOne 15 = whole := by
    refine Numeral.rounded_eq unitsInOne_pos ?_
    have unit : (0 : ℚ) < 10 ^ (14 - leading significand scale) := zpow_pos (by norm_num) _
    have close := near.scaled some
    rw [amount_eq, ← leading, places, ← same, ← sub_mul, abs_mul, abs_of_pos unit, abs_sub_comm]
    linarith
  rw [value_numeral some (by decide), rounded, ← same, mul_assoc, Numeral.ten_zpow_mul back,
    zpow_zero, mul_one]

theorem onGrid_numeral (some : 0 < significand) (present : 0 < precision) (few : precision ≤ 15)
    (negative : Bool) (scale : Nat) :
    Numeral.OnGrid (14 - leading significand scale)
      (numeral negative significand scale precision).value := by
  have places : leading significand scale - (precision - 1) + (14 - leading significand scale) =
      ((15 - precision : Nat) : Int) := by omega
  refine ⟨Numeral.rounded (significand * Nat.pow 2 scale) unitsInOne precision *
    10 ^ (15 - precision), ?_⟩
  rw [value_numeral some present, mul_assoc, Numeral.ten_zpow_mul places, zpow_natCast]
  push_cast
  rfl

theorem value_numeral_bounds (some : 0 < significand) (present : 0 < precision)
    (negative : Bool) (scale : Nat) :
    (10 : ℚ) ^ leading significand scale ≤ (numeral negative significand scale precision).value ∧
      (numeral negative significand scale precision).value ≤
        10 ^ (leading significand scale + 1) := by
  obtain ⟨lower, upper⟩ := Numeral.rounded_bounds (measured some scale) present
  have unit : (0 : ℚ) < 10 ^ (leading significand scale - (precision - 1)) :=
    zpow_pos (by norm_num) _
  have least : ((precision - 1 : Nat) : Int) + (leading significand scale - (precision - 1)) =
      leading significand scale := by omega
  have most : (precision : Int) + (leading significand scale - (precision - 1)) =
      leading significand scale + 1 := by omega
  rw [value_numeral some present, ← Numeral.ten_zpow_mul least, ← Numeral.ten_zpow_mul most,
    zpow_natCast, zpow_natCast]
  exact ⟨mul_le_mul_of_nonneg_right (by exact_mod_cast lower) (le_of_lt unit),
    mul_le_mul_of_nonneg_right (by exact_mod_cast upper) (le_of_lt unit)⟩

/-- A decimal of fifteen digits is a multiple of the unit of the fifteenth digit of the number
that is nearest to it. -/
theorem onGrid_of_digits {exponent : Int} (some : 0 < significand)
    (near : Near value significand scale) (spelled : value = digits * 10 ^ exponent)
    (few : digits < 10 ^ 15) : Numeral.OnGrid (14 - leading significand scale) value := by
  have unit : (0 : ℚ) < 10 ^ exponent := zpow_pos (by norm_num) _
  have low : leading significand scale ≤ exponent + 14 := by
    refine le_of_not_gt fun high => ?_
    have raised : (10 : ℚ) ^ (exponent + (15 : Nat)) ≤ 10 ^ leading significand scale :=
      zpow_le_zpow_right₀ (by norm_num) (by omega)
    have lower := (leading_spec some scale).1
    have distance := abs_le.mp near
    have short : (digits : ℚ) + 1 ≤ 10 ^ 15 := by exact_mod_cast few
    have most := mul_le_mul_of_nonneg_right short (le_of_lt unit)
    rw [zpow_add₀ (by norm_num), zpow_natCast] at raised
    linarith
  have places : exponent + (14 - leading significand scale) =
      ((exponent + 14 - leading significand scale).toNat : Int) := by omega
  refine ⟨digits * 10 ^ (exponent + 14 - leading significand scale).toNat, ?_⟩
  rw [spelled, mul_assoc, Numeral.ten_zpow_mul places, zpow_natCast]
  push_cast
  rfl

/-- What is read as a number is near to it. -/
theorem near_of_toBinary64 (viewed : number.view = .finite negative significand scale)
    (normal : Normal (numeral negative significand scale precision).value)
    (reads : (numeral negative significand scale precision).toBinary64 = number) :
    Near (numeral negative significand scale precision).value significand scale := by
  obtain ⟨nearSignificand, nearScale, -, nearViewed, near⟩ := view_nearest normal negative
  rw [Numeral.toBinary64_eq, negative_numeral] at reads
  rw [reads, viewed] at nearViewed
  obtain ⟨-, rfl, rfl⟩ := View.finite.inj nearViewed
  exact near

theorem exists_denoted (viewed : number.view = .finite negative significand scale) :
    ∃ chosen, IsLeast number.readingBack chosen ∧
      Numeral.Denotes number.text (numeral negative significand scale chosen).signed := by
  obtain ⟨chosen, least, same⟩ := exists_least viewed
  have denotes := Numeral.denotes_text (fills_numeral least.1.1 negative significand scale)
  refine ⟨chosen, least, ?_⟩
  rw [same, withDigits, viewed]
  exact denotes

/-- The number nearest to a decimal of fifteen digits is written as that decimal. -/
theorem denotes_nearest {exponent : Int} (small : Normal (value / 20)) (large : Normal (20 * value))
    (spelled : value = digits * 10 ^ exponent) (few : digits < 10 ^ 15) (negative : Bool) :
    Numeral.Denotes (nearest negative value).text (if negative then -value else value) := by
  have positive : 0 < value := by
    have part := small.pos
    linarith
  have normal : Normal value :=
    ⟨le_trans small.lower (by linarith), lt_trans (by linarith) large.upper⟩
  obtain ⟨significand, scale, some, viewed, near⟩ := view_nearest normal negative
  have grid := onGrid_of_digits some near spelled few
  have fifteen := value_numeral_of_near some near grid negative
  have listed : 15 ∈ (nearest negative value).readingBack := by
    refine ⟨by decide, by decide, (readsBack_iff viewed (by decide)).mpr ?_⟩
    rw [Numeral.toBinary64_eq, negative_numeral, fifteen]
  obtain ⟨chosen, least, denotes⟩ := exists_denoted viewed
  have reads := (readsBack_iff viewed least.1.1).mp least.1.2.2
  obtain ⟨lower, upper⟩ := value_numeral_bounds some least.1.1 negative scale
  have normalChosen : Normal (numeral negative significand scale chosen).value := by
    obtain ⟨amountLower, amountUpper⟩ := leading_spec some scale
    rw [zpow_add₀ (by norm_num), zpow_one] at upper amountUpper
    have distance := abs_le.mp near
    exact ⟨le_trans small.lower (by linarith), lt_of_le_of_lt (by linarith) large.upper⟩
  have same : value = (numeral negative significand scale chosen).value :=
    eq_of_near some near (near_of_toBinary64 viewed normalChosen reads) grid
      (onGrid_numeral some least.1.1 (least.2 listed) negative scale)
  rwa [Numeral.signed, negative_numeral, ← same] at denotes

end Binary64

end MeterTelegram
