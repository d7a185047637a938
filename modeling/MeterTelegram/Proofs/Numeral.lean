import MeterTelegram.Binary64.Numeral
import MeterTelegram.Proofs.Binary64
import MeterTelegram.Proofs.Json

namespace MeterTelegram

/-! Numerals of finite numbers are numbers of JSON: their digits are decimal, and an integer part
of more than one digit begins with another digit than zero. -/

namespace Numeral

open Json

variable {numeral : Numeral} {whole fraction : Text} {numerator denominator precision : Nat}

theorem isDecimal_withoutTrailingZeros (decimal : Text.IsDecimal fraction) :
    Text.IsDecimal (withoutTrailingZeros fraction) := by
  intro byte listed
  have kept := (List.dropWhile_suffix _).subset (List.mem_reverse.mp listed)
  exact decimal byte (List.mem_reverse.mp kept)

theorem pointed_eq (whole : Text) (decimal : Text.IsDecimal fraction) :
    ∃ behind, pointed whole fraction = whole ++ behind ∧ IsFraction behind := by
  have kept := isDecimal_withoutTrailingZeros decimal
  unfold pointed
  cases digits : withoutTrailingZeros fraction with
  | nil => exact ⟨[], (List.append_nil whole).symm, .inl rfl⟩
  | cons digit rest =>
      rw [digits] at kept
      exact ⟨46 :: digit :: rest, rfl, .inr ⟨digit :: rest, rfl, List.cons_ne_nil _ _, kept⟩⟩

theorem isExponent_exponentText (exponent : Int) : IsExponent (101 :: exponentText exponent) := by
  have digits := Text.ofIntPadded_natCast 2 exponent.natAbs
  have decimal := (Text.isDecimal_ofNat exponent.natAbs).leftpad 2
  rw [← digits] at decimal
  refine .inr ⟨101, [if exponent < 0 then 45 else 43], Text.ofIntPadded 2 exponent.natAbs, rfl,
    .inl rfl, ?_, ?_, decimal⟩
  · split
    · exact .inr (.inr rfl)
    · exact .inr (.inl rfl)
  · rw [digits, List.leftpad]
    exact List.append_ne_nil_of_right_ne_nil _ (Text.ofNat_ne_nil _)

theorem isDecimal_digits (numeral : Numeral) : Text.IsDecimal numeral.digits :=
  (Text.isDecimal_ofNat _).leftpad _

theorem digits_ne_nil (numeral : Numeral) : numeral.digits ≠ [] := by
  rw [digits, List.leftpad]
  exact List.append_ne_nil_of_right_ne_nil _ (Text.ofNat_ne_nil _)

theorem isWhole_of_digit {digit : UInt8} (decimal : 48 ≤ digit ∧ digit ≤ 57) : IsWhole [digit] := by
  by_cases zero : digit = 48
  · exact .inl (by rw [zero])
  · refine .inr ⟨digit, [], rfl, ⟨?_, decimal.2⟩, by simp [Text.IsDecimal]⟩
    have lower := UInt8.le_iff_toNat_le.mp decimal.1
    have other : digit.toNat ≠ 48 := fun same => zero (UInt8.toNat_inj.mp same)
    rw [UInt8.le_iff_toNat_le]
    change 48 ≤ digit.toNat at lower
    change 49 ≤ digit.toNat
    omega

theorem isWhole_take_one (numeral : Numeral) : IsWhole (numeral.digits.take 1) := by
  have decimal := isDecimal_digits numeral
  cases digits : numeral.digits with
  | nil => exact absurd digits (digits_ne_nil numeral)
  | cons first rest =>
      rw [digits] at decimal
      exact isWhole_of_digit (decimal first List.mem_cons_self)

/-- The coefficient fills the digits where several of them stand before the point. -/
def Leading (numeral : Numeral) : Prop :=
  1 ≤ numeral.exponent → numeral.exponent < numeral.precision →
    10 ^ (numeral.precision - 1) ≤ numeral.coefficient

theorem isWhole_take (leading : numeral.Leading) (positive : 0 ≤ numeral.exponent)
    (below : numeral.exponent < numeral.precision) :
    IsWhole (numeral.digits.take (numeral.exponent.toNat + 1)) := by
  by_cases zero : numeral.exponent = 0
  · rw [zero]
    exact isWhole_take_one numeral
  · have filled := leading (by omega) below
    have length : ¬ (Text.ofNat numeral.coefficient).length ≤ numeral.precision - 1 := by
      rw [Text.length_ofNat_le_iff (by omega)]
      omega
    have digits : numeral.digits = Text.ofNat numeral.coefficient := by
      rw [Numeral.digits, List.leftpad, Nat.sub_eq_zero_of_le (by omega)]
      rfl
    have present : 0 < numeral.coefficient :=
      Nat.lt_of_lt_of_le (Nat.pow_pos (by decide)) filled
    obtain ⟨first, rest, spelled, bounds⟩ := Text.ofNat_of_pos present
    have decimal := Text.isDecimal_ofNat numeral.coefficient
    rw [spelled] at decimal
    rw [digits, spelled]
    exact .inr ⟨first, rest.take numeral.exponent.toNat, rfl, bounds,
      fun byte listed => decimal byte (List.mem_cons_of_mem _ (List.mem_of_mem_take listed))⟩

theorem isUnsigned_unsignedText (leading : numeral.Leading) :
    IsUnsigned numeral.unsignedText := by
  have decimal := isDecimal_digits numeral
  have behind (count : Nat) : Text.IsDecimal (numeral.digits.drop count) :=
    fun byte listed => decimal byte (List.mem_of_mem_drop listed)
  unfold unsignedText
  dsimp only
  split
  · obtain ⟨fraction, spelled, isFraction⟩ := pointed_eq (numeral.digits.take 1) (behind 1)
    rw [spelled]
    exact .mk (isWhole_take_one numeral) isFraction (isExponent_exponentText numeral.exponent)
  · rename_i positional
    have positional : -4 ≤ numeral.exponent ∧ numeral.exponent < numeral.precision := by
      simpa [isPositional] using positional
    split
    · have padded := (Text.isDecimal_replicate ((-numeral.exponent).toNat - 1)).append decimal
      obtain ⟨fraction, spelled, isFraction⟩ := pointed_eq [48] padded
      rw [spelled]
      simpa using IsUnsigned.mk (.inl rfl) isFraction (.inl rfl)
    · obtain ⟨fraction, spelled, isFraction⟩ := pointed_eq
        (numeral.digits.take (numeral.exponent.toNat + 1)) (behind _)
      rw [spelled]
      have whole := isWhole_take leading (by omega) positional.2
      simpa using IsUnsigned.mk whole isFraction (.inl rfl)

theorem isNumber_text (leading : numeral.Leading) : IsNumber numeral.text := by
  have unsigned := isUnsigned_unsignedText leading
  unfold text
  split
  · exact .negative unsigned
  · exact .positive unsigned

theorem le_of_leadingExponent {exponent : Nat}
    (leading : leadingExponent numerator denominator = exponent) :
    10 ^ exponent * denominator ≤ numerator := by
  unfold leadingExponent at leading
  generalize same : 400 = scale at leading
  have long : ¬ (Nat.toDigits 10 (numerator * Nat.pow 10 scale / denominator)).length ≤
      exponent + scale := by omega
  rw [Nat.length_toDigits_le_iff (by decide) (by omega), Nat.not_lt, Nat.pow_eq] at long
  have scaled : 10 ^ (exponent + scale) * denominator ≤ numerator * 10 ^ scale :=
    Nat.le_trans (Nat.mul_le_mul_right denominator long) (Nat.div_mul_le_self _ _)
  rw [Nat.pow_add, Nat.mul_right_comm] at scaled
  exact Nat.le_of_mul_le_mul_right scaled (Nat.pow_pos (by decide))

theorem leading_ofFraction (negative : Bool) (positive : 0 < denominator) :
    (ofFraction negative precision numerator denominator).Leading := by
  unfold ofFraction
  dsimp only
  split
  · intro _ _
    exact Nat.le_refl _
  · intro lower upper
    dsimp only at lower upper ⊢
    obtain ⟨exponent, same⟩ := Int.eq_ofNat_of_zero_le (a := leadingExponent numerator denominator)
      (by omega)
    have large := le_of_leadingExponent same
    have shift : ((precision : Int) - 1 - leadingExponent numerator denominator).toNat =
        precision - 1 - exponent := by omega
    have rounded := Binary64.le_roundHalfEven
      (numerator * Nat.pow 10 (precision - 1 - exponent)) denominator
    unfold roundScaled
    rw [if_pos (by omega), shift]
    refine Nat.le_trans ((Nat.le_div_iff_mul_le positive).mpr ?_) rounded
    have split : 10 ^ (precision - 1) = 10 ^ (precision - 1 - exponent) * 10 ^ exponent := by
      rw [← Nat.pow_add]
      congr 1
      omega
    rw [split, Nat.mul_assoc, Nat.mul_comm]
    exact Nat.mul_le_mul_right _ large

end Numeral

namespace Binary64

variable {number : Binary64}

theorem firstReadingBack_eq (number : Binary64) (candidate : Nat → Numeral)
    (more precision : Nat) :
    ∃ chosen, firstReadingBack number candidate more precision = candidate chosen := by
  induction more generalizing precision with
  | zero => exact ⟨precision, rfl⟩
  | succ more ih =>
      unfold firstReadingBack
      split
      · exact ⟨precision, rfl⟩
      · exact ih (precision + 1)

theorem leading_numeral (negative : Bool) (significand scale precision : Nat) :
    (numeral negative significand scale precision).Leading := by
  unfold numeral
  split
  · intro lower _
    contradiction
  · exact Numeral.leading_ofFraction negative unitsInOne_pos

/-- Finite numbers are written as numbers. -/
theorem IsFinite.isNumber_text (finite : number.IsFinite) : Json.IsNumber number.text := by
  obtain ⟨negative, significand, scale, viewed⟩ := finite
  obtain ⟨chosen, found⟩ :=
    firstReadingBack_eq number (numeral negative significand scale) (maxPrecision - 1) 1
  simp only [text, viewed, found]
  exact Numeral.isNumber_text (leading_numeral negative significand scale chosen)

theorem text_forms (number : Binary64) : Json.IsNumber number.text ∨
    number.text = "null" ∨ ∃ negative, number.text = infiniteText negative := by
  cases shown : number.view with
  | nan => exact .inr (.inl (by rw [text, shown]))
  | infinite negative => exact .inr (.inr ⟨negative, by rw [text, shown]⟩)
  | finite negative significand scale =>
      have finite : number.IsFinite := ⟨negative, significand, scale, shown⟩
      exact .inl finite.isNumber_text

theorem text_ne_nil (number : Binary64) : number.text ≠ [] := by
  rcases number.text_forms with finite | same | ⟨negative, same⟩
  · exact finite.ne_nil
  · rw [same]
    decide +kernel
  · rw [same]
    cases negative <;> decide +kernel

end Binary64

end MeterTelegram
