import MeterTelegram.Proofs.PackedDate
import MeterTelegram.Proofs.Text.Decimal

namespace MeterTelegram.Date

/-! The texts of dates whose year has four digits. -/

variable {date : Date}

/-- Four digits of the year, two of the month and two of the day, with dashes between them. -/
def IsDashed (text : Text) : Prop :=
  ∃ year month day : Text, text = year ++ "-" ++ month ++ "-" ++ day ∧
    Text.HasDigits 4 year ∧ Text.HasDigits 2 month ∧ Text.HasDigits 2 day

theorem isDashed_text (valid : date.isValid = true) (lower : 1000 ≤ date.year)
    (upper : date.year ≤ 9999) : IsDashed date.text := by
  obtain ⟨monthLower, monthUpper, dayLower, dayUpper⟩ := PackedDate.day_bounds valid
  obtain ⟨year, years⟩ := Int.eq_ofNat_of_zero_le (a := date.year) (by omega)
  obtain ⟨month, months⟩ := Int.eq_ofNat_of_zero_le (a := date.month) (by omega)
  obtain ⟨day, days⟩ := Int.eq_ofNat_of_zero_le (a := date.day) (by omega)
  refine ⟨Text.ofNat year, (Text.ofNat month).leftpad 2 48, (Text.ofNat day).leftpad 2 48, ?_,
    ?_, ?_, ?_⟩
  · rw [text, years, months, days, Text.ofInt_natCast, Text.ofIntPadded_natCast,
      Text.ofIntPadded_natCast]
  · exact Text.hasDigits_ofNat (by decide) (by omega) (by omega)
  · exact Text.hasDigits_leftpad (by decide) (by omega)
  · exact Text.hasDigits_leftpad (by decide) (by omega)

end MeterTelegram.Date
