import MeterTelegram.PackedDate
import MeterTelegram.Proofs.Calendar.Gregorian
import MeterTelegram.Proofs.Counter

namespace MeterTelegram.PackedDate

/-! Packed dates: what a word says, when it is a date of the calendar, and that
the words of valid dates say these dates again. -/

open Buffer

variable {kind : Kind} {word offset : Nat} {date past current : Date} {buffer : List UInt8}

theorem check_of_isValid (valid : date.isValid = true) : check kind word date = .ok date := by
  obtain ⟨first, last, -, -⟩ := Date.isValid_iff.mp valid
  rw [check, if_neg (by omega), if_pos valid]

theorem check_ok {result : Date} (accepted : check kind word date = .ok result) :
    result = date ∧ date.isValid = true := by
  unfold check at accepted
  split at accepted
  · contradiction
  · split at accepted
    · rename_i valid
      exact ⟨(Except.ok.inj accepted).symm, valid⟩
    · contradiction

inductive Fault.OfDate : Fault → Prop where
  | month (kind : Kind) (word : Nat) (month : Int) : OfDate (.month kind word month)
  | day (kind : Kind) (word : Nat) (date : Date) : OfDate (.day kind word date)

theorem check_of_not_isValid (kind : Kind) (word : Nat) (invalid : date.isValid = false) :
    ∃ fault, check kind word date = .error fault ∧ fault.OfDate := by
  unfold check
  split
  · exact ⟨_, rfl, .month ..⟩
  · rw [invalid]
    exact ⟨_, rfl, .day ..⟩

theorem readWord_of_room (room : offset + 2 ≤ buffer.length) :
    readWord buffer offset = .ok (Counter.value (excerpt buffer offset 2)) := by
  have allowed : Counter.Allowed 2 := ⟨by decide, by decide⟩
  rw [readWord, Counter.read_of_room allowed room]
  rfl

theorem readWord_ok (readOk : readWord buffer offset = .ok word) :
    offset + 2 ≤ buffer.length :=
  (Counter.read_ok (Results.ok_of_mapError readOk)).2.1

theorem readPast_of_room (room : offset + 2 ≤ buffer.length) :
    readPast buffer offset =
      check .past (Counter.value (excerpt buffer offset 2))
        (pastDate (Counter.value (excerpt buffer offset 2))) := by
  rw [readPast, readWord_of_room room]
  rfl

theorem readCurrent_of_room (room : offset + 2 ≤ buffer.length) :
    readCurrent buffer offset past =
      check .current (Counter.value (excerpt buffer offset 2))
        (currentDate past (Counter.value (excerpt buffer offset 2))) := by
  rw [readCurrent, readWord_of_room room]
  rfl

theorem readPast_ok (readOk : readPast buffer offset = .ok date) : offset + 2 ≤ buffer.length := by
  obtain ⟨word, first, _⟩ := Results.ok_of_bind readOk
  exact readWord_ok first

theorem readCurrent_ok (readOk : readCurrent buffer offset past = .ok date) :
    offset + 2 ≤ buffer.length := by
  obtain ⟨word, first, _⟩ := Results.ok_of_bind readOk
  exact readWord_ok first

theorem day_bounds (valid : date.isValid = true) :
    1 ≤ date.month ∧ date.month ≤ 12 ∧ 1 ≤ date.day ∧ date.day ≤ 31 := by
  obtain ⟨days, length, begun, ended⟩ := Gregorian.isValid_iff_isDay.mp valid
  obtain ⟨first, last⟩ := length.month_bounds
  have longest := length.bounds.2
  exact ⟨first, last, begun, by omega⟩

theorem year_pastDate (word : Nat) :
    2000 ≤ (pastDate word).year ∧ (pastDate word).year ≤ 2127 := by
  simp only [pastDate, baseYear]
  omega

theorem year_currentDate (past : Date) (word : Nat) :
    past.year ≤ (currentDate past word).year ∧ (currentDate past word).year ≤ past.year + 1 := by
  simp only [currentDate, yearAfter]
  split <;> omega

theorem encodePast_lt (date : Date) : encodePast date < 256 ^ 2 := by
  unfold encodePast
  omega

theorem encodeCurrent_lt (month day : Int) : encodeCurrent month day < 256 ^ 2 := by
  unfold encodeCurrent
  omega

theorem pastDate_encodePast (valid : date.isValid = true) (first : 2000 ≤ date.year)
    (last : date.year ≤ 2127) : pastDate (encodePast date) = date := by
  have bounds := day_bounds valid
  obtain ⟨year, month, day⟩ := date
  simp only [pastDate, encodePast, baseYear, Date.mk.injEq] at *
  omega

/-- In the year after a past date each month and day comes once, in the year
that `yearAfter` chooses. -/
theorem yearAfter_of_within (after : past.before current = true)
    (within : Date.before { past with year := past.year + 1 } current = false) :
    yearAfter past current.month current.day = current.year := by
  rw [Date.before_iff] at after
  rw [Date.before_eq_false] at within
  dsimp only at within
  rw [yearAfter]
  split <;> omega

theorem currentDate_encodeCurrent (valid : current.isValid = true)
    (after : past.before current = true)
    (within : Date.before { past with year := past.year + 1 } current = false) :
    currentDate past (encodeCurrent current.month current.day) = current := by
  have bounds := day_bounds valid
  have month : (encodeCurrent current.month current.day / 512 % 16 : Nat) = current.month := by
    unfold encodeCurrent
    omega
  have day : (encodeCurrent current.month current.day / 16 % 32 : Nat) = current.day := by
    unfold encodeCurrent
    omega
  simp only [currentDate]
  rw [month, day, yearAfter_of_within after within]

end MeterTelegram.PackedDate
