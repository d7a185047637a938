import MeterTelegram.Proofs.Calendar.Days
import MeterTelegram.Proofs.PackedDate.BrokenDown

namespace MeterTelegram.PackedDate

/-! The year of a current date, of which only month and day are sent: the date that is read is
the first with this month and day after the past date, if the calendar has it. -/

open Buffer Gregorian

variable {buffer : List UInt8} {offset word : Nat} {past date : Date} {month day : Int}
  {low high : UInt8} {held : Held}

/-- The month and the day of a word decide the year. -/
theorem inYearAfter_iff :
    InYearAfter past date ↔
      date.isValid = true ∧ date.year = yearAfter past date.month date.day := by
  rw [isValid_iff_isDay]
  constructor
  · intro inYear
    exact ⟨inYear.isDay, (yearAfter_of_within inYear.after inYear.within).symm⟩
  · intro chosen
    obtain ⟨isDay, year⟩ := chosen
    rw [yearAfter] at year
    refine ⟨isDay, Date.before_iff.mpr ?_, Date.before_eq_false.mpr ?_⟩
    · split at year <;> omega
    · dsimp only
      split at year <;> omega

theorem check_ok_iff {kind : Kind} {result : Date} :
    check kind word date = .ok result ↔ result = date ∧ date.isValid = true := by
  constructor
  · exact check_ok
  · rintro ⟨rfl, valid⟩
    exact check_of_isValid valid

theorem check_currentDate_iff :
    check .current word (currentDate past word) = .ok date ↔
      InYearAfter past date ∧ date.month = (word / 2 ^ 9 % 2 ^ 4 : Nat) ∧
        date.day = (word / 2 ^ 4 % 2 ^ 5 : Nat) := by
  rw [check_ok_iff, inYearAfter_iff]
  constructor
  · rintro ⟨rfl, valid⟩
    exact ⟨⟨valid, rfl⟩, rfl, rfl⟩
  · rintro ⟨⟨valid, year⟩, months, days⟩
    obtain rfl : date = currentDate past word := by
      obtain ⟨_, month, day⟩ := date
      obtain rfl := months
      obtain rfl := days
      exact congrArg (Date.mk · _ _) year
    exact ⟨rfl, valid⟩

theorem readWord_of_bytes (first : buffer[offset]? = some low)
    (second : buffer[offset + 1]? = some high) :
    readWord buffer offset = .ok (low.toNat + 256 * high.toNat) := by
  obtain ⟨inside, rfl⟩ := List.getElem?_eq_some_iff.mp first
  obtain ⟨room, rfl⟩ := List.getElem?_eq_some_iff.mp second
  have both : excerpt buffer offset 2 = [buffer[offset], buffer[offset + 1]] := by
    rw [excerpt, List.drop_eq_getElem_cons inside, List.take_succ_cons,
      List.drop_eq_getElem_cons room, List.take_succ_cons, List.take_zero]
  rw [readWord_of_room room, both]
  rfl

/-- What the reading of a month and a day comes to, if the date is to follow a past date. It is
told by whether the date was read, and by what the caller holds before and after. -/
structure Infers (past : Date) (month day : Int) (held : Held) (outcome : Bool × Held) : Prop where
  succeeds : outcome.1 = true ↔ ∃ year, InYearAfter past ⟨year, month, day⟩
  unique : ∀ year other, InYearAfter past ⟨year, month, day⟩ →
    InYearAfter past ⟨other, month, day⟩ → year = other
  returns : ∀ year, InYearAfter past ⟨year, month, day⟩ → outcome = (true, { held with
    date :=
      { second := 0, minute := 0, hour := 0, day, month := month - 1, year := year - 1900
        weekday := 0, yearDay := 0, daylight := -1 } })
  leaves : (¬ ∃ year, InYearAfter past ⟨year, month, day⟩) →
    ∃ fault : Fault, outcome = (false, { held with error := fault.message })
  first : outcome.1 = true → ∀ other : Date, other.month = month → other.day = day →
    past.before other = true → other.before outcome.2.date.date = false
  distance : outcome.1 = true →
    ∃ days, 1 ≤ days ∧ days ≤ 366 ∧ DaysLater days past outcome.2.date.date

theorem infers_of_reads {reading : Except Fault Date} (isDay : IsDay past)
    (reads : ∀ date, reading = .ok date ↔
      InYearAfter past date ∧ date.month = month ∧ date.day = day) (held : Held) :
    Infers past month day held (held.after reading) := by
  have unique : ∀ year other, InYearAfter past ⟨year, month, day⟩ →
      InYearAfter past ⟨other, month, day⟩ → year = other := by
    intro year other inYear otherInYear
    exact (inYearAfter_iff.mp inYear).2.trans (inYearAfter_iff.mp otherInYear).2.symm
  cases reading with
  | error fault =>
      have none : ¬ ∃ year, InYearAfter past ⟨year, month, day⟩ := by
        intro found
        obtain ⟨year, inYear⟩ := found
        have read := (reads _).mpr ⟨inYear, rfl, rfl⟩
        contradiction
      constructor
      case succeeds => exact ⟨nofun, fun found => absurd found none⟩
      case unique => exact unique
      case returns => exact fun year inYear => absurd ⟨year, inYear⟩ none
      case leaves => exact fun _ => ⟨fault, rfl⟩
      case first | distance => exact nofun
  | ok date =>
      obtain ⟨inYear, rfl, rfl⟩ := (reads date).mp rfl
      have left : (held.after (.ok date)).2.date.date = date :=
        BrokenDown.date_fill date.year date.month date.day
      constructor
      case succeeds => exact ⟨fun _ => ⟨date.year, inYear⟩, fun _ => rfl⟩
      case unique => exact unique
      case returns =>
        intro year otherInYear
        rw [unique year date.year otherInYear inYear]
        rfl
      case leaves => exact fun none => absurd ⟨date.year, inYear⟩ none
      case first =>
        intro _ other months days after
        have year := (inYearAfter_iff.mp inYear).2
        rw [left, Date.before_eq_false]
        rw [Date.before_iff] at after
        rw [yearAfter] at year
        split at year <;> omega
      case distance =>
        intro _
        have valid := isValid_iff_isDay.mpr isDay
        have dateValid := isValid_iff_isDay.mpr inYear.isDay
        have later := Date.dayNumber_lt valid dateValid inYear.after
        have near := Date.dayNumber_le_of_inYear inYear valid
        obtain ⟨days, count, reached⟩ := Date.reached_of_before valid dateValid inYear.after
        rw [left]
        exact ⟨days, by omega, by omega, reached⟩

theorem isDay_of_readPastInto {after : Held}
    (read : readPastInto held buffer offset = (true, after)) : IsDay after.date.date := by
  rw [readPastInto_eq] at read
  obtain ⟨date, readOk, rfl⟩ := Held.ok_of_after read
  obtain ⟨word, -, checked⟩ := Results.ok_of_bind readOk
  rw [BrokenDown.date_fill]
  obtain ⟨rfl, valid⟩ := check_ok checked
  exact isValid_iff_isDay.mp valid

/-- A current date is read exactly if its month and day make a date of the calendar within a year
after the past date, as every past date that is read is one. There is one such year at most, and
the date is the first with this month and day, one to 366 days after the past date. Where none is
read, what the caller holds stays as it is but for the error. -/
theorem readCurrentInto_infers (first : buffer[offset]? = some low)
    (second : buffer[offset + 1]? = some high) (held : Held) :
    let word := low.toNat + 256 * high.toNat
    (∀ past : BrokenDown, IsDay past.date →
      Infers past.date (word / 2 ^ 9 % 2 ^ 4 : Nat) (word / 2 ^ 4 % 2 ^ 5 : Nat) held
        (readCurrentInto held buffer offset past)) ∧
    ∀ before billed sent place, readPastInto before sent place = (true, billed) →
      Infers billed.date.date (word / 2 ^ 9 % 2 ^ 4 : Nat) (word / 2 ^ 4 % 2 ^ 5 : Nat) held
        (readCurrentInto held buffer offset billed.date) := by
  intro word
  have infers : ∀ past : BrokenDown, IsDay past.date →
      Infers past.date (word / 2 ^ 9 % 2 ^ 4 : Nat) (word / 2 ^ 4 % 2 ^ 5 : Nat) held
        (readCurrentInto held buffer offset past) := by
    intro past isDay
    rw [readCurrentInto_eq]
    refine infers_of_reads isDay (fun date => ?_) held
    rw [readCurrent, readWord_of_bytes first second]
    exact check_currentDate_iff
  refine ⟨infers, ?_⟩
  intro before billed sent place read
  exact infers billed.date (isDay_of_readPastInto read)

/-- A leap day is found in the year after the past date, but not where that year has none. -/
theorem readCurrentInto_infers_leapDay :
    let leapDay : List UInt8 := [0xD0, 0x05]
    let before : Held := ⟨{ hour := 12 }, "none"⟩
    IsDay ⟨2027, 3, 1⟩ ∧
      readCurrentInto before leapDay 0 (.fill 2027 3 1) = (true, ⟨.fill 2028 2 29, "none"⟩) ∧
      (∃ days, 1 ≤ days ∧ days ≤ 366 ∧ DaysLater days ⟨2027, 3, 1⟩ ⟨2028, 2, 29⟩) ∧
      ∃ fault : Fault, readCurrentInto before leapDay 0 (.fill 2099 3 1) =
        (false, ⟨{ hour := 12 }, fault.message⟩) := by
  intro leapDay before
  have isDay : IsDay ⟨2027, 3, 1⟩ := isValid_iff_isDay.mp rfl
  have isDayToo : IsDay ⟨2099, 3, 1⟩ := isValid_iff_isDay.mp rfl
  obtain ⟨infers, -⟩ := @readCurrentInto_infers leapDay 0 0xD0 0x05 rfl rfl before
  have found : Infers ⟨2027, 3, 1⟩ 2 29 before
      (readCurrentInto before leapDay 0 (.fill 2027 3 1)) := infers (.fill 2027 3 1) isDay
  have missed : Infers ⟨2099, 3, 1⟩ 2 29 before
      (readCurrentInto before leapDay 0 (.fill 2099 3 1)) := infers (.fill 2099 3 1) isDayToo
  have inYear : InYearAfter ⟨2027, 3, 1⟩ ⟨2028, 2, 29⟩ := ⟨isValid_iff_isDay.mp rfl, rfl, rfl⟩
  have read := found.returns 2028 inYear
  have near := found.distance (by rw [read])
  rw [read] at near
  refine ⟨isDay, read, near, missed.leaves ?_⟩
  intro chosen
  obtain ⟨year, inNextYear⟩ := chosen
  obtain ⟨valid, turned⟩ := inYearAfter_iff.mp inNextYear
  obtain rfl : year = 2100 := turned
  contradiction

end MeterTelegram.PackedDate
