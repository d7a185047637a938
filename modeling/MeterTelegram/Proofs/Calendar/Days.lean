import Mathlib.Order.Monotone.Basic
import Mathlib.Logic.Function.Iterate
import MeterTelegram.Proofs.Calendar.Gregorian

namespace MeterTelegram.Date

/-! The days of the calendar one after the other, and how many lie between two dates. -/

open Gregorian

variable {date left right : Date} {year : Int} {count : Nat}

def next (date : Date) : Date :=
  if date.day < daysInMonth date.year date.month then { date with day := date.day + 1 }
  else if date.month < 12 then { date with month := date.month + 1, day := 1 }
  else { year := date.year + 1, month := 1, day := 1 }

/-! Counting days -/

/-- The days of the first months of a year. -/
def daysOfMonths (year : Int) : Nat → Int
  | 0 => 0
  | count + 1 => daysOfMonths year count + daysInMonth year (count + 1)

/-- The days before a year, counted from the year 0. -/
def daysBeforeYear (year : Int) : Int :=
  365 * year + (year + 3) / 4 - (year + 99) / 100 + (year + 399) / 400

def dayNumber (date : Date) : Int :=
  daysBeforeYear date.year + daysOfMonths date.year (date.month - 1).toNat + date.day

def leapDays (year : Int) : Int :=
  if isLeapYear year then 1 else 0

theorem leapDays_bounds (year : Int) : 0 ≤ leapDays year ∧ leapDays year ≤ 1 := by
  unfold leapDays
  split <;> decide

/-- No two years in a row are leap years. -/
theorem leapDays_succ (year : Int) : leapDays year + leapDays (year + 1) ≤ 1 := by
  unfold leapDays
  split
  · rename_i leap
    rw [isLeapYear_iff, IsLeap] at leap
    have common : ¬ isLeapYear (year + 1) = true := by
      rw [isLeapYear_iff, IsLeap]
      omega
    rw [if_neg common]
    decide
  · split <;> decide

theorem daysInMonth_pos {month : Int} (first : 1 ≤ month) (last : month ≤ 12) :
    1 ≤ daysInMonth year month := by
  have length := (monthLength_daysInMonth year first last).bounds
  omega

theorem daysInMonth_nonneg (year month : Int) : 0 ≤ daysInMonth year month := by
  by_cases listed : 1 ≤ month ∧ month ≤ 12
  · have length := @daysInMonth_pos year month listed.1 listed.2
    omega
  · rw [daysInMonth, if_pos (by omega)]

theorem daysOfMonths_le (year : Int) {later : Nat} (order : count ≤ later) :
    daysOfMonths year count ≤ daysOfMonths year later := by
  have step : ∀ count, daysOfMonths year count ≤ daysOfMonths year (count + 1) := by
    intro count
    have days := daysInMonth_nonneg year (count + 1)
    rw [daysOfMonths]
    omega
  exact monotone_nat_of_le_succ step order

theorem daysInMonth_of_other (year other : Int) {month : Int} (february : month ≠ 2) :
    daysInMonth year month = daysInMonth other month := by
  unfold daysInMonth
  simp only [february, false_and, if_false]

theorem daysInMonth_leapDays (year : Int) : daysInMonth year 2 = 28 + leapDays year := by
  rw [daysInMonth_february, leapDays]
  split <;> rfl

/-- Years differ in their leap day only, and not before March. -/
theorem daysOfMonths_eq (year other : Int) (count : Nat) :
    daysOfMonths year count = daysOfMonths other count +
      if 2 ≤ count then leapDays year - leapDays other else 0 := by
  induction count with
  | zero => rfl
  | succ count ih =>
      rw [daysOfMonths, daysOfMonths, ih]
      by_cases february : count = 1
      · subst february
        have here := daysInMonth_leapDays year
        have there := daysInMonth_leapDays other
        simp only [Int.cast_ofNat_Int, Int.reduceAdd, here, there, Nat.reduceLeDiff, if_false,
          Nat.reduceAdd, Nat.le_refl, if_true]
        omega
      · rw [daysInMonth_of_other year other (by omega)]
        split <;> split <;> omega

/-- The days up to the end of a month are those before it and its own. -/
theorem daysOfMonths_month {month : Int} (first : 1 ≤ month) :
    daysOfMonths year month.toNat =
      daysOfMonths year (month - 1).toNat + daysInMonth year month := by
  have index : month.toNat = (month - 1).toNat + 1 := by omega
  have same : (((month - 1).toNat : Nat) : Int) + 1 = month := by omega
  rw [index, daysOfMonths, same]

theorem daysOfMonths_year (year : Int) : daysOfMonths year 12 = 365 + leapDays year := by
  have common : daysOfMonths 1 12 = 365 := by decide
  have regular : leapDays 1 = 0 := by decide
  rw [daysOfMonths_eq year 1, common, regular]
  simp

theorem daysBeforeYear_succ (year : Int) :
    daysBeforeYear (year + 1) = daysBeforeYear year + daysOfMonths year 12 := by
  rw [daysOfMonths_year]
  unfold daysBeforeYear leapDays
  split
  · rename_i leap
    rw [isLeapYear_iff, IsLeap] at leap
    omega
  · rename_i common
    rw [isLeapYear_iff, IsLeap] at common
    omega

theorem daysBeforeYear_le {later : Int} (order : year ≤ later) :
    daysBeforeYear year ≤ daysBeforeYear later := by
  unfold daysBeforeYear
  omega

/-- The day of a date within its year. -/
def dayOfYear (date : Date) : Int :=
  daysOfMonths date.year (date.month - 1).toNat + date.day

theorem dayNumber_eq (date : Date) :
    dayNumber date = daysBeforeYear date.year + dayOfYear date := by
  rw [dayNumber, dayOfYear]
  omega

theorem dayOfYear_le_of_month (valid : date.isValid = true) :
    dayOfYear date ≤ daysOfMonths date.year date.month.toNat := by
  obtain ⟨first, last, begun, ended⟩ := isValid_iff.mp valid
  rw [dayOfYear, daysOfMonths_month first]
  omega

theorem dayOfYear_bounds (valid : date.isValid = true) :
    1 ≤ dayOfYear date ∧ dayOfYear date ≤ daysOfMonths date.year 12 := by
  obtain ⟨first, last, begun, ended⟩ := isValid_iff.mp valid
  have start : daysOfMonths date.year 0 ≤ daysOfMonths date.year (date.month - 1).toNat :=
    daysOfMonths_le date.year (Nat.zero_le _)
  have whole : daysOfMonths date.year date.month.toNat ≤ daysOfMonths date.year 12 :=
    daysOfMonths_le date.year (by omega)
  have month := dayOfYear_le_of_month valid
  rw [daysOfMonths] at start
  refine ⟨?_, by omega⟩
  rw [dayOfYear]
  omega

theorem dayOfYear_lt (valid : left.isValid = true) (other : right.isValid = true)
    (sameYear : left.year = right.year)
    (order : left.month < right.month ∨ left.month = right.month ∧ left.day < right.day) :
    dayOfYear left < dayOfYear right := by
  obtain ⟨first, last, begun, ended⟩ := isValid_iff.mp other
  rcases order with months | ⟨months, days⟩
  · have month := dayOfYear_le_of_month valid
    have apart : daysOfMonths left.year left.month.toNat ≤
        daysOfMonths left.year (right.month - 1).toNat :=
      daysOfMonths_le left.year (by omega)
    rw [dayOfYear.eq_1 right, ← sameYear]
    omega
  · rw [dayOfYear, dayOfYear, sameYear, months]
    omega

theorem dayNumber_lt (valid : left.isValid = true) (other : right.isValid = true)
    (order : left.before right = true) : dayNumber left < dayNumber right := by
  obtain ⟨-, ended⟩ := dayOfYear_bounds valid
  obtain ⟨begun, -⟩ := dayOfYear_bounds other
  rw [dayNumber_eq, dayNumber_eq]
  rcases before_iff.mp order with years | ⟨sameYear, within⟩
  · have gap : daysBeforeYear (left.year + 1) ≤ daysBeforeYear right.year :=
      daysBeforeYear_le years
    rw [daysBeforeYear_succ] at gap
    omega
  · have earlier := dayOfYear_lt valid other sameYear within
    rw [sameYear]
    omega

theorem dayNumber_injective (valid : left.isValid = true) (other : right.isValid = true)
    (same : dayNumber left = dayNumber right) : left = right := by
  have notBefore : left.before right = false := by
    refine Bool.eq_false_iff.mpr fun order => ?_
    have earlier := dayNumber_lt valid other order
    omega
  have notAfter : right.before left = false := by
    refine Bool.eq_false_iff.mpr fun order => ?_
    have earlier := dayNumber_lt other valid order
    omega
  rw [before_eq_false] at notBefore notAfter
  obtain ⟨year, month, day⟩ := left
  obtain ⟨otherYear, otherMonth, otherDay⟩ := right
  simp only [Date.mk.injEq] at *
  omega

/-- The day after is a day of the calendar, and the one counted next. -/
theorem next_counts (valid : date.isValid = true) :
    date.next.isValid = true ∧ dayNumber date.next = dayNumber date + 1 := by
  obtain ⟨year, month, day⟩ := date
  obtain ⟨first, last, begun, ended⟩ := isValid_iff.mp valid
  dsimp only at first last begun ended
  by_cases inside : day < daysInMonth year month
  · have step : next ⟨year, month, day⟩ = ⟨year, month, day + 1⟩ := if_pos inside
    rw [step]
    exact ⟨isValid_iff.mpr ⟨first, last, Int.le_add_one begun, inside⟩,
      (Int.add_assoc _ day 1).symm⟩
  · have monthEnd : day = daysInMonth year month := by omega
    have finished := @daysOfMonths_month year month first
    by_cases inYear : month < 12
    · have step : next ⟨year, month, day⟩ = ⟨year, month + 1, 1⟩ :=
        (if_neg inside).trans (if_pos inYear)
      have following : 1 ≤ daysInMonth year (month + 1) := daysInMonth_pos (by omega) (by omega)
      rw [step]
      refine ⟨isValid_iff.mpr ⟨Int.le_add_one first, inYear, Int.le_refl 1, following⟩, ?_⟩
      simp only [dayNumber, Int.add_sub_cancel, finished]
      omega
    · have step : next ⟨year, month, day⟩ = ⟨year + 1, 1, 1⟩ :=
        (if_neg inside).trans (if_neg inYear)
      obtain rfl : month = 12 := by omega
      have turn := daysBeforeYear_succ year
      rw [step]
      refine ⟨rfl, ?_⟩
      change daysBeforeYear (year + 1) + 0 + 1 =
        daysBeforeYear year + daysOfMonths year 11 + day + 1
      change daysOfMonths year 12 = daysOfMonths year 11 + daysInMonth year 12 at finished
      omega

theorem iterate_next (valid : date.isValid = true) (days : Nat) :
    (next^[days] date).isValid = true ∧ dayNumber (next^[days] date) = dayNumber date + days := by
  induction days with
  | zero => exact ⟨valid, (Int.add_zero _).symm⟩
  | succ days ih =>
      obtain ⟨valid, number⟩ := ih
      obtain ⟨validNext, numberNext⟩ := next_counts valid
      rw [Function.iterate_succ_apply']
      refine ⟨validNext, ?_⟩
      rw [numberNext, number]
      omega

theorem next_follows (valid : date.isValid = true) : Follows date date.next := by
  obtain ⟨year, month, day⟩ := date
  obtain ⟨first, last, -, ended⟩ := isValid_iff.mp valid
  dsimp only at first last ended
  have length := monthLength_daysInMonth year first last
  unfold next
  split
  · rename_i inside
    exact .day length inside
  · rename_i finished
    dsimp only at finished
    obtain rfl : day = daysInMonth year month := by omega
    split
    · rename_i inYear
      exact .month length inYear
    · rename_i closing
      dsimp only at closing
      obtain rfl : month = 12 := by omega
      exact .year length

theorem daysLater_iterate (valid : date.isValid = true) (days : Nat) :
    DaysLater days date (next^[days] date) := by
  induction days with
  | zero => exact .none
  | succ days ih =>
      rw [Function.iterate_succ_apply']
      exact .more ih (next_follows (iterate_next valid days).1)

/-- A later date is reached by going on day by day. -/
theorem reached_of_before (valid : left.isValid = true) (other : right.isValid = true)
    (order : left.before right = true) :
    ∃ days : Nat, dayNumber right = dayNumber left + days ∧ DaysLater days left right := by
  have later := dayNumber_lt valid other order
  obtain ⟨days, count⟩ := Int.eq_ofNat_of_zero_le (a := dayNumber right - dayNumber left) (by omega)
  obtain ⟨reached, number⟩ := iterate_next valid days
  have same : next^[days] left = right := dayNumber_injective reached other (by omega)
  have gone := daysLater_iterate valid days
  rw [same] at gone
  exact ⟨days, by omega, gone⟩

/-- The year after a date has no more than 366 days. -/
theorem dayNumber_le_of_inYear {past : Date} (inYear : InYearAfter past date)
    (valid : past.isValid = true) : dayNumber date ≤ dayNumber past + 366 := by
  have dateValid := isValid_iff_isDay.mpr inYear.isDay
  have after := before_iff.mp inYear.after
  have within := before_eq_false.mp inYear.within
  dsimp only at within
  have leap := leapDays_bounds past.year
  have length := daysOfMonths_year past.year
  rw [dayNumber_eq, dayNumber_eq]
  by_cases sameYear : date.year = past.year
  · have ended := (dayOfYear_bounds dateValid).2
    have begun := (dayOfYear_bounds valid).1
    rw [sameYear] at ended ⊢
    omega
  · have nextYear : date.year = past.year + 1 := by omega
    obtain ⟨first, last, begun, ended⟩ := isValid_iff.mp valid
    -- In its own year the date is no later than the past date would be there.
    have order : dayOfYear date ≤
        daysOfMonths (past.year + 1) (past.month - 1).toNat + past.day := by
      by_cases sameMonth : date.month = past.month
      · rw [dayOfYear, nextYear, sameMonth]
        omega
      · have month := dayOfYear_le_of_month dateValid
        have earlier : daysOfMonths date.year date.month.toNat ≤
            daysOfMonths date.year (past.month - 1).toNat :=
          daysOfMonths_le date.year (by omega)
        rw [nextYear] at month earlier
        omega
    have shift := daysOfMonths_eq (past.year + 1) past.year (past.month - 1).toNat
    have turn := daysBeforeYear_succ past.year
    have both := leapDays_succ past.year
    have leapNext := leapDays_bounds (past.year + 1)
    rw [nextYear, dayOfYear.eq_1 past]
    split at shift <;> omega

end MeterTelegram.Date
