import Mathlib.Tactic.IntervalCases
import MeterTelegram.Calendar

namespace MeterTelegram

/-! The Gregorian calendar, told without the table that dates are checked with: which years have
a leap day, how long the months are and which day comes after another. The table tells the same. -/

namespace Date

variable {date left right : Date}

theorem isValid_iff :
    date.isValid = true ↔ 1 ≤ date.month ∧ date.month ≤ 12 ∧ 1 ≤ date.day ∧
      date.day ≤ daysInMonth date.year date.month := by
  simp only [isValid, Bool.and_eq_true, decide_eq_true_eq, and_assoc]

theorem before_iff :
    left.before right = true ↔ left.year < right.year ∨ left.year = right.year ∧
      (left.month < right.month ∨ left.month = right.month ∧ left.day < right.day) := by
  simp only [before, Bool.or_eq_true, Bool.and_eq_true, decide_eq_true_eq]

theorem before_eq_false :
    left.before right = false ↔ ¬ (left.year < right.year ∨ left.year = right.year ∧
      (left.month < right.month ∨ left.month = right.month ∧ left.day < right.day)) := by
  rw [← before_iff, Bool.not_eq_true]

end Date

namespace Gregorian

/-- Every fourth year has a leap day; of those that end a century, every fourth. -/
def IsLeap (year : Int) : Prop :=
  4 ∣ year ∧ (100 ∣ year → 400 ∣ year)

/-- The months of a year and how many days each of them has. -/
inductive MonthLength (year : Int) : Int → Int → Prop where
  | long {month : Int} (named : month ∈ ([1, 3, 5, 7, 8, 10, 12] : List Int)) :
      MonthLength year month 31
  | short {month : Int} (named : month ∈ ([4, 6, 9, 11] : List Int)) : MonthLength year month 30
  | leap (leap : IsLeap year) : MonthLength year 2 29
  | common (common : ¬ IsLeap year) : MonthLength year 2 28

/-- A day of the calendar. -/
def IsDay (date : Date) : Prop :=
  ∃ days, MonthLength date.year date.month days ∧ 1 ≤ date.day ∧ date.day ≤ days

/-- A day and the one after it. -/
inductive Follows : Date → Date → Prop where
  | day {year month day days : Int} (length : MonthLength year month days) (inside : day < days) :
      Follows ⟨year, month, day⟩ ⟨year, month, day + 1⟩
  | month {year month days : Int} (length : MonthLength year month days) (inside : month < 12) :
      Follows ⟨year, month, days⟩ ⟨year, month + 1, 1⟩
  | year {year days : Int} (length : MonthLength year 12 days) :
      Follows ⟨year, 12, days⟩ ⟨year + 1, 1, 1⟩

/-- A day and the one so many days later. -/
inductive DaysLater : Nat → Date → Date → Prop where
  | none {date : Date} : DaysLater 0 date date
  | more {count : Nat} {first last next : Date} (later : DaysLater count first last)
      (follows : Follows last next) : DaysLater (count + 1) first next

/-- A day of the calendar after a past date, and not after the same day of the next year. -/
structure InYearAfter (past date : Date) : Prop where
  isDay : IsDay date
  after : past.before date = true
  within : Date.before { past with year := past.year + 1 } date = false

variable {date : Date} {year month days other : Int}

theorem isLeapYear_iff : Date.isLeapYear year = true ↔ IsLeap year := by
  unfold Date.isLeapYear IsLeap
  split_ifs with uneven fourth century
  · simp only [false_iff]
    omega
  · simp only [true_iff]
    omega
  · simp only [false_iff]
    omega
  · simp only [true_iff]
    omega

theorem MonthLength.month_bounds (length : MonthLength year month days) :
    1 ≤ month ∧ month ≤ 12 := by
  cases length with
  | long named | short named =>
      simp only [List.mem_cons, List.not_mem_nil, or_false] at named
      omega
  | leap | common => decide

theorem MonthLength.bounds (length : MonthLength year month days) : 28 ≤ days ∧ days ≤ 31 := by
  cases length <;> decide

theorem MonthLength.unique (length : MonthLength year month days)
    (again : MonthLength year month other) : days = other := by
  cases length with
  | long named =>
      cases again with
      | long => rfl
      | short again =>
          simp only [List.mem_cons, List.not_mem_nil, or_false] at named again
          omega
      | leap | common => contradiction
  | short named =>
      cases again with
      | short => rfl
      | long again =>
          simp only [List.mem_cons, List.not_mem_nil, or_false] at named again
          omega
      | leap | common => contradiction
  | leap leap =>
      cases again with
      | leap => rfl
      | common common => exact absurd leap common
      | long named | short named => contradiction
  | common common =>
      cases again with
      | common => rfl
      | leap leap => exact absurd leap common
      | long named | short named => contradiction

theorem daysInMonth_february (year : Int) :
    Date.daysInMonth year 2 = if Date.isLeapYear year then 29 else 28 := by
  cases leap : Date.isLeapYear year <;> simp [Date.daysInMonth, Date.monthDays, leap]

theorem monthLength_daysInMonth (year : Int) (first : 1 ≤ month) (last : month ≤ 12) :
    MonthLength year month (Date.daysInMonth year month) := by
  by_cases february : month = 2
  · subst february
    rw [daysInMonth_february]
    split
    · rename_i leap
      exact .leap (isLeapYear_iff.mp leap)
    · rename_i common
      exact .common (mt isLeapYear_iff.mpr common)
  · -- The other months are as long in every year.
    interval_cases month
    case «2» => contradiction
    case «4» | «6» | «9» | «11» => exact .short (by decide)
    all_goals exact .long (by decide)

/-- The table has the lengths of the months, and no other months. -/
theorem daysInMonth_iff : MonthLength year month days ↔
    1 ≤ month ∧ month ≤ 12 ∧ Date.daysInMonth year month = days := by
  constructor
  · intro length
    obtain ⟨first, last⟩ := length.month_bounds
    exact ⟨first, last, (monthLength_daysInMonth year first last).unique length⟩
  · intro listed
    obtain ⟨first, last, length⟩ := listed
    rw [← length]
    exact monthLength_daysInMonth year first last

/-- The check of a date accepts the days of the calendar. -/
theorem isValid_iff_isDay : date.isValid = true ↔ IsDay date := by
  rw [Date.isValid_iff]
  constructor
  · intro checked
    obtain ⟨first, last, begun, ended⟩ := checked
    exact ⟨_, monthLength_daysInMonth date.year first last, begun, ended⟩
  · intro day
    obtain ⟨days, length, begun, ended⟩ := day
    obtain ⟨first, last, listed⟩ := daysInMonth_iff.mp length
    exact ⟨first, last, begun, by rwa [listed]⟩

end Gregorian

end MeterTelegram
