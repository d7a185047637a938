import MeterTelegram.Text

namespace MeterTelegram

/-! Dates of the Gregorian calendar and their texts. A date need not be valid;
`Date.isValid` says whether the calendar has it. -/

structure Date where
  year : Int
  month : Int
  day : Int
deriving DecidableEq, Repr

/-- A point in local time. `daylight` is negative while it is not known whether
daylight saving time is in effect. -/
structure Moment where
  date : Date
  hour : Int
  minute : Int
  second : Int
  daylight : Int
deriving DecidableEq, Repr

namespace Date

def isLeapYear (year : Int) : Bool :=
  if year % 4 ≠ 0 then false
  else if year % 400 = 0 then true
  else if year % 100 = 0 then false
  else true

/-- The days of the months where February has no leap day. -/
def monthDays : List Int :=
  [31, 28, 31, 30, 31, 30, 31, 31, 30, 31, 30, 31]

/-- Zero for a month the calendar does not have. -/
def daysInMonth (year month : Int) : Int :=
  if month < 1 ∨ 12 < month then 0
  else if month = 2 ∧ isLeapYear year then 29
  else monthDays.getD (month - 1).toNat 0

def isValid (date : Date) : Bool :=
  1 ≤ date.month && date.month ≤ 12 && 1 ≤ date.day &&
    date.day ≤ daysInMonth date.year date.month

/-- Earlier in the calendar. -/
def before (left right : Date) : Bool :=
  left.year < right.year ||
    left.year = right.year && (left.month < right.month ||
      left.month = right.month && left.day < right.day)

/-- Year, month and day; the year has as many digits as it needs. -/
def text (date : Date) : Text :=
  Text.ofInt date.year ++ "-" ++ Text.ofIntPadded 2 date.month ++ "-" ++
    Text.ofIntPadded 2 date.day

/-- The beginning of the day. -/
def midnight (date : Date) : Moment :=
  { date, hour := 0, minute := 0, second := 0, daylight := -1 }

end Date

def Moment.text (moment : Moment) : Text :=
  moment.date.text ++ " " ++ Text.ofIntPadded 2 moment.hour ++ ":" ++
    Text.ofIntPadded 2 moment.minute ++ ":" ++ Text.ofIntPadded 2 moment.second

end MeterTelegram
