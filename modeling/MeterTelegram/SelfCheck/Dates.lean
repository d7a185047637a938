import MeterTelegram.PackedDate
import MeterTelegram.SelfCheck.Basics

namespace MeterTelegram.SelfCheck

/-! Checks of packed dates: known words, all dates there are, and words that
hold no date. -/

def checkDates : Check PUnit := do
  let past (word text : Text) : Check PUnit :=
    Check.expect ("past date " ++ word)
      ((PackedDate.readPast (hexBytes word) 0).toOption.map Date.text = some text)
  past "9f29" "2020-12-31"
  past "9f27" "2019-12-31"
  past "9f23" "2017-12-31"
  past "7029" "2020-11-16"
  past "2100" "2000-01-01"
  past "9f7f" "2063-12-31"
  past "9fa9" "2084-12-31"
  past "9fff" "2127-12-31"
  let current (word : Text) (year month day : Int) (text : Text) : Check PUnit :=
    Check.expect ("current date " ++ word)
      ((PackedDate.readCurrent (hexBytes word) 0 ⟨year, month, day⟩).toOption.map Date.text =
        some text)
  current "5024" 2020 12 31 "2021-02-05"
  current "8004" 2019 12 31 "2020-02-08"
  current "b029" 2018 12 31 "2019-04-27"
  current "6017" 2020 11 16 "2020-11-22"
  current "f019" 2020 12 31 "2021-12-31"
  current "d005" 2019 12 31 "2020-02-29"
  let bytes := hexBytes "00009f29"
  Check.expect "a past date behind other bytes"
    ((PackedDate.readPast bytes 2).toOption = some ⟨2020, 12, 31⟩)
  Check.expect "no past date behind the last bytes"
    (PackedDate.readPast bytes 3).toOption.isNone

/-- The integers from a first to a last one. -/
def fromTo (first last : Int) : List Int :=
  (List.range (last + 1 - first).toNat).map (fun (index : Nat) => first + index)

def datesOfYear (year : Int) : List Date :=
  (fromTo 1 12).flatMap (fun month =>
    (fromTo 1 (Date.daysInMonth year month)).map (fun day => ⟨year, month, day⟩))

/-- The dates a past date can hold: 128 years, 31 of them leap years. -/
def packableDates : List Date :=
  (fromTo PackedDate.baseYear (PackedDate.baseYear + PackedDate.maxYearOffset)).flatMap
    datesOfYear

def wordBytes (word : Nat) : List UInt8 :=
  Counter.bytes 2 word

def comesBack (date : Date) : Bool :=
  (PackedDate.readPast (wordBytes (PackedDate.encodePast date)) 0).toOption = some date

/-- The year after the date: up to and including the day itself the next one comes. -/
def comesAfter (past : Date) (month day : Int) : Bool :=
  let year := if month < past.month ∨ month = past.month ∧ day ≤ past.day then past.year + 1
    else past.year
  (PackedDate.readCurrent (wordBytes (PackedDate.encodeCurrent month day)) 0 past).toOption =
    some ⟨year, month, day⟩

def checkDatesReturn : Check PUnit := do
  Check.expect "past dates come back" (packableDates.all comesBack)
  Check.expect "number of past dates" (packableDates.length = 128 * 365 + 31)
  let past : Date := ⟨2019, 6, 15⟩
  Check.expect "current dates come back"
    ((datesOfYear 2020).all (fun date =>
      (date.month = 2 && date.day = 29) || comesAfter past date.month date.day))
  Check.expect "the leap day comes back" (comesAfter past 2 29)

/-- The word is refused with a message that holds the given words. -/
def checkNoDate (result : Except PackedDate.Fault Date) (words : Text) : Check PUnit :=
  match result with
  | .ok date => Check.expect ("no date but " ++ date.text) false
  | .error fault => Check.expect ("refusal: " ++ words) (words.occursIn fault.message)

def checkInvalidDates : Check PUnit := do
  let past (year month day : Int) (words : Text) : Check PUnit :=
    checkNoDate (PackedDate.readPast (wordBytes (PackedDate.encodePast ⟨year, month, day⟩)) 0)
      words
  past 2020 0 10 "invalid month 0"
  past 2020 13 10 "invalid month 13"
  past 2020 15 10 "invalid month 15"
  past 2020 5 0 "invalid day 0"
  past 2020 2 30 "invalid day 30"
  past 2021 2 29 "invalid day 29"
  past 2020 4 31 "invalid day 31"
  checkNoDate (PackedDate.readPast (wordBytes 0) 0) "invalid month 0"
  let current (month day : Int) (words : Text) : Check PUnit :=
    checkNoDate (PackedDate.readCurrent (wordBytes (PackedDate.encodeCurrent month day)) 0
      ⟨2020, 12, 31⟩) words
  current 0 5 "invalid month 0"
  current 13 5 "invalid month 13"
  current 3 0 "invalid day 0"
  current 6 31 "invalid day 31"
  current 2 29 "invalid day 29"

end MeterTelegram.SelfCheck
