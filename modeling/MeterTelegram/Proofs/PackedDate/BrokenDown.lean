import MeterTelegram.Proofs.PackedDate

namespace MeterTelegram

/-! Dates as a caller of their readers holds them: a time in its parts, of which a reader writes
all or none. Each reader does step by step what it does by value. -/

/-- A time in its parts. Months count from zero and years from 1900; `daylight` is negative while
it is not known whether daylight saving time is in effect. -/
structure BrokenDown where
  second : Int := 0
  minute : Int := 0
  hour : Int := 0
  day : Int := 0
  month : Int := 0
  year : Int := 0
  weekday : Int := 0
  yearDay : Int := 0
  daylight : Int := 0
deriving DecidableEq, Repr

namespace BrokenDown

/-- The day of a time. -/
def date (time : BrokenDown) : Date :=
  ⟨time.year + 1900, time.month + 1, time.day⟩

/-- All parts are cleared before those of the date are set. -/
def fill (year month day : Int) : BrokenDown :=
  { ({} : BrokenDown) with year := year - 1900, month := month - 1, day, daylight := -1 }

@[simp]
theorem date_fill (year month day : Int) : (fill year month day).date = ⟨year, month, day⟩ := by
  simp [date, fill]

end BrokenDown

namespace PackedDate

/-- The time and the error of a caller. -/
structure Held where
  date : BrokenDown
  error : Text
deriving DecidableEq, Repr

/-- Reads a past date into what the caller holds, and says whether it was read. -/
def readPastInto (held : Held) (buffer : List UInt8) (offset : Nat) : Bool × Held :=
  match Counter.read buffer offset 2 with
  | .error fault => (false, { held with error := fault.message })
  | .ok word =>
      let day : Int := (word >>> 0 &&& 0x1F : Nat)
      let month : Int := (word >>> 5 &&& 0x0F : Nat)
      let year : Int := baseYear + (word >>> 9 &&& 0x7F : Nat)
      if month < 1 ∨ 12 < month then
        (false, { held with error := (Fault.month .past word month).message })
      else if Date.isValid ⟨year, month, day⟩ = false then
        (false, { held with error := (Fault.day .past word ⟨year, month, day⟩).message })
      else (true, { held with date := .fill year month day })

/-- Reads a current date, given the past date, into what the caller holds. -/
def readCurrentInto (held : Held) (buffer : List UInt8) (offset : Nat) (past : BrokenDown) :
    Bool × Held :=
  match Counter.read buffer offset 2 with
  | .error fault => (false, { held with error := fault.message })
  | .ok word =>
      let day : Int := (word >>> 4 &&& 0x1F : Nat)
      let month : Int := (word >>> 9 &&& 0x0F : Nat)
      if month < 1 ∨ 12 < month then
        (false, { held with error := (Fault.month .current word month).message })
      else
        let pastYear := past.year + 1900
        let pastMonth := past.month + 1
        let pastDay := past.day
        let year :=
          if month < pastMonth ∨ month = pastMonth ∧ day ≤ pastDay then pastYear + 1 else pastYear
        if Date.isValid ⟨year, month, day⟩ = false then
          (false, { held with error := (Fault.day .current word ⟨year, month, day⟩).message })
        else (true, { held with date := .fill year month day })

/-- The caller after a read by value. -/
def Held.after (held : Held) : Except Fault Date → Bool × Held
  | .ok date => (true, { held with date := .fill date.year date.month date.day })
  | .error fault => (false, { held with error := fault.message })

theorem Held.ok_of_after {held after : Held} {reading : Except Fault Date}
    (read : held.after reading = (true, after)) : ∃ date, reading = .ok date ∧
      after = { held with date := .fill date.year date.month date.day } := by
  cases reading with
  | error fault => exact absurd (congrArg Prod.fst read) Bool.false_ne_true
  | ok date => exact ⟨date, rfl, (Prod.mk.inj read).2.symm⟩

theorem bits_eq (word start width : Nat) :
    word >>> start &&& (2 ^ width - 1) = word / 2 ^ start % 2 ^ width := by
  rw [Nat.and_two_pow_sub_one_eq_mod, Nat.shiftRight_eq_div_pow]

/-- The two checks of a date, each with the error it leaves. -/
theorem after_check (held : Held) (kind : Kind) (word : Nat) (date : Date) :
    held.after (check kind word date) =
      if date.month < 1 ∨ 12 < date.month then
        (false, { held with error := (Fault.month kind word date.month).message })
      else if date.isValid = false then
        (false, { held with error := (Fault.day kind word date).message })
      else (true, { held with date := .fill date.year date.month date.day }) := by
  rw [check]
  split
  · rfl
  · cases date.isValid <;> rfl

theorem readPastInto_eq (held : Held) (buffer : List UInt8) (offset : Nat) :
    readPastInto held buffer offset = held.after (readPast buffer offset) := by
  rw [readPastInto, readPast, readWord]
  cases Counter.read buffer offset 2 with
  | error fault => rfl
  | ok word =>
      have day : word >>> 0 &&& 0x1F = word % 32 := by simpa using bits_eq word 0 5
      have month : word >>> 5 &&& 0x0F = word / 32 % 16 := bits_eq word 5 4
      have year : word >>> 9 &&& 0x7F = word / 512 % 128 := bits_eq word 9 7
      change _ = held.after (check .past word (pastDate word))
      rw [after_check]
      simp only [day, month, year, pastDate]
      rfl

theorem readCurrentInto_eq (held : Held) (buffer : List UInt8) (offset : Nat)
    (past : BrokenDown) :
    readCurrentInto held buffer offset past =
      held.after (readCurrent buffer offset past.date) := by
  rw [readCurrentInto, readCurrent, readWord]
  cases Counter.read buffer offset 2 with
  | error fault => rfl
  | ok word =>
      have day : word >>> 4 &&& 0x1F = word / 16 % 32 := bits_eq word 4 5
      have month : word >>> 9 &&& 0x0F = word / 512 % 16 := bits_eq word 9 4
      change _ = held.after (check .current word (currentDate past.date word))
      rw [after_check]
      simp only [day, month, currentDate, yearAfter, BrokenDown.date]
      rfl

end PackedDate

end MeterTelegram
