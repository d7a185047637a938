import MeterTelegram.Calendar
import MeterTelegram.Counter
import MeterTelegram.Hex

namespace MeterTelegram.PackedDate

/-! Dates packed into words of 16 bits. A past date holds the years since 2000
in the upper seven bits, then four bits of month and five of day. A current
date holds no year: its month starts at bit 9 and its day at bit 4, and it is
the first such day after the past date. -/

inductive Kind where
  | past
  | current
deriving DecidableEq, Repr

def Kind.name : Kind → Text
  | .past => "past date"
  | .current => "current date"

inductive Fault where
  | unreadable (cause : Counter.Fault)
  | month (kind : Kind) (word : Nat) (month : Int)
  | day (kind : Kind) (word : Nat) (date : Date)
deriving DecidableEq, Repr

def Fault.message : Fault → Text
  | .unreadable cause => cause.message
  | .month kind word given =>
      "invalid month " ++ Text.ofInt given ++ " in " ++ kind.name ++ " " ++ Hex.lowerWord word
  | .day kind word date =>
      "invalid day " ++ Text.ofInt date.day ++ " in " ++ kind.name ++ " " ++ Hex.lowerWord word ++
        " (" ++ Text.ofInt date.year ++ "-" ++ Text.ofIntPadded 2 date.month ++ ")"

def baseYear : Int := 2000

def maxYearOffset : Int := 127

/-- The date of a word if the calendar has it. -/
def check (kind : Kind) (word : Nat) (date : Date) : Except Fault Date :=
  if date.month < 1 ∨ 12 < date.month then .error (.month kind word date.month)
  else if date.isValid then .ok date
  else .error (.day kind word date)

def pastDate (word : Nat) : Date :=
  { year := baseYear + (word / 512 % 128 : Nat)
    month := (word / 32 % 16 : Nat)
    day := (word % 32 : Nat) }

/-- The year of the first given month and day after a date, the date itself excluded. -/
def yearAfter (past : Date) (month day : Int) : Int :=
  if month < past.month ∨ month = past.month ∧ day ≤ past.day then past.year + 1 else past.year

def currentDate (past : Date) (word : Nat) : Date :=
  let month : Int := (word / 512 % 16 : Nat)
  let day : Int := (word / 16 % 32 : Nat)
  { year := yearAfter past month day, month, day }

def readWord (buffer : List UInt8) (offset : Nat) : Except Fault Nat :=
  (Counter.read buffer offset 2).mapError Fault.unreadable

def readPast (buffer : List UInt8) (offset : Nat) : Except Fault Date := do
  let word ← readWord buffer offset
  check .past word (pastDate word)

def readCurrent (buffer : List UInt8) (offset : Nat) (past : Date) : Except Fault Date := do
  let word ← readWord buffer offset
  check .current word (currentDate past word)

/-- The word of a past date; parts that do not fit lose their upper bits. -/
def encodePast (date : Date) : Nat :=
  ((date.year - baseYear) % 128).toNat * 512 + (date.month % 16).toNat * 32 + (date.day % 32).toNat

def encodeCurrent (month day : Int) : Nat :=
  (month % 16).toNat * 512 + (day % 32).toNat * 16

end MeterTelegram.PackedDate
