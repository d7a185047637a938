import MeterTelegram.Binary64
import MeterTelegram.Text

namespace MeterTelegram

/-! Unsigned counters of one to four bytes, least significant byte first. -/

namespace Counter

def maxWidth : Nat := 4

inductive Fault where
  | width (width : Int)
  | short (width : Int) (offset size : Nat)
deriving DecidableEq, Repr

def Fault.message : Fault → Text
  | .width given =>
      "counter width " ++ Text.ofInt given ++ " is not 1-" ++ Text.ofNat maxWidth ++ " bytes"
  | .short needed offset size =>
      "need " ++ Text.ofInt needed ++ " bytes at offset " ++ Text.ofNat offset ++
        " but telegram is only " ++ Text.ofNat size ++ " bytes"

def value : List UInt8 → Nat
  | [] => 0
  | byte :: rest => byte.toNat + 256 * value rest

/-- The bytes of a counter of the given width. -/
def bytes : Nat → Nat → List UInt8
  | 0, _ => []
  | width + 1, count => UInt8.ofNat count :: bytes width (count / 256)

def read (buffer : List UInt8) (offset : Nat) (width : Int) : Except Fault Nat :=
  if width < 1 ∨ maxWidth < width then .error (.width width)
  else if buffer.length < offset + width.toNat then .error (.short width offset buffer.length)
  else .ok (value ((buffer.drop offset).take width.toNat))

/-- A counter divided by the scale of its meter, ten where tenths are counted.
The quotient is rounded once, so 435 tenths are exactly 43.5. -/
def readScaled (buffer : List UInt8) (offset : Nat) (width : Int) (divisor : Binary64) :
    Except Fault Binary64 :=
  (read buffer offset width).map (fun count => Binary64.quotient count divisor)

/-- Temperatures are sent in hundredths of a degree. -/
def readTemperature (buffer : List UInt8) (offset : Nat) (width : Int) : Except Fault Binary64 :=
  readScaled buffer offset width (Binary64.ofNat 100)

end Counter

end MeterTelegram
