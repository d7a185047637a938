import MeterTelegram.Text

namespace MeterTelegram.Hex

/-! Hexadecimal text. Digits of either case are read, upper case is written.
Between whole bytes the separators space, `#`, `|` and `_` may stand. -/

def digitValue? (byte : UInt8) : Option Nat :=
  if 48 ≤ byte ∧ byte ≤ 57 then some (byte.toNat - 48)
  else if 65 ≤ byte ∧ byte ≤ 70 then some (byte.toNat - 55)
  else if 97 ≤ byte ∧ byte ≤ 102 then some (byte.toNat - 87)
  else none

def isDigit (byte : UInt8) : Bool :=
  (digitValue? byte).isSome

def isSeparator (byte : UInt8) : Bool :=
  byte == 32 || byte == 35 || byte == 124 || byte == 95

inductive Verdict where
  | notHex
  | oddDigits
  | evenDigits
deriving DecidableEq, Repr

/-- Strict text holds digits only, otherwise separators are passed over
wherever they stand. Text without a digit is not hexadecimal. -/
def classify (strict : Bool) (text : Text) : Verdict :=
  let digits := text.shown.filter (fun byte => strict || !isSeparator byte)
  if digits.isEmpty || !digits.all isDigit then .notHex
  else if digits.length % 2 = 1 then .oddDigits
  else .evenDigits

/-- Text that is accepted as a telegram. -/
def isTelegram (text : Text) : Bool :=
  classify false text = .evenDigits

/-- Bytes read from the front of a text, and whether it was read completely. -/
structure Reading where
  bytes : List UInt8
  complete : Bool
deriving DecidableEq, Repr

def readPairs : Text → Reading
  | [] => ⟨[], true⟩
  | high :: rest =>
      if isSeparator high then readPairs rest
      else match rest with
        | [] => ⟨[], false⟩
        | low :: rest =>
            match digitValue? high, digitValue? low with
            | some upper, some lower =>
                let reading := readPairs rest
                ⟨UInt8.ofNat (16 * upper + lower) :: reading.bytes, reading.complete⟩
            | _, _ => ⟨[], false⟩

def read (text : Text) : Reading :=
  readPairs text.shown

def upperDigit (value : Nat) : UInt8 :=
  UInt8.ofNat (if value < 10 then 48 + value else 55 + value)

def lowerDigit (value : Nat) : UInt8 :=
  UInt8.ofNat (if value < 10 then 48 + value else 87 + value)

def upperByte (byte : UInt8) : Text :=
  [upperDigit (byte.toNat / 16), upperDigit (byte.toNat % 16)]

def lowerByte (byte : UInt8) : Text :=
  [lowerDigit (byte.toNat / 16), lowerDigit (byte.toNat % 16)]

def encode (bytes : List UInt8) : Text :=
  bytes.flatMap upperByte

/-- Four lower case digits of a 16 bit word. -/
def lowerWord (word : Nat) : Text :=
  lowerByte (UInt8.ofNat (word / 256)) ++ lowerByte (UInt8.ofNat word)

end MeterTelegram.Hex
