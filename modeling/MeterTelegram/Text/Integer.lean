import MeterTelegram.Text

namespace MeterTelegram.Text

/-! Decimal integers at the beginning of a text: white space, a sign and at
least one digit. They are kept in words of 64 bits. -/

/-- Space and the control characters from tab to carriage return. -/
def isWhiteSpace (byte : UInt8) : Bool :=
  byte == 32 || 9 ≤ byte && byte ≤ 13

def isDecimalDigit (byte : UInt8) : Bool :=
  48 ≤ byte && byte ≤ 57

def decimalValue (digits : Text) : Nat :=
  digits.foldl (fun value digit => 10 * value + (digit.toNat - 48)) 0

/-- Digits with the sign before them, and what follows. -/
def signedDigits? (negative : Bool) (text : Text) : Option (Int × Text) :=
  match text.takeWhile isDecimalDigit with
  | [] => none
  | digit :: digits =>
      let value : Int := decimalValue (digit :: digits)
      some (if negative then -value else value, text.dropWhile isDecimalDigit)

def leadingInteger? (text : Text) : Option (Int × Text) :=
  match text.dropWhile isWhiteSpace with
  | [] => none
  | first :: rest =>
      if first = 45 then signedDigits? true rest
      else if first = 43 then signedDigits? false rest
      else signedDigits? false (first :: rest)

def minLong : Int := -9223372036854775808

def maxLong : Int := 9223372036854775807

/-- The nearest number that a word holds. -/
def saturated (value : Int) : Int :=
  max minLong (min value maxLong)

/-- The word for the integer at the beginning of a text, and what follows it. -/
def leadingLong? (text : Text) : Option (Int × Text) :=
  (leadingInteger? text).map (fun (value, rest) => (saturated value, rest))

end MeterTelegram.Text
