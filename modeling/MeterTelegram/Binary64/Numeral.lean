import MeterTelegram.Binary64
import MeterTelegram.Text

namespace MeterTelegram

/-! Decimal numerals of binary numbers. A number is rounded to a count of
significant digits; the numeral is positional when its exponent is at least -4
and below that count, else scientific, and trailing zeros of the fraction are
left out. The shortest numeral that reads back as the number is printed. -/

/-- The `coefficient` has `precision` digits, the point stands after the first one
and is moved by `exponent`. -/
structure Numeral where
  negative : Bool
  precision : Nat
  coefficient : Nat
  exponent : Int
deriving DecidableEq, Repr

namespace Numeral

/-- Exponent of the leading digit of a positive fraction not below `10 ^ (-400)`. -/
def leadingExponent (numerator denominator : Nat) : Int :=
  ((Nat.toDigits 10 (numerator * Nat.pow 10 400 / denominator)).length : Int) - 401

/-- A fraction times a power of ten, rounded to a natural number. -/
def roundScaled (numerator denominator : Nat) (shift : Int) : Nat :=
  if 0 ≤ shift then Binary64.roundHalfEven (numerator * Nat.pow 10 shift.toNat) denominator
  else Binary64.roundHalfEven numerator (denominator * Nat.pow 10 (-shift).toNat)

/-- A positive fraction rounded to `precision` significant digits. -/
def ofFraction (negative : Bool) (precision numerator denominator : Nat) : Numeral :=
  let exponent := leadingExponent numerator denominator
  let rounded := roundScaled numerator denominator (precision - 1 - exponent)
  if rounded = Nat.pow 10 precision then
    ⟨negative, precision, Nat.pow 10 (precision - 1), exponent + 1⟩
  else ⟨negative, precision, rounded, exponent⟩

/-- The number nearest to the numeral. -/
def toBinary64 (numeral : Numeral) : Binary64 :=
  let shift := numeral.exponent - (numeral.precision - 1)
  if 0 ≤ shift then
    Binary64.ofFraction numeral.negative (numeral.coefficient * Nat.pow 10 shift.toNat) 1
  else
    Binary64.ofFraction numeral.negative numeral.coefficient (Nat.pow 10 (-shift).toNat)

def digits (numeral : Numeral) : Text :=
  (Text.ofNat numeral.coefficient).leftpad numeral.precision 48

def withoutTrailingZeros (digits : Text) : Text :=
  (digits.reverse.dropWhile (· == 48)).reverse

/-- An integer part and, unless it is zero, a fraction after a point. -/
def pointed (whole fraction : Text) : Text :=
  match withoutTrailingZeros fraction with
  | [] => whole
  | digit :: rest => whole ++ 46 :: digit :: rest

def isPositional (numeral : Numeral) : Bool :=
  -4 ≤ numeral.exponent && numeral.exponent < numeral.precision

def exponentText (exponent : Int) : Text :=
  (if exponent < 0 then 45 else 43) :: Text.ofIntPadded 2 exponent.natAbs

def unsignedText (numeral : Numeral) : Text :=
  let digits := numeral.digits
  if !numeral.isPositional then
    pointed (digits.take 1) (digits.drop 1) ++ 101 :: exponentText numeral.exponent
  else if numeral.exponent < 0 then
    pointed [48] (List.replicate ((-numeral.exponent).toNat - 1) 48 ++ digits)
  else
    pointed (digits.take (numeral.exponent.toNat + 1)) (digits.drop (numeral.exponent.toNat + 1))

def text (numeral : Numeral) : Text :=
  if numeral.negative then 45 :: numeral.unsignedText else numeral.unsignedText

end Numeral

namespace Binary64

/-- A finite number rounded to `precision` significant digits. -/
def numeral (negative : Bool) (significand scale precision : Nat) : Numeral :=
  if significand = 0 then ⟨negative, precision, 0, 0⟩
  else Numeral.ofFraction negative precision (significand * Nat.pow 2 scale) unitsInOne

/-- Enough digits to tell any two numbers apart. -/
def maxPrecision : Nat := 17

/-- The first of the precisions whose numeral reads back as the number, or the last. -/
def firstReadingBack (number : Binary64) (candidate : Nat → Numeral) : Nat → Nat → Numeral
  | 0, precision => candidate precision
  | more + 1, precision =>
      if (candidate precision).toBinary64.sameValue number then candidate precision
      else firstReadingBack number candidate more (precision + 1)

def infiniteText (negative : Bool) : Text :=
  if negative then "-inf" else "inf"

/-- The number as text, with as few digits as read back as the same number. -/
def text (number : Binary64) : Text :=
  match number.view with
  | .nan => "null"
  | .infinite negative => infiniteText negative
  | .finite negative significand scale =>
      (firstReadingBack number (numeral negative significand scale) (maxPrecision - 1) 1).text

/-- The number with at most six significant digits. -/
def briefText (number : Binary64) : Text :=
  match number.view with
  | .nan => if number.isNegative then "-nan" else "nan"
  | .infinite negative => infiniteText negative
  | .finite negative significand scale => (numeral negative significand scale 6).text

end Binary64

end MeterTelegram
