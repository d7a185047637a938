namespace MeterTelegram

/-! Binary floating point numbers of 64 bits. A finite number is a sign and a
natural significand times a power of two, counted from the smallest unit
`2 ^ (-1074)`; every operation is computed exactly and rounded once, to the
nearest number and on a tie to the even significand. -/

structure Binary64 where
  bits : UInt64
deriving DecidableEq, Repr

namespace Binary64

/-- What a number denotes: `finite negative significand scale` is
`significand * 2 ^ scale` smallest units. -/
inductive View where
  | nan
  | infinite (negative : Bool)
  | finite (negative : Bool) (significand scale : Nat)
deriving DecidableEq, Repr

/-- The sign is the uppermost of 64 bits. -/
def signBit : Nat := Nat.pow 2 63

/-- The exponent is counted in the bits above 52 bits of the fraction. -/
def exponentUnit : Nat := Nat.pow 2 52

/-- Smallest units in one. -/
def unitsInOne : Nat := Nat.pow 2 1074

def isNegative (number : Binary64) : Bool :=
  signBit ≤ number.bits.toNat

/-- All bits but the sign. -/
def magnitude (number : Binary64) : Nat :=
  number.bits.toNat % signBit

/-- Magnitude of the infinities; above it stand the numbers that are none. -/
def infinity : Nat := 2047 * exponentUnit

def view (number : Binary64) : View :=
  let magnitude := number.magnitude
  let exponent := magnitude / exponentUnit
  let fraction := magnitude % exponentUnit
  if infinity < magnitude then .nan
  else if magnitude = infinity then .infinite number.isNegative
  else if exponent = 0 then .finite number.isNegative fraction 0
  else .finite number.isNegative (exponentUnit + fraction) (exponent - 1)

def ofMagnitude (negative : Bool) (magnitude : Nat) : Binary64 :=
  ⟨UInt64.ofNat ((if negative then signBit else 0) + magnitude)⟩

def nan : Binary64 := ofMagnitude false (infinity + exponentUnit / 2)

def infinite (negative : Bool) : Binary64 := ofMagnitude negative infinity

def zero (negative : Bool) : Binary64 := ofMagnitude negative 0

/-- Quotient rounded to the nearest natural number, a tie to the even one. -/
def roundHalfEven (numerator denominator : Nat) : Nat :=
  let quotient := numerator / denominator
  let remainder := numerator % denominator
  if 2 * remainder < denominator then quotient
  else if denominator < 2 * remainder then quotient + 1
  else quotient + quotient % 2

/-- The number nearest to a fraction of smallest units. The scale is the least
that leaves a significand below `2 ^ 53`; a carry out of the significand moves
on to the next scale by the layout of the bits. -/
def ofUnits (negative : Bool) (numerator denominator : Nat) : Binary64 :=
  let scale := (numerator / denominator).log2 - 52
  let significand := roundHalfEven numerator (denominator * Nat.pow 2 scale)
  ofMagnitude negative (min infinity (scale * exponentUnit + significand))

/-- The number nearest to a fraction. -/
def ofFraction (negative : Bool) (numerator denominator : Nat) : Binary64 :=
  ofUnits negative (numerator * unitsInOne) denominator

def ofNat (value : Nat) : Binary64 :=
  ofFraction false value 1

/-- Decimal literals stand for the nearest number. -/
instance : OfScientific Binary64 where
  ofScientific mantissa negativeExponent exponent :=
    if negativeExponent then ofFraction false mantissa (Nat.pow 10 exponent)
    else ofNat (mantissa * Nat.pow 10 exponent)

/-- A count divided by a number. -/
def quotient (count : Nat) (divisor : Binary64) : Binary64 :=
  match divisor.view with
  | .nan => nan
  | .infinite negative => zero negative
  | .finite negative significand scale =>
      if significand = 0 then
        if count = 0 then nan else infinite negative
      else ofFraction negative (count * unitsInOne) (significand * Nat.pow 2 scale)

def isNaN (number : Binary64) : Bool :=
  number.view = .nan

/-- Equality of values: the two zeros are equal, what is no number equals nothing. -/
def sameValue (left right : Binary64) : Bool :=
  match left.view, right.view with
  | .nan, _ => false
  | .finite _ 0 _, .finite _ 0 _ => true
  | _, _ => left.bits == right.bits

/-- Zero or below; false for what is no number. -/
def isAtMostZero (number : Binary64) : Bool :=
  match number.view with
  | .nan => false
  | .infinite negative => negative
  | .finite negative significand _ => negative || significand = 0

end Binary64

end MeterTelegram
