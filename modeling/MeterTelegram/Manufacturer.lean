import MeterTelegram.Text

namespace MeterTelegram.Manufacturer

/-! Manufacturer codes pack three upper case letters into five bits each. -/

def code (first second third : Char) : Int :=
  (first.toNat - 64) * 1024 + (second.toNat - 64) * 32 + (third.toNat - 64)

/-- The manufacturer of the supported meters. -/
def techem : Int := code 'T' 'C' 'H'

/-- Manufacturers heard on the same radio channels. -/
def known : List (Int × Text) :=
  [ (code 'A' 'P' 'A', "Apator, Poland"),
    (code 'D' 'M' 'E', "DIEHL Metering, Germany"),
    (code 'K' 'A' 'M', "Kamstrup Energi"),
    (code 'L' 'S' 'E', "Landis Staefa electronic"),
    (code 'Q' 'D' 'S', "Qundis, Germany"),
    (techem, "Techem Service"),
    (code 'W' 'E' 'H', "E Wehrle, Germany"),
    (code 'Z' 'R' 'I', "ZENNER International, Germany") ]

def name (manufacturer : Int) : Text :=
  (known.lookup manufacturer).getD "Unknown"

/-- The letter at a place; what a code holds above three letters is passed over. -/
def letter (manufacturer unit : Int) : UInt8 :=
  UInt8.ofNat ((manufacturer.tdiv unit).tmod 32 + 64).toNat

def letters (manufacturer : Int) : Text :=
  [letter manufacturer 1024, letter manufacturer 32, letter manufacturer 1]

end MeterTelegram.Manufacturer
