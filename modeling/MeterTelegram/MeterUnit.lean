import MeterTelegram.Text

namespace MeterTelegram

/-! Units of measurement and the quantities they measure. -/

inductive Quantity where
  | temperature
  | volume
  | pointInTime
  | heatCost
  | signalStrength
  | unknown
deriving DecidableEq, Repr

def Quantity.name : Quantity → Text
  | .temperature => "Temperature"
  | .volume => "Volume"
  | .pointInTime => "PointInTime"
  | .heatCost => "HCA"
  | .signalStrength => "SignalStrength"
  | .unknown => "?"

inductive MeterUnit where
  | cubicMetre
  | celsius
  | localDate
  | heatCost
  | decibelMilliwatt
  | unknown
deriving DecidableEq, Repr

namespace MeterUnit

/-- The quantity a unit measures; an unknown unit measures none. -/
def quantity? : MeterUnit → Option Quantity
  | cubicMetre => some .volume
  | celsius => some .temperature
  | localDate => some .pointInTime
  | heatCost => some .heatCost
  | decibelMilliwatt => some .signalStrength
  | unknown => none

def measures (unit : MeterUnit) (quantity : Quantity) : Bool :=
  unit.quantity? = some quantity

/-- Consumption is counted in heat cost units or in volume. -/
def countsConsumption (unit : MeterUnit) : Bool :=
  unit.measures .heatCost || unit.measures .volume

/-- The sign of a unit for readers. -/
def sign : MeterUnit → Text
  | cubicMetre => "m³"
  | celsius => "°C"
  | localDate => "date"
  | heatCost => "hca"
  | decibelMilliwatt => "dBm"
  | unknown => "?"

/-- The unit as part of a field name. -/
def fieldSuffix : MeterUnit → Text
  | cubicMetre => "m3"
  | celsius => "c"
  | localDate => "date"
  | heatCost => "hca"
  | decibelMilliwatt => "dbm"
  | unknown => "?"

/-- A unit used for a quantity it does not measure. -/
structure Mismatch where
  unit : MeterUnit
  quantity : Quantity
deriving DecidableEq, Repr

def Mismatch.message (mismatch : Mismatch) : Text :=
  "Internal error! Unit " ++ mismatch.unit.sign ++ " is not of quantity " ++
    mismatch.quantity.name ++ ".\n"

def require (unit : MeterUnit) (quantity : Quantity) : Except Mismatch PUnit :=
  if unit.measures quantity then .ok () else .error ⟨unit, quantity⟩

end MeterUnit

end MeterTelegram
