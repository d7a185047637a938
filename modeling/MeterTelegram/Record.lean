import MeterTelegram.Binary64.Numeral
import MeterTelegram.Calendar
import MeterTelegram.MeterUnit

namespace MeterTelegram

/-! Records: single measurements decoded from a telegram. Every kind of record
stores values of one type; the factories refuse all others. -/

inductive ValueType where
  | scalar
  | dateTime
  | quantity
  | integer
deriving DecidableEq, Repr

def ValueType.name : ValueType → Text
  | .scalar => "Scalar"
  | .dateTime => "DateTime"
  | .quantity => "Quantity"
  | .integer => "Integer"

inductive RecordKind where
  | currentVolume
  | currentReadingDate
  | pastVolume
  | pastReadingDate
  | roomTemperature
  | radiatorTemperature
  | signalStrength
deriving DecidableEq, Repr

namespace RecordKind

def all : List RecordKind :=
  [currentVolume, currentReadingDate, pastVolume, pastReadingDate, roomTemperature,
    radiatorTemperature, signalStrength]

def name : RecordKind → Text
  | currentVolume => "CurrentVolume"
  | currentReadingDate => "CurrentReadingDate"
  | pastVolume => "PastVolume"
  | pastReadingDate => "PastReadingDate"
  | roomTemperature => "RoomTemperature"
  | radiatorTemperature => "RadiatorTemperature"
  | signalStrength => "SignalStrength"

/-- The name of the field in reports and selections. -/
def fieldName : RecordKind → Text
  | currentVolume => "current_volume"
  | currentReadingDate => "current_reading_date"
  | pastVolume => "past_volume"
  | pastReadingDate => "past_reading_date"
  | roomTemperature => "room_temperature"
  | radiatorTemperature => "radiator_temperature"
  | signalStrength => "rssi"

def ofFieldName? (field : Text) : Option RecordKind :=
  all.find? (fun kind => kind.fieldName == field)

def valueType : RecordKind → ValueType
  | currentVolume => .scalar
  | currentReadingDate => .dateTime
  | pastVolume => .scalar
  | pastReadingDate => .dateTime
  | roomTemperature => .quantity
  | radiatorTemperature => .quantity
  | signalStrength => .integer

end RecordKind

inductive Measurement where
  | scalar (value : Binary64) (unit : MeterUnit)
  | dateTime (date : Date)
  | quantity (value : Binary64) (unit : MeterUnit)
  | integer (value : Int)
deriving DecidableEq, Repr

namespace Measurement

def valueType : Measurement → ValueType
  | scalar _ _ => .scalar
  | dateTime _ => .dateTime
  | quantity _ _ => .quantity
  | integer _ => .integer

def unit : Measurement → MeterUnit
  | scalar _ unit => unit
  | dateTime _ => .localDate
  | quantity _ unit => unit
  | integer _ => .decibelMilliwatt

/-- The bare value. -/
def plainText : Measurement → Text
  | scalar value _ => value.text
  | dateTime date => date.text
  | quantity value _ => value.text
  | integer value => Text.ofInt value

/-- The value with its unit, dates without one. -/
def text (measurement : Measurement) : Text :=
  match measurement with
  | dateTime date => date.text
  | _ => measurement.plainText ++ " " ++ measurement.unit.sign

end Measurement

structure Record where
  kind : RecordKind
  measurement : Measurement
deriving DecidableEq, Repr

namespace Record

inductive Fault where
  | notCountable (kind : RecordKind) (unit : MeterUnit)
  | wrongUnit (mismatch : MeterUnit.Mismatch)
  | wrongType (kind : RecordKind) (type : ValueType)
deriving DecidableEq, Repr

def Fault.message : Fault → Text
  | .notCountable kind unit =>
      "Internal error! Record " ++ kind.name ++ " cannot be counted in " ++ unit.sign ++ ".\n"
  | .wrongUnit mismatch => mismatch.message
  | .wrongType kind type =>
      "Internal error! Record " ++ kind.name ++ " cannot store a " ++ type.name ++ " value.\n"

/-- A record if its kind stores measurements of this type. -/
def store (kind : RecordKind) (measurement : Measurement) : Except Fault Record :=
  if kind.valueType = measurement.valueType then .ok { kind, measurement }
  else .error (.wrongType kind measurement.valueType)

/-- A consumption counter in the unit of its meter. -/
def scalar (kind : RecordKind) (value : Binary64) (unit : MeterUnit) : Except Fault Record :=
  if unit.countsConsumption then store kind (.scalar value unit)
  else .error (.notCountable kind unit)

/-- A calendar date; the time of day is not kept. -/
def dateTime (kind : RecordKind) (moment : Moment) : Except Fault Record :=
  store kind (.dateTime moment.date)

/-- A temperature in celsius. -/
def quantity (kind : RecordKind) (value : Binary64) (unit : MeterUnit) : Except Fault Record := do
  (unit.require .temperature).mapError Fault.wrongUnit
  store kind (.quantity value unit)

def integer (kind : RecordKind) (value : Int) : Except Fault Record :=
  store kind (.integer value)

def unit (record : Record) : MeterUnit :=
  record.measurement.unit

def valueText (record : Record) : Text :=
  record.measurement.text

def text (record : Record) : Text :=
  record.kind.fieldName ++ "=" ++ record.valueText

end Record

end MeterTelegram
