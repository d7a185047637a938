import MeterTelegram.Frame
import MeterTelegram.Layout
import MeterTelegram.PackedDate
import MeterTelegram.Record

namespace MeterTelegram.Layout

/-! Reading a frame by a layout: the coding byte decides whether the layout
applies, then dates, consumption and temperatures are read. Either all records
come out or none. -/

inductive Failure where
  | noCoding (position size : Nat)
  | short (coding : UInt8) (needed size : Nat)
  | pastDate (cause : PackedDate.Fault)
  | pastConsumption (cause : Counter.Fault)
  | currentDate (cause : PackedDate.Fault)
  | currentConsumption (cause : Counter.Fault)
  | roomTemperature (cause : Counter.Fault)
  | radiatorTemperature (cause : Counter.Fault)
deriving DecidableEq, Repr

def Failure.message : Failure → Text
  | .noCoding position size =>
      "telegram too short for coding byte at offset " ++ Text.ofNat position ++ " (length " ++
        Text.ofNat size ++ ")"
  | .short coding needed size =>
      "telegram too short for coding " ++ Hex.lowerByte coding ++ ", need " ++
        Text.ofNat needed ++ " bytes got " ++ Text.ofNat size
  | .pastDate cause => "past date: " ++ cause.message
  | .pastConsumption cause => "past consumption: " ++ cause.message
  | .currentDate cause => "current date: " ++ cause.message
  | .currentConsumption cause => "current consumption: " ++ cause.message
  | .roomTemperature cause => "room temperature: " ++ cause.message
  | .radiatorTemperature cause => "radiator temperature: " ++ cause.message

/-- Not applicable means that the coding byte belongs to some other layout. -/
inductive Outcome where
  | decoded (records : List Record)
  | notApplicable
  | failed (cause : Failure)
deriving DecidableEq, Repr

structure Consumption where
  pastDate : Date
  past : Binary64
  currentDate : Date
  current : Binary64
deriving DecidableEq, Repr

/-- Where a field stands in the bytes of a frame. -/
def position (frame : Frame) (field : Field) : Nat :=
  (frame.payloadOffset + field.offset).toNat

def readConsumption (layout : Layout) (frame : Frame) : Except Failure Consumption := do
  let pastDate ←
    (PackedDate.readPast frame.bytes (position frame layout.pastDate)).mapError Failure.pastDate
  let past ←
    (Counter.readScaled frame.bytes (position frame layout.pastConsumption)
      layout.pastConsumption.width layout.divisor).mapError Failure.pastConsumption
  let currentDate ←
    (PackedDate.readCurrent frame.bytes (position frame layout.currentDate) pastDate).mapError
      Failure.currentDate
  let current ←
    (Counter.readScaled frame.bytes (position frame layout.currentConsumption)
      layout.currentConsumption.width layout.divisor).mapError Failure.currentConsumption
  return { pastDate, past, currentDate, current }

def consumptionRecords (layout : Layout) (consumption : Consumption) (signal : Int) :
    Except Record.Fault (List Record) := do
  let current ← Record.scalar .currentVolume consumption.current layout.unit
  let currentDate ← Record.dateTime .currentReadingDate consumption.currentDate.midnight
  let past ← Record.scalar .pastVolume consumption.past layout.unit
  let pastDate ← Record.dateTime .pastReadingDate consumption.pastDate.midnight
  let strength ← Record.integer .signalStrength signal
  return [current, currentDate, past, pastDate, strength]

/-- The temperatures in celsius, none if the layout does not report them. -/
def readTemperatures (layout : Layout) (frame : Frame) :
    Except Failure (List (RecordKind × Binary64)) :=
  if layout.reportsTemperature then do
    let room ←
      (Counter.readTemperature frame.bytes (position frame layout.roomTemperature)
        layout.roomTemperature.width).mapError Failure.roomTemperature
    let radiator ←
      (Counter.readTemperature frame.bytes (position frame layout.radiatorTemperature)
        layout.radiatorTemperature.width).mapError Failure.radiatorTemperature
    return [(.roomTemperature, room), (.radiatorTemperature, radiator)]
  else return []

def temperatureRecords (temperatures : List (RecordKind × Binary64)) :
    Except Record.Fault (List Record) :=
  temperatures.mapM (fun (kind, celsius) => Record.quantity kind celsius .celsius)

/-- Reads the fields of a frame that is long enough for the layout. -/
def readFields (layout : Layout) (frame : Frame) : Except Record.Fault Outcome :=
  match layout.readConsumption frame with
  | .error cause => .ok (.failed cause)
  | .ok consumption => do
      let counted ← layout.consumptionRecords consumption frame.signal
      match layout.readTemperatures frame with
      | .error cause => return .failed cause
      | .ok temperatures =>
          let felt ← temperatureRecords temperatures
          return .decoded (counted ++ felt)

def Outcome.entries (decoder : Text) : Outcome → List Entry
  | .decoded records =>
      records.map (fun record =>
        .trace ("(" ++ decoder.shown ++ ") " ++ record.text ++ "\n"))
  | _ => []

/-- Frame bytes needed by the layout. -/
def neededSize (layout : Layout) (frame : Frame) : Nat :=
  (frame.payloadOffset + layout.length) % Field.sizeRange

def decode (decoder : Text) (layout : Layout) (frame : Frame) : Journal Record.Fault Outcome :=
  let start := frame.payloadOffset
  let size := frame.bytes.length
  match frame.bytes[start]? with
  | none => return .failed (.noCoding start size)
  | some coding =>
      if !layout.recognizes coding then do
        Journal.note [.debug ("(" ++ decoder.shown ++ ") coding " ++ Hex.lowerByte coding ++
          " at offset " ++ Text.ofNat start ++ " not handled\n")]
        return .notApplicable
      else if size < layout.neededSize frame then
        return .failed (.short coding (layout.neededSize frame) size)
      else do
        Journal.note [.payload ("(" ++ decoder ++ ") decoding payload") (frame.bytes.drop start)]
        let outcome ← Journal.ofExcept (layout.readFields frame)
        Journal.note (outcome.entries decoder)
        return outcome

end MeterTelegram.Layout
