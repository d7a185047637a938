import MeterTelegram.SelfCheck.Check
import MeterTelegram.SelfCheck.Samples

namespace MeterTelegram.SelfCheck

/-! Checks of hexadecimal text, addresses, frames, counters and records. -/

/-- Bytes of a hexadecimal text. -/
def hexBytes (text : Text) : List UInt8 :=
  (Hex.read text).bytes

def checkHex : Check PUnit := do
  let classified (strict : Bool) (text : Text) (verdict : Hex.Verdict) : Check PUnit :=
    Check.expect ("classified hex: " ++ text) (Hex.classify strict text = verdict)
  classified true "00112233445566778899aabbccddeeff" .evenDigits
  classified true "00112233445566778899AABBCCDDEEFF" .evenDigits
  classified true "00112233445566778899AABBCCDDEEF" .oddDigits
  classified true "00112233445566778899AABBCCDDEEFG" .notHex
  classified false "00 11 22 33#44|55#66 778899aabbccddeeff" .evenDigits
  classified false "00 11 22 33#4|55#66 778899aabbccddeeff" .oddDigits
  Check.expect "separators are passed over"
    (Hex.read "2F44_6850|31" = ⟨[0x2F, 0x44, 0x68, 0x50, 0x31], true⟩)
  Check.expect "a dangling digit is refused" (!(Hex.read "2F4").complete)

def checkAddresses : Check PUnit := do
  let bytes := hexBytes "68503412111194807f"
  let address ← Check.need "an address is read" (Address.read? bytes 0)
  Check.expect "parts of an address"
    (address.manufacturer.toNat = Manufacturer.techem && address.id = "11111234" &&
      address.version = 0x94 && address.deviceType = 0x80 && address.bytes.length = Address.length)
  Check.expect "signature of an address" (address.signature.text = "M=TCH.V=94.T=80")
  let cold := Catalogue.signature 0x72 0x74
  let warm := Catalogue.signature 0x62 0x74
  Check.expect "order of signatures" (cold.key ≠ warm.key && warm.key < cold.key)
  let medium (deviceType : Int) : Text := (Medium.ofDevice deviceType Manufacturer.techem).name
  Check.expect "media of one manufacturer"
    (medium 0x72 = "cold water" && medium 0x62 = "warm water" &&
      medium 0x80 = "heat cost allocation")
  Check.expect "seven bytes hold no address" (Address.read? (bytes.take 7) 0).isNone

/-- A frame of a telegram. -/
def frameOf (telegram : Text) (signal : Int) : Check Frame :=
  Check.follow ("frame of " ++ telegram) (Frame.receiveText telegram signal)

/-- The telegram is refused with a message that holds the given words. -/
def checkRefused (telegram words : Text) : Check PUnit := do
  match ← Check.attempt (Frame.receiveText telegram 0) with
  | .ok _ => Check.expect ("no frame of " ++ telegram) false
  | .error fault => Check.expect ("refusal of " ++ telegram) (words.occursIn fault.message)

def checkFrames : Check PUnit := do
  let frame ← frameOf allocator94Sample.telegram (-72)
  Check.expect "parts of a frame"
    (frame.address.id = "11111234" &&
      frame.address.manufacturer.toNat = Manufacturer.techem && frame.address.version = 0x94 &&
      frame.address.deviceType = 0x80 && frame.signal = -72 && frame.bytes.length = 52 &&
      frame.payloadOffset = 10)
  match ← Check.attempt (Frame.receive [] 0) with
  | .ok _ => Check.expect "no frame without bytes" false
  | .error fault => Check.expect "refusal without bytes" (fault = .empty)
  checkRefused "" "not a hex string"
  checkRefused "XYZ" "not a hex string"
  checkRefused "0A44685034121111" "length byte"
  checkRefused "0544685034121111" "too short"

def checkCounters : Check PUnit := do
  let counter (bytes : List UInt8) (offset : Nat) (width : Int) (value : Option Nat) :
      Check PUnit :=
    Check.expect ("counter of " ++ Text.ofInt width ++ " bytes at " ++ Text.ofNat offset)
      ((Counter.read bytes offset width).toOption = value)
  let bytes : List UInt8 := [1, 2, 3, 4, 5]
  counter bytes 0 1 (some 0x01)
  counter bytes 0 2 (some 0x0201)
  counter bytes 0 3 (some 0x030201)
  counter bytes 0 4 (some 0x04030201)
  counter bytes 1 4 (some 0x05040302)
  counter bytes 4 1 (some 0x05)
  counter bytes 4 2 none
  counter bytes 3 4 none
  counter bytes 5 1 none
  counter bytes 0 0 none
  counter bytes 0 5 none
  counter [0xFF, 0xFF, 0xFF, 0xFF] 0 4 (some 0xFFFFFFFF)
  let temperature (text : Text) (celsius : Binary64) : Check PUnit :=
    Check.expect ("temperature of " ++ text)
      ((Counter.readTemperature (hexBytes text) 0 2).toOption = some celsius)
  temperature "3408" 21.0
  temperature "bd08" 22.37
  temperature "3809" 23.6
  temperature "0000" 0.0
  let consumption (divisor value : Binary64) : Check PUnit :=
    Check.expect ("consumption divided by " ++ divisor.text)
      ((Counter.readScaled (hexBytes "b301") 0 2 divisor).toOption = some value)
  consumption 10.0 43.5
  consumption 1.0 435.0

/-- The record was made, has the type of its kind and the given text. -/
def checkRecord (made : Except Record.Fault Record) (type : ValueType) (text : Text) :
    Check PUnit := do
  let record ← Check.need ("record " ++ text) made.toOption
  Check.expect ("type of " ++ text)
    (record.measurement.valueType = type && record.kind.valueType = type)
  Check.expect ("text of " ++ text) (record.text = text)

def checkRecords : Check PUnit := do
  let moment : Moment :=
    { date := ⟨2020, 12, 31⟩, hour := 13, minute := 0, second := 0, daylight := 0 }
  checkRecord (Record.scalar .currentVolume 131.0 .heatCost) .scalar "current_volume=131 hca"
  checkRecord (Record.scalar .pastVolume 43.5 .cubicMetre) .scalar "past_volume=43.5 m³"
  checkRecord (Record.dateTime .pastReadingDate moment) .dateTime "past_reading_date=2020-12-31"
  checkRecord (Record.quantity .roomTemperature 22.37 .celsius) .quantity
    "room_temperature=22.37 °C"
  checkRecord (Record.integer .signalStrength (-70)) .integer "rssi=-70 dBm"
  let record ← Check.need "a record of a date"
    (Record.dateTime .currentReadingDate moment).toOption
  Check.expect "a record keeps the date only" (record.measurement = .dateTime moment.date)
  Check.expect "unit of a date" (record.unit = .localDate)
  Check.expect "field of the signal strength"
    (RecordKind.ofFieldName? "rssi" = some .signalStrength)
  Check.expect "field of the radiator temperature"
    (RecordKind.ofFieldName? "radiator_temperature" = some .radiatorTemperature)
  Check.expect "no such field" (RecordKind.ofFieldName? "total_m3").isNone

end MeterTelegram.SelfCheck
