import MeterTelegram.SelfCheck.Basics

namespace MeterTelegram.SelfCheck

/-! Checks of the registered decoders: the samples decode, and nothing else. -/

def familyOf (name : Text) : Check Family :=
  Check.need ("family " ++ name) (Catalogue.builtin.find? name)

def decoderOf (name : Text) : Check Decoder := do
  let family ← familyOf name
  Check.need ("decoder " ++ name) family.decoder.toOption

def builtinRegistry : Check Registry :=
  Check.need "registry of all families" Catalogue.builtin.registry.toOption

/-- Status and findings of a decoder that starts with the given records. -/
def decode (decoder : Decoder) (frame : Frame) (records : List Record) :
    Check (DecodeStatus × Findings) :=
  Check.follow ("decoding by " ++ decoder.name) (decoder.decode frame { records })

def sampleSignal : Int := 10

def checkDecoder (registry : Registry) (sample : Sample) : Check PUnit := do
  let frame ← frameOf sample.telegram sampleSignal
  let dispatch ← Check.follow "dispatch" (registry.decode Registry.debugging frame {})
  Check.expect ("dispatch to " ++ sample.decoder)
    (dispatch.status = .decoded && dispatch.reading.decoder = sample.decoder &&
      frame.address.id = sample.id)
  Check.expect ("records of " ++ sample.id)
    (dispatch.reading.records = sample.records sampleSignal)
  let decoder ← decoderOf sample.decoder
  Check.expect ("temperatures of " ++ sample.decoder)
    (decoder.reportsTemperature = sample.temperatures.isSome)

def checkDecoders : Check PUnit := do
  let registry ← builtinRegistry
  Check.each samples (checkDecoder registry)
  let smoke ← frameOf smokeTelegram sampleSignal
  let dispatch ← Check.follow "dispatch" (registry.decode Registry.debugging smoke {})
  Check.expect "a smoke detector is unknown"
    (dispatch.status = .unknownDevice && dispatch.reading.records.isEmpty)

/-- An allocator's decoder reads the same coding of a water meter, with all seven records. -/
def checkAllRecords : Check PUnit := do
  let decoder ← decoderOf "fhkvdataiii_94"
  let frame ← frameOf coldWaterSample.telegram sampleSignal
  let (status, findings) ← decode decoder frame []
  let counted : Sample :=
    { coldWaterSample with
      past := 435.0, current := 181.0, unit := .heatCost, temperatures := some (15.36, 23.13) }
  Check.expect "all kinds of records"
    (status = .decoded && findings.records = counted.records sampleSignal)

/-- A frame with one byte changed. -/
def withByte (frame : Frame) (position : Nat) (byte : UInt8) : Frame :=
  { frame with bytes := frame.bytes.set position byte }

def mark : Record := ⟨.signalStrength, .integer 4711⟩

/-- Only the coding of the sample decodes, all others leave the records alone. -/
def checkCoding (decoder : Decoder) (frame : Frame) (coding : UInt8) : Check PUnit := do
  let position := frame.payloadOffset
  let (status, findings) ← decode decoder (withByte frame position coding) [mark]
  if frame.bytes[position]? = some coding then
    Check.expect ("own coding of " ++ decoder.name) (status = .decoded)
  else
    Check.expect ("other coding of " ++ decoder.name)
      (status = .notApplicable && findings.records = [mark])

def checkUnknownCodings : Check PUnit :=
  Check.each samples (fun sample => do
    let decoder ← decoderOf sample.decoder
    let frame ← frameOf sample.telegram sampleSignal
    Check.each ((List.range 256).map UInt8.ofNat) (checkCoding decoder frame))

/-- A frame cut before the end of the last field fails and leaves no records. -/
def checkCut (decoder : Decoder) (frame : Frame) (length payload : Nat) : Check PUnit := do
  let cut := { frame with bytes := frame.bytes.take (frame.payloadOffset + payload) }
  let (status, findings) ← decode decoder cut []
  if payload = length then
    Check.expect ("whole payload of " ++ decoder.name) (status = .decoded)
  else
    Check.expect ("cut payload of " ++ decoder.name)
      (status = .failed && findings.records.isEmpty && !findings.error.isEmpty)

def checkTruncated : Check PUnit :=
  Check.each samples (fun sample => do
    let decoder ← decoderOf sample.decoder
    let frame ← frameOf sample.telegram sampleSignal
    Check.each (List.range (sample.length + 1)) (checkCut decoder frame sample.length))

/-- A frame with another word at an offset of its payload. -/
def withWord (frame : Frame) (offset word : Nat) : Frame :=
  let position := frame.payloadOffset + offset
  withByte (withByte frame position (UInt8.ofNat word)) (position + 1) (UInt8.ofNat (word / 256))

def checkInvalidDate (offset word : Nat) (words : Text) : Check PUnit := do
  let decoder ← decoderOf "fhkvdataiii_94"
  let frame ← frameOf allocator94Sample.telegram sampleSignal
  let (status, findings) ← decode decoder (withWord frame offset word) []
  Check.expect ("failure: " ++ words)
    (status = .failed && findings.records.isEmpty && words.occursIn findings.error)

def checkInvalidDatesInFrame : Check PUnit := do
  checkInvalidDate 2 (PackedDate.encodePast ⟨2020, 13, 1⟩) "past date"
  checkInvalidDate 2 (PackedDate.encodePast ⟨2020, 6, 0⟩) "past date"
  checkInvalidDate 6 (PackedDate.encodeCurrent 0 5) "current date"
  checkInvalidDate 6 (PackedDate.encodeCurrent 2 0) "current date"
  checkInvalidDate 6 (PackedDate.encodeCurrent 4 31) "current date"

/-- Dates of a frame whose past date has the top bit of the year set. -/
def checkDatesInFrame : Check PUnit := do
  let decoder ← decoderOf "fhkvdataiii_94"
  let frame ← frameOf allocator94Sample.telegram sampleSignal
  let (status, findings) ← decode decoder (withWord frame 2 0xA99F) []
  let late : Sample :=
    { allocator94Sample with pastDate := ⟨2084, 12, 31⟩, currentDate := ⟨2085, 2, 5⟩ }
  Check.expect "dates of a late year"
    (status = .decoded && findings.records = late.records sampleSignal)

/-- The payload stands behind the address, whatever its length. -/
def checkAddressLength : Check PUnit := do
  let decoder ← decoderOf "fhkvdataiii_94"
  let normal ← frameOf allocator94Sample.telegram sampleSignal
  let front := (normal.bytes.take 10).modify 0 (· + 2)
  let bytes := front ++ [0xEE, 0xEE] ++ normal.bytes.drop 10
  let address := { normal.address with bytes := (bytes.drop 2).take 10 }
  let longer : Frame := { normal with bytes, address }
  Check.expect "payload behind a longer address" (longer.payloadOffset = 12)
  let (status, findings) ← decode decoder longer []
  Check.expect "decoding behind a longer address"
    (status = .decoded && findings.records = allocator94Sample.records sampleSignal)
  let (status, findings) ← decode decoder { longer with address := normal.address } []
  Check.expect "no coding where the address goes on"
    (status = .notApplicable && findings.records.isEmpty)

end MeterTelegram.SelfCheck
