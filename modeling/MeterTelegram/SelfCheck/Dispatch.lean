import MeterTelegram.SelfCheck.Decoders

namespace MeterTelegram.SelfCheck

/-! Checks of registries: decoders are asked in order, and the decisions of a
dispatch tell which were asked. -/

/-- A decoder of one signature that always answers with the same status. -/
def answering (name : Text) (deviceType version : UInt8) (status : DecodeStatus) : Decoder :=
  { name
    signatures := [Catalogue.signature deviceType version]
    reportsTemperature := false
    decode := fun frame findings =>
      match status with
      | .decoded => do
          let record ← Journal.ofExcept (Record.integer .signalStrength frame.signal)
          return (status, { findings with records := [record] })
      | .notApplicable => return (status, findings)
      | .failed => return (status, { findings with error := "bad reading" }) }

def registryOf (decoders : List Decoder) : Registry :=
  decoders.foldl Registry.add Registry.empty

/-- The names of the decoders that were asked, in order. -/
def asked (dispatch : Dispatch) : List Text :=
  dispatch.decisions.filterMap (fun decision =>
    match decision with
    | .asked decoder _ _ _ => some decoder
    | .noDecoder _ _ => none)

/-- Exactly these decoders were asked. -/
def hasAsked (dispatch : Dispatch) (names : List Text) : Bool :=
  asked dispatch = names

/-- Exactly these decoders are found for a signature. -/
def finds (registry : Registry) (signature : Signature) (names : List Text) : Bool :=
  (registry.lookup signature).map Decoder.name = names

def dispatchTo (decoders : List Decoder) (frame : Frame) (before : Reading) : Check Dispatch :=
  Check.follow "dispatch" ((registryOf decoders).decode Registry.silent frame before)

def checkSignatures : Check PUnit := do
  let decoders :=
    [answering "allocator" 0x80 0x94 .decoded, answering "water" 0x62 0x74 .decoded]
  let smoke ← frameOf smokeTelegram sampleSignal
  let dispatch ← dispatchTo decoders smoke {}
  Check.expect "nobody is asked for an unknown device"
    (dispatch.status = .unknownDevice && hasAsked dispatch [] && dispatch.reading.records.isEmpty)
  Check.expect "an unknown device is one decision" (dispatch.decisions.length = 1)
  let frame ← frameOf allocator94Sample.telegram (-50)
  let dispatch ← dispatchTo decoders frame dispatch.reading
  Check.expect "the decoder of the signature is asked"
    (dispatch.status = .decoded && dispatch.reading.decoder = "allocator" &&
      hasAsked dispatch ["allocator"] &&
      dispatch.reading.records = [⟨.signalStrength, .integer (-50)⟩])

def checkOrder : Check PUnit := do
  let decoders :=
    [answering "first" 0x80 0x94 .notApplicable, answering "second" 0x80 0x94 .decoded,
      answering "third" 0x80 0x94 .decoded]
  let frame ← frameOf allocator94Sample.telegram 0
  Check.expect "decoders are found in the order they were added"
    (finds (registryOf decoders) frame.address.signature ["first", "second", "third"])
  let frame ← frameOf allocator94Sample.telegram 0
  let dispatch ← dispatchTo decoders frame {}
  Check.expect "a decoder that declines is passed over"
    (dispatch.status = .decoded && dispatch.reading.decoder = "second" &&
      hasAsked dispatch ["first", "second"])

def checkFailure : Check PUnit := do
  let decoders := [answering "broken" 0x80 0x94 .failed, answering "next" 0x80 0x94 .decoded]
  let frame ← frameOf allocator94Sample.telegram 0
  let dispatch ← dispatchTo decoders frame {}
  Check.expect "a failure ends the search"
    (dispatch.status = .failed && dispatch.reading.decoder = "broken" &&
      dispatch.reading.error = "bad reading" && hasAsked dispatch ["broken"] &&
      dispatch.reading.records.isEmpty)

def checkNobody : Check PUnit := do
  let decoders :=
    [answering "a" 0x80 0x94 .notApplicable, answering "b" 0x80 0x94 .notApplicable]
  let frame ← frameOf allocator94Sample.telegram 0
  let dispatch ← dispatchTo decoders frame {}
  Check.expect "nobody knows the coding"
    (dispatch.status = .notApplicable && hasAsked dispatch ["a", "b"] &&
      dispatch.reading.records.isEmpty)

def checkRegistry : Check PUnit := do
  checkSignatures
  checkOrder
  checkFailure
  checkNobody

/-- A layout of the fields all meters have, the past consumption at an offset. -/
def countersAt (pastConsumption : Int) : Layout :=
  { codings := [0xA2]
    pastDate := ⟨2, 2⟩
    pastConsumption := ⟨pastConsumption, 2⟩
    currentDate := ⟨6, 2⟩
    currentConsumption := ⟨8, 2⟩ }

def checkLayouts : Check PUnit := do
  Check.expect "fields must not overlap"
    (((countersAt 3).fault?.map (fun fault => Text.occursIn "overlaps" fault.message)) = some true)
  Check.expect "temperatures must be reported"
    (!{ countersAt 4 with roomTemperature := ⟨10, 2⟩ }.isConsistent)
  Check.expect "a layout without temperatures"
    ((countersAt 4).isConsistent && (countersAt 4).length = 10)

def checkFamily (family : Family) : Check PUnit := do
  let decoder ← decoderOf family.name
  Check.expect ("signatures of " ++ family.name)
    (decoder.signatures.all (fun signature =>
      family.detects signature && signature.manufacturer.toNat = Manufacturer.techem))

def checkBuiltinRegistry : Check PUnit := do
  let registry ← builtinRegistry
  Check.expect "number of families" (registry.decoders.length = 5)
  let only (deviceType version : UInt8) (name : Text) : Check PUnit :=
    Check.expect ("only decoder: " ++ name)
      (finds registry (Catalogue.signature deviceType version) [name])
  only 0x72 0x74 "mkradio3"
  only 0x72 0x70 "mkradio4"
  only 0x80 0x94 "fhkvdataiii_94"
  Check.expect "temperatures of the newest allocator"
    ((registry.lookup (Catalogue.signature 0x80 0x94)).all Decoder.reportsTemperature)
  Check.each Catalogue.builtin.families checkFamily
  checkLayouts

end MeterTelegram.SelfCheck
