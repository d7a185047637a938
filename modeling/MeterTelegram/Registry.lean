import MeterTelegram.Decoder

namespace MeterTelegram

/-! A registry finds the decoders of a frame by the signature of its address.
They are asked in the order they were added until one does not decline. -/

inductive DispatchStatus where
  | decoded
  | notApplicable
  | failed
  | unknownDevice
deriving DecidableEq, Repr

def DispatchStatus.name : DispatchStatus → Text
  | .decoded => "Decoded"
  | .notApplicable => "NotApplicable"
  | .failed => "Failed"
  | .unknownDevice => "UnknownDevice"

/-- What the caller of a registry sees: a dispatch changes only some parts of it. -/
structure Reading where
  records : List Record := []
  decoder : Text := []
  error : Text := []
deriving DecidableEq, Repr

/-- One step of a dispatch. -/
inductive Decision where
  | noDecoder (signature : Signature) (id : Text)
  | asked (decoder : Text) (signature : Signature) (id : Text) (status : DecodeStatus)
deriving DecidableEq, Repr

def Decision.line : Decision → Text
  | .noDecoder signature id =>
      Text.clipped ("no decoder for " ++ signature.text ++ " id " ++ id.shown)
  | .asked decoder signature id status =>
      Text.clipped (decoder.shown ++ " " ++ signature.text ++ " id " ++ id.shown ++ " " ++
        status.name)

structure Dispatch where
  status : DispatchStatus
  reading : Reading
  decisions : List Decision
deriving DecidableEq, Repr

/-- The index `bySignature` holds the decoders of each signature key, in the order
they were added. -/
structure Registry where
  decoders : List Decoder
  bySignature : Nat → List Decoder

namespace Registry

def empty : Registry :=
  { decoders := [], bySignature := fun _ => [] }

def enter (decoder : Decoder) (index : Nat → List Decoder) (signature : Signature) :
    Nat → List Decoder :=
  fun key => if key = signature.key then index key ++ [decoder] else index key

/-- Adds a decoder for each of its signatures. -/
def add (registry : Registry) (decoder : Decoder) : Registry :=
  { decoders := registry.decoders ++ [decoder]
    bySignature := decoder.signatures.foldl (enter decoder) registry.bySignature }

def lookup (registry : Registry) (signature : Signature) : List Decoder :=
  registry.bySignature signature.key

/-- What is logged of a decision. -/
abbrev Trace := Decision → List Entry

def silent : Trace :=
  fun _ => []

def debugging : Trace :=
  fun decision => [.debug ("(registry) " ++ decision.line ++ "\n")]

/-- Asks decoders in turn; each starts without findings. -/
def ask (trace : Trace) (frame : Frame) (before : Reading) :
    List Decoder → Journal Record.Fault Dispatch
  | [] =>
      return {
        status := .notApplicable
        reading := { before with
          error := "no decoder for " ++ frame.address.signature.text ++
            " understood the coding byte" }
        decisions := [] }
  | decoder :: others => do
      let (status, findings) ← decoder.decode frame {}
      let decision :=
        Decision.asked decoder.name frame.address.signature frame.address.id status
      Journal.note (trace decision)
      match status with
      | .decoded =>
          return {
            status := .decoded
            reading := { before with records := findings.records, decoder := decoder.name }
            decisions := [decision] }
      | .failed =>
          return {
            status := .failed
            reading := { before with decoder := decoder.name, error := findings.error }
            decisions := [decision] }
      | .notApplicable =>
          let dispatch ← ask trace frame before others
          return { dispatch with decisions := decision :: dispatch.decisions }

/-- Dispatches a frame to the decoders of its signature. -/
def decode (registry : Registry) (trace : Trace) (frame : Frame) (before : Reading) :
    Journal Record.Fault Dispatch :=
  let signature := frame.address.signature
  match registry.lookup signature with
  | [] => do
      let decision := Decision.noDecoder signature frame.address.id
      Journal.note (trace decision)
      return {
        status := .unknownDevice
        reading := { before with error := "no decoder for " ++ signature.text }
        decisions := [decision] }
  | decoder :: others => ask trace frame before (decoder :: others)

end Registry

end MeterTelegram
