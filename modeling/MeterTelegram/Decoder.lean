import MeterTelegram.Layout.Reading

namespace MeterTelegram

/-! Decoders: each handles the frames of some device signatures. -/

inductive DecodeStatus where
  | decoded
  | notApplicable
  | failed
deriving DecidableEq, Repr

def DecodeStatus.name : DecodeStatus → Text
  | .decoded => "Decoded"
  | .notApplicable => "NotApplicable"
  | .failed => "Failed"

/-- What a decoder leaves for its caller. -/
structure Findings where
  records : List Record := []
  error : Text := []
deriving DecidableEq, Repr

/-- A decoder is given the findings so far and may change them, whatever its status. -/
structure Decoder where
  name : Text
  signatures : List Signature
  reportsTemperature : Bool
  decode : Frame → Findings → Journal Record.Fault (DecodeStatus × Findings)

/-- Records are replaced when all were decoded, the error is replaced on failure. -/
def Layout.Outcome.leave (findings : Findings) : Layout.Outcome → DecodeStatus × Findings
  | .decoded records => (.decoded, { findings with records })
  | .notApplicable => (.notApplicable, findings)
  | .failed cause => (.failed, { findings with error := cause.message })

namespace Layout

def decodeInto (decoder : Text) (layout : Layout) (frame : Frame) (findings : Findings) :
    Journal Record.Fault (DecodeStatus × Findings) := do
  let outcome ← layout.decode decoder frame
  return outcome.leave findings

end Layout

/-- The decoder of a layout. -/
def Decoder.ofLayout (name : Text) (signatures : List Signature) (layout : Layout) :
    Except Layout.Broken Decoder := do
  layout.verify name
  return { name, signatures
           reportsTemperature := layout.reportsTemperature
           decode := layout.decodeInto name }

end MeterTelegram
