import MeterTelegram.Address
import MeterTelegram.Journal

namespace MeterTelegram

/-! Frames: a telegram with the address it was received from. The first byte
counts the bytes that follow; a control field and the address come next, then
the payload. Checksums have been removed by the receiver. -/

structure Frame where
  bytes : List UInt8
  address : Address
  signal : Int
deriving DecidableEq, Repr

namespace Frame

/-- Position of the coding byte, behind length byte, control field and address. -/
def payloadOffset (frame : Frame) : Nat :=
  frame.address.bytes.length + 2

def text (frame : Frame) : Text :=
  frame.address.text ++ " rssi=" ++ Text.ofInt frame.signal ++ " dBm len=" ++
    Text.ofNat frame.bytes.length

/-- The function named by the lower four bits of a control field. -/
def controlFunction (code : Int) : Text :=
  match code with
  | 0x0 => "SND_NKE"
  | 0x3 => "SND_UD2"
  | 0x4 => "SND_NR"
  | 0x5 => "SND_UD3"
  | 0x6 => "SND_IR"
  | 0x7 => "ACC_NR"
  | 0x8 => "ACC_DMD"
  | 0xA => "REQ_UD1"
  | 0xB => "REQ_UD2"
  | _ => "?"

def controlText (control : Int) : Text :=
  (if control / 128 % 2 = 1 then "relayed " else "") ++
    (if control / 64 % 2 = 1 then "from meter " else "to meter ") ++
    controlFunction (control % 16)

inductive Fault where
  | empty
  | missingBytes (announced following : Nat)
  | tooShort (announced : Nat)
  | noAddress
  | notHex (text : Text)
deriving DecidableEq, Repr

def Fault.message : Fault → Text
  | .empty => "empty telegram"
  | .missingBytes announced following =>
      "telegram length byte says " ++ Text.ofNat announced ++ " bytes but only " ++
        Text.ofNat following ++ " bytes follow"
  | .tooShort announced =>
      "telegram too short (" ++ Text.ofNat announced ++
        " bytes) to hold a c-field and an address"
  | .noAddress => "could not parse secondary address"
  | .notHex given => "not a hex string: \"" ++ given ++ "\""

def ofBytes (bytes : List UInt8) (signal : Int) : Except Fault Frame :=
  match bytes with
  | [] => .error .empty
  | announced :: following =>
      if following.length < announced.toNat then
        .error (.missingBytes announced.toNat following.length)
      else if announced.toNat < 1 + Address.length then .error (.tooShort announced.toNat)
      else match Address.read? bytes 2 with
        | none => .error .noAddress
        | some address => .ok { bytes, address, signal }

/-- What is logged of a frame that arrives. -/
def arrival (frame : Frame) : List Entry :=
  let byte (index : Nat) : UInt8 := frame.bytes.getD index 0
  let address := frame.address
  [ .trace ("(frame) " ++ Hex.lowerByte (byte 1) ++ " dll-c (" ++
      controlText (byte 1).toNat ++ ")\n"),
    .trace ("(frame) " ++ Hex.lowerByte (byte 2) ++ Hex.lowerByte (byte 3) ++ " dll-mfct (" ++
      Manufacturer.letters address.manufacturer.toNat ++ ") " ++
      Manufacturer.name address.manufacturer.toNat ++ "\n"),
    .trace ("(frame) dll-id (" ++ address.id ++ ")\n"),
    .trace ("(frame) " ++ Hex.lowerByte address.version ++ " dll-version\n"),
    .trace ("(frame) " ++ Hex.lowerByte address.deviceType ++ " dll-type (" ++
      address.medium.description ++ ")\n"),
    .payload ("(frame) received " ++ frame.text) frame.bytes ]

def receive (bytes : List UInt8) (signal : Int) : Journal Fault Frame :=
  match ofBytes bytes signal with
  | .error fault => .fail fault
  | .ok frame => ⟨frame.arrival, .ok frame⟩

def receiveText (text : Text) (signal : Int) : Journal Fault Frame :=
  if !Hex.isTelegram text then .fail (.notHex text)
  else if !(Hex.read text).complete then .fail (.notHex text)
  else receive (Hex.read text).bytes signal

end Frame

end MeterTelegram
