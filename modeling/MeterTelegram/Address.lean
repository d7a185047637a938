import MeterTelegram.Hex
import MeterTelegram.Medium

namespace MeterTelegram

/-! Device signatures and addresses. A signature selects the decoders of a
device; an address adds the number of the single device. -/

structure Signature where
  manufacturer : UInt16
  version : UInt8
  deviceType : UInt8
deriving DecidableEq, Repr

namespace Signature

/-- The three parts in one number, the manufacturer uppermost. -/
def key (signature : Signature) : Nat :=
  signature.manufacturer.toNat * 65536 + signature.version.toNat * 256 +
    signature.deviceType.toNat

def text (signature : Signature) : Text :=
  "M=" ++ Manufacturer.letters signature.manufacturer.toNat ++
    ".V=" ++ Hex.lowerByte signature.version ++ ".T=" ++ Hex.lowerByte signature.deviceType

end Signature

/-- The field `bytes` holds the address as it was received; what follows an address in a
frame is found by its length. -/
structure Address where
  manufacturer : UInt16
  id : Text
  version : UInt8
  deviceType : UInt8
  bytes : List UInt8
deriving DecidableEq, Repr

namespace Address

/-- Bytes of a received address: manufacturer, device number, version, type. -/
def length : Nat := 8

def signature (address : Address) : Signature :=
  { manufacturer := address.manufacturer
    version := address.version
    deviceType := address.deviceType }

def text (address : Address) : Text :=
  address.id ++ "." ++ address.signature.text

def medium (address : Address) : Medium :=
  Medium.ofDevice address.deviceType.toNat address.manufacturer.toNat

/-- The address of eight bytes. The manufacturer and the device number are sent
least significant byte first. -/
def ofBytes? : List UInt8 → Option Address
  | [low, high, id0, id1, id2, id3, version, deviceType] =>
      some
        { manufacturer := UInt16.ofNat (high.toNat * 256 + low.toNat)
          id := [id3, id2, id1, id0].flatMap Hex.lowerByte
          version
          deviceType
          bytes := [low, high, id0, id1, id2, id3, version, deviceType] }
  | _ => none

def read? (buffer : List UInt8) (offset : Nat) : Option Address :=
  if buffer.length < offset + length then none
  else ofBytes? ((buffer.drop offset).take length)

end Address

end MeterTelegram
