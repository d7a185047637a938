import MeterTelegram.Address

namespace MeterTelegram.Signature

/-! The key of a signature holds its three parts side by side in a word of 32 bits, so that
different signatures have different keys. -/

variable {first second : Signature}

def word (signature : Signature) : UInt32 :=
  signature.manufacturer.toUInt32 <<< 16 ||| signature.version.toUInt32 <<< 8 |||
    signature.deviceType.toUInt32

theorem toNat_word (signature : Signature) : signature.word.toNat = signature.key := by
  have manufacturer := signature.manufacturer.toNat_lt
  have version := signature.version.toNat_lt
  have deviceType := signature.deviceType.toNat_lt
  have upper : (signature.manufacturer.toUInt32 <<< 16).toNat =
      signature.manufacturer.toNat <<< 16 := by
    rw [UInt32.toNat_shiftLeft, UInt16.toNat_toUInt32]
    exact Nat.mod_eq_of_lt (by rw [Nat.shiftLeft_eq]; change _ * 65536 < 4294967296; omega)
  have middle : (signature.version.toUInt32 <<< 8).toNat = signature.version.toNat <<< 8 := by
    rw [UInt32.toNat_shiftLeft, UInt8.toNat_toUInt32]
    exact Nat.mod_eq_of_lt (by rw [Nat.shiftLeft_eq]; change _ * 256 < 4294967296; omega)
  rw [word, UInt32.toNat_or, UInt32.toNat_or, upper, middle, UInt8.toNat_toUInt32, key,
    Nat.or_assoc, ← Nat.shiftLeft_add_eq_or_of_lt deviceType,
    ← Nat.shiftLeft_add_eq_or_of_lt (by rw [Nat.shiftLeft_eq]; omega), Nat.shiftLeft_eq,
    Nat.shiftLeft_eq]
  omega

theorem key_eq_iff : first.key = second.key ↔ first = second := by
  refine ⟨fun same => ?_, fun same => congrArg key same⟩
  have firstVersion := first.version.toNat_lt
  have secondVersion := second.version.toNat_lt
  have firstType := first.deviceType.toNat_lt
  have secondType := second.deviceType.toNat_lt
  simp only [key] at same
  have manufacturer : first.manufacturer = second.manufacturer :=
    UInt16.toNat_inj.mp (by omega)
  have version : first.version = second.version := UInt8.toNat_inj.mp (by omega)
  have deviceType : first.deviceType = second.deviceType := UInt8.toNat_inj.mp (by omega)
  cases first
  cases second
  cases manufacturer
  cases version
  cases deviceType
  rfl

end MeterTelegram.Signature
