import MeterTelegram.Proofs.Catalogue.SingleDecoder
import MeterTelegram.Proofs.Frame.Receipt
import MeterTelegram.Proofs.Registry.Dispatch

namespace MeterTelegram

/-! Signatures as they are written. Version and type are written whole, of the manufacturer the
three letters that its lower fifteen bits hold. The bit above them is written nowhere, so that a
written signature stands for two, and names the one that is meant only if that bit is known. -/

theorem Hex.lowerByte_inj {first second : UInt8} :
    lowerByte first = lowerByte second ↔ first = second := by
  constructor
  · intro same
    have spelled := readPairs_of_spells (spells_lowerByte first)
    rw [same, readPairs_of_spells (spells_lowerByte second)] at spelled
    simpa using spelled.symm
  · intro same
    rw [same]

namespace Manufacturer

variable {first second : Nat}

theorem letter_natCast (manufacturer unit : Nat) :
    letter manufacturer unit = UInt8.ofNat (manufacturer / unit % 32 + 64) := rfl

theorem letter_inj {unit : Nat} :
    letter first unit = letter second unit ↔ first / unit % 32 = second / unit % 32 := by
  have firstBound : first / unit % 32 + 64 < 256 := by omega
  have secondBound : second / unit % 32 + 64 < 256 := by omega
  rw [letter_natCast, letter_natCast, ← UInt8.toNat_inj, UInt8.toNat_ofNat_of_lt' firstBound,
    UInt8.toNat_ofNat_of_lt' secondBound, Nat.add_right_cancel_iff]

/-- The letters are the lower fifteen bits. -/
theorem letters_inj : letters first = letters second ↔ first % 2 ^ 15 = second % 2 ^ 15 := by
  constructor
  · intro same
    obtain ⟨upper, same⟩ := List.cons.inj same
    obtain ⟨middle, same⟩ := List.cons.inj same
    obtain ⟨lower, -⟩ := List.cons.inj same
    have upper : first / 1024 % 32 = second / 1024 % 32 := letter_inj.mp upper
    have middle : first / 32 % 32 = second / 32 % 32 := letter_inj.mp middle
    have lower : first / 1 % 32 = second / 1 % 32 := letter_inj.mp lower
    omega
  · intro same
    have upper : letter first (1024 : Nat) = letter second (1024 : Nat) :=
      letter_inj.mpr (by omega)
    have middle : letter first (32 : Nat) = letter second (32 : Nat) := letter_inj.mpr (by omega)
    have lower : letter first (1 : Nat) = letter second (1 : Nat) := letter_inj.mpr (by omega)
    change [letter first (1024 : Nat), letter first (32 : Nat), letter first (1 : Nat)] = _
    rw [upper, middle, lower]
    rfl

end Manufacturer

namespace Signature

variable {first second listed printed : Signature}

/-- The bit of the manufacturer that no letter spells. -/
def silentBit (signature : Signature) : Bool :=
  2 ^ 15 ≤ signature.manufacturer.toNat

theorem eq_of_parts (manufacturer : first.manufacturer = second.manufacturer)
    (version : first.version = second.version)
    (deviceType : first.deviceType = second.deviceType) : first = second := by
  cases first
  cases second
  simp_all

theorem text_eq_iff : first.text = second.text ↔
    first.manufacturer.toNat % 2 ^ 15 = second.manufacturer.toNat % 2 ^ 15 ∧
      first.version = second.version ∧ first.deviceType = second.deviceType := by
  constructor
  · intro same
    obtain ⟨front, deviceType⟩ := List.append_inj' same rfl
    obtain ⟨front, -⟩ := List.append_inj' front rfl
    obtain ⟨front, version⟩ := List.append_inj' front rfl
    obtain ⟨front, -⟩ := List.append_inj' front rfl
    obtain ⟨-, letters⟩ := List.append_inj' front rfl
    exact ⟨Manufacturer.letters_inj.mp letters, Hex.lowerByte_inj.mp version,
      Hex.lowerByte_inj.mp deviceType⟩
  · intro parts
    obtain ⟨letters, version, deviceType⟩ := parts
    rw [text, text, Manufacturer.letters_inj.mpr letters, version, deviceType]

/-- Signatures are written alike if their keys are the same but for the uppermost bit. -/
theorem text_eq_iff_key : first.text = second.text ↔
    first.key % 2 ^ 31 = second.key % 2 ^ 31 := by
  have firstVersion := first.version.toNat_lt
  have secondVersion := second.version.toNat_lt
  have firstType := first.deviceType.toNat_lt
  have secondType := second.deviceType.toNat_lt
  rw [text_eq_iff, ← UInt8.toNat_inj, ← UInt8.toNat_inj, key, key]
  omega

theorem eq_of_text (same : first.text = second.text) (silent : first.silentBit = second.silentBit) :
    first = second := by
  obtain ⟨letters, version, deviceType⟩ := text_eq_iff.mp same
  have firstBound := first.manufacturer.toNat_lt
  have secondBound := second.manufacturer.toNat_lt
  have bits : 2 ^ 15 ≤ first.manufacturer.toNat ↔ 2 ^ 15 ≤ second.manufacturer.toNat := by
    simpa only [silentBit, decide_eq_decide] using silent
  refine eq_of_parts (UInt16.toNat_inj.mp ?_) version deviceType
  omega

theorem text_eq_iff_of_silentBit (silent : first.silentBit = second.silentBit) :
    first.text = second.text ↔ first = second :=
  ⟨fun same => eq_of_text same silent, fun same => congrArg text same⟩

end Signature

namespace Catalogue

variable {catalogue start : Catalogue} {registry : Registry} {family newcomer : Family}
  {families : List Family} {listed printed : Signature} {name owner : Text}

/-- The family that a refusal names detects the signature that the refusal names. -/
theorem owner_of_signatureTaken
    (refused : catalogue.register newcomer = .error (.signatureTaken name printed owner)) :
    ∃ family ∈ catalogue.families, family.detects printed = true ∧ family.name = owner := by
  unfold register at refused
  split at refused
  · cases refused
  · split at refused
    · rename_i clash
      cases refused
      obtain ⟨signature, -, taken⟩ := List.exists_of_findSome?_eq_some clash
      obtain ⟨family, found, same⟩ := Option.map_eq_some_iff.mp taken
      cases same
      exact ⟨family, List.mem_of_find?_eq_some found, by simpa using List.find?_some found, rfl⟩
    · cases refused

theorem Orderly.reader_eq_of_detects (orderly : catalogue.Orderly) {other : Family}
    (member : family ∈ catalogue.families) (others : other ∈ catalogue.families)
    (detects : family.detects printed = true) (detected : other.detects printed = true) :
    other.reader = family.reader := by
  have found : other.reader.copies printed = family.reader.copies printed :=
    (orderly.lookup_readers others detected).symm.trans (orderly.lookup_readers member detects)
  have copied : other.reader ∈ other.reader.copies printed :=
    List.mem_replicate.mpr ⟨Nat.ne_of_gt (Family.count_pos detected), rfl⟩
  rw [found] at copied
  exact List.eq_of_mem_replicate copied

/-- A signature that leads to one family: its decoder is found for it and no other, as often as
the family lists it, and asked about every device with it; and it is this family that other
families lose the signature to. -/
structure LeadsTo (catalogue : Catalogue) (registry : Registry) (printed : Signature)
    (family : Family) : Prop where
  listed : 0 < family.signatures.count printed
  found : registry.lookup printed =
    List.replicate (family.signatures.count printed) family.reader
  asked : ∀ frame, frame.address.signature = printed → ∀ trace before,
    registry.decode trace frame before =
      Registry.ask trace frame before (registry.lookup printed)
  known : ∀ frame, frame.address.signature = printed → ∀ trace before dispatch,
    (registry.decode trace frame before).outcome = .ok dispatch →
      dispatch.status ≠ .unknownDevice
  owned : ∀ newcomer name owner,
    catalogue.register newcomer = .error (.signatureTaken name printed owner) →
      owner = family.name

theorem Orderly.leadsTo (orderly : catalogue.Orderly) (member : family ∈ catalogue.families)
    (detects : family.detects printed = true) :
    LeadsTo catalogue catalogue.readers printed family := by
  have listed := Family.count_pos detects
  have found : catalogue.readers.lookup printed =
      List.replicate (family.signatures.count printed) family.reader :=
    orderly.lookup_readers member detects
  have occupied : catalogue.readers.lookup printed ≠ [] := by
    rw [found, ne_eq, List.replicate_eq_nil_iff]
    omega
  refine ⟨listed, found, ?_, ?_, ?_⟩
  · intro frame address trace before
    subst address
    exact Registry.decode_of_known trace before occupied
  · intro frame address trace before dispatch returned unknown
    subst address
    exact occupied ((Registry.settled_of_decode returned).unknownDevice_iff.mp unknown)
  · intro newcomer name owner refused
    obtain ⟨other, others, detected, named⟩ := owner_of_signatureTaken refused
    rw [← named]
    exact congrArg Decoder.name (orderly.reader_eq_of_detects member others detects detected)

theorem builtin_silentBit : ∀ family ∈ builtin.families, ∀ listed ∈ family.signatures,
    listed.silentBit = false ∧ family.signatures.count listed = 1 := by
  decide +kernel

theorem lookup_builtin_of_silentBit (silent : printed.silentBit = true) :
    builtin.readers.lookup printed = [] := by
  apply lookup_readers_of_undetected
  intro family member
  apply Bool.of_not_eq_true
  intro detects
  obtain ⟨clear, -⟩ := builtin_silentBit family member printed (Family.detects_iff.mp detects)
  rw [clear] at silent
  contradiction

theorem lookup_builtin_of_text (member : family ∈ builtin.families)
    (own : listed ∈ family.signatures) (same : printed.text = listed.text) :
    builtin.readers.lookup printed =
      if printed.silentBit = true then [] else [family.reader] := by
  obtain ⟨clear, once⟩ := builtin_silentBit family member listed own
  cases silent : printed.silentBit with
  | true => exact lookup_builtin_of_silentBit silent
  | false =>
      obtain rfl := Signature.eq_of_text same (silent.trans clear.symm)
      have found := (Origin.builtin.orderly.leadsTo member (Family.detects_iff.mpr own)).found
      rw [found, once]
      rfl

/-- Two signatures are written alike if they are the same but for the uppermost bit of the
manufacturer. If that bit is the same too, they are one signature, and what is written leads to
the family that lists it. Of the built-in families none has a signature with that bit. -/
theorem text_identifies :
    (∀ first second : Signature,
      (first.text = second.text ↔
        first.manufacturer.toNat % 2 ^ 15 = second.manufacturer.toNat % 2 ^ 15 ∧
          first.version = second.version ∧ first.deviceType = second.deviceType) ∧
      (first.text = second.text ↔ first.key % 2 ^ 31 = second.key % 2 ^ 31) ∧
      (first.silentBit = second.silentBit →
        (first.text = second.text ↔ first = second) ∧
        (first.text = second.text ↔ first.key = second.key))) ∧
    (∀ start catalogue registry families, Origin start →
      start.registerAll families = .ok catalogue → catalogue.registry = .ok registry →
        ∀ family ∈ catalogue.families, ∀ listed ∈ family.signatures, ∀ printed : Signature,
          printed.text = listed.text → printed.silentBit = listed.silentBit →
            LeadsTo catalogue registry printed family) ∧
    builtin.registry = .ok builtin.readers ∧
      ∀ family ∈ builtin.families, ∀ listed ∈ family.signatures,
        listed.silentBit = false ∧ ∀ printed : Signature, printed.text = listed.text →
          builtin.readers.lookup printed =
            if printed.silentBit = true then [] else [family.reader] := by
  refine ⟨?_, ?_, registry_of_readable builtin_readable, ?_⟩
  · intro first second
    refine ⟨Signature.text_eq_iff, Signature.text_eq_iff_key, fun silent => ?_⟩
    have same := Signature.text_eq_iff_of_silentBit silent
    exact ⟨same, same.trans Signature.key_eq_iff.symm⟩
  · intro start catalogue registry families origin registers made family member listed own printed
      same silent
    obtain rfl := Signature.eq_of_text same silent
    obtain ⟨-, rfl⟩ := registry_ok_iff.mp made
    have orderly := (registerAll_orderly origin.orderly registers).1
    exact orderly.leadsTo member (Family.detects_iff.mpr own)
  · intro family member listed own
    obtain ⟨clear, -⟩ := builtin_silentBit family member listed own
    exact ⟨clear, fun printed same => lookup_builtin_of_text member own same⟩

theorem text_identifies_waterMeter :
    let listed : Signature := ⟨0x5068, 0x74, 0x62⟩
    let marked : Signature := ⟨0xD068, 0x74, 0x62⟩
    listed ∈ waterMeter3.signatures ∧ LeadsTo builtin builtin.readers listed waterMeter3 ∧
      builtin.readers.lookup listed = [waterMeter3.reader] ∧ marked.text = listed.text ∧
      builtin.readers.lookup marked = [] := by
  intro listed marked
  have member : waterMeter3 ∈ builtin.families := by decide +kernel
  have own : listed ∈ waterMeter3.signatures := by decide
  have same : marked.text = listed.text := by decide
  obtain ⟨-, leads, made, lookups⟩ := text_identifies
  have registers : builtin.registerAll [] = .ok builtin := rfl
  obtain ⟨-, found⟩ := lookups waterMeter3 member listed own
  have leadsTo := leads builtin builtin _ [] .builtin registers made waterMeter3 member listed own
    listed rfl rfl
  exact ⟨own, leadsTo, found listed rfl, same, found marked same⟩

/-- With the bit that no letter spells a device is written like a listed one, and unknown. -/
theorem text_shared :
    let listed : Signature := ⟨0x5068, 0x74, 0x62⟩
    let printed : Signature := ⟨0xD068, 0x74, 0x62⟩
    listed ∈ waterMeter3.signatures ∧ printed ≠ listed ∧ printed.key ≠ listed.key ∧
      printed.text = listed.text ∧ builtin.readers.lookup printed = [] ∧
      ∃ frame,
        Frame.ofBytes [0x09, 0x44, 0x68, 0xD0, 0x31, 0x32, 0x33, 0x34, 0x74, 0x62] 0 = .ok frame ∧
          frame.address.signature = printed ∧ ∀ trace before, ∃ dispatch,
            (builtin.readers.decode trace frame before).outcome = .ok dispatch ∧
              dispatch.status = .unknownDevice ∧
              dispatch.reading.error = "no decoder for " ++ listed.text := by
  intro listed printed
  have shared : printed.text = listed.text := by decide
  have unknown : builtin.readers.lookup printed = [] := lookup_builtin_of_silentBit (by decide)
  have device : ∃ frame,
      Frame.ofBytes [0x09, 0x44, 0x68, 0xD0, 0x31, 0x32, 0x33, 0x34, 0x74, 0x62] 0 = .ok frame ∧
        frame.address.signature = printed := ⟨_, rfl, rfl⟩
  obtain ⟨frame, accepted, address⟩ := device
  refine ⟨by decide, by decide, by decide, shared, unknown, frame, accepted, address, ?_⟩
  intro trace before
  rw [← address] at unknown shared
  rw [Registry.decode_of_unknown trace before unknown, shared]
  exact ⟨_, rfl, rfl, rfl⟩

end Catalogue

end MeterTelegram
