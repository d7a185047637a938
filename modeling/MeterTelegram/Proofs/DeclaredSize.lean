import MeterTelegram.Proofs.Catalogue
import MeterTelegram.Proofs.Frame
import MeterTelegram.Proofs.Layout.Extent
import MeterTelegram.Proofs.Registry.Asking

namespace MeterTelegram

/-! Bytes behind the declared size of a telegram. A frame keeps them, and a decoder reads
them as long as its layout reaches that far. What no layout reaches has no influence. -/

variable {bytes other : List UInt8} {signal : Int} {frame : Frame} {signature : Signature}

theorem Address.read?_of_agreement {bound offset : Nat}
    (agreement : other.take bound = bytes.take bound) (inside : offset + length ≤ bound)
    (long : bound ≤ bytes.length) : read? other offset = read? bytes offset := by
  have otherLong : bound ≤ other.length := Buffer.length_of_agreement agreement long
  have received : (other.drop offset).take length = (bytes.drop offset).take length :=
    Buffer.excerpt_of_agreement agreement inside
  rw [read?, read?, if_neg (by omega), if_neg (by omega), received]

namespace Frame

theorem ofBytes_of_agreement (received : ofBytes bytes signal = .ok frame)
    (agreement : other.take (declaredSize bytes) = bytes.take (declaredSize bytes)) :
    ofBytes other signal = .ok { frame with bytes := other } := by
  obtain ⟨whole, long, address, found, rfl⟩ := ofBytes_ok_iff.mp received
  have first : other[0]? = bytes[0]? :=
    Buffer.getElem?_of_agreement agreement (Nat.succ_pos _)
  have size : declaredSize other = declaredSize bytes := by
    rw [declaredSize, declaredSize, List.headD_eq_head?_getD, List.headD_eq_head?_getD,
      List.head?_eq_getElem?, List.head?_eq_getElem?, first]
  refine ofBytes_ok_iff.mpr ⟨?_, by rwa [size], address, ?_, rfl⟩
  · rw [size]
    exact Buffer.length_of_agreement agreement whole
  · rw [Address.read?_of_agreement agreement long whole, found]

end Frame

namespace Family

variable {family : Family}

theorem answer_of_agreement (readable : family.layout.Readable)
    (agreement : other.take (family.layout.extent frame) =
      frame.bytes.take (family.layout.extent frame)) :
    family.reader.answer { frame with bytes := other } = family.reader.answer frame := by
  obtain ⟨outcome, decoded, otherDecoded⟩ :=
    Layout.decode_of_agreement family.name readable agreement
  exact (Layout.decodeInto_of_decode {} otherDecoded).trans
    (Layout.decodeInto_of_decode {} decoded).symm

theorem answer_of_cut (readable : family.layout.Readable)
    (cut : frame.bytes.length < family.layout.extent frame) :
    ∃ findings, family.reader.answer frame = .ok (.failed, findings) := by
  obtain ⟨cause, failed⟩ := Layout.decode_of_cut family.name readable cut
  exact ⟨_, Layout.decodeInto_of_decode {} failed⟩

end Family

/-- Both frames are dispatched, and to the same result. -/
def Registry.Alike (registry : Registry) (frame other : Frame) : Prop :=
  ∀ trace before, ∃ dispatch,
    (registry.decode trace frame before).outcome = .ok dispatch ∧
      (registry.decode trace other before).outcome = .ok dispatch

/-- The dispatch of the frame fails and keeps the records that were there. -/
def Registry.Fails (registry : Registry) (frame : Frame) : Prop :=
  ∀ trace before, ∃ dispatch,
    (registry.decode trace frame before).outcome = .ok dispatch ∧
      dispatch.status = .failed ∧ dispatch.reading.records = before.records

namespace Catalogue

variable {catalogue : Catalogue} {decoder : Decoder}

theorem readers_end (readable : catalogue.Readable) (trace : Registry.Trace) (frame : Frame)
    (before : Reading) :
    ∃ dispatch, (catalogue.readers.decode trace frame before).outcome = .ok dispatch := by
  have calm : (catalogue.readers.decode Registry.debugging frame before).Calm :=
    Registry.decode_calm Registry.debugging_silent fun _ member => readers_calm readable member
  obtain ⟨dispatch, dispatched⟩ := calm.ends
  exact ⟨dispatch, (Registry.decode_untraced Registry.debugging trace frame before _).trans
    dispatched⟩

theorem alike_of_agreement (readable : catalogue.Readable)
    (agreement : ∀ family ∈ catalogue.detecting frame.address.signature,
      other.take (family.layout.extent frame) = frame.bytes.take (family.layout.extent frame)) :
    catalogue.readers.Alike frame { frame with bytes := other } := by
  intro trace before
  obtain ⟨dispatch, dispatched⟩ := readers_end readable trace frame before
  have answers : ∀ decoder ∈ catalogue.readers.lookup frame.address.signature,
      decoder.answer { frame with bytes := other } = decoder.answer frame := by
    intro decoder member
    obtain ⟨family, detected, rfl⟩ := mem_lookup_readers.mp member
    have listed := (List.mem_filter.mp detected).1
    exact Family.answer_of_agreement (readable family listed) (agreement family detected)
  have same : (catalogue.readers.decode trace { frame with bytes := other } before).outcome =
      (catalogue.readers.decode trace frame before).outcome :=
    Registry.decode_of_answers trace before rfl answers
  exact ⟨dispatch, dispatched, same.trans dispatched⟩

theorem fails_of_cut (readable : catalogue.Readable)
    (known : catalogue.detecting frame.address.signature ≠ [])
    (cut : ∀ family ∈ catalogue.detecting frame.address.signature,
      frame.bytes.length < family.layout.extent frame) :
    catalogue.readers.Fails frame := by
  obtain ⟨family, detected⟩ := List.exists_mem_of_ne_nil _ known
  have found := List.ne_nil_of_mem (mem_lookup_readers.mpr ⟨family, detected, rfl⟩)
  intro trace before
  refine Registry.decode_of_failed trace before found fun decoder member => ?_
  obtain ⟨other, detected, rfl⟩ := mem_lookup_readers.mp member
  have listed := (List.mem_filter.mp detected).1
  exact Family.answer_of_cut (readable other listed) (cut other detected)

/-- What stays as it is when a telegram is changed behind its declared size. -/
structure Unaffected (catalogue : Catalogue) (registry : Registry) (frame : Frame)
    (other : List UInt8) : Prop where
  accepted : Frame.ofBytes other frame.signal = .ok { frame with bytes := other }
  declared : (∀ family ∈ catalogue.detecting frame.address.signature,
    family.layout.extent frame ≤ Frame.declaredSize frame.bytes) →
      registry.Alike frame { frame with bytes := other }
  reached : (∀ family ∈ catalogue.detecting frame.address.signature,
    other.take (family.layout.extent frame) = frame.bytes.take (family.layout.extent frame)) →
      registry.Alike frame { frame with bytes := other }
  cut : catalogue.detecting frame.address.signature ≠ [] →
    (∀ family ∈ catalogue.detecting frame.address.signature,
      frame.bytes.length < family.layout.extent frame ∧
        other.length < family.layout.extent { frame with bytes := other }) →
      registry.Fails frame ∧ registry.Fails { frame with bytes := other }

theorem unaffected_of_agreement (readable : catalogue.Readable)
    (received : Frame.ofBytes bytes signal = .ok frame)
    (agreement : other.take (Frame.declaredSize bytes) = bytes.take (Frame.declaredSize bytes)) :
    catalogue.Unaffected catalogue.readers frame other := by
  have accepted := Frame.ofBytes_of_agreement received agreement
  obtain ⟨_, _, address, _, rfl⟩ := Frame.ofBytes_ok_iff.mp received
  exact
    { accepted
      declared := fun covered => alike_of_agreement readable fun family detected =>
        Buffer.agreement_mono agreement (covered family detected)
      reached := alike_of_agreement readable
      cut := fun known short =>
        ⟨fails_of_cut readable known fun family detected => (short family detected).1,
          fails_of_cut readable known fun family detected => (short family detected).2⟩ }

/-- Bytes behind the declared size change nothing unless a layout reaches for them. -/
theorem builtin_unaffected :
    ∃ registry, builtin.registry = .ok registry ∧
      ∀ bytes other signal frame, Frame.ofBytes bytes signal = .ok frame →
        other.take (Frame.declaredSize bytes) = bytes.take (Frame.declaredSize bytes) →
          builtin.Unaffected registry frame other := by
  refine ⟨_, registry_of_readable builtin_readable, ?_⟩
  intro bytes other signal frame received agreement
  exact unaffected_of_agreement builtin_readable received agreement

def waterReading : Frame :=
  { bytes :=
      [ 0x13, 0x44, 0x68, 0x50, 0x31, 0x32, 0x33, 0x34, 0x74, 0x62,
        0xA2, 0x06, 0x9F, 0x25, 0x59, 0x00, 0xB0, 0x29, 0x31, 0x00 ]
    address := ⟨0x5068, "34333231", 0x74, 0x62, [0x68, 0x50, 0x31, 0x32, 0x33, 0x34, 0x74, 0x62]⟩
    signal := 0 }

theorem builtin_unaffected_trailing :
    let trailed := waterReading.bytes ++ [0xDE, 0xAD]
    ∃ registry, builtin.registry = .ok registry ∧
      Frame.ofBytes trailed 0 = .ok { waterReading with bytes := trailed } ∧
      registry.Alike waterReading { waterReading with bytes := trailed } := by
  intro trailed
  obtain ⟨registry, made, unaffected⟩ := builtin_unaffected
  have kept := unaffected waterReading.bytes trailed 0 waterReading rfl (by decide +kernel)
  exact ⟨registry, made, kept.accepted, kept.declared (by decide +kernel)⟩

/-- The same reading with a length byte that counts the address only. -/
def overhanging : Frame :=
  { waterReading with bytes := 0x09 :: waterReading.bytes.tail }

theorem overhanging_decoded :
    let declared := overhanging.bytes.take (Frame.declaredSize overhanging.bytes)
    ∃ registry, builtin.registry = .ok registry ∧
      Frame.ofBytes overhanging.bytes 0 = .ok overhanging ∧
      declared.take (Frame.declaredSize overhanging.bytes) =
        overhanging.bytes.take (Frame.declaredSize overhanging.bytes) ∧
      Frame.ofBytes declared 0 = .ok { overhanging with bytes := declared } ∧
      (∃ dispatch, (registry.decode Registry.silent overhanging {}).outcome = .ok dispatch ∧
        dispatch.status = .decoded ∧ dispatch.reading.records.length = 5) ∧
      ∃ dispatch,
        (registry.decode Registry.silent { overhanging with bytes := declared } {}).outcome =
          .ok dispatch ∧ dispatch.status = .failed ∧ dispatch.reading.records = [] := by
  intro declared
  have received : Frame.ofBytes overhanging.bytes 0 = .ok overhanging := rfl
  have agreement : declared.take (Frame.declaredSize overhanging.bytes) =
      overhanging.bytes.take (Frame.declaredSize overhanging.bytes) := by
    decide +kernel
  have known : builtin.detecting overhanging.address.signature ≠ [] := by decide +kernel
  have cut : ∀ family ∈ builtin.detecting overhanging.address.signature,
      declared.length < family.layout.extent { overhanging with bytes := declared } := by
    decide +kernel
  have fails : builtin.readers.Fails { overhanging with bytes := declared } :=
    fails_of_cut builtin_readable known cut
  exact ⟨builtin.readers, registry_of_readable builtin_readable, received, agreement,
    Frame.ofBytes_of_agreement received agreement, ⟨_, rfl, rfl, rfl⟩, fails Registry.silent {}⟩

end Catalogue

end MeterTelegram
