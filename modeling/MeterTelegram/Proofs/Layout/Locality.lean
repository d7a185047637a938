import MeterTelegram.Proofs.Layout.RoundTrip

namespace MeterTelegram.Layout

/-! Two frames that hold the same coding byte and the same fields are decoded
alike, wherever their payloads start and whatever their other bytes are. -/

variable {layout : Layout} {frame other : Frame}

theorem decode_local (decoder : Text) (readable : layout.Readable)
    (signal : frame.signal = other.signal)
    (room : frame.payloadOffset + layout.length ≤ frame.bytes.length)
    (otherRoom : other.payloadOffset + layout.length ≤ other.bytes.length)
    (coding : frame.bytes[frame.payloadOffset]? = other.bytes[other.payloadOffset]?)
    (fields : ∀ role ∈ layout.roles, layout.fieldBytes frame role = layout.fieldBytes other role) :
    ∃ outcome, (layout.decode decoder frame).outcome = .ok outcome ∧
      (layout.decode decoder other).outcome = .ok outcome := by
  have start : frame.payloadOffset < frame.bytes.length := (readable.room_iff.mp room).1
  have found : frame.bytes[frame.payloadOffset]? = some frame.bytes[frame.payloadOffset] :=
    List.getElem?_eq_getElem start
  have otherFound := coding.symm.trans found
  cases recognized : layout.recognizes frame.bytes[frame.payloadOffset] with
  | false =>
      exact ⟨.notApplicable, decode_of_unrecognized decoder found recognized,
        decode_of_unrecognized decoder otherFound recognized⟩
  | true =>
      have values : ∀ role ∈ layout.roles,
          layout.fieldValue other role = layout.fieldValue frame role := by
        intro role member
        rw [fieldValue, fieldValue, fields role member]
      have decoded := decode_of_room decoder readable otherFound recognized otherRoom
      rw [verdict_congr values, ← signal] at decoded
      exact ⟨_, decode_of_room decoder readable found recognized room, decoded⟩

/-- Header, address, filling bytes and the place of the payload do not influence a reading. -/
theorem decodeInto_local (decoder : Text) (before : Findings)
    (consistent : layout.isConsistent = true) (endsFit : layout.EndsFit)
    (signal : frame.signal = other.signal)
    (room : frame.payloadOffset + layout.length ≤ frame.bytes.length)
    (otherRoom : other.payloadOffset + layout.length ≤ other.bytes.length)
    (coding : frame.bytes[frame.payloadOffset]? = other.bytes[other.payloadOffset]?)
    (fields : ∀ role ∈ layout.roles, layout.fieldBytes frame role = layout.fieldBytes other role) :
    ∃ status after, (layout.decodeInto decoder frame before).outcome = .ok (status, after) ∧
      (layout.decodeInto decoder other before).outcome = .ok (status, after) := by
  have readable := readable_of_isConsistent consistent endsFit
  obtain ⟨outcome, decoded, otherDecoded⟩ :=
    decode_local decoder readable signal room otherRoom coding fields
  exact ⟨_, _, decodeInto_of_decode before decoded, decodeInto_of_decode before otherDecoded⟩

def shortFrame : Frame :=
  patched shortAddressed (leapDay.patches scattered 0xF0 5)

/-- The same payload behind a longer address and among other bytes. -/
def longFrame : Frame :=
  patched
    { bytes := List.replicate 64 0x3C
      address := ⟨0x5068, "11776622", 0x69, 0x80, [0x68, 0x50, 0x22, 0x66, 0x77, 0x11, 0x69, 0x80]⟩
      signal := -87 }
    (leapDay.patches scattered 0xF0 10)

theorem decodeInto_local_longer :
    scattered.isConsistent = true ∧ scattered.EndsFit ∧ shortFrame.signal = longFrame.signal ∧
      shortFrame.payloadOffset + scattered.length ≤ shortFrame.bytes.length ∧
      longFrame.payloadOffset + scattered.length ≤ longFrame.bytes.length ∧
      shortFrame.bytes[shortFrame.payloadOffset]? = longFrame.bytes[longFrame.payloadOffset]? ∧
      (∀ role ∈ scattered.roles,
        scattered.fieldBytes shortFrame role = scattered.fieldBytes longFrame role) ∧
      ∃ status after,
        (scattered.decodeInto "scattered" shortFrame {}).outcome = .ok (status, after) ∧
        (scattered.decodeInto "scattered" longFrame {}).outcome = .ok (status, after) := by
  have consistent : scattered.isConsistent = true := by decide +kernel
  have endsFit : scattered.EndsFit := by decide
  have room : shortFrame.payloadOffset + scattered.length ≤ shortFrame.bytes.length := by decide
  have otherRoom : longFrame.payloadOffset + scattered.length ≤ longFrame.bytes.length := by
    decide
  have coding :
      shortFrame.bytes[shortFrame.payloadOffset]? = longFrame.bytes[longFrame.payloadOffset]? := by
    decide +kernel
  have fields : ∀ role ∈ scattered.roles,
      scattered.fieldBytes shortFrame role = scattered.fieldBytes longFrame role := by
    decide +kernel
  exact ⟨consistent, endsFit, rfl, room, otherRoom, coding, fields,
    decodeInto_local "scattered" {} consistent endsFit rfl room otherRoom coding fields⟩

end MeterTelegram.Layout
