import MeterTelegram.Layout.Reading
import MeterTelegram.Proofs.Layout.Consistency
import MeterTelegram.Proofs.PackedDate

namespace MeterTelegram.Layout

/-! The fields of a layout in a frame: where they stand, which bytes and values
they hold, and that they can be read exactly if the frame holds all of them. -/

variable {layout : Layout} {role : Role} {frame : Frame}

def fieldBytes (layout : Layout) (frame : Frame) (role : Role) : List UInt8 :=
  Buffer.excerpt frame.bytes (position frame (layout.field role)) (layout.field role).width.toNat

def fieldValue (layout : Layout) (frame : Frame) (role : Role) : Nat :=
  Counter.value (layout.fieldBytes frame role)

theorem pastDate_mem : .pastDate ∈ layout.roles := List.mem_append_left _ (by decide)

theorem pastConsumption_mem : .pastConsumption ∈ layout.roles :=
  List.mem_append_left _ (by decide)

theorem currentDate_mem : .currentDate ∈ layout.roles := List.mem_append_left _ (by decide)

theorem currentConsumption_mem : .currentConsumption ∈ layout.roles :=
  List.mem_append_left _ (by decide)

theorem roomTemperature_mem_iff :
    .roomTemperature ∈ layout.roles ↔ layout.reportsTemperature = true := by
  cases reported : layout.reportsTemperature <;> simp [roles, reported]

theorem radiatorTemperature_mem_iff :
    .radiatorTemperature ∈ layout.roles ↔ layout.reportsTemperature = true := by
  cases reported : layout.reportsTemperature <;> simp [roles, reported]

/-- The frame holds all fields that are read. -/
def Held (layout : Layout) (frame : Frame) : Prop :=
  ∀ role ∈ layout.roles, position frame (layout.field role) +
    (layout.field role).width.toNat ≤ frame.bytes.length

theorem Readable.position (readable : layout.Readable) (member : role ∈ layout.roles) :
    position frame (layout.field role) =
      frame.payloadOffset + (layout.field role).offset.toNat := by
  have offset := readable.behindCoding role member
  unfold Layout.position
  omega

/-- A frame has the length of its layout exactly if it holds the coding byte and all fields. -/
theorem Readable.room_iff (readable : layout.Readable) :
    frame.payloadOffset + layout.length ≤ frame.bytes.length ↔
      frame.payloadOffset < frame.bytes.length ∧ layout.Held frame := by
  have shifted : frame.payloadOffset + layout.length ≤ frame.bytes.length ↔
      frame.payloadOffset ≤ frame.bytes.length ∧
        layout.length ≤ frame.bytes.length - frame.payloadOffset := by
    have coding : 1 ≤ layout.length := (length_le_iff.mp (Nat.le_refl _)).1
    omega
  rw [shifted, length_le_iff]
  constructor
  · rintro ⟨start, coding, fields⟩
    refine ⟨by omega, fun role member => ?_⟩
    have field := fields role member
    rw [readable.reach member] at field
    rw [readable.position member]
    omega
  · rintro ⟨coding, fields⟩
    refine ⟨by omega, by omega, fun role member => ?_⟩
    have field := fields role member
    rw [readable.position member] at field
    rw [readable.reach member]
    omega

theorem Held.readPast (held : layout.Held frame) (readable : layout.Readable) :
    PackedDate.readPast frame.bytes (position frame layout.pastDate) =
      PackedDate.check .past (layout.fieldValue frame .pastDate)
        (PackedDate.pastDate (layout.fieldValue frame .pastDate)) := by
  have room := held .pastDate pastDate_mem
  simp only [field, readable.pastDate] at room
  rw [PackedDate.readPast_of_room room, fieldValue, fieldBytes, field, readable.pastDate]
  rfl

theorem Held.readCurrent {past : Date} (held : layout.Held frame) (readable : layout.Readable) :
    PackedDate.readCurrent frame.bytes (position frame layout.currentDate) past =
      PackedDate.check .current (layout.fieldValue frame .currentDate)
        (PackedDate.currentDate past (layout.fieldValue frame .currentDate)) := by
  have room := held .currentDate currentDate_mem
  simp only [field, readable.currentDate] at room
  rw [PackedDate.readCurrent_of_room room, fieldValue, fieldBytes, field, readable.currentDate]
  rfl

theorem Held.readCounter (held : layout.Held frame) (readable : layout.Readable)
    (member : role ∈ layout.roles) :
    Counter.read frame.bytes (position frame (layout.field role)) (layout.field role).width =
      .ok (layout.fieldValue frame role) :=
  Counter.read_of_room (readable.allowed role member) (held role member)

theorem Held.readScaled (divisor : Binary64) (held : layout.Held frame)
    (readable : layout.Readable) (member : role ∈ layout.roles) :
    Counter.readScaled frame.bytes (position frame (layout.field role))
      (layout.field role).width divisor =
        .ok (Binary64.quotient (layout.fieldValue frame role) divisor) := by
  rw [Counter.readScaled, held.readCounter readable member]
  rfl

theorem Held.readTemperatures (held : layout.Held frame) (readable : layout.Readable)
    (reported : layout.reportsTemperature = true) :
    layout.readTemperatures frame = .ok
      [ (.roomTemperature,
          Binary64.quotient (layout.fieldValue frame .roomTemperature) (.ofNat 100)),
        (.radiatorTemperature,
          Binary64.quotient (layout.fieldValue frame .radiatorTemperature) (.ofNat 100)) ] := by
  have room := held.readScaled (.ofNat 100) readable (roomTemperature_mem_iff.mpr reported)
  have radiator := held.readScaled (.ofNat 100) readable (radiatorTemperature_mem_iff.mpr reported)
  simp only [field] at room radiator
  simp only [Layout.readTemperatures, if_pos reported, Counter.readTemperature, room, radiator]
  rfl

/-- All fields were read where a consumption and the temperatures came out. -/
theorem held_of_read {consumption : Consumption} {temperatures : List (RecordKind × Binary64)}
    (readable : layout.Readable) (counted : layout.readConsumption frame = .ok consumption)
    (felt : layout.readTemperatures frame = .ok temperatures) : layout.Held frame := by
  obtain ⟨past, pastDate, counted⟩ := Results.ok_of_bind counted
  obtain ⟨_, pastConsumption, counted⟩ := Results.ok_of_bind counted
  obtain ⟨_, currentDate, counted⟩ := Results.ok_of_bind counted
  obtain ⟨_, currentConsumption, _⟩ := Results.ok_of_bind counted
  intro role member
  cases role with
  | pastDate =>
      have room := PackedDate.readPast_ok (Results.ok_of_mapError pastDate)
      rw [field, readable.pastDate]
      exact room
  | pastConsumption => exact Counter.readScaled_ok (Results.ok_of_mapError pastConsumption)
  | currentDate =>
      have room := PackedDate.readCurrent_ok (Results.ok_of_mapError currentDate)
      rw [field, readable.currentDate]
      exact room
  | currentConsumption => exact Counter.readScaled_ok (Results.ok_of_mapError currentConsumption)
  | roomTemperature =>
      have reported : layout.reportsTemperature = true := roomTemperature_mem_iff.mp member
      rw [Layout.readTemperatures, if_pos reported] at felt
      obtain ⟨_, room, _⟩ := Results.ok_of_bind felt
      exact Counter.readScaled_ok (Results.ok_of_mapError room)
  | radiatorTemperature =>
      have reported : layout.reportsTemperature = true := radiatorTemperature_mem_iff.mp member
      rw [Layout.readTemperatures, if_pos reported] at felt
      obtain ⟨_, _, felt⟩ := Results.ok_of_bind felt
      obtain ⟨_, radiator, _⟩ := Results.ok_of_bind felt
      exact Counter.readScaled_ok (Results.ok_of_mapError radiator)

end MeterTelegram.Layout
