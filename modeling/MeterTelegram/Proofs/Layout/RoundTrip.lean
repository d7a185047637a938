import MeterTelegram.Proofs.Layout.Verdict

namespace MeterTelegram.Layout

/-! Writing contents into a frame and decoding the frame gives these contents
back. The fields of a consistent layout stay apart, so their order of writing
does not matter, and neither do the other bytes of the frame. -/

open Buffer

variable {layout : Layout} {contents : Contents} {role : Role} {coding : UInt8}

namespace Contents

def count (contents : Contents) : Role → Nat
  | .pastDate => PackedDate.encodePast contents.pastDate
  | .pastConsumption => contents.past
  | .currentDate =>
      PackedDate.encodeCurrent contents.currentDate.month contents.currentDate.day
  | .currentConsumption => contents.current
  | .roomTemperature => contents.room
  | .radiatorTemperature => contents.radiator

def patch (layout : Layout) (contents : Contents) (start : Nat) (role : Role) : Patch :=
  { position := start + (layout.field role).offset.toNat
    content := Counter.bytes (layout.field role).width.toNat (contents.count role) }

/-- What is written for a payload that starts at a position. -/
def patches (layout : Layout) (contents : Contents) (coding : UInt8) (start : Nat) : List Patch :=
  { position := start, content := [coding] } :: layout.roles.map (contents.patch layout start)

/-- Dates that packed words can hold and counts that fit their fields. The current date
is at most a year after the past date. -/
structure Fits (layout : Layout) (contents : Contents) : Prop where
  pastValid : contents.pastDate.isValid = true
  pastFirst : 2000 ≤ contents.pastDate.year
  pastLast : contents.pastDate.year ≤ 2127
  currentValid : contents.currentDate.isValid = true
  after : contents.pastDate.before contents.currentDate = true
  within : Date.before { contents.pastDate with year := contents.pastDate.year + 1 }
    contents.currentDate = false
  past : contents.past < 256 ^ layout.pastConsumption.width.toNat
  current : contents.current < 256 ^ layout.currentConsumption.width.toNat
  room : layout.reportsTemperature = true →
    contents.room < 256 ^ layout.roomTemperature.width.toNat
  radiator : layout.reportsTemperature = true →
    contents.radiator < 256 ^ layout.radiatorTemperature.width.toNat

theorem Fits.count_lt (fits : contents.Fits layout) (readable : layout.Readable)
    (member : role ∈ layout.roles) :
    contents.count role < 256 ^ (layout.field role).width.toNat := by
  cases role with
  | pastDate =>
      rw [field, readable.pastDate]
      exact PackedDate.encodePast_lt contents.pastDate
  | pastConsumption => exact fits.past
  | currentDate =>
      rw [field, readable.currentDate]
      exact PackedDate.encodeCurrent_lt ..
  | currentConsumption => exact fits.current
  | roomTemperature => exact fits.room (roomTemperature_mem_iff.mp member)
  | radiatorTemperature => exact fits.radiator (radiatorTemperature_mem_iff.mp member)

theorem Fits.ofValues_count (fits : contents.Fits layout) :
    Contents.ofValues contents.count = contents := by
  have pastDate : PackedDate.pastDate (PackedDate.encodePast contents.pastDate) =
      contents.pastDate :=
    PackedDate.pastDate_encodePast fits.pastValid fits.pastFirst fits.pastLast
  have currentDate := PackedDate.currentDate_encodeCurrent fits.currentValid fits.after fits.within
  simp only [ofValues, count, pastDate, currentDate]

theorem Fits.verdict_count (fits : contents.Fits layout) (signal : Int) :
    layout.verdict contents.count signal = .decoded (contents.records layout signal) := by
  have contents := fits.ofValues_count
  rw [verdict_of_valid signal (by rw [contents]; exact fits.pastValid)
    (by rw [contents]; exact fits.currentValid), contents]

end Contents

theorem Readable.patches_apart (readable : layout.Readable) (contents : Contents)
    (coding : UInt8) (start : Nat) :
    (contents.patches layout coding start).Pairwise Patch.Apart := by
  refine List.pairwise_cons.mpr ⟨fun patch member => ?_, List.pairwise_map.mpr ?_⟩
  · obtain ⟨role, found, rfl⟩ := List.mem_map.mp member
    have offset := readable.behindCoding role found
    left
    simp only [Patch.stop, Contents.patch, List.length_singleton]
    omega
  · refine readable.pairwise_apart.imp_of_mem ?_
    intro first second firstMember secondMember apart
    have firstOffset := readable.behindCoding first firstMember
    have secondOffset := readable.behindCoding second secondMember
    have firstWidth := (readable.allowed first firstMember).1
    have secondWidth := (readable.allowed second secondMember).1
    simp only [Patch.Apart, Patch.stop, Contents.patch, Counter.length_bytes]
    omega

theorem Readable.patches_inside (readable : layout.Readable) {frame : Frame} {patch : Patch}
    (room : frame.payloadOffset + layout.length ≤ frame.bytes.length)
    (member : patch ∈ contents.patches layout coding frame.payloadOffset) :
    patch.stop ≤ frame.bytes.length := by
  obtain ⟨start, held⟩ := readable.room_iff.mp room
  rcases List.mem_cons.mp member with rfl | field
  · exact start
  · obtain ⟨role, found, rfl⟩ := List.mem_map.mp field
    have inside := held role found
    rw [readable.position found] at inside
    simpa only [Patch.stop, Contents.patch, Counter.length_bytes] using inside

def patched (frame : Frame) (patches : List Patch) : Frame :=
  { frame with bytes := applyAll frame.bytes patches }

variable {blank : Frame} {patches : List Patch}

theorem Readable.excerpt_patched (readable : layout.Readable) {patch : Patch}
    (room : blank.payloadOffset + layout.length ≤ blank.bytes.length)
    (order : patches.Perm (contents.patches layout coding blank.payloadOffset))
    (member : patch ∈ contents.patches layout coding blank.payloadOffset) :
    excerpt (patched blank patches).bytes patch.position patch.content.length = patch.content := by
  refine excerpt_applyAll ?_ (fun other found => ?_) (order.mem_iff.mpr member)
  · exact order.symm.pairwise (readable.patches_apart contents coding _) Patch.Apart.symm
  · exact readable.patches_inside room (order.mem_iff.mp found)

theorem Readable.coding_patched (readable : layout.Readable)
    (room : blank.payloadOffset + layout.length ≤ blank.bytes.length)
    (order : patches.Perm (contents.patches layout coding blank.payloadOffset)) :
    (patched blank patches).bytes[blank.payloadOffset]? = some coding := by
  have first := readable.excerpt_patched room order List.mem_cons_self
  exact getElem?_of_excerpt first Nat.one_pos

theorem Readable.fieldValue_patched (readable : layout.Readable)
    (fits : contents.Fits layout)
    (room : blank.payloadOffset + layout.length ≤ blank.bytes.length)
    (order : patches.Perm (contents.patches layout coding blank.payloadOffset))
    (member : role ∈ layout.roles) :
    layout.fieldValue (patched blank patches) role = contents.count role := by
  have found : contents.patch layout blank.payloadOffset role ∈
      contents.patches layout coding blank.payloadOffset :=
    List.mem_cons_of_mem _ (List.mem_map_of_mem member)
  have bytes := readable.excerpt_patched room order found
  simp only [Contents.patch, Counter.length_bytes] at bytes
  have position : Layout.position (patched blank patches) (layout.field role) =
      blank.payloadOffset + (layout.field role).offset.toNat := readable.position member
  rw [fieldValue, fieldBytes, position, bytes,
    Counter.value_bytes (fits.count_lt readable member)]

/-- Contents written into a frame, in any order and over any bytes, are decoded again. -/
theorem decodeInto_patched (decoder : Text) (before : Findings)
    (consistent : layout.isConsistent = true) (endsFit : layout.EndsFit)
    (recognized : coding ∈ layout.codings) (fits : contents.Fits layout)
    (room : blank.payloadOffset + layout.length ≤ blank.bytes.length)
    (order : patches.Perm (contents.patches layout coding blank.payloadOffset)) :
    (layout.decodeInto decoder (patched blank patches) before).outcome =
      .ok (.decoded, { before with records := contents.records layout blank.signal }) := by
  have readable := readable_of_isConsistent consistent endsFit
  have found := readable.coding_patched room order
  have long : (patched blank patches).payloadOffset + layout.length ≤
      (patched blank patches).bytes.length := by
    rw [patched, length_applyAll]
    exact room
  have values : layout.verdict (layout.fieldValue (patched blank patches)) blank.signal =
      .decoded (contents.records layout blank.signal) :=
    (verdict_congr fun role member =>
      readable.fieldValue_patched fits room order member).trans (fits.verdict_count blank.signal)
  have decoded := decode_of_room decoder readable found
    (List.contains_iff_mem.mpr recognized) long
  rw [decodeInto_of_decode before decoded]
  exact congrArg (fun outcome => Except.ok (Outcome.leave before outcome)) values

/-- Fields of all widths, scattered over the payload in no order. -/
def scattered : Layout :=
  { codings := [0x11, 0xF0]
    pastDate := ⟨9, 2⟩
    pastConsumption := ⟨1, 4⟩
    currentDate := ⟨6, 2⟩
    currentConsumption := ⟨20, 3⟩
    reportsTemperature := true
    roomTemperature := ⟨8, 1⟩
    radiatorTemperature := ⟨12, 2⟩
    unit := .cubicMetre
    divisor := .ofNat 1000 }

/-- The last past date there is, a leap day after it and the greatest counts. -/
def leapDay : Contents :=
  { pastDate := ⟨2127, 12, 31⟩
    past := 0xFFFFFFFF
    currentDate := ⟨2128, 2, 29⟩
    current := 0xFFFFFF
    room := 0xFF
    radiator := 0xFFFF }

def shortAddressed : Frame :=
  { bytes := List.replicate 30 0xA5
    address := ⟨0x5068, "11111234", 0x94, 0x80, [0x68, 0x50, 0x34]⟩
    signal := -87 }

theorem leapDay_fits : leapDay.Fits scattered where
  pastValid := by decide
  pastFirst := by decide
  pastLast := by decide
  currentValid := by decide
  after := by decide
  within := by decide
  past := by decide
  current := by decide
  room := fun _ => by decide
  radiator := fun _ => by decide

theorem decodeInto_patched_leapDay :
    scattered.isConsistent = true ∧ scattered.EndsFit ∧ 0xF0 ∈ scattered.codings ∧
      leapDay.Fits scattered ∧
      shortAddressed.payloadOffset + scattered.length ≤ shortAddressed.bytes.length ∧
      (scattered.decodeInto "scattered"
        (patched shortAddressed (leapDay.patches scattered 0xF0 5).reverse) {}).outcome =
          .ok (.decoded, { records := leapDay.records scattered (-87) }) := by
  have consistent : scattered.isConsistent = true := by decide +kernel
  have endsFit : scattered.EndsFit := by decide
  have recognized : 0xF0 ∈ scattered.codings := by decide
  have room : shortAddressed.payloadOffset + scattered.length ≤ shortAddressed.bytes.length := by
    decide
  exact ⟨consistent, endsFit, recognized, leapDay_fits, room,
    decodeInto_patched "scattered" {} consistent endsFit recognized leapDay_fits room
      (List.reverse_perm _)⟩

end MeterTelegram.Layout
