import Mathlib.Algebra.BigOperators.Group.Finset.Basic
import MeterTelegram.Proofs.Access
import MeterTelegram.Proofs.Counter

namespace MeterTelegram.Counter

/-! Reading a counter in words: the offset has 64 bits, and the bytes are shifted one by one into
a word of 32 bits, the last byte first. No byte outside the buffer is fetched and no bit is lost,
so the word is the value of the bytes. -/

open Buffer

variable {buffer others first second : List UInt8} {position place count index : Nat}
  {offset : UInt64} {width : Int32} {word : UInt32} {byte : UInt8} {fault : Fault}

theorem value_append_byte (front : List UInt8) (byte : UInt8) :
    value (front ++ [byte]) = value front + byte.toNat * 256 ^ front.length := by
  induction front with
  | nil => simp [value]
  | cons low rest ih =>
      simp only [List.cons_append, value, ih, List.length_cons, Nat.pow_succ]
      grind

theorem excerpt_succ (found : buffer[position + count]? = some byte) :
    excerpt buffer position (count + 1) = excerpt buffer position count ++ [byte] := by
  have next : (buffer.drop position)[count]? = some byte := by rwa [List.getElem?_drop]
  rw [excerpt, List.take_add_one, next]
  rfl

/-- The value of bytes as the sum of their places. -/
theorem value_excerpt (room : position + count ≤ buffer.length) :
    value (excerpt buffer position count) =
      ∑ index ∈ Finset.range count, (buffer.getD (position + index) 0).toNat * 256 ^ index := by
  induction count with
  | zero => simp [excerpt, value]
  | succ count ih =>
      have inside : position + count < buffer.length := by omega
      have found : buffer[position + count]? = some (buffer.getD (position + count) 0) := by
        simp [inside]
      rw [excerpt_succ found, value_append_byte, ih (by omega), length_excerpt (by omega),
        Finset.sum_range_succ]

/-- Counters of one width that have the same value have the same bytes. -/
theorem bytes_of_value (length : first.length = second.length)
    (same : value first = value second) : first = second := by
  induction first generalizing second with
  | nil => exact (List.length_eq_zero_iff.mp length.symm).symm
  | cons low rest ih =>
      cases second with
      | nil => contradiction
      | cons other rest' =>
          have lowBound := low.toNat_lt
          have otherBound := other.toNat_lt
          simp only [value] at same
          have head : low = other := UInt8.toNat_inj.mp (by omega)
          have tail : rest = rest' := ih (by simpa using length) (by omega)
          rw [head, tail]

/-- Shifts bytes into a word, from the last one down to the first. -/
def gather (buffer : List UInt8) (offset : UInt64) : Nat → UInt32 → Except Stray UInt32
  | 0, word => .ok word
  | index + 1, word => do
      let byte ← fetch buffer (offset + UInt64.ofNat index).toNat
      gather buffer offset index (word <<< 8 ||| byte.toUInt32)

theorem toNat_shift (fits : word.toNat * 256 < 2 ^ 32) (byte : UInt8) :
    (word <<< 8 ||| byte.toUInt32).toNat = word.toNat * 256 + byte.toNat := by
  have bound := byte.toNat_lt
  have shifted : (word <<< 8).toNat = word.toNat <<< 8 := by
    rw [UInt32.toNat_shiftLeft]
    apply Nat.mod_eq_of_lt
    rw [Nat.shiftLeft_eq]
    exact fits
  rw [UInt32.toNat_or, shifted, UInt8.toNat_toUInt32, ← Nat.shiftLeft_add_eq_or_of_lt bound,
    Nat.shiftLeft_eq]

theorem toNat_place (inside : offset.toNat + 4 < 2 ^ 64) (few : index ≤ 4) :
    (offset + UInt64.ofNat index).toNat = offset.toNat + index := by
  have place : (UInt64.ofNat index).toNat = index :=
    UInt64.toNat_ofNat_of_lt' (Nat.lt_of_le_of_lt few (by decide))
  rw [UInt64.toNat_add, place]
  exact Nat.mod_eq_of_lt (by omega)

/-- What was gathered is worth the place behind the bytes that are still to come. -/
theorem gather_eq (inside : offset.toNat + 4 < 2 ^ 64) (few : count ≤ 4)
    (room : offset.toNat + count ≤ buffer.length)
    (fits : (word.toNat + 1) * 256 ^ count ≤ 2 ^ 32) :
    ∃ gathered, gather buffer offset count word = .ok gathered ∧
      gathered.toNat =
        value (excerpt buffer offset.toNat count) + word.toNat * 256 ^ count := by
  induction count generalizing word with
  | zero => exact ⟨word, rfl, by simp [excerpt, value]⟩
  | succ count ih =>
      have here : offset.toNat + count < buffer.length := by omega
      let byte := buffer[offset.toNat + count]
      have found : buffer[offset.toNat + count]? = some byte := List.getElem?_eq_getElem here
      have fetched : fetch buffer (offset + UInt64.ofNat count).toNat = .ok byte := by
        rw [toNat_place inside (by omega)]
        exact fetch_eq_ok.mpr found
      have bound := byte.toNat_lt
      have positive : 0 < 256 ^ count := Nat.pow_pos (by decide)
      have whole : (word.toNat + 1) * 256 * 256 ^ count ≤ 2 ^ 32 := by
        rw [Nat.pow_succ] at fits
        grind
      have shifted : (word <<< 8 ||| byte.toUInt32).toNat = word.toNat * 256 + byte.toNat := by
        apply toNat_shift
        have least : (word.toNat + 1) * 256 ≤ (word.toNat + 1) * 256 * 256 ^ count :=
          Nat.le_mul_of_pos_right _ positive
        omega
      have later : (word.toNat * 256 + byte.toNat + 1) * 256 ^ count ≤ 2 ^ 32 :=
        Nat.le_trans (Nat.mul_le_mul_right _ (by omega)) whole
      obtain ⟨gathered, ended, sum⟩ := @ih (word <<< 8 ||| byte.toUInt32) (by omega) (by omega)
        (by rwa [shifted])
      refine ⟨gathered, ?_, ?_⟩
      · rw [gather, fetched]
        exact ended
      · rw [sum, shifted, excerpt_succ found, value_append_byte, length_excerpt (by omega),
          Nat.pow_succ]
        grind

/-- The counter and the error of a caller. -/
structure Held where
  count : UInt32
  error : Text
deriving DecidableEq, Repr

/-- Reads a counter into what the caller holds, and says whether it was read. -/
def readInto (held : Held) (buffer : List UInt8) (offset : UInt64) (width : Int32) :
    Except Stray (Bool × Held) :=
  if width.toInt < 1 ∨ maxWidth < width.toInt then
    .ok (false, { held with error := (Fault.width width.toInt).message })
  else if buffer.length < (offset + width.toInt64.toUInt64).toNat then
    .ok (false, { held with
      error := (Fault.short width.toInt offset.toNat buffer.length).message })
  else do
    let count ← gather buffer offset width.toInt.toNat 0
    return (true, { held with count })

/-- The caller after a read by value. -/
def Held.after (held : Held) : Except Fault Nat → Bool × Held
  | .ok count => (true, { held with count := UInt32.ofNat count })
  | .error fault => (false, { held with error := fault.message })

theorem Fault.message_ne_nil (fault : Fault) : fault.message ≠ [] := by
  cases fault with
  | width given | short needed offset size =>
      simp only [message, List.append_assoc]
      exact List.append_ne_nil_of_left_ne_nil (by decide +kernel) _

theorem width_le (allowed : Allowed width.toInt) : width.toInt.toNat ≤ 4 :=
  Int.toNat_le.mpr allowed.2

theorem pow_width_le (allowed : Allowed width.toInt) : 256 ^ width.toInt.toNat ≤ 2 ^ 32 :=
  calc 256 ^ width.toInt.toNat
    _ ≤ 256 ^ 4 := Nat.pow_le_pow_right (by decide) (width_le allowed)
    _ = 2 ^ 32 := by decide

theorem stop_of_allowed (inside : offset.toNat + 4 < 2 ^ 64) (allowed : Allowed width.toInt) :
    (offset + width.toInt64.toUInt64).toNat = offset.toNat + width.toInt.toNat := by
  have few := width_le allowed
  have unsigned : width.toInt64.toUInt64 = UInt64.ofNat width.toInt.toNat := by
    have values : width.toInt = 1 ∨ width.toInt = 2 ∨ width.toInt = 3 ∨ width.toInt = 4 := by
      have lower := allowed.1
      omega
    have known {given : Int32} (same : width.toInt = given.toInt) : width = given :=
      Int32.toInt_inj.mp same
    rcases values with one | two | three | four
    · rw [@known 1 one]
      rfl
    · rw [@known 2 two]
      rfl
    · rw [@known 3 three]
      rfl
    · rw [@known 4 four]
      rfl
  rw [unsigned, toNat_place inside few]

/-- Reading in words stays inside the buffer and is reading by value. -/
theorem readInto_eq (held : Held) (buffer : List UInt8) (inside : offset.toNat + 4 < 2 ^ 64)
    (width : Int32) :
    readInto held buffer offset width =
      .ok (held.after (read buffer offset.toNat width.toInt)) := by
  by_cases forbidden : width.toInt < 1 ∨ maxWidth < width.toInt
  · simp only [readInto, read, if_pos forbidden, Held.after]
  · have allowed : Allowed width.toInt := by
      unfold Allowed
      omega
    simp only [readInto, stop_of_allowed inside allowed, if_neg forbidden]
    by_cases short : buffer.length < offset.toNat + width.toInt.toNat
    · simp only [read, if_neg forbidden, if_pos short, Held.after]
    · have room : offset.toNat + width.toInt.toNat ≤ buffer.length := Nat.le_of_not_lt short
      have fits : ((0 : UInt32).toNat + 1) * 256 ^ width.toInt.toNat ≤ 2 ^ 32 := by
        simpa using pow_width_le allowed
      obtain ⟨gathered, ended, sum⟩ := gather_eq inside (width_le allowed) room fits
      rw [UInt32.toNat_zero, Nat.zero_mul, Nat.add_zero] at sum
      rw [if_neg short, ended, read_of_room allowed room, ← sum, Held.after, UInt32.ofNat_toNat]
      rfl

theorem readInto_of_ok (held : Held) (inside : offset.toNat + 4 < 2 ^ 64)
    (readOk : read buffer offset.toNat width.toInt = .ok count) :
    readInto held buffer offset width =
      .ok (true, { held with count := UInt32.ofNat count }) := by
  rw [readInto_eq held buffer inside width, readOk]
  rfl

theorem readInto_of_error (held : Held) (inside : offset.toNat + 4 < 2 ^ 64)
    (refused : read buffer offset.toNat width.toInt = .error fault) :
    readInto held buffer offset width = .ok (false, { held with error := fault.message }) := by
  rw [readInto_eq held buffer inside width, refused]
  rfl

theorem read_ok_iff {width : Int} : (∃ count, read buffer position width = .ok count) ↔
    Allowed width ∧ position + width.toNat ≤ buffer.length := by
  constructor
  · intro readable
    obtain ⟨count, readOk⟩ := readable
    obtain ⟨allowed, room, -⟩ := read_ok readOk
    exact ⟨allowed, room⟩
  · intro given
    exact ⟨_, read_of_room given.1 given.2⟩

theorem read_lt_width {width : Int} (readOk : read buffer position width = .ok count) :
    count < 256 ^ width.toNat := by
  obtain ⟨-, room, rfl⟩ := read_ok readOk
  have bound := value_lt (excerpt buffer position width.toNat)
  rwa [length_excerpt room] at bound

/-- A counter that is written into a buffer is read back. -/
theorem read_write {width : Int} (allowed : Allowed width)
    (room : position + width.toNat ≤ buffer.length) (bound : count < 256 ^ width.toNat) :
    read (write buffer position (bytes width.toNat count)) position width = .ok count := by
  have inside : (Patch.mk position (bytes width.toNat count)).stop ≤ buffer.length := by
    simpa [Patch.stop] using room
  have kept := excerpt_apply ⟨position, bytes width.toNat count⟩ inside
  simp only [apply, length_bytes] at kept
  rw [read_of_room allowed (by simpa using room), kept, value_bytes bound]

/-- Counters that are read as the same count have the same bytes. -/
theorem excerpt_of_read {width : Int} (readOk : read buffer position width = .ok count)
    (otherOk : read others place width = .ok count) :
    excerpt others place width.toNat = excerpt buffer position width.toNat := by
  obtain ⟨-, room, value⟩ := read_ok readOk
  obtain ⟨-, otherRoom, otherValue⟩ := read_ok otherOk
  apply bytes_of_value
  · rw [length_excerpt room, length_excerpt otherRoom]
  · rw [← value, ← otherValue]

/-- A counter is read exactly if it has one to four bytes and all of them are in the buffer. No
other byte is fetched, and no bit is lost: what is read is the sum of the bytes at their places, so
that any count of the width can be written and read back and different bytes are different counts.
Otherwise the counter of the caller stays and an error is set. -/
theorem readInto_exact (held : Held) (buffer : List UInt8)
    (inside : offset.toNat + 4 < 2 ^ 64) (width : Int32) :
    ∃ success after, readInto held buffer offset width = .ok (success, after) ∧
      (success = true ↔ 1 ≤ width.toInt ∧ width.toInt ≤ 4 ∧
        offset.toNat + width.toInt.toNat ≤ buffer.length) ∧
      (success = true → after.error = held.error ∧
        read buffer offset.toNat width.toInt = .ok after.count.toNat ∧
        after.count.toNat = ∑ index ∈ Finset.range width.toInt.toNat,
          (buffer.getD (offset.toNat + index) 0).toNat * 256 ^ index ∧
        after.count.toNat < 256 ^ width.toInt.toNat ∧
        (∀ count < 256 ^ width.toInt.toNat, ∃ reread,
          readInto held (write buffer offset.toNat (bytes width.toInt.toNat count)) offset width =
            .ok (true, reread) ∧ reread.count.toNat = count) ∧
        ∀ others place, read others place width.toInt = .ok after.count.toNat →
          excerpt others place width.toInt.toNat =
            excerpt buffer offset.toNat width.toInt.toNat) ∧
      (success = false → after.count = held.count ∧ after.error ≠ [] ∧
        ∃ fault, read buffer offset.toNat width.toInt = .error fault ∧
          after.error = fault.message) := by
  have readable := @read_ok_iff buffer offset.toNat width.toInt
  simp only [Allowed, and_assoc] at readable
  cases result : read buffer offset.toNat width.toInt with
  | error fault =>
      rw [result] at readable
      have refused := readInto_of_error held inside result
      refine ⟨false, _, refused, ?_, nofun, fun _ => ⟨rfl, fault.message_ne_nil, fault, rfl, rfl⟩⟩
      rw [← show ((maxWidth : Nat) : Int) = 4 from rfl, ← readable]
      simp
  | ok count =>
      obtain ⟨allowed, room, value⟩ := read_ok result
      have bound := read_lt_width result
      have whole : (UInt32.ofNat count).toNat = count :=
        UInt32.toNat_ofNat_of_lt' (Nat.lt_of_lt_of_le bound (pow_width_le allowed))
      refine ⟨true, _, readInto_of_ok held inside result, ?_, fun _ => ⟨rfl, ?_, ?_, ?_, ?_, ?_⟩,
        nofun⟩
      · exact ⟨fun _ => ⟨allowed.1, allowed.2, room⟩, fun _ => rfl⟩
      · rw [whole]
      · rw [whole, value, value_excerpt room]
      · rwa [whole]
      · intro given few
        refine ⟨_, readInto_of_ok held inside (read_write allowed room few), ?_⟩
        exact UInt32.toNat_ofNat_of_lt' (Nat.lt_of_lt_of_le few (pow_width_le allowed))
      · intro others place same
        rw [whole] at same
        exact excerpt_of_read result same

/-- Two bytes in front of a third one, and three bytes of which the last is missing. -/
theorem readInto_exact_temperature :
    (0 : UInt64).toNat + 4 < 2 ^ 64 ∧ (1 : UInt64).toNat + 4 < 2 ^ 64 ∧
      (∃ after, readInto ⟨7, []⟩ [0xBD, 0x08, 0xFF] 0 2 = .ok (true, after) ∧
        after.count.toNat = 2237 ∧ after.error = []) ∧
      ∃ after, readInto ⟨7, []⟩ [0xBD, 0x08, 0xFF] 1 3 = .ok (false, after) ∧
        after.count = 7 ∧ after.error ≠ [] := by
  have first : (0 : UInt64).toNat + 4 < 2 ^ 64 := by decide
  have second : (1 : UInt64).toNat + 4 < 2 ^ 64 := by decide
  refine ⟨first, second, ?_, ?_⟩
  · obtain ⟨success, after, done, accepts, given, -⟩ :=
      readInto_exact ⟨7, []⟩ [0xBD, 0x08, 0xFF] first 2
    obtain rfl : success = true := accepts.mpr (by decide)
    obtain ⟨error, readOk, -⟩ := given rfl
    exact ⟨after, done, (Except.ok.inj readOk).symm, error⟩
  · obtain ⟨success, after, done, accepts, -, refused⟩ :=
      readInto_exact ⟨7, []⟩ [0xBD, 0x08, 0xFF] second 3
    obtain rfl : success = false :=
      Bool.of_not_eq_true fun success => absurd (accepts.mp success) (by decide)
    obtain ⟨count, error, -⟩ := refused rfl
    exact ⟨after, done, count, error⟩

end MeterTelegram.Counter
