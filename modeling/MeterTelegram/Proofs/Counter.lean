import Mathlib.Algebra.Group.Nat.Defs
import MeterTelegram.Counter
import MeterTelegram.Proofs.Buffer
import MeterTelegram.Proofs.Results

namespace MeterTelegram.Counter

/-! Reading counters: a count that fits its width is the value of its bytes, and
a read succeeds exactly if the width is allowed and the buffer holds the bytes. -/

open Buffer

variable {buffer : List UInt8} {offset count : Nat} {width : Int}

@[simp] theorem length_bytes (width count : Nat) : (bytes width count).length = width := by
  induction width generalizing count with
  | zero => rfl
  | succ width ih => rw [bytes, List.length_cons, ih]

theorem value_bytes {width count : Nat} (bound : count < 256 ^ width) :
    value (bytes width count) = count := by
  induction width generalizing count with
  | zero =>
      rw [Nat.pow_zero] at bound
      simp only [bytes, value]
      omega
  | succ width ih =>
      have upper : count / 256 < 256 ^ width := by
        rw [Nat.pow_succ] at bound
        exact Nat.div_lt_of_lt_mul (by omega)
      have low : (UInt8.ofNat count).toNat = count % 256 := UInt8.toNat_ofNat'
      rw [bytes, value, ih upper, low]
      omega

theorem value_lt (bytes : List UInt8) : value bytes < 256 ^ bytes.length := by
  induction bytes with
  | nil => exact Nat.one_pos
  | cons byte rest ih =>
      have low := byte.toNat_lt
      rw [value, List.length_cons, Nat.pow_succ]
      omega

def Allowed (width : Int) : Prop :=
  1 ≤ width ∧ width ≤ maxWidth

theorem read_of_room (allowed : Allowed width) (room : offset + width.toNat ≤ buffer.length) :
    read buffer offset width = .ok (value (excerpt buffer offset width.toNat)) := by
  obtain ⟨lower, upper⟩ := allowed
  rw [read, if_neg (by omega), if_neg (by omega), excerpt]

theorem read_ok {result : Nat} (readOk : read buffer offset width = .ok result) :
    Allowed width ∧ offset + width.toNat ≤ buffer.length ∧
      result = value (excerpt buffer offset width.toNat) := by
  unfold read at readOk
  by_cases forbidden : width < 1 ∨ maxWidth < width
  · rw [if_pos forbidden] at readOk
    contradiction
  · rw [if_neg forbidden] at readOk
    by_cases short : buffer.length < offset + width.toNat
    · rw [if_pos short] at readOk
      contradiction
    · rw [if_neg short] at readOk
      refine ⟨?_, Nat.le_of_not_lt short, (Except.ok.inj readOk).symm⟩
      unfold Allowed
      omega

theorem readScaled_ok {divisor result : Binary64}
    (readOk : readScaled buffer offset width divisor = .ok result) :
    offset + width.toNat ≤ buffer.length := by
  obtain ⟨count, first, _⟩ := Results.ok_of_map readOk
  exact (read_ok first).2.1

end MeterTelegram.Counter
