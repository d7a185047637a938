import MeterTelegram.Address
import MeterTelegram.PackedDate
import MeterTelegram.Proofs.Buffer

namespace MeterTelegram

/-! Checked access to a buffer: bytes are fetched one by one, and a place outside the
buffer ends the computation. A reading that is the same with checked access never
reaches beyond its buffer. -/

namespace Buffer

variable {buffer : List UInt8} {place position count : Nat}

/-- A place that was reached for in a buffer that ends before it. -/
structure Stray where
  place : Nat
  size : Nat
deriving DecidableEq, Repr

def fetch (buffer : List UInt8) (place : Nat) : Except Stray UInt8 :=
  match buffer[place]? with
  | some byte => .ok byte
  | none => .error ⟨place, buffer.length⟩

def fetchFrom (buffer : List UInt8) : Nat → Nat → Except Stray (List UInt8)
  | _, 0 => .ok []
  | position, count + 1 => do
      let byte ← fetch buffer position
      let rest ← fetchFrom buffer (position + 1) count
      return byte :: rest

theorem fetch_eq_ok {byte : UInt8} :
    fetch buffer place = .ok byte ↔ buffer[place]? = some byte := by
  unfold fetch
  cases buffer[place]? <;> simp

theorem fetch_of_lt (inside : place < buffer.length) :
    fetch buffer place = .ok (buffer.getD place 0) := by
  rw [List.getD_eq_getElem?_getD, List.getElem?_eq_getElem inside]
  exact fetch_eq_ok.mpr (List.getElem?_eq_getElem inside)

theorem fetchFrom_of_room (room : position + count ≤ buffer.length) :
    fetchFrom buffer position count = .ok (excerpt buffer position count) := by
  induction count generalizing position with
  | zero => rw [fetchFrom, excerpt, List.take_zero]
  | succ count ih =>
      have inside : position < buffer.length := by omega
      have first := fetch_eq_ok.mpr (List.getElem?_eq_getElem inside)
      have rest : fetchFrom buffer (position + 1) count =
          .ok (excerpt buffer (position + 1) count) := ih (by omega)
      rw [excerpt, List.drop_eq_getElem_cons inside, List.take_succ_cons, fetchFrom, first]
      simp only [rest]
      rfl

example : fetchFrom [0x2F, 0x44] 1 2 = .error ⟨2, 2⟩ := rfl

/-- Computations with checked access that may also end with a fault of their own. -/
abbrev Checked (ε α : Type) :=
  ExceptT ε (Except Stray) α

variable {ε ε' α β : Type}

/-- A result that was reached inside the buffer. -/
def settled (result : Except ε α) : Checked ε α :=
  ExceptT.mk (.ok result)

theorem pure_settled (value : α) :
    (Pure.pure value : Checked ε α) = settled (Pure.pure value) := rfl

theorem settled_bind (first : Except ε α) (next : α → Except ε β) :
    (settled first >>= fun value => settled (next value)) = settled (first >>= next) := by
  cases first <;> rfl

def translate (fault : ε → ε') (reading : Checked ε α) : Checked ε' α :=
  ExceptT.mk (reading.run.map (Except.mapError fault))

theorem translate_settled (fault : ε → ε') (result : Except ε α) :
    translate fault (settled result) = settled (result.mapError fault) := rfl

end Buffer

open Buffer

namespace Counter

def readChecked (buffer : List UInt8) (offset : Nat) (width : Int) : Checked Fault Nat :=
  if width < 1 ∨ maxWidth < width then throw (.width width)
  else if buffer.length < offset + width.toNat then throw (.short width offset buffer.length)
  else do
    let bytes ← fetchFrom buffer offset width.toNat
    return value bytes

theorem readChecked_eq (buffer : List UInt8) (offset : Nat) (width : Int) :
    readChecked buffer offset width = settled (read buffer offset width) := by
  unfold readChecked read
  split
  · rfl
  · split
    · rfl
    · rw [fetchFrom_of_room (by omega)]
      rfl

def readScaledChecked (buffer : List UInt8) (offset : Nat) (width : Int) (divisor : Binary64) :
    Checked Fault Binary64 := do
  let count ← readChecked buffer offset width
  return Binary64.quotient count divisor

theorem readScaledChecked_eq (buffer : List UInt8) (offset : Nat) (width : Int)
    (divisor : Binary64) :
    readScaledChecked buffer offset width divisor =
      settled (readScaled buffer offset width divisor) := by
  rw [readScaledChecked, readChecked_eq, readScaled]
  cases read buffer offset width <;> rfl

end Counter

namespace PackedDate

def readWordChecked (buffer : List UInt8) (offset : Nat) : Checked Fault Nat :=
  translate Fault.unreadable (Counter.readChecked buffer offset 2)

def readPastChecked (buffer : List UInt8) (offset : Nat) : Checked Fault Date := do
  let word ← readWordChecked buffer offset
  settled (check .past word (pastDate word))

def readCurrentChecked (buffer : List UInt8) (offset : Nat) (past : Date) :
    Checked Fault Date := do
  let word ← readWordChecked buffer offset
  settled (check .current word (currentDate past word))

theorem readWordChecked_eq (buffer : List UInt8) (offset : Nat) :
    readWordChecked buffer offset = settled (readWord buffer offset) := by
  rw [readWordChecked, Counter.readChecked_eq, translate_settled, readWord]

theorem readPastChecked_eq (buffer : List UInt8) (offset : Nat) :
    readPastChecked buffer offset = settled (readPast buffer offset) := by
  rw [readPastChecked, readWordChecked_eq, settled_bind, readPast]

theorem readCurrentChecked_eq (buffer : List UInt8) (offset : Nat) (past : Date) :
    readCurrentChecked buffer offset past = settled (readCurrent buffer offset past) := by
  rw [readCurrentChecked, readWordChecked_eq, settled_bind, readCurrent]

end PackedDate

end MeterTelegram
