namespace MeterTelegram.Buffer

/-! Writing bytes at fixed places of a buffer. Patches that stay apart from each
other may be applied in any order: afterwards each of them reads back. -/

structure Patch where
  position : Nat
  content : List UInt8
deriving DecidableEq, Repr

namespace Patch

def stop (patch : Patch) : Nat :=
  patch.position + patch.content.length

/-- Patches that touch no common byte. -/
def Apart (left right : Patch) : Prop :=
  left.stop ≤ right.position ∨ right.stop ≤ left.position

theorem Apart.symm {left right : Patch} (apart : Apart left right) : Apart right left :=
  Or.symm apart

end Patch

open Patch

variable {buffer content : List UInt8} {position place count index : Nat} {byte : UInt8}

def excerpt (buffer : List UInt8) (position count : Nat) : List UInt8 :=
  (buffer.drop position).take count

def write : List UInt8 → Nat → List UInt8 → List UInt8
  | buffer, _, [] => buffer
  | buffer, position, byte :: rest => write (buffer.set position byte) (position + 1) rest

def apply (buffer : List UInt8) (patch : Patch) : List UInt8 :=
  write buffer patch.position patch.content

def applyAll (buffer : List UInt8) (patches : List Patch) : List UInt8 :=
  patches.foldl apply buffer

@[simp] theorem length_write : (write buffer position content).length = buffer.length := by
  induction content generalizing buffer position with
  | nil => rfl
  | cons byte rest ih => rw [write, ih, List.length_set]

@[simp] theorem length_apply (patch : Patch) : (apply buffer patch).length = buffer.length :=
  length_write

@[simp] theorem length_applyAll (patches : List Patch) :
    (applyAll buffer patches).length = buffer.length := by
  induction patches generalizing buffer with
  | nil => rfl
  | cons patch rest ih => exact ih.trans (length_apply patch)

theorem length_excerpt (inside : position + count ≤ buffer.length) :
    (excerpt buffer position count).length = count := by
  simp only [excerpt, List.length_take, List.length_drop]
  omega

theorem getElem?_excerpt (inside : index < count) :
    (excerpt buffer position count)[index]? = buffer[position + index]? := by
  simp only [excerpt, List.getElem?_take, List.getElem?_drop, if_pos inside]

theorem getElem?_of_excerpt (equal : excerpt buffer position count = content)
    (inside : index < count) : buffer[position + index]? = content[index]? := by
  rw [← equal, getElem?_excerpt inside]

theorem excerpt_congr {other : List UInt8}
    (same : ∀ index, index < count → buffer[position + index]? = other[place + index]?) :
    excerpt buffer position count = excerpt other place count := by
  apply List.ext_getElem?
  intro index
  by_cases inside : index < count
  · rw [getElem?_excerpt inside, getElem?_excerpt inside, same index inside]
  · simp only [excerpt, List.getElem?_take, if_neg inside]

theorem getElem?_of_agreement {other : List UInt8}
    (agreement : other.take count = buffer.take count) (inside : index < count) :
    other[index]? = buffer[index]? := by
  rw [← List.getElem?_take_of_lt inside, agreement, List.getElem?_take_of_lt inside]

theorem agreement_mono {other : List UInt8} {bound : Nat}
    (agreement : other.take bound = buffer.take bound) (within : count ≤ bound) :
    other.take count = buffer.take count := by
  have shorter := congrArg (List.take count) agreement
  rwa [List.take_take, List.take_take, Nat.min_eq_left within] at shorter

theorem excerpt_of_agreement {other : List UInt8} {bound : Nat}
    (agreement : other.take bound = buffer.take bound) (inside : position + count ≤ bound) :
    excerpt other position count = excerpt buffer position count :=
  excerpt_congr fun index within =>
    getElem?_of_agreement agreement (by omega)

theorem eq_of_agreement {other : List UInt8} (agreement : other.take count = buffer.take count)
    (short : buffer.length < count) : other = buffer := by
  rw [List.take_of_length_le (Nat.le_of_lt short)] at agreement
  have size := congrArg List.length agreement
  rw [List.length_take] at size
  rwa [List.take_of_length_le (by omega)] at agreement

theorem length_of_agreement {other : List UInt8} (agreement : other.take count = buffer.take count)
    (long : count ≤ buffer.length) : count ≤ other.length := by
  have size := congrArg List.length agreement
  simp only [List.length_take] at size
  omega

theorem getElem?_write_outside (outside : index < position ∨ position + content.length ≤ index) :
    (write buffer position content)[index]? = buffer[index]? := by
  induction content generalizing buffer position with
  | nil => rfl
  | cons byte rest ih =>
      simp only [List.length_cons] at outside
      rw [write, ih (by omega), List.getElem?_set_ne (by omega)]

theorem getElem?_write_inside (inside : index < content.length)
    (room : position + content.length ≤ buffer.length) :
    (write buffer position content)[position + index]? = content[index]? := by
  induction content generalizing buffer position index with
  | nil => simp at inside
  | cons byte rest ih =>
      simp only [List.length_cons] at inside room
      rw [write]
      cases index with
      | zero =>
          rw [getElem?_write_outside (by omega), Nat.add_zero,
            List.getElem?_set_self (by omega), List.getElem?_cons_zero]
      | succ index =>
          have shifted : position + (index + 1) = position + 1 + index := by omega
          rw [shifted, ih (by omega) (by rw [List.length_set]; omega), List.getElem?_cons_succ]

theorem excerpt_apply (patch : Patch) (inside : patch.stop ≤ buffer.length) :
    excerpt (apply buffer patch) patch.position patch.content.length = patch.content := by
  apply List.ext_getElem?
  intro index
  by_cases within : index < patch.content.length
  · rw [getElem?_excerpt within]
    exact getElem?_write_inside within inside
  · rw [List.getElem?_eq_none (Nat.le_of_not_lt within),
      List.getElem?_eq_none (by rw [excerpt, List.length_take]; omega)]

theorem excerpt_apply_of_apart {patch kept : Patch} (apart : Apart patch kept) :
    excerpt (apply buffer patch) kept.position kept.content.length =
      excerpt buffer kept.position kept.content.length := by
  apply excerpt_congr
  intro index within
  apply getElem?_write_outside
  rcases apart with before | behind
  · exact Or.inr (Nat.le_trans before (Nat.le_add_right ..))
  · exact Or.inl (Nat.lt_of_lt_of_le (Nat.add_lt_add_left within _) behind)

theorem excerpt_applyAll_of_apart {patches : List Patch} {kept : Patch}
    (apart : ∀ patch ∈ patches, Apart patch kept) :
    excerpt (applyAll buffer patches) kept.position kept.content.length =
      excerpt buffer kept.position kept.content.length := by
  induction patches generalizing buffer with
  | nil => rfl
  | cons patch rest ih =>
      exact (ih (fun other member => apart other (List.mem_cons_of_mem patch member))).trans
        (excerpt_apply_of_apart (apart patch List.mem_cons_self))

/-- Each of several patches reads back once all of them are applied. -/
theorem excerpt_applyAll {patches : List Patch} {patch : Patch}
    (apart : patches.Pairwise Apart) (inside : ∀ patch ∈ patches, patch.stop ≤ buffer.length)
    (member : patch ∈ patches) :
    excerpt (applyAll buffer patches) patch.position patch.content.length = patch.content := by
  induction patches generalizing buffer with
  | nil => cases member
  | cons first rest ih =>
      obtain ⟨firstApart, restApart⟩ := List.pairwise_cons.mp apart
      rcases List.mem_cons.mp member with rfl | later
      · exact (excerpt_applyAll_of_apart (fun other found => (firstApart other found).symm)).trans
          (excerpt_apply patch (inside patch List.mem_cons_self))
      · refine ih restApart (fun other found => ?_) later
        rw [length_apply]
        exact inside other (List.mem_cons_of_mem first found)

end MeterTelegram.Buffer
