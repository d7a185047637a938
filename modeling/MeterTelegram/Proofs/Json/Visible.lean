import Mathlib.Data.List.TakeWhile
import MeterTelegram.Proofs.Json

namespace MeterTelegram.Json

/-! JSON texts without white space between their tokens hold no control character: each is one
line, and messages show all of it. -/

variable {text other : Text}

def IsVisible (text : Text) : Prop :=
  ∀ byte ∈ text, 32 ≤ byte

instance : DecidablePred IsVisible :=
  fun text => inferInstanceAs (Decidable (∀ byte ∈ text, 32 ≤ byte))

theorem isVisible_nil : IsVisible [] :=
  nofun

theorem isVisible_cons {byte : UInt8} : IsVisible (byte :: text) ↔ 32 ≤ byte ∧ IsVisible text :=
  List.forall_mem_cons

theorem isVisible_singleton {byte : UInt8} (visible : 32 ≤ byte) : IsVisible [byte] :=
  isVisible_cons.mpr ⟨visible, isVisible_nil⟩

theorem IsVisible.append (front : IsVisible text) (behind : IsVisible other) :
    IsVisible (text ++ other) :=
  List.forall_mem_append.mpr ⟨front, behind⟩

theorem IsVisible.shown (visible : IsVisible text) : text.shown = text := by
  refine List.takeWhile_eq_self_iff.mpr fun byte listed => ?_
  have bound := visible byte listed
  rw [bne_iff_ne]
  rintro rfl
  contradiction

theorem isVisible_of_isDecimal (decimal : Text.IsDecimal text) : IsVisible text :=
  fun byte listed => UInt8.le_trans (by decide) (decimal byte listed).1

theorem IsWhole.isVisible (whole : IsWhole text) : IsVisible text := by
  rcases whole with rfl | ⟨first, rest, rfl, ⟨lower, -⟩, decimal⟩
  · exact isVisible_singleton (by decide)
  · exact isVisible_cons.mpr ⟨UInt8.le_trans (by decide) lower, isVisible_of_isDecimal decimal⟩

theorem IsFraction.isVisible (fraction : IsFraction text) : IsVisible text := by
  rcases fraction with rfl | ⟨digits, rfl, -, decimal⟩
  · exact isVisible_nil
  · exact isVisible_cons.mpr ⟨by decide, isVisible_of_isDecimal decimal⟩

theorem IsExponent.isVisible (exponent : IsExponent text) : IsVisible text := by
  rcases exponent with rfl | ⟨mark, sign, digits, rfl, marks, signs, -, decimal⟩
  · exact isVisible_nil
  · refine (isVisible_cons.mpr ⟨?_, ?_⟩).append (isVisible_of_isDecimal decimal)
    · rcases marks with rfl | rfl <;> decide
    · rcases signs with rfl | rfl | rfl
      · exact isVisible_nil
      · exact isVisible_singleton (by decide)
      · exact isVisible_singleton (by decide)

theorem IsUnsigned.isVisible (unsigned : IsUnsigned text) : IsVisible text := by
  obtain ⟨whole, fraction, exponent⟩ := unsigned
  exact (whole.isVisible.append fraction.isVisible).append exponent.isVisible

theorem IsNumber.isVisible (number : IsNumber text) : IsVisible text := by
  cases number with
  | positive unsigned => exact unsigned.isVisible
  | negative unsigned => exact isVisible_cons.mpr ⟨by decide, unsigned.isVisible⟩

theorem visible_ofNat {value : Nat} (lower : 32 ≤ value) (upper : value < 256) :
    32 ≤ UInt8.ofNat value := by
  have same : (UInt8.ofNat value).toNat = value := by
    rw [UInt8.toNat_ofNat']
    omega
  rw [UInt8.le_iff_toNat_le, same]
  exact lower

theorem isVisible_encoded {character : Char} (lower : 32 ≤ character.toNat) :
    IsVisible (String.utf8EncodeChar character) := by
  have value : character.toNat = character.val.toNat := rfl
  unfold String.utf8EncodeChar
  dsimp only
  split
  · exact isVisible_singleton (visible_ofNat (by omega) (by omega))
  · have last : IsVisible [UInt8.ofNat (character.val.toNat % 64 + 128)] :=
      isVisible_singleton (visible_ofNat (by omega) (by omega))
    split
    · exact isVisible_cons.mpr ⟨visible_ofNat (by omega) (by omega), last⟩
    · have lastTwo : IsVisible [UInt8.ofNat (character.val.toNat / 64 % 64 + 128),
          UInt8.ofNat (character.val.toNat % 64 + 128)] :=
        isVisible_cons.mpr ⟨visible_ofNat (by omega) (by omega), last⟩
      split
      · exact isVisible_cons.mpr ⟨visible_ofNat (by omega) (by omega), lastTwo⟩
      · exact isVisible_cons.mpr ⟨visible_ofNat (by omega) (by omega),
          isVisible_cons.mpr ⟨visible_ofNat (by omega) (by omega), lastTwo⟩⟩

theorem visible_of_isDigit {byte : UInt8} (digit : Hex.isDigit byte = true) : 32 ≤ byte := by
  simp only [Hex.isDigit, Hex.digitValue?] at digit
  grind

theorem IsCharacters.isVisible (characters : IsCharacters text) : IsVisible text := by
  induction characters with
  | done => exact isVisible_nil
  | plain unescaped _ ih => exact (isVisible_encoded unescaped.1).append ih
  | escape named _ ih =>
      have visible : ∀ byte ∈ [34, 92, 47, 98, 102, 110, 114, 116], (32 : UInt8) ≤ byte := by
        decide +kernel
      exact isVisible_cons.mpr ⟨by decide, isVisible_cons.mpr ⟨visible _ named, ih⟩⟩
  | code _ hex _ ih =>
      have digits := IsVisible.append (fun byte listed => visible_of_isDigit (hex byte listed)) ih
      exact isVisible_cons.mpr ⟨by decide, isVisible_cons.mpr ⟨by decide, digits⟩⟩

theorem isVisible_quoted (characters : IsCharacters text) : IsVisible (quoted text) :=
  isVisible_cons.mpr ⟨by decide, characters.isVisible.append (isVisible_singleton (by decide))⟩

theorem isVisible_joined {parts : List Text} (visible : ∀ part ∈ parts, IsVisible part) :
    IsVisible (Text.joined [44] parts) := by
  cases parts with
  | nil => exact isVisible_nil
  | cons first rest =>
      obtain ⟨front, behind⟩ := List.forall_mem_cons.mp visible
      rw [joined_cons]
      refine front.append fun byte listed => ?_
      obtain ⟨part, member, listed⟩ := List.mem_flatMap.mp listed
      exact isVisible_cons.mpr ⟨by decide, behind part member⟩ byte listed

/-- Values of all kinds are one line. -/
theorem IsValue.isVisible (value : IsValue text) : IsVisible text := by
  induction value with
  | word listed =>
      have visible : ∀ word ∈ ([("true" : Text), "false", "null"] : List Text),
          IsVisible word := by
        unfold IsVisible
        decide +kernel
      exact visible _ listed
  | number number => exact number.isVisible
  | string spelled => exact isVisible_quoted spelled
  | array _ ih =>
      exact isVisible_cons.mpr
        ⟨by decide, (isVisible_joined ih).append (isVisible_singleton (by decide))⟩
  | @object members keys _ ih =>
      refine isVisible_cons.mpr
        ⟨by decide, (isVisible_joined ?_).append (isVisible_singleton (by decide))⟩
      intro part listed
      obtain ⟨⟨key, value⟩, given, rfl⟩ := List.mem_map.mp listed
      exact (isVisible_quoted (keys _ given)).append (isVisible_cons.mpr ⟨by decide, ih _ given⟩)

end MeterTelegram.Json
