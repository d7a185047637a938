import Mathlib.Data.List.Induction
import MeterTelegram.Proofs.Hex.Language
import MeterTelegram.Settings

namespace MeterTelegram

/-! Signal strengths as they are written: white space, at most one sign, decimal digits of any
number and nothing behind them. Digits of a number that no word holds are read as the end of the
words, which is no strength either. -/

namespace Text

variable {text digits spaces rest : Text} {byte : UInt8} {value : Int} {number : Nat}
  {negative : Bool}

/-- Digits that spell a number, however many zeros are in front. A digit more makes the number
ten times as large and adds itself. -/
inductive SpellsNat : Text → Nat → Prop where
  | digit {byte : UInt8} {digit : Nat} (small : digit < 10) (code : byte.toNat = 48 + digit) :
      SpellsNat [byte] digit
  | append {text : Text} {number : Nat} {byte : UInt8} {digit : Nat}
      (front : SpellsNat text number) (small : digit < 10) (code : byte.toNat = 48 + digit) :
      SpellsNat (text ++ [byte]) (10 * number + digit)

inductive SpellsSigned : Text → Int → Prop where
  | unsigned {digits : Text} {number : Nat} (spelled : SpellsNat digits number) :
      SpellsSigned digits number
  | plus {digits : Text} {number : Nat} (spelled : SpellsNat digits number) :
      SpellsSigned (43 :: digits) number
  | minus {digits : Text} {number : Nat} (spelled : SpellsNat digits number) :
      SpellsSigned (45 :: digits) (-number)

/-- A text that is an integer from its first byte behind white space to its end. -/
def SpellsInteger (text : Text) (value : Int) : Prop :=
  ∃ spaces signed, text = spaces ++ signed ∧ (∀ byte ∈ spaces, isWhiteSpace byte = true) ∧
    SpellsSigned signed value

theorem digit_of_isDecimalDigit (decimal : isDecimalDigit byte = true) :
    byte.toNat - 48 < 10 ∧ byte.toNat = 48 + (byte.toNat - 48) := by
  simp only [isDecimalDigit, Bool.and_eq_true, decide_eq_true_eq, UInt8.le_iff_toNat_le] at decimal
  obtain ⟨lower, upper⟩ := decimal
  change 48 ≤ byte.toNat at lower
  change byte.toNat ≤ 57 at upper
  omega

theorem isDecimalDigit_of_code {digit : Nat} (small : digit < 10)
    (code : byte.toNat = 48 + digit) : isDecimalDigit byte = true := by
  simp only [isDecimalDigit, Bool.and_eq_true, decide_eq_true_eq, UInt8.le_iff_toNat_le, code]
  exact ⟨Nat.le_add_right 48 digit, by change _ ≤ 57; omega⟩

theorem SpellsNat.ne_nil (spelled : SpellsNat digits number) : digits ≠ [] := by
  cases spelled with
  | digit => exact List.cons_ne_nil _ _
  | append => exact List.concat_ne_nil _ _

theorem SpellsNat.decimal (spelled : SpellsNat digits number) :
    ∀ byte ∈ digits, isDecimalDigit byte = true := by
  induction spelled with
  | digit small code => exact List.forall_mem_singleton.mpr (isDecimalDigit_of_code small code)
  | append _ small code ih =>
      exact List.forall_mem_append.mpr
        ⟨ih, List.forall_mem_singleton.mpr (isDecimalDigit_of_code small code)⟩

theorem SpellsNat.decimalValue (spelled : SpellsNat digits number) :
    Text.decimalValue digits = number := by
  induction spelled with
  | digit _ code =>
      simp only [Text.decimalValue, List.foldl_cons, List.foldl_nil, code]
      omega
  | append _ _ code ih =>
      rw [Text.decimalValue] at ih ⊢
      rw [List.foldl_append, ih, List.foldl_cons, List.foldl_nil, code]
      omega

theorem spellsNat_of_decimal (present : digits ≠ [])
    (decimal : ∀ byte ∈ digits, isDecimalDigit byte = true) :
    SpellsNat digits (decimalValue digits) := by
  induction digits using List.reverseRecOn with
  | nil => contradiction
  | append_singleton front byte ih =>
      obtain ⟨decimalFront, last⟩ := List.forall_mem_append.mp decimal
      obtain ⟨small, code⟩ := digit_of_isDecimalDigit (last byte (List.mem_singleton_self byte))
      cases front with
      | nil =>
          have single : decimalValue [byte] = byte.toNat - 48 := by simp [decimalValue]
          exact single ▸ .digit small code
      | cons first front =>
          have whole : decimalValue (first :: front ++ [byte]) =
              10 * decimalValue (first :: front) + (byte.toNat - 48) := by
            rw [decimalValue, List.foldl_append]
            rfl
          exact whole ▸ .append (ih (List.cons_ne_nil _ _) decimalFront) small code

theorem spellsNat_iff : SpellsNat digits number ↔
    digits ≠ [] ∧ (∀ byte ∈ digits, isDecimalDigit byte = true) ∧ decimalValue digits = number := by
  constructor
  · exact fun spelled => ⟨spelled.ne_nil, spelled.decimal, spelled.decimalValue⟩
  · rintro ⟨present, decimal, rfl⟩
    exact spellsNat_of_decimal present decimal

/-- All of a text is read as digits exactly if it spells a number. -/
theorem signedDigits?_eq_some : signedDigits? negative text = some (value, []) ↔
    ∃ number : Nat, SpellsNat text number ∧
      value = if negative then -(number : Int) else number := by
  constructor
  · intro read
    unfold signedDigits? at read
    split at read
    · contradiction
    · rename_i digit digits found
      obtain ⟨rfl, rest⟩ := Prod.mk.inj (Option.some.inj read)
      have whole : text = digit :: digits := by
        rw [← List.takeWhile_append_dropWhile (p := isDecimalDigit) (l := text), rest,
          List.append_nil, found]
      have decimal : ∀ byte ∈ text, isDecimalDigit byte = true :=
        List.dropWhile_eq_nil_iff.mp rest
      rw [whole] at decimal ⊢
      exact ⟨_, spellsNat_of_decimal (List.cons_ne_nil _ _) decimal, rfl⟩
  · rintro ⟨number, spelled, rfl⟩
    obtain ⟨present, decimal, rfl⟩ := spellsNat_iff.mp spelled
    obtain ⟨digit, digits, rfl⟩ := List.exists_cons_of_ne_nil present
    have taken : (digit :: digits).takeWhile isDecimalDigit = digit :: digits :=
      List.takeWhile_eq_self_iff.mpr decimal
    have left : (digit :: digits).dropWhile isDecimalDigit = [] :=
      List.dropWhile_eq_nil_iff.mpr decimal
    rw [signedDigits?, taken, left]

/-- A sign is no digit, so at most one of them is read. -/
theorem leadingInteger?_of_visible {first : UInt8} (visible : isWhiteSpace first = false)
    (blank : ∀ byte ∈ spaces, isWhiteSpace byte = true) :
    leadingInteger? (spaces ++ first :: rest) = some (value, []) ↔
      SpellsSigned (first :: rest) value := by
  have shown : (spaces ++ first :: rest).dropWhile isWhiteSpace = first :: rest := by
    rw [List.dropWhile_append_of_pos blank]
    exact List.dropWhile_cons_of_neg (Bool.eq_false_iff.mp visible)
  rw [leadingInteger?, shown]
  dsimp only
  split
  · rename_i minus
    subst minus
    rw [signedDigits?_eq_some]
    constructor
    · rintro ⟨number, spelled, rfl⟩
      exact .minus spelled
    · rintro (⟨spelled⟩ | ⟨spelled⟩ | ⟨spelled⟩)
      · exact absurd (spelled.decimal 45 List.mem_cons_self) (by decide)
      · exact ⟨_, spelled, rfl⟩
  · split
    · rename_i plus
      subst plus
      rw [signedDigits?_eq_some]
      constructor
      · rintro ⟨number, spelled, rfl⟩
        exact .plus spelled
      · rintro (⟨spelled⟩ | ⟨spelled⟩ | ⟨spelled⟩)
        · exact absurd (spelled.decimal 43 List.mem_cons_self) (by decide)
        · exact ⟨_, spelled, rfl⟩
    · rename_i minus plus
      rw [signedDigits?_eq_some]
      constructor
      · rintro ⟨number, spelled, rfl⟩
        exact .unsigned spelled
      · rintro (⟨spelled⟩ | ⟨spelled⟩ | ⟨spelled⟩)
        · exact ⟨_, spelled, rfl⟩
        · contradiction
        · contradiction

theorem SpellsSigned.visible (spelled : SpellsSigned text value) :
    ∃ first rest, text = first :: rest ∧ isWhiteSpace first = false := by
  cases spelled with
  | plus => exact ⟨43, _, rfl, rfl⟩
  | minus => exact ⟨45, _, rfl, rfl⟩
  | unsigned spelled =>
      obtain ⟨first, rest, rfl⟩ := List.exists_cons_of_ne_nil spelled.ne_nil
      refine ⟨first, rest, rfl, ?_⟩
      have decimal := spelled.decimal first List.mem_cons_self
      have apart : ∀ code < 256, isDecimalDigit (UInt8.ofNat code) = true →
          isWhiteSpace (UInt8.ofNat code) = false := by
        decide +kernel
      have here := apart first.toNat first.toNat_lt
      rw [UInt8.ofNat_toNat] at here
      exact here decimal

/-- The integer at the front of a text is the whole text exactly if the text spells it. -/
theorem leadingInteger?_eq_some :
    leadingInteger? text = some (value, []) ↔ SpellsInteger text value := by
  constructor
  · intro read
    have whole := List.takeWhile_append_dropWhile (p := isWhiteSpace) (l := text)
    cases shown : text.dropWhile isWhiteSpace with
    | nil =>
        rw [leadingInteger?, shown] at read
        contradiction
    | cons first rest =>
        have blank : ∀ byte ∈ text.takeWhile isWhiteSpace, isWhiteSpace byte = true :=
          fun byte member => List.mem_takeWhile_imp member
        have visible : isWhiteSpace first = false := by
          have stopped := List.head_dropWhile_not isWhiteSpace (l := text) (by simp [shown])
          simpa [shown] using stopped
        rw [shown] at whole
        rw [← whole, leadingInteger?_of_visible visible blank] at read
        exact ⟨_, _, whole.symm, blank, read⟩
  · rintro ⟨spaces, signed, rfl, blank, spelled⟩
    obtain ⟨first, rest, rfl, visible⟩ := spelled.visible
    exact (leadingInteger?_of_visible visible blank).mpr spelled

/-- A number that fits a word is read as it is, and none beside it is read as the same. -/
theorem saturated_eq_iff {number : Int} (lower : minLong < value) (upper : value < maxLong) :
    saturated number = value ↔ number = value := by
  unfold saturated
  unfold minLong at lower ⊢
  unfold maxLong at upper ⊢
  omega

/-- Within a word it makes no difference that numbers outside are read as its ends. -/
theorem leadingLong?_eq_some (lower : minLong < value) (upper : value < maxLong) :
    leadingLong? text = some (value, []) ↔ SpellsInteger text value := by
  rw [leadingLong?, ← leadingInteger?_eq_some, Option.map_eq_some_iff]
  constructor
  · rintro ⟨⟨number, rest⟩, read, same⟩
    obtain ⟨kept, rfl⟩ := Prod.mk.inj same
    rw [read, (saturated_eq_iff lower upper).mp kept]
  · intro read
    have kept : saturated value = value := (saturated_eq_iff lower upper).mpr rfl
    exact ⟨(value, []), read, congrArg (·, []) kept⟩

end Text

namespace Settings

variable {text : Text} {strength : Int}

/-- A strength in dBm that telegrams can be given, and how it is written. -/
def SpellsSignal (text : Text) (strength : Int) : Prop :=
  Text.SpellsInteger text strength ∧ -200 ≤ strength ∧ strength ≤ 100

/-- The range of strengths lies within a word, so a number that is read as one of them is it. -/
theorem spellsSignal_iff : SpellsSignal text strength ↔
    Text.leadingLong? text = some (strength, []) ∧ -200 ≤ strength ∧ strength ≤ 100 := by
  refine and_congr_left fun bounds => (Text.leadingLong?_eq_some ?_ ?_).symm
  · exact Int.lt_of_lt_of_le (by decide) bounds.1
  · exact Int.lt_of_le_of_lt bounds.2 (by decide)

theorem not_spellsSignal_nil : ¬ SpellsSignal [] strength := by
  rintro ⟨⟨spaces, signed, split, -, spelled⟩, -⟩
  obtain ⟨first, rest, rfl, -⟩ := spelled.visible
  exact List.append_ne_nil_of_right_ne_nil spaces (List.cons_ne_nil first rest) split.symm

/-- What follows a NUL byte is not looked at, and with nothing in front of it the strength is
zero. -/
theorem signal?_eq_some : signal? text = some strength ↔
    SpellsSignal text.shown strength ∨ (text.head? = some 0 ∧ strength = 0) := by
  cases text with
  | nil =>
      have unread : signal? [] = none := rfl
      have unspelled : ¬ SpellsSignal (Text.shown []) strength := not_spellsSignal_nil
      simp [unread, unspelled]
  | cons first rest =>
      by_cases ends : first = 0
      · subst ends
        have read : signal? (0 :: rest) = some 0 := rfl
        have unspelled : ¬ SpellsSignal (Text.shown (0 :: rest)) strength := not_spellsSignal_nil
        simp [read, unspelled, eq_comm]
      · have shown : Text.shown (first :: rest) = first :: Text.shown rest := by
          simp [Text.shown, ends]
        have present : (Text.shown (first :: rest)).isEmpty = false := by rw [shown]; rfl
        simp only [signal?, List.isEmpty_cons, Bool.false_eq_true, if_false, present]
        simp only [List.head?_cons, Option.some.injEq, ends, false_and, or_false,
          spellsSignal_iff]
        split
        · rename_i value read
          simp only [read, Option.some.injEq, Prod.mk.injEq, and_true]
          constructor
          · intro kept
            split at kept
            · rename_i bounds
              obtain rfl := Option.some.inj kept
              exact ⟨rfl, bounds⟩
            · contradiction
          · rintro ⟨rfl, bounds⟩
            exact if_pos bounds
        · rename_i other
          constructor
          · intro kept
            contradiction
          · rintro ⟨read, -⟩
            exact absurd read (other strength)

/-- A text without NUL bytes is read as the strength that it spells. -/
theorem signal?_of_whole (whole : 0 ∉ text) :
    signal? text = some strength ↔ SpellsSignal text strength := by
  have begins : text.head? ≠ some 0 := fun first => whole (List.mem_of_head? first)
  rw [signal?_eq_some, Hex.shown_of_whole whole]
  simp [begins]

theorem signal?_eq_none (whole : 0 ∉ text) :
    signal? text = none ↔ ∀ strength, ¬ SpellsSignal text strength := by
  rw [Option.eq_none_iff_forall_ne_some]
  exact forall_congr' fun strength => not_congr (signal?_of_whole whole)

end Settings

end MeterTelegram
