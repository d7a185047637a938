import Mathlib.Data.List.TakeWhile
import MeterTelegram.Proofs.Numeral.Rounding
import MeterTelegram.Text.Integer

namespace MeterTelegram

/-! Reading a decimal numeral: digits around a point and an exponent stand for the number that
is nearest to their value. The text of a numeral is read as the number nearest to the numeral. -/

namespace Text

variable {text front behind : Text} {value : Nat}

theorem all_isDecimalDigit (decimal : IsDecimal text) :
    ∀ byte ∈ text, isDecimalDigit byte = true := by
  intro byte listed
  obtain ⟨lower, upper⟩ := decimal byte listed
  simp only [isDecimalDigit, Bool.and_eq_true, decide_eq_true_eq]
  exact ⟨lower, upper⟩

theorem decimalValue_append (front behind : Text) :
    decimalValue (front ++ behind) =
      decimalValue front * 10 ^ behind.length + decimalValue behind := by
  induction behind using List.reverseRecOn with
  | nil => simp [decimalValue]
  | append_singleton behind digit ih =>
      have last (text : Text) : decimalValue (text ++ [digit]) =
          10 * decimalValue text + (digit.toNat - 48) := by
        simp [decimalValue]
      rw [← List.append_assoc, last, last, ih, List.length_append, List.length_singleton,
        Nat.pow_succ]
      ring

theorem decimalValue_replicate (count : Nat) : decimalValue (List.replicate count 48) = 0 := by
  induction count with
  | zero => rfl
  | succ count ih =>
      rw [List.replicate_succ', decimalValue_append, ih]
      rfl

theorem decimalValue_ofNat (value : Nat) : decimalValue (ofNat value) = value := by
  induction value using Nat.strongRecOn with
  | ind value ih =>
      by_cases small : value < 10
      · rw [ofNat_of_lt small]
        simp only [decimalValue, List.foldl_cons, List.foldl_nil, UInt8.toNat_ofNat']
        omega
      · have low : value % 10 < 10 := Nat.mod_lt value (by decide)
        have length : (ofNat (value % 10)).length = 1 := by
          rw [ofNat_of_lt low]
          rfl
        rw [ofNat_of_le (Nat.le_of_not_lt small), decimalValue_append, ih (value / 10) (by omega),
          ih (value % 10) (by omega), length]
        omega

/-- Decimal digits and nothing else. -/
def natural? (text : Text) : Option Nat :=
  if text.isEmpty || !text.all isDecimalDigit then none else some (decimalValue text)

theorem natural?_of_isDecimal (decimal : IsDecimal text) (present : text ≠ []) :
    natural? text = some (decimalValue text) := by
  have all : text.all isDecimalDigit = true := List.all_eq_true.mpr (all_isDecimalDigit decimal)
  simp [natural?, all, present]

theorem takeWhile_digits (decimal : IsDecimal front)
    (ends : behind.takeWhile isDecimalDigit = []) :
    (front ++ behind).takeWhile isDecimalDigit = front ∧
      (front ++ behind).dropWhile isDecimalDigit = behind := by
  have digits := all_isDecimalDigit decimal
  have taken : (front ++ behind).takeWhile isDecimalDigit = front := by
    rw [List.takeWhile_append_of_pos digits, ends, List.append_nil]
  refine ⟨taken, ?_⟩
  have split := List.takeWhile_append_dropWhile (p := isDecimalDigit) (l := front ++ behind)
  rw [taken] at split
  exact List.append_cancel_left split

end Text

namespace Numeral

variable {numeral : Numeral} {negative : Bool} {whole fraction behind : Text} {exponent : Int}

def power? : Text → Option Int
  | [] => none
  | first :: rest =>
      if first = 45 then (Text.natural? rest).map fun power : Nat => -(power : Int)
      else if first = 43 then (Text.natural? rest).map fun power : Nat => (power : Int)
      else (Text.natural? (first :: rest)).map fun power : Nat => (power : Int)

/-- The exponent behind the digits of a numeral, zero where none stands. -/
def exponent? : Text → Option Int
  | [] => some 0
  | mark :: rest => if mark = 101 then power? rest else none

def ofDigits? (negative : Bool) (whole fraction behind : Text) : Option Numeral :=
  if (whole ++ fraction).isEmpty then none
  else (exponent? behind).map fun exponent =>
    ⟨negative, (whole ++ fraction).length, Text.decimalValue (whole ++ fraction),
      exponent + whole.length - 1⟩

def ofUnsigned? (negative : Bool) (text : Text) : Option Numeral :=
  let whole := text.takeWhile Text.isDecimalDigit
  match text.dropWhile Text.isDecimalDigit with
  | 46 :: behind =>
      ofDigits? negative whole (behind.takeWhile Text.isDecimalDigit)
        (behind.dropWhile Text.isDecimalDigit)
  | behind => ofDigits? negative whole [] behind

/-- The numeral that a text spells, if it spells one from its beginning to its end. -/
def ofText? : Text → Option Numeral
  | 45 :: text => ofUnsigned? true text
  | text => ofUnsigned? false text

theorem exists_zeros (digits : Text) :
    ∃ count, digits = withoutTrailingZeros digits ++ List.replicate count 48 := by
  have split := List.takeWhile_append_dropWhile (p := (· == (48 : UInt8))) (l := digits.reverse)
  have zeros : digits.reverse.takeWhile (· == 48) =
      List.replicate (digits.reverse.takeWhile (· == 48)).length 48 :=
    List.eq_replicate_of_mem fun byte listed =>
      eq_of_beq (List.mem_takeWhile_imp (p := (· == (48 : UInt8))) listed)
  refine ⟨(digits.reverse.takeWhile (· == 48)).length, ?_⟩
  have turned := congrArg List.reverse split
  rw [List.reverse_append, List.reverse_reverse, zeros, List.reverse_replicate] at turned
  exact turned.symm

theorem shape_of_exponent? (scaled : exponent? behind = some exponent) :
    behind = [] ∨ ∃ rest, behind = 101 :: rest := by
  cases behind with
  | nil => exact .inl rfl
  | cons mark rest =>
      by_cases marked : mark = 101
      · exact .inr ⟨rest, by rw [marked]⟩
      · rw [exponent?, if_neg marked] at scaled
        cases scaled

theorem ends_of_exponent? (scaled : exponent? behind = some exponent) :
    behind.takeWhile Text.isDecimalDigit = [] ∧ behind.head? ≠ some 46 := by
  obtain rfl | ⟨rest, rfl⟩ := shape_of_exponent? scaled
  · exact ⟨rfl, by simp⟩
  · exact ⟨rfl, by simp⟩

theorem ofUnsigned?_of_whole (decimal : Text.IsDecimal whole)
    (scaled : exponent? behind = some exponent) (negative : Bool) :
    ofUnsigned? negative (whole ++ behind) = ofDigits? negative whole [] behind := by
  obtain ⟨ends, unpointed⟩ := ends_of_exponent? scaled
  obtain ⟨taken, left⟩ := Text.takeWhile_digits decimal ends
  unfold ofUnsigned?
  dsimp only
  rw [taken, left]
  split
  · simp at unpointed
  · rfl

theorem ofUnsigned?_of_fraction (decimal : Text.IsDecimal whole)
    (places : Text.IsDecimal fraction) (scaled : exponent? behind = some exponent)
    (negative : Bool) :
    ofUnsigned? negative (whole ++ 46 :: (fraction ++ behind)) =
      ofDigits? negative whole fraction behind := by
  obtain ⟨taken, left⟩ := @Text.takeWhile_digits whole (46 :: (fraction ++ behind)) decimal rfl
  obtain ⟨takenPlaces, rest⟩ := Text.takeWhile_digits places (ends_of_exponent? scaled).1
  unfold ofUnsigned?
  dsimp only
  rw [taken, left]
  simp only [takenPlaces, rest]

/-- Zeros behind a fraction do not change the value that is read. -/
theorem value_ofDigits? (present : whole ≠ []) (scaled : exponent? behind = some exponent)
    (negative : Bool) (fraction : Text) (zeros : Nat) :
    ∃ read, ofDigits? negative whole fraction behind = some read ∧ read.negative = negative ∧
      read.value = Text.decimalValue (whole ++ (fraction ++ List.replicate zeros 48)) *
        10 ^ (exponent - (fraction ++ List.replicate zeros 48).length) := by
  have some : ¬ (whole ++ fraction).isEmpty = true := by simp [present]
  unfold ofDigits?
  rw [if_neg some, scaled]
  refine ⟨_, rfl, rfl, ?_⟩
  have places : (zeros : Int) + (exponent - (fraction.length + zeros : Nat)) =
      exponent + whole.length - 1 - ((whole.length + fraction.length : Nat) - 1) := by omega
  rw [← List.append_assoc, Text.decimalValue_append _ (List.replicate zeros 48),
    Text.decimalValue_replicate, Nat.add_zero, List.length_replicate, Nat.cast_mul, Nat.cast_pow,
    Nat.cast_ofNat, ← zpow_natCast, mul_assoc]
  unfold value
  dsimp only
  rw [List.length_append, List.length_append, List.length_replicate, ten_zpow_mul places]

theorem value_of_pointed (decimal : Text.IsDecimal whole) (present : whole ≠ [])
    (places : Text.IsDecimal fraction) (scaled : exponent? behind = some exponent)
    (negative : Bool) :
    ∃ read, ofUnsigned? negative (pointed whole fraction ++ behind) = some read ∧
      read.negative = negative ∧
      read.value = Text.decimalValue (whole ++ fraction) * 10 ^ (exponent - fraction.length) := by
  obtain ⟨zeros, split⟩ := exists_zeros fraction
  have kept := isDecimal_withoutTrailingZeros places
  obtain ⟨read, found, sign, same⟩ :=
    value_ofDigits? present scaled negative (withoutTrailingZeros fraction) zeros
  rw [← split] at same
  refine ⟨read, ?_, sign, same⟩
  rw [← found]
  unfold pointed
  cases digits : withoutTrailingZeros fraction with
  | nil => exact ofUnsigned?_of_whole decimal scaled negative
  | cons digit rest =>
      rw [digits] at kept
      rw [← ofUnsigned?_of_fraction decimal kept scaled, List.append_assoc]
      rfl

theorem exponent?_exponentText (exponent : Int) :
    exponent? (101 :: exponentText exponent) = some exponent := by
  have digits := Text.ofIntPadded_natCast 2 exponent.natAbs
  have decimal := (Text.isDecimal_ofNat exponent.natAbs).leftpad 2
  have present : (Text.ofNat exponent.natAbs).leftpad 2 48 ≠ [] := by
    rw [List.leftpad]
    exact List.append_ne_nil_of_right_ne_nil _ (Text.ofNat_ne_nil _)
  have power : Text.natural? (Text.ofIntPadded 2 exponent.natAbs) = some exponent.natAbs := by
    rw [digits, Text.natural?_of_isDecimal decimal present, List.leftpad, Text.decimalValue_append,
      Text.decimalValue_replicate, Text.decimalValue_ofNat, Nat.zero_mul, Nat.zero_add]
  unfold exponentText
  split
  · rw [exponent?, if_pos rfl, power?, if_pos rfl, power, Option.map_some]
    exact congrArg some (by omega)
  · rw [exponent?, if_pos rfl, power?, if_neg (by decide), if_pos rfl, power, Option.map_some]
    exact congrArg some (by omega)

/-- The coefficient has no more digits than the precision counts. -/
def Fills (numeral : Numeral) : Prop :=
  0 < numeral.precision ∧ numeral.coefficient < 10 ^ numeral.precision

theorem length_digits (fills : numeral.Fills) : numeral.digits.length = numeral.precision := by
  rw [digits, List.length_leftpad,
    Nat.max_eq_left ((Text.length_ofNat_le_iff fills.1).mpr fills.2)]

theorem decimalValue_digits (numeral : Numeral) :
    Text.decimalValue numeral.digits = numeral.coefficient := by
  rw [digits, List.leftpad, Text.decimalValue_append, Text.decimalValue_replicate,
    Text.decimalValue_ofNat, Nat.zero_mul, Nat.zero_add]

/-- The unsigned text of a numeral is read with the value of the numeral. -/
theorem value_of_unsignedText (fills : numeral.Fills) (negative : Bool) :
    ∃ read, ofUnsigned? negative numeral.unsignedText = some read ∧ read.negative = negative ∧
      read.value = numeral.value := by
  have decimal := isDecimal_digits numeral
  have present := digits_ne_nil numeral
  have length := length_digits fills
  have before (count : Nat) : Text.IsDecimal (numeral.digits.take count) :=
    fun byte listed => decimal byte (List.mem_of_mem_take listed)
  have behind (count : Nat) : Text.IsDecimal (numeral.digits.drop count) :=
    fun byte listed => decimal byte (List.mem_of_mem_drop listed)
  have taken (count : Nat) : numeral.digits.take (count + 1) ≠ [] := by
    simp [List.take_eq_nil_iff, present]
  have whole (count : Nat) : Text.decimalValue
      (numeral.digits.take count ++ numeral.digits.drop count) = numeral.coefficient := by
    rw [List.take_append_drop, decimalValue_digits]
  unfold unsignedText
  dsimp only
  split
  · obtain ⟨read, found, sign, same⟩ := value_of_pointed (before 1) (taken 0) (behind 1)
      (exponent?_exponentText numeral.exponent) negative
    refine ⟨read, found, sign, same.trans ?_⟩
    have places : numeral.exponent - ((numeral.precision - 1 : Nat) : Int) =
        numeral.exponent - (numeral.precision - 1) := by
      have some := fills.1
      omega
    rw [whole, value, List.length_drop, length, places]
  · rename_i positional
    have below : numeral.exponent < numeral.precision := by
      simp only [isPositional, Bool.not_eq_true', Bool.not_eq_false, Bool.and_eq_true,
        decide_eq_true_eq] at positional
      exact positional.2
    split
    · have padded := (Text.isDecimal_replicate ((-numeral.exponent).toNat - 1)).append decimal
      obtain ⟨read, found, sign, same⟩ := value_of_pointed (Text.isDecimal_replicate 1)
        (List.cons_ne_nil _ _) padded (rfl : exponent? [] = some 0) negative
      rw [List.append_nil] at found
      refine ⟨read, found, sign, same.trans ?_⟩
      rw [Text.decimalValue_append, Text.decimalValue_append, Text.decimalValue_replicate,
        Text.decimalValue_replicate, decimalValue_digits, Nat.zero_mul, Nat.zero_mul, Nat.zero_add,
        Nat.zero_add, value, List.length_append, List.length_replicate, length]
      have places : (0 : Int) - (((-numeral.exponent).toNat - 1 + numeral.precision : Nat) : Int) =
          numeral.exponent - (numeral.precision - 1) := by omega
      rw [places]
    · obtain ⟨read, found, sign, same⟩ := value_of_pointed (before (numeral.exponent.toNat + 1))
        (taken _) (behind (numeral.exponent.toNat + 1)) (rfl : exponent? [] = some 0) negative
      rw [List.append_nil] at found
      refine ⟨read, found, sign, same.trans ?_⟩
      have places : (0 : Int) - ((numeral.precision - (numeral.exponent.toNat + 1) : Nat) : Int) =
          numeral.exponent - (numeral.precision - 1) := by omega
      rw [whole, value, List.length_drop, length, places]

theorem ofUnsigned?_of_sign (negative : Bool) (text : Text) :
    ofUnsigned? negative (45 :: text) = none :=
  rfl

theorem value_of_text (fills : numeral.Fills) :
    ∃ read, ofText? numeral.text = some read ∧ read.negative = numeral.negative ∧
      read.value = numeral.value := by
  obtain ⟨read, found, sign, same⟩ := value_of_unsignedText fills numeral.negative
  refine ⟨read, ?_, sign, same⟩
  rw [← found]
  unfold text
  by_cases negative : numeral.negative = true
  · rw [if_pos negative, negative]
    rfl
  · rw [if_neg negative, Bool.eq_false_of_not_eq_true negative]
    unfold ofText?
    split
    · rename_i text spelled
      rw [spelled, ofUnsigned?_of_sign] at found
      cases found
    · rfl

end Numeral

namespace Binary64

/-- The number nearest to what a text spells. -/
def ofText? (text : Text) : Option Binary64 :=
  (Numeral.ofText? text).map Numeral.toBinary64

theorem ofText?_numeral {numeral : Numeral} (fills : numeral.Fills) :
    ofText? numeral.text = some numeral.toBinary64 := by
  obtain ⟨read, found, sign, same⟩ := Numeral.value_of_text fills
  rw [ofText?, found, Option.map_some, Numeral.toBinary64_eq, sign, same, ← Numeral.toBinary64_eq]

example : ofText? "-12.50e+1" = some (ofFraction true 125 1) := by decide +kernel

end Binary64

end MeterTelegram
