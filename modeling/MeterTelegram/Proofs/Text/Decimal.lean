import Mathlib.Algebra.Group.Nat.Defs
import MeterTelegram.Text

namespace MeterTelegram.Text

/-! Decimal numerals as they are written: digits only, as many as the number needs, the first
of them no zero unless the number is zero. -/

variable {value width : Nat} {text : Text}

def IsDecimal (text : Text) : Prop :=
  ∀ byte ∈ text, 48 ≤ byte ∧ byte ≤ 57

theorem digitByte_bounds {digit : Char} (isDigit : digit.isDigit = true) :
    48 ≤ UInt8.ofNat digit.toNat ∧ UInt8.ofNat digit.toNat ≤ 57 := by
  simp only [Char.isDigit, Bool.and_eq_true, decide_eq_true_eq, ge_iff_le,
    UInt32.le_iff_toNat_le] at isDigit
  obtain ⟨lower, upper⟩ := isDigit
  have lower : 48 ≤ digit.toNat := lower
  have upper : digit.toNat ≤ 57 := upper
  have same : (UInt8.ofNat digit.toNat).toNat = digit.toNat := by
    rw [UInt8.toNat_ofNat']
    omega
  rw [UInt8.le_iff_toNat_le, UInt8.le_iff_toNat_le, same]
  exact ⟨lower, upper⟩

theorem isDecimal_ofNat (value : Nat) : IsDecimal (ofNat value) := by
  intro byte member
  obtain ⟨digit, listed, rfl⟩ := List.mem_map.mp member
  exact digitByte_bounds (Nat.isDigit_of_mem_toDigits (by decide) (by decide) listed)

theorem IsDecimal.append {other : Text} (front : IsDecimal text) (behind : IsDecimal other) :
    IsDecimal (text ++ other) :=
  List.forall_mem_append.mpr ⟨front, behind⟩

theorem isDecimal_replicate (count : Nat) : IsDecimal (List.replicate count 48) := by
  intro byte member
  obtain rfl := List.eq_of_mem_replicate member
  decide

theorem IsDecimal.leftpad (decimal : IsDecimal text) (width : Nat) :
    IsDecimal (text.leftpad width 48) :=
  (isDecimal_replicate (width - text.length)).append decimal

theorem ofInt_natCast (value : Nat) : ofInt value = ofNat value := by
  rw [ofInt, if_neg (by omega), Int.natAbs_natCast]

theorem ofIntPadded_natCast (width value : Nat) :
    ofIntPadded width value = (ofNat value).leftpad width 48 := by
  rw [ofIntPadded, if_neg (by omega), Int.natAbs_natCast]

theorem ofNat_ne_nil (value : Nat) : ofNat value ≠ [] := by
  simp [ofNat, Nat.toDigits_ne_nil]

theorem length_ofNat_le_iff (positive : 0 < width) :
    (ofNat value).length ≤ width ↔ value < 10 ^ width := by
  rw [ofNat, List.length_map, Nat.length_toDigits_le_iff (by decide) positive]

/-- As many digits as given and nothing else. -/
def HasDigits (width : Nat) (text : Text) : Prop :=
  text.length = width ∧ IsDecimal text

theorem hasDigits_ofNat (positive : 0 < width) (lower : 10 ^ width ≤ value)
    (upper : value < 10 ^ (width + 1)) : HasDigits (width + 1) (ofNat value) := by
  have short : (ofNat value).length ≤ width + 1 :=
    (length_ofNat_le_iff (Nat.succ_pos width)).mpr upper
  have long : ¬ (ofNat value).length ≤ width := by
    rw [length_ofNat_le_iff positive]
    exact Nat.not_lt_of_le lower
  exact ⟨by omega, isDecimal_ofNat value⟩

theorem hasDigits_leftpad (positive : 0 < width) (small : value < 10 ^ width) :
    HasDigits width ((ofNat value).leftpad width 48) := by
  have short : (ofNat value).length ≤ width := (length_ofNat_le_iff positive).mpr small
  exact ⟨by rw [List.length_leftpad, Nat.max_eq_left short], (isDecimal_ofNat value).leftpad width⟩

theorem ofNat_of_lt (small : value < 10) : ofNat value = [UInt8.ofNat (48 + value)] := by
  rw [ofNat, Nat.toDigits_of_lt_base small]
  revert value
  decide

theorem ofNat_of_le (large : 10 ≤ value) :
    ofNat value = ofNat (value / 10) ++ ofNat (value % 10) := by
  have low : value % 10 < 10 := Nat.mod_lt value (by decide)
  rw [ofNat, ofNat, ofNat, Nat.toDigits_of_base_le (by decide) large, List.map_append,
    Nat.toDigits_of_lt_base low]

/-- The numeral of a positive number begins with another digit than zero. -/
theorem ofNat_of_pos (positive : 0 < value) :
    ∃ first rest, ofNat value = first :: rest ∧ 49 ≤ first ∧ first ≤ 57 := by
  induction value using Nat.strongRecOn with
  | ind value ih =>
      by_cases small : value < 10
      · have byte : (UInt8.ofNat (48 + value)).toNat = 48 + value := by
          rw [UInt8.toNat_ofNat']
          omega
        refine ⟨_, [], ofNat_of_lt small, ?_⟩
        rw [UInt8.le_iff_toNat_le, UInt8.le_iff_toNat_le, byte]
        exact ⟨by change 49 ≤ _; omega, by change _ ≤ 57; omega⟩
      · obtain ⟨first, rest, front, bounds⟩ := ih (value / 10) (by omega) (by omega)
        refine ⟨first, rest ++ ofNat (value % 10), ?_, bounds⟩
        rw [ofNat_of_le (by omega), front, List.cons_append]

/-- A power of ten appends zeros. -/
theorem ofNat_mul_pow (positive : 0 < value) (zeros : Nat) :
    ofNat (value * 10 ^ zeros) = ofNat value ++ List.replicate zeros 48 := by
  induction zeros with
  | zero => simp
  | succ zeros ih =>
      have some : 0 < value * 10 ^ zeros := Nat.mul_pos positive (Nat.pow_pos (by decide))
      have split : value * 10 ^ (zeros + 1) = value * 10 ^ zeros * 10 := by
        rw [Nat.pow_succ, Nat.mul_assoc]
      rw [split, ofNat_of_le (by omega), Nat.mul_div_cancel _ (by decide), Nat.mul_mod_left, ih,
        List.append_assoc, List.replicate_succ']
      rfl

theorem getLast?_ofNat (value : Nat) :
    (ofNat value).getLast? = some (UInt8.ofNat (48 + value % 10)) := by
  by_cases small : value < 10
  · rw [ofNat_of_lt small, Nat.mod_eq_of_lt small]
    rfl
  · rw [ofNat_of_le (Nat.le_of_not_lt small), ofNat_of_lt (Nat.mod_lt value (by decide))]
    simp

theorem getLast?_ofNat_ne (last : value % 10 ≠ 0) : (ofNat value).getLast? ≠ some 48 := by
  rw [getLast?_ofNat]
  intro same
  have bytes := congrArg UInt8.toNat (Option.some.inj same)
  rw [UInt8.toNat_ofNat'] at bytes
  change _ = 48 at bytes
  omega

theorem length_ofNat_of_bounds (some : 0 < width) (lower : 10 ^ (width - 1) ≤ value)
    (upper : value < 10 ^ width) : (ofNat value).length = width := by
  obtain ⟨before, rfl⟩ := Nat.exists_eq_add_one.mpr some
  cases before with
  | zero => rw [ofNat_of_lt upper, List.length_singleton]
  | succ before => exact (hasDigits_ofNat (Nat.succ_pos before) lower upper).1

end MeterTelegram.Text
