import Mathlib.Algebra.Group.Nat.Defs
import MeterTelegram.Binary64

namespace MeterTelegram.Binary64

/-! Numbers that are finite: all below the infinities, so the quotient of a count that is not
too great and a divisor that is not too small. -/

variable {number divisor : Binary64} {negative : Bool} {numerator denominator count : Nat}

theorem le_roundHalfEven (numerator denominator : Nat) :
    numerator / denominator ≤ roundHalfEven numerator denominator := by
  simp only [roundHalfEven]
  split
  · exact Nat.le_refl _
  · split <;> omega

theorem roundHalfEven_le (numerator denominator : Nat) :
    roundHalfEven numerator denominator ≤ numerator / denominator + 1 := by
  simp only [roundHalfEven]
  split
  · omega
  · split <;> omega

def IsFinite (number : Binary64) : Prop :=
  ∃ negative significand scale, number.view = .finite negative significand scale

theorem isFinite_of_magnitude (small : number.magnitude < infinity) : number.IsFinite := by
  have ordered : ¬ infinity < number.magnitude := Nat.not_lt_of_lt small
  have bounded : number.magnitude ≠ infinity := Nat.ne_of_lt small
  unfold IsFinite view
  simp only [ordered, bounded, if_false]
  split
  · exact ⟨_, _, _, rfl⟩
  · exact ⟨_, _, _, rfl⟩

theorem magnitude_ofMagnitude {magnitude : Nat} (small : magnitude < signBit)
    (negative : Bool) : (ofMagnitude negative magnitude).magnitude = magnitude := by
  have bits : signBit = 9223372036854775808 := rfl
  rw [bits] at small
  cases negative <;>
    · simp only [ofMagnitude, Binary64.magnitude, UInt64.toNat_ofNat', bits, Bool.false_eq_true,
        if_false, if_true]
      omega

theorem significand_le (numerator denominator : Nat) :
    roundHalfEven numerator (denominator *
      Nat.pow 2 ((numerator / denominator).log2 - 52)) ≤ 2 * exponentUnit := by
  have rounded := roundHalfEven_le numerator
    (denominator * Nat.pow 2 ((numerator / denominator).log2 - 52))
  have below : numerator / denominator < 2 ^ ((numerator / denominator).log2 + 1) :=
    Nat.lt_log2_self
  have split : 2 ^ ((numerator / denominator).log2 + 1) ≤
      2 * exponentUnit * 2 ^ ((numerator / denominator).log2 - 52) := by
    have unit : 2 * exponentUnit = 2 ^ 53 := rfl
    rw [unit, ← Nat.pow_add]
    exact Nat.pow_le_pow_right (by decide) (by omega)
  have quotient : numerator / (denominator *
      Nat.pow 2 ((numerator / denominator).log2 - 52)) < 2 * exponentUnit := by
    rw [← Nat.div_div_eq_div_mul]
    exact Nat.div_lt_of_lt_mul (by rw [Nat.mul_comm]; exact Nat.lt_of_lt_of_le below split)
  omega

theorem two_pow_pos (exponent : Nat) : 0 < Nat.pow 2 exponent :=
  Nat.two_pow_pos exponent

theorem unitsInOne_pos : 0 < unitsInOne := by
  unfold unitsInOne
  apply two_pow_pos

theorem log2_lt_of_lt_mul {value first second : Nat} (present : value ≠ 0)
    (small : value < 2 ^ first * Nat.pow 2 second) : value.log2 < first + second := by
  rw [Nat.pow_eq, ← Nat.pow_add] at small
  exact (Nat.log2_lt present).mpr small

theorem isFinite_ofUnits (small : numerator / denominator < 2 ^ 32 * unitsInOne) (negative : Bool) :
    (ofUnits negative numerator denominator).IsFinite := by
  have scale : (numerator / denominator).log2 - 52 ≤ 1053 := by
    by_cases zero : numerator / denominator = 0
    · simp [zero]
    · unfold unitsInOne at small
      have bound := log2_lt_of_lt_mul zero small
      omega
  have significand := significand_le numerator denominator
  have scaled := Nat.mul_le_mul_right exponentUnit scale
  have unit : 0 < exponentUnit := by decide
  have top : infinity = 2047 * exponentUnit := rfl
  have bits : signBit = 2048 * exponentUnit := rfl
  refine isFinite_of_magnitude ?_
  unfold ofUnits
  rw [magnitude_ofMagnitude]
  · omega
  · omega

/-- Finite and, but for its sign, one or more. -/
def isOneOrMore (number : Binary64) : Bool :=
  match number.view with
  | .finite _ significand scale => unitsInOne ≤ significand * Nat.pow 2 scale
  | _ => false

theorem view_of_isOneOrMore (large : number.isOneOrMore = true) :
    ∃ negative significand scale, number.view = .finite negative significand scale ∧
      unitsInOne ≤ significand * Nat.pow 2 scale := by
  unfold isOneOrMore at large
  split at large
  · rename_i viewed
    exact ⟨_, _, _, viewed, of_decide_eq_true large⟩
  · contradiction

/-- A count of 32 bits divided by one or more. -/
theorem isFinite_quotient (counted : count < 2 ^ 32) (large : divisor.isOneOrMore = true) :
    (quotient count divisor).IsFinite := by
  obtain ⟨negative, significand, scale, viewed, large⟩ := view_of_isOneOrMore large
  have positive := unitsInOne_pos
  have present : significand ≠ 0 := by
    rintro rfl
    omega
  simp only [quotient, viewed, if_neg present, ofFraction]
  refine isFinite_ofUnits ?_ negative
  have bounded : count * unitsInOne * unitsInOne / (significand * Nat.pow 2 scale) ≤
      count * unitsInOne := by
    refine Nat.div_le_of_le_mul ?_
    rw [Nat.mul_comm (significand * Nat.pow 2 scale)]
    exact Nat.mul_le_mul_left _ large
  exact Nat.lt_of_le_of_lt bounded (Nat.mul_lt_mul_of_pos_right counted positive)

end MeterTelegram.Binary64
