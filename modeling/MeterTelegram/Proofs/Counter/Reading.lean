import MeterTelegram.Catalogue.Builtin
import MeterTelegram.Proofs.Counter
import MeterTelegram.Proofs.Numeral.FifteenDigits

namespace MeterTelegram.Counter

/-! Readings are written as exact decimals. A count of 32 bits in hundredths has at most ten
digits, so what is read from a counter is written as the fraction that was sent, and two counts
are never written alike. -/

open Binary64 Numeral

variable {buffer : List UInt8} {offset count other scale : Nat} {width : Int}

theorem read_lt (readOk : read buffer offset width = .ok count) : count < 2 ^ 32 := by
  obtain ⟨⟨lower, upper⟩, -, rfl⟩ := read_ok readOk
  have four : maxWidth = 4 := rfl
  refine Nat.lt_of_lt_of_le (value_lt _) ?_
  calc 256 ^ (Buffer.excerpt buffer offset width.toNat).length
    _ ≤ 256 ^ 4 := Nat.pow_le_pow_right (by decide) (by
      rw [Buffer.excerpt, List.length_take]
      omega)
    _ = 2 ^ 32 := by decide

/-- A scale that moves the point by a count of places. -/
theorem denotes_count {places : Nat} (few : places ≤ 5) (counted : count < 2 ^ 32) :
    Denotes (quotient count (ofNat (10 ^ places))).text (count / (10 ^ places : Nat)) := by
  have positive : 0 < 10 ^ places := Nat.pow_pos (by decide)
  have bound : 10 ^ places ≤ 10 ^ 5 := Nat.pow_le_pow_right (by decide) few
  rw [quotient_ofNat positive (Nat.lt_of_le_of_lt bound (by decide))]
  rcases Nat.eq_zero_or_pos count with rfl | some
  · obtain ⟨significand, scale, viewed, exact⟩ :=
      @view_nearest_whole 0 (Nat.two_pow_pos 53) false
    rw [Nat.cast_zero] at viewed exact
    obtain rfl : significand = 0 := by
      refine Nat.eq_zero_of_not_pos fun some => ?_
      exact absurd exact (ne_of_gt (amount_pos some scale))
    obtain ⟨chosen, -, denotes⟩ := exists_denoted viewed
    rw [signed, value_numeral_zero, amount_zero, neg_zero, ite_self] at denotes
    rwa [Nat.cast_zero, zero_div]
  · have positive : (0 : ℚ) < (10 ^ places : Nat) := by exact_mod_cast positive
    have bound : ((10 ^ places : Nat) : ℚ) ≤ 10 ^ 5 := by exact_mod_cast bound
    have least : (1 : ℚ) ≤ count := by exact_mod_cast some
    have most : (count : ℚ) < 2 ^ 32 := by exact_mod_cast counted
    have one : (1 : ℚ) ≤ (10 ^ places : Nat) := by exact_mod_cast Nat.one_le_pow _ _ (by decide)
    have lower : (1 : ℚ) / 10 ^ 5 ≤ count / (10 ^ places : Nat) :=
      div_le_div₀ (by linarith) least positive bound
    have upper : (count : ℚ) / (10 ^ places : Nat) ≤ count := div_le_self (by linarith) one
    have spelled : (count : ℚ) / (10 ^ places : Nat) = count * 10 ^ (-places : Int) := by
      rw [zpow_neg, zpow_natCast, Nat.cast_pow, Nat.cast_ofNat, div_eq_mul_inv]
    have small : Normal (count / (10 ^ places : Nat) / 20) :=
      normal_of_bounds (by linarith) (by linarith)
    have large : Normal (20 * (count / (10 ^ places : Nat))) :=
      normal_of_bounds (by linarith) (by linarith)
    exact denotes_nearest small large spelled (by omega) false

/-- The scales of the built-in decoders: heat cost units are counted by themselves, water in
tenths and temperatures in hundredths. -/
def scales : List Nat :=
  [1, 10, 100]

theorem denotes_of_mem (used : scale ∈ scales) (counted : count < 2 ^ 32) :
    Denotes (quotient count (ofNat scale)).text (count / scale) := by
  simp only [scales, List.mem_cons, List.not_mem_nil, or_false] at used
  rcases used with rfl | rfl | rfl
  · exact @denotes_count count 0 (by decide) counted
  · exact @denotes_count count 1 (by decide) counted
  · exact @denotes_count count 2 (by decide) counted

/-- What a built-in decoder reads from a counter is written as the exact fraction, and no other
count is written like it. -/
theorem readings_denote :
    (∀ family ∈ Catalogue.builtin.families, ∃ scale ∈ [1, 10],
      family.layout.divisor = ofNat scale) ∧
    (∀ buffer offset width,
      readTemperature buffer offset width = readScaled buffer offset width (ofNat 100)) ∧
    ∀ scale ∈ scales,
      (∀ buffer offset width count, read buffer offset width = .ok count →
        count < 2 ^ 32 ∧
          readScaled buffer offset width (ofNat scale) = .ok (quotient count (ofNat scale))) ∧
      ∀ count < 2 ^ 32, Denotes (quotient count (ofNat scale)).text (count / scale) ∧
        ∀ other < 2 ^ 32,
          (quotient other (ofNat scale)).text = (quotient count (ofNat scale)).text →
            other = count := by
  refine ⟨by decide +kernel, fun _ _ _ => rfl, fun scale used => ⟨?_, ?_⟩⟩
  · intro buffer offset width count readOk
    refine ⟨read_lt readOk, ?_⟩
    rw [readScaled, readOk]
    rfl
  · intro count counted
    have denotes := denotes_of_mem used counted
    refine ⟨denotes, fun other otherCounted alike => ?_⟩
    have others := denotes_of_mem used otherCounted
    rw [alike] at others
    have same := others.unique denotes
    have some : (scale : ℚ) ≠ 0 := by
      have present : ∀ scale ∈ scales, scale ≠ 0 := by decide
      exact_mod_cast present scale used
    exact_mod_cast (div_left_inj' some).mp same

theorem readings_denote_tenths :
    10 ∈ scales ∧ 435 < 2 ^ 32 ∧ Denotes (quotient 435 (ofNat 10)).text (435 / 10) ∧
      (quotient 435 (ofNat 10)).text = "43.5" ∧
      (quotient 436 (ofNat 10)).text ≠ (quotient 435 (ofNat 10)).text := by
  have used : 10 ∈ scales := by decide
  have counted : 435 < 2 ^ 32 := by decide
  obtain ⟨denotes, distinct⟩ := (readings_denote.2.2 10 used).2 435 counted
  refine ⟨used, counted, by exact_mod_cast denotes, by decide +kernel, fun alike => ?_⟩
  exact absurd (distinct 436 (by decide) alike) (by decide)

end MeterTelegram.Counter
