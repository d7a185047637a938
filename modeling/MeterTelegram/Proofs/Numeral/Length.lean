import MeterTelegram.Proofs.Numeral.Reading

namespace MeterTelegram.Numeral

/-! Lengths of numerals: zeros behind the digits are not written, so the length depends on the
count of the digits before them, on the exponent and on the notation alone. -/

variable {numeral : Numeral} {whole fraction front : Text} {leading count : Nat} {exponent : Int}

theorem withoutTrailingZeros_append_replicate (front : Text) (zeros : Nat) :
    withoutTrailingZeros (front ++ List.replicate zeros 48) = withoutTrailingZeros front := by
  unfold withoutTrailingZeros
  rw [List.reverse_append, List.reverse_replicate, List.dropWhile_append_of_pos]
  intro byte listed
  rw [List.eq_of_mem_replicate listed]
  rfl

theorem withoutTrailingZeros_of_getLast? (last : front.getLast? ≠ some 48) :
    withoutTrailingZeros front = front := by
  unfold withoutTrailingZeros
  rw [← List.head?_reverse] at last
  cases turned : front.reverse with
  | nil => exact (List.reverse_eq_nil_iff.mp turned).symm
  | cons byte rest =>
      rw [turned, List.head?_cons] at last
      have other : ¬ (byte == 48) = true := fun same => last (by rw [eq_of_beq same])
      rw [List.dropWhile_cons_of_neg (p := (· == (48 : UInt8))) other, ← turned,
        List.reverse_reverse]

theorem length_kept (last : front.getLast? ≠ some 48) (zeros before : Nat) :
    (withoutTrailingZeros ((front ++ List.replicate zeros 48).drop before)).length =
      front.length - before := by
  rw [List.drop_append, List.drop_replicate, withoutTrailingZeros_append_replicate]
  by_cases inside : before < front.length
  · rw [withoutTrailingZeros_of_getLast?, List.length_drop]
    rw [List.getLast?_drop, if_neg (Nat.not_le_of_lt inside)]
    exact last
  · rw [List.drop_eq_nil_of_le (Nat.le_of_not_lt inside)]
    simp [withoutTrailingZeros]
    omega

theorem length_pointed (whole fraction : Text) :
    (pointed whole fraction).length = whole.length +
      if (withoutTrailingZeros fraction).length = 0 then 0
      else (withoutTrailingZeros fraction).length + 1 := by
  unfold pointed
  cases withoutTrailingZeros fraction with
  | nil => rfl
  | cons digit rest => simp

theorem pointed_of_zeros (whole : Text) (zeros : Nat) :
    pointed whole (List.replicate zeros 48) = whole := by
  have kept := withoutTrailingZeros_append_replicate [] zeros
  rw [List.nil_append] at kept
  rw [pointed, kept]
  rfl

theorem unsignedText_of_nonnegative (nonnegative : 0 ≤ numeral.exponent)
    (below : numeral.exponent < numeral.precision) :
    numeral.unsignedText = pointed (numeral.digits.take (numeral.exponent.toNat + 1))
      (numeral.digits.drop (numeral.exponent.toNat + 1)) := by
  have positional : numeral.isPositional = true := by
    simp only [isPositional, Bool.and_eq_true, decide_eq_true_eq]
    omega
  rw [unsignedText, positional, Bool.not_true, if_neg Bool.false_ne_true,
    if_neg (Int.not_lt.mpr nonnegative)]

theorem unsignedText_of_raised (raised : numeral.precision ≤ numeral.exponent) :
    numeral.unsignedText = pointed (numeral.digits.take 1) (numeral.digits.drop 1) ++
      101 :: exponentText numeral.exponent := by
  have scientific : numeral.isPositional = false := by
    simp only [isPositional, Bool.and_eq_false_iff, decide_eq_false_iff_not]
    omega
  rw [unsignedText, scientific, Bool.not_false, if_pos rfl]

theorem Shows.fills (shows : Shows numeral leading count) : numeral.Fills := by
  refine ⟨Nat.lt_of_lt_of_le shows.some shows.within, ?_⟩
  rw [shows.coefficient]
  have split : 10 ^ numeral.precision = 10 ^ count * 10 ^ (numeral.precision - count) := by
    rw [← Nat.pow_add, Nat.add_sub_cancel' shows.within]
  rw [split]
  exact Nat.mul_lt_mul_of_pos_right shows.upper (Nat.pow_pos (by decide))

theorem Shows.digits (shows : Shows numeral leading count) :
    numeral.digits = Text.ofNat leading ++ List.replicate (numeral.precision - count) 48 := by
  have positive : 0 < leading := Nat.lt_of_lt_of_le (Nat.pow_pos (by decide)) shows.lower
  have length := Text.length_ofNat_of_bounds shows.some shows.lower shows.upper
  have filled : numeral.precision - (Text.ofNat leading ++
      List.replicate (numeral.precision - count) 48).length = 0 := by
    rw [List.length_append, length, List.length_replicate]
    omega
  rw [Numeral.digits, shows.coefficient, Text.ofNat_mul_pow positive, List.leftpad, filled]
  rfl

/-- Characters of `count` digits around a point. -/
def positionalLength (count : Nat) (exponent : Int) : Nat :=
  if exponent < 0 then count + (-exponent).toNat + 1
  else if (count : Int) ≤ exponent + 1 then exponent.toNat + 1
  else count + 1

/-- Characters of `count` digits and an exponent. -/
def scientificLength (count : Nat) (exponent : Int) : Nat :=
  count + (if count = 1 then 1 else 2) + (exponentText exponent).length

theorem length_unsignedText (shows : Shows numeral leading count) :
    numeral.unsignedText.length =
      if numeral.isPositional then positionalLength count numeral.exponent
      else scientificLength count numeral.exponent := by
  have last := Text.getLast?_ofNat_ne shows.last
  have length := Text.length_ofNat_of_bounds shows.some shows.lower shows.upper
  have digits := shows.digits
  have filled := length_digits shows.fills
  have kept (before : Nat) : (withoutTrailingZeros (numeral.digits.drop before)).length =
      count - before := by
    rw [digits, length_kept last, length]
  have some := shows.some
  have within := shows.within
  unfold unsignedText
  dsimp only
  by_cases positional : numeral.isPositional = true
  · rw [positional, Bool.not_true, if_neg Bool.false_ne_true, if_pos rfl]
    simp only [isPositional, Bool.and_eq_true, decide_eq_true_eq] at positional
    unfold positionalLength
    split
    · rename_i below
      have behind : (List.replicate ((-numeral.exponent).toNat - 1) 48 ++
          Text.ofNat leading).getLast? ≠ Option.some 48 := by
        rw [List.getLast?_append_of_ne_nil _ (Text.ofNat_ne_nil leading)]
        exact last
      have whole := length_kept behind (numeral.precision - count) 0
      rw [List.drop_zero, List.append_assoc, ← digits, List.length_append, List.length_replicate,
        length] at whole
      rw [length_pointed, whole]
      simp only [List.length_cons, List.length_nil]
      split <;> omega
    · rw [length_pointed, kept, List.length_take, filled]
      split <;> split <;> omega
  · rw [Bool.eq_false_of_not_eq_true positional, Bool.not_false, if_pos rfl,
      if_neg Bool.false_ne_true, List.length_append, length_pointed, kept, List.length_take, filled,
      List.length_cons, scientificLength]
    split <;> split <;> omega

theorem length_exponentText (exponent : Int) :
    (exponentText exponent).length = max 2 (Text.ofNat exponent.natAbs).length + 1 := by
  rw [exponentText, List.length_cons, Text.ofIntPadded_natCast, List.length_leftpad]

theorem length_exponentText_succ (exponent : Int) :
    (exponentText (exponent + 1)).length ≤ (exponentText exponent).length + 1 := by
  have present := List.length_pos_of_ne_nil (Text.ofNat_ne_nil exponent.natAbs)
  have below : exponent.natAbs < 10 ^ (Text.ofNat exponent.natAbs).length :=
    (Text.length_ofNat_le_iff present).mp (Nat.le_refl _)
  have above : (exponent + 1).natAbs < 10 ^ ((Text.ofNat exponent.natAbs).length + 1) := by
    rw [Nat.pow_succ]
    omega
  have longer := (Text.length_ofNat_le_iff (Nat.succ_pos _)).mpr above
  rw [length_exponentText, length_exponentText]
  omega

/-- Characters of `count` digits of a numeral with that many or more. -/
def shownLength (precision count : Nat) (exponent : Int) : Nat :=
  if -4 ≤ exponent ∧ exponent < precision then positionalLength count exponent
  else scientificLength count exponent

/-- Fewer digits are not longer, unless they change the notation of a number that is no less
than its digits count. -/
theorem shownLength_le {fewer more precision : Nat} {other : Int} (some : 0 < fewer)
    (ordered : fewer ≤ more) (within : more ≤ precision)
    (exponents : exponent = other ∨ fewer = 1 ∧ 2 ≤ more ∧ exponent = other + 1) :
    shownLength fewer fewer exponent ≤ shownLength precision more other ∨
      fewer ≤ exponent ∧ 0 ≤ other ∧ other < precision ∧
        other + 1 ≤ shownLength precision more other := by
  have long : 3 ≤ (exponentText other).length := by
    rw [length_exponentText]
    omega
  have longer := length_exponentText_succ other
  unfold shownLength positionalLength scientificLength
  rcases exponents with rfl | ⟨rfl, two, rfl⟩
  · split_ifs <;> omega
  · split_ifs <;> omega

end MeterTelegram.Numeral
