import Mathlib.Order.Bounds.Defs
import MeterTelegram.Proofs.Numeral.Length

namespace MeterTelegram.Binary64

/-! The text of a finite number has the fewest digits that read back. No text of another
precision that reads back is shorter, but where the fewest digits of a whole number do not
reach its point and are written with an exponent. -/

variable {number : Binary64} {negative : Bool}
  {significand scale precision count leading otherLeading whole : Nat}

/-- The number with at most `precision` significant digits. -/
def withDigits (number : Binary64) (precision : Nat) : Text :=
  match number.view with
  | .nan => if number.isNegative then "-nan" else "nan"
  | .infinite negative => infiniteText negative
  | .finite negative significand scale => (numeral negative significand scale precision).text

def ReadsBack (number : Binary64) (text : Text) : Prop :=
  ∃ read, ofText? text = some read ∧ read.sameValue number = true

/-- The precisions whose texts read back. -/
def readingBack (number : Binary64) : Set Nat :=
  {precision | 1 ≤ precision ∧ precision ≤ maxPrecision ∧
    number.ReadsBack (number.withDigits precision)}

/-- The digits of a whole number and its sign. -/
def plainText (negative : Bool) (whole : Nat) : Text :=
  if negative then 45 :: Text.ofNat whole else Text.ofNat whole

theorem measured (some : 0 < significand) (scale : Nat) :
    Numeral.Measured (significand * Nat.pow 2 scale) unitsInOne := by
  refine ⟨unitsInOne_pos, ?_⟩
  obtain ⟨exponent, units⟩ : ∃ exponent, exponent = 1074 := ⟨_, rfl⟩
  generalize same : 400 = places
  have tens : 2 ^ exponent ≤ 10 ^ places :=
    calc 2 ^ exponent ≤ 2 ^ (3 * places) := Nat.pow_le_pow_right (by decide) (by omega)
      _ = 8 ^ places := Nat.pow_mul 2 3 places
      _ ≤ 10 ^ places := Nat.pow_le_pow_left (by decide) places
  rw [unitsInOne_eq units]
  exact Nat.le_trans tens (Nat.le_mul_of_pos_left _ (Nat.mul_pos some (two_pow_pos scale)))

theorem amount_eq (significand scale : Nat) :
    ((significand * Nat.pow 2 scale : Nat) / unitsInOne : ℚ) = amount significand scale := by
  rw [amount, Nat.cast_mul, Nat.pow_eq, Nat.cast_pow, Nat.cast_ofNat]

theorem numeral_of_pos (some : 0 < significand) (negative : Bool) (scale precision : Nat) :
    numeral negative significand scale precision =
      Numeral.ofFraction negative precision (significand * Nat.pow 2 scale) unitsInOne :=
  if_neg (Nat.ne_of_gt some)

theorem fills_numeral (some : 0 < precision) (negative : Bool) (significand scale : Nat) :
    (numeral negative significand scale precision).Fills := by
  rcases Nat.eq_zero_or_pos significand with rfl | present
  · exact ⟨some, Nat.pow_pos (by decide)⟩
  · obtain ⟨leading, count, shows⟩ := Numeral.exists_shows (measured present scale) some negative
    rw [numeral_of_pos present]
    exact shows.fills

theorem negative_numeral (negative : Bool) (significand scale precision : Nat) :
    (numeral negative significand scale precision).negative = negative := by
  unfold numeral
  split
  · rfl
  · rw [Numeral.ofFraction_eq]
    split <;> rfl

theorem precision_numeral (negative : Bool) (significand scale precision : Nat) :
    (numeral negative significand scale precision).precision = precision := by
  unfold numeral
  split
  · rfl
  · exact Numeral.precision_ofFraction _ _ _ _

theorem value_numeral_zero (negative : Bool) (scale precision : Nat) :
    (numeral negative 0 scale precision).value = amount 0 scale := by
  rw [numeral, if_pos rfl, Numeral.value, Nat.cast_zero, zero_mul, amount_zero]

theorem toBinary64_of_value (viewed : number.view = .finite negative significand scale)
    (same : (numeral negative significand scale precision).value = amount significand scale) :
    (numeral negative significand scale precision).toBinary64 = number := by
  rw [Numeral.toBinary64_eq, negative_numeral, same, nearest_amount viewed]

/-- Only a number itself reads back as it, the zeros included. -/
theorem sameValue_numeral (viewed : number.view = .finite negative significand scale)
    (precision : Nat) :
    (numeral negative significand scale precision).toBinary64.sameValue number = true ↔
      (numeral negative significand scale precision).toBinary64 = number := by
  rcases Nat.eq_zero_or_pos significand with rfl | present
  · rw [toBinary64_of_value viewed (value_numeral_zero negative scale precision)]
    exact iff_of_true (sameValue_self viewed) rfl
  · exact sameValue_iff viewed present

theorem readsBack_iff (viewed : number.view = .finite negative significand scale)
    (some : 0 < precision) :
    number.ReadsBack (number.withDigits precision) ↔
      (numeral negative significand scale precision).toBinary64 = number := by
  rw [← sameValue_numeral viewed, ReadsBack, withDigits, viewed]
  dsimp only
  rw [ofText?_numeral (fills_numeral some negative significand scale)]
  simp

/-- Seventeen digits read back. -/
theorem toBinary64_of_maxPrecision (viewed : number.view = .finite negative significand scale) :
    (numeral negative significand scale maxPrecision).toBinary64 = number := by
  rcases Nat.eq_zero_or_pos significand with rfl | present
  · exact toBinary64_of_value viewed (value_numeral_zero negative scale maxPrecision)
  · obtain ⟨fits, same⟩ := fits_of_view viewed
    have near := Numeral.value_ofFraction_near (measured present scale) negative
    rw [amount_eq] at near
    rw [Numeral.toBinary64_eq, negative_numeral, numeral_of_pos present, same]
    exact nearest_of_relative fits near negative

theorem firstReadingBack_least {candidate : Nat → Numeral} {more : Nat}
    (last : (candidate (precision + more)).toBinary64.sameValue number = true) :
    ∃ chosen, precision ≤ chosen ∧ chosen ≤ precision + more ∧
      (candidate chosen).toBinary64.sameValue number = true ∧
      (∀ tried, precision ≤ tried → (candidate tried).toBinary64.sameValue number = true →
        chosen ≤ tried) ∧
      firstReadingBack number candidate more precision = candidate chosen := by
  induction more generalizing precision with
  | zero => exact ⟨precision, Nat.le_refl _, Nat.le_refl _, last, fun _ tried _ => tried, rfl⟩
  | succ more ih =>
      unfold firstReadingBack
      by_cases first : (candidate precision).toBinary64.sameValue number = true
      · rw [if_pos first]
        exact ⟨precision, Nat.le_refl _, Nat.le_add_right _ _, first, fun _ tried _ => tried, rfl⟩
      · rw [if_neg first]
        rw [← Nat.add_assoc, Nat.add_right_comm] at last
        obtain ⟨chosen, lower, upper, reads, least, found⟩ := ih last
        refine ⟨chosen, Nat.le_of_succ_le lower, by omega, reads, fun tried begun readsTried => ?_,
          found⟩
        refine least tried (Nat.lt_of_le_of_ne begun ?_) readsTried
        rintro rfl
        exact first readsTried

theorem exists_least (viewed : number.view = .finite negative significand scale) :
    ∃ chosen, IsLeast number.readingBack chosen ∧ number.text = number.withDigits chosen := by
  have last := (sameValue_numeral viewed maxPrecision).mpr (toBinary64_of_maxPrecision viewed)
  obtain ⟨chosen, lower, upper, reads, least, found⟩ :=
    @firstReadingBack_least number 1 (numeral negative significand scale) (maxPrecision - 1) last
  refine ⟨chosen, ⟨⟨lower, upper, ?_⟩, ?_⟩, ?_⟩
  · exact (readsBack_iff viewed lower).mpr ((sameValue_numeral viewed chosen).mp reads)
  · rintro tried ⟨begun, -, readsTried⟩
    exact least tried begun ((sameValue_numeral viewed tried).mpr
      ((readsBack_iff viewed begun).mp readsTried))
  · simp only [text, withDigits, viewed, found]

theorem ofText?_text (viewed : number.view = .finite negative significand scale) :
    ofText? number.text = some number := by
  obtain ⟨chosen, ⟨⟨lower, -, reads⟩, -⟩, same⟩ := exists_least viewed
  rw [same, withDigits, viewed]
  dsimp only
  rw [ofText?_numeral (fills_numeral lower negative significand scale),
    (readsBack_iff viewed lower).mp reads]

/-- The digits of a text that reads back are the digits of the text of their own precision,
which reads back too. -/
theorem shows_of_readingBack (viewed : number.view = .finite negative significand scale)
    (some : 0 < significand) (listed : precision ∈ number.readingBack) :
    ∃ leading count, (numeral negative significand scale precision).Shows leading count ∧
      (numeral negative significand scale count).Shows leading count ∧
      (numeral negative significand scale count).exponent =
        (numeral negative significand scale precision).exponent ∧
      count ≤ precision ∧ count ∈ number.readingBack := by
  obtain ⟨lower, upper, reads⟩ := listed
  have reads := (readsBack_iff viewed lower).mp reads
  obtain ⟨leading, count, shows⟩ := Numeral.exists_shows (measured some scale) lower negative
  have same := Numeral.ofFraction_of_shows unitsInOne_pos shows
  rw [← numeral_of_pos some] at shows same
  rw [← numeral_of_pos some] at same
  have own : (numeral negative significand scale count).Shows leading count := by
    rw [same]
    exact ⟨shows.some, Nat.le_refl _, shows.lower, shows.upper, shows.last, by simp⟩
  have exponents : (numeral negative significand scale count).exponent =
      (numeral negative significand scale precision).exponent := by rw [same]
  have within : count ≤ precision := by
    have within := shows.within
    rwa [precision_numeral] at within
  have readsOwn : (numeral negative significand scale count).toBinary64 = number := by
    rw [← reads, Numeral.toBinary64_eq, Numeral.toBinary64_eq, negative_numeral, negative_numeral,
      Numeral.value_of_shows own, Numeral.value_of_shows shows, exponents]
  exact ⟨leading, count, shows, own, exponents, within, shows.some, Nat.le_trans within upper,
    (readsBack_iff viewed shows.some).mpr readsOwn⟩

theorem shows_of_least (viewed : number.view = .finite negative significand scale)
    (some : 0 < significand) (least : IsLeast number.readingBack precision) :
    ∃ leading, (numeral negative significand scale precision).Shows leading precision := by
  obtain ⟨leading, count, -, own, -, within, listed⟩ :=
    shows_of_readingBack viewed some least.1
  obtain rfl := Nat.le_antisymm within (least.2 listed)
  exact ⟨leading, own⟩

theorem length_withDigits (viewed : number.view = .finite negative significand scale)
    (shows : (numeral negative significand scale precision).Shows leading count) :
    (number.withDigits precision).length = (if negative then 1 else 0) +
      Numeral.shownLength precision count
        (numeral negative significand scale precision).exponent := by
  have length := Numeral.length_unsignedText shows
  have positional : (numeral negative significand scale precision).isPositional = true ↔
      -4 ≤ (numeral negative significand scale precision).exponent ∧
        (numeral negative significand scale precision).exponent < precision := by
    rw [Numeral.isPositional, precision_numeral, Bool.and_eq_true, decide_eq_true_eq,
      decide_eq_true_eq]
  simp only [positional] at length
  rw [withDigits, viewed]
  dsimp only
  rw [Numeral.text, negative_numeral, Numeral.shownLength, ← length]
  split
  · rw [List.length_cons, Nat.add_comm]
  · rw [Nat.zero_add]

/-- A text without a place for every digit before the point spells a whole number. -/
theorem value_of_raised {numeral : Numeral} (shows : numeral.Shows leading count)
    (raised : count ≤ numeral.exponent) :
    numeral.value = (leading * 10 ^ (numeral.exponent.toNat - count + 1) : Nat) := by
  have power : numeral.exponent - (count - 1) =
      ((numeral.exponent.toNat - count + 1 : Nat) : Int) := by omega
  rw [Numeral.value_of_shows shows, power, zpow_natCast]
  push_cast
  rfl

/-- Numbers whose digits end before the point are whole. -/
theorem whole_of_raised (viewed : number.view = .finite negative significand scale)
    (shows : (numeral negative significand scale precision).Shows leading count)
    (raised : count ≤ (numeral negative significand scale precision).exponent)
    (reads : (numeral negative significand scale precision).toBinary64 = number) :
    ∃ whole : Nat, amount significand scale = whole ∧
      (leading * 10 ^ ((numeral negative significand scale precision).exponent.toNat - count + 1) <
        2 ^ 53 →
      whole = leading *
        10 ^ ((numeral negative significand scale precision).exponent.toNat - count + 1)) := by
  rw [Numeral.toBinary64_eq, negative_numeral, value_of_raised shows raised] at reads
  rw [← reads] at viewed
  exact whole_of_nearest viewed

theorem exponent_of_shows (some : 0 < significand)
    (fewer : (numeral negative significand scale precision).Shows leading precision)
    (other : (numeral negative significand scale count).Shows otherLeading count)
    (ordered : precision ≤ count) :
    (numeral negative significand scale precision).exponent =
        (numeral negative significand scale count).exponent ∨
      precision = 1 ∧ 2 ≤ count ∧
        (numeral negative significand scale precision).exponent =
          (numeral negative significand scale count).exponent + 1 := by
  rw [numeral_of_pos some] at fewer other
  rw [numeral_of_pos some, numeral_of_pos some]
  exact Numeral.exponent_of_shows fewer other ordered

theorem exponent_numeral (some : 0 < significand) (negative : Bool) (scale precision : Nat) :
    Numeral.leadingExponent (significand * Nat.pow 2 scale) unitsInOne ≤
        (numeral negative significand scale precision).exponent ∧
      (numeral negative significand scale precision).exponent ≤
        Numeral.leadingExponent (significand * Nat.pow 2 scale) unitsInOne + 1 := by
  rw [numeral_of_pos some]
  rcases Numeral.exponent_ofFraction negative precision (significand * Nat.pow 2 scale)
    unitsInOne with same | ⟨above, -⟩
  · omega
  · omega

theorem amount_lt (some : 0 < significand) (negative : Bool) (scale precision : Nat) :
    amount significand scale <
      10 ^ ((numeral negative significand scale precision).exponent + 1) := by
  have upper := (Numeral.leadingExponent_spec (measured some scale)).2
  have least := (exponent_numeral some negative scale precision).1
  rw [amount_eq] at upper
  exact lt_of_lt_of_le upper (zpow_le_zpow_right₀ (by norm_num) (by omega))

theorem length_plainText (negative : Bool) (whole : Nat) :
    (plainText negative whole).length =
      (if negative then 1 else 0) + (Text.ofNat whole).length := by
  unfold plainText
  split
  · rw [List.length_cons, Nat.add_comm]
  · rw [Nat.zero_add]

/-- No text that reads back is shorter, unless the digits of a whole number are not longer
than it. -/
theorem length_text_le (viewed : number.view = .finite negative significand scale)
    (some : 0 < significand) (listed : precision ∈ number.readingBack) :
    number.text.length ≤ (number.withDigits precision).length ∨
      ∃ whole : Nat, whole < 10 ^ maxPrecision ∧ amount significand scale = whole ∧
        (plainText negative whole).length ≤ (number.withDigits precision).length := by
  obtain ⟨chosen, least, same⟩ := exists_least viewed
  obtain ⟨fewest, shows⟩ := shows_of_least viewed some least
  obtain ⟨leading, count, finer, own, exponents, within, listedOwn⟩ :=
    shows_of_readingBack viewed some listed
  have ordered : chosen ≤ count := least.2 listedOwn
  have related := exponent_of_shows some shows own ordered
  rw [exponents] at related
  rw [same, length_withDigits viewed shows, length_withDigits viewed finer]
  rcases Numeral.shownLength_le shows.some ordered within related with
    shorter | ⟨raised, nonnegative, below, wide⟩
  · exact .inl (Nat.add_le_add_left shorter _)
  · refine .inr ?_
    obtain ⟨whole, exact, -⟩ := whole_of_raised viewed shows raised
      ((readsBack_iff viewed least.1.1).mp least.1.2.2)
    have small := amount_lt some negative scale precision
    generalize (numeral negative significand scale precision).exponent = exponent at *
    obtain ⟨places, rfl⟩ := Int.eq_ofNat_of_zero_le nonnegative
    have short : whole < 10 ^ (places + 1) := by
      rw [exact] at small
      exact_mod_cast small
    have length := (Text.length_ofNat_le_iff (Nat.succ_pos places)).mpr short
    have top : 10 ^ (places + 1) ≤ 10 ^ maxPrecision :=
      Nat.pow_le_pow_right (by decide) (Nat.le_trans (by omega) listed.2.1)
    refine ⟨whole, Nat.lt_of_lt_of_le short top, exact, ?_⟩
    rw [length_plainText]
    omega

theorem withDigits_of_zero (viewed : number.view = .finite negative 0 scale)
    (some : 0 < precision) : number.withDigits precision = plainText negative 0 := by
  obtain ⟨zeros, rfl⟩ := Nat.exists_eq_add_one.mpr some
  have digits : (numeral negative 0 scale (zeros + 1)).digits =
      48 :: List.replicate zeros 48 := by
    have replicated : (Text.ofNat 0).leftpad (zeros + 1) 48 = List.replicate (zeros + 1) 48 :=
      List.replicate_succ'.symm
    rw [numeral, if_pos rfl, Numeral.digits, replicated, List.replicate_succ]
  have unsigned : (numeral negative 0 scale (zeros + 1)).unsignedText = Text.ofNat 0 := by
    rw [Numeral.unsignedText_of_nonnegative (by simp [numeral]) (by simp [numeral]), digits]
    exact Numeral.pointed_of_zeros [48] zeros
  rw [withDigits, viewed]
  dsimp only
  rw [Numeral.text, negative_numeral, unsigned, plainText]

/-- At the count of its digits a whole number is spelled by its digits. -/
theorem numeral_of_whole (some : 0 < significand) (exact : amount significand scale = whole)
    (negative : Bool) :
    ∃ length, 10 ^ length ≤ whole ∧ whole < 10 ^ (length + 1) ∧
      Numeral.leadingExponent (significand * Nat.pow 2 scale) unitsInOne = (length : Nat) ∧
      numeral negative significand scale (length + 1) = ⟨negative, length + 1, whole, length⟩ := by
  have same := amount_eq significand scale
  rw [exact] at same
  obtain ⟨length, exponent, lower, upper⟩ :=
    Numeral.leadingExponent_of_whole (measured some scale) same
  refine ⟨length, lower, upper, exponent, ?_⟩
  rw [numeral_of_pos some, ← exponent]
  refine Numeral.ofFraction_of_exact unitsInOne_pos ?_ upper negative
  rw [same, exponent]
  simp

theorem text_of_whole {length : Nat} (lower : 10 ^ length ≤ whole)
    (upper : whole < 10 ^ (length + 1)) :
    (Numeral.mk negative (length + 1) whole length).text = plainText negative whole := by
  have filled : (Text.ofNat whole).length = length + 1 :=
    Text.length_ofNat_of_bounds (Nat.succ_pos length) lower upper
  have digits : (Text.ofNat whole).leftpad (length + 1) 48 = Text.ofNat whole := by
    rw [List.leftpad, filled, Nat.sub_self]
    rfl
  have unsigned : (Numeral.mk negative (length + 1) whole length).unsignedText =
      Text.ofNat whole := by
    rw [Numeral.unsignedText_of_nonnegative (Int.natCast_nonneg length) (by simp)]
    dsimp only [Numeral.digits]
    rw [digits, Int.toNat_natCast, ← filled, List.take_length, List.drop_length]
    exact Numeral.pointed_of_zeros (Text.ofNat whole) 0
  rw [Numeral.text, unsigned, plainText]

theorem zero_of_amount (exact : amount 0 scale = whole) : whole = 0 := by
  rw [amount_zero] at exact
  exact_mod_cast exact.symm

/-- The digits of a whole number read back, as many as there are. -/
theorem readingBack_of_whole (viewed : number.view = .finite negative significand scale)
    (some : 0 < significand) (exact : amount significand scale = whole)
    (small : whole < 10 ^ maxPrecision) :
    ∃ length, Numeral.leadingExponent (significand * Nat.pow 2 scale) unitsInOne = (length : Nat) ∧
      length + 1 ∈ number.readingBack ∧
      number.withDigits (length + 1) = plainText negative whole := by
  obtain ⟨length, lower, upper, exponent, spelled⟩ := numeral_of_whole some exact negative
  have within : length < maxPrecision :=
    (Nat.pow_lt_pow_iff_right (by decide)).mp (Nat.lt_of_le_of_lt lower small)
  have reads := @toBinary64_of_value number negative significand scale (length + 1) viewed (by
    rw [spelled, Numeral.value, exact]
    simp)
  refine ⟨length, exponent, ⟨Nat.le_add_left 1 length, within,
    (readsBack_iff viewed (Nat.succ_pos length)).mpr reads⟩, ?_⟩
  rw [withDigits, viewed]
  dsimp only
  rw [spelled, text_of_whole lower upper]

/-- No text of another precision that reads back is shorter. -/
def Shortest (number : Binary64) : Prop :=
  ∀ precision ∈ number.readingBack, number.text.length ≤ (number.withDigits precision).length

/-- A finite number of a whole value. -/
def IsWhole (number : Binary64) (negative : Bool) (whole : Nat) : Prop :=
  ∃ significand scale, number.view = .finite negative significand scale ∧
    amount significand scale = whole

theorem shortest_iff (finite : number.IsFinite) :
    number.Shortest ↔ ∀ negative whole, number.IsWhole negative whole →
      whole < 10 ^ maxPrecision → number.text.length ≤ (plainText negative whole).length := by
  obtain ⟨negative, significand, scale, viewed⟩ := finite
  constructor
  · rintro shortest otherNegative whole ⟨otherSignificand, otherScale, otherViewed, exact⟩ small
    obtain ⟨rfl, rfl, rfl⟩ := View.finite.inj (viewed.symm.trans otherViewed)
    rcases Nat.eq_zero_or_pos significand with rfl | some
    · obtain ⟨chosen, ⟨⟨lower, -, -⟩, -⟩, same⟩ := exists_least viewed
      rw [same, withDigits_of_zero viewed lower, zero_of_amount exact]
    · obtain ⟨length, -, listed, same⟩ := readingBack_of_whole viewed some exact small
      rw [← same]
      exact shortest (length + 1) listed
  · intro plain precision listed
    rcases Nat.eq_zero_or_pos significand with rfl | some
    · obtain ⟨chosen, ⟨⟨lower, -, -⟩, -⟩, same⟩ := exists_least viewed
      rw [same, withDigits_of_zero viewed lower, withDigits_of_zero viewed listed.1]
    · rcases length_text_le viewed some listed with shorter | ⟨whole, small, exact, shorter⟩
      · exact shorter
      · exact Nat.le_trans (plain negative whole ⟨significand, scale, viewed, exact⟩ small) shorter

/-- Fewer digits than a whole number has end in a zero before its point. -/
theorem mod_ten_of_raised (viewed : number.view = .finite negative significand scale)
    (some : 0 < significand) (exact : amount significand scale = whole)
    (small : 100 * whole < 2 ^ 53)
    (shows : (numeral negative significand scale precision).Shows leading precision)
    (raised : precision ≤ Numeral.leadingExponent (significand * Nat.pow 2 scale) unitsInOne)
    (reads : (numeral negative significand scale precision).toBinary64 = number) :
    whole % 10 = 0 := by
  obtain ⟨length, lower, -, exponent, -⟩ := numeral_of_whole some exact negative
  obtain ⟨least, most⟩ := exponent_numeral some negative scale precision
  have high := Int.le_trans raised least
  obtain ⟨other, same, only⟩ := whole_of_raised viewed shows high reads
  obtain rfl : other = whole := by
    rw [same] at exact
    exact_mod_cast exact
  have bound : leading * 10 ^ ((numeral negative significand scale precision).exponent.toNat -
      precision + 1) < 2 ^ 53 := by
    generalize (numeral negative significand scale precision).exponent = exponent at *
    obtain ⟨places, rfl⟩ := Int.eq_ofNat_of_zero_le (Int.le_trans (Int.natCast_nonneg _) high)
    calc leading * 10 ^ ((places : Int).toNat - precision + 1)
      _ < 10 ^ precision * 10 ^ ((places : Int).toNat - precision + 1) :=
        Nat.mul_lt_mul_of_pos_right shows.upper (Nat.pow_pos (by decide))
      _ = 10 ^ (places + 1) := by
        rw [← Nat.pow_add]
        congr 1
        omega
      _ ≤ 10 ^ (length + 2) := Nat.pow_le_pow_right (by decide) (by omega)
      _ = 10 ^ length * 100 := by rw [Nat.pow_add]
      _ ≤ 100 * other := by omega
      _ < 2 ^ 53 := small
  rw [only bound, Nat.pow_succ, ← Nat.mul_assoc, Nat.mul_mod_left]

/-- The zero at the end of a whole number is not needed to read it back. -/
theorem exists_raised (viewed : number.view = .finite negative significand scale)
    (some : 0 < significand) (exact : amount significand scale = whole)
    (small : 100 * whole < 2 ^ 53) (last : whole % 10 = 0) :
    ∃ precision ∈ number.readingBack,
      (precision : Int) ≤ Numeral.leadingExponent (significand * Nat.pow 2 scale) unitsInOne := by
  obtain ⟨length, lower, upper, exponent, -⟩ := numeral_of_whole some exact negative
  obtain ⟨tens, rfl⟩ := Nat.dvd_of_mod_eq_zero last
  have present : 0 < tens := by
    have positive := Nat.pow_pos (n := length) (show 0 < 10 by decide)
    omega
  obtain ⟨before, rfl⟩ : ∃ before, length = before + 1 := by
    refine Nat.exists_eq_add_one.mpr (Nat.pos_of_ne_zero ?_)
    rintro rfl
    omega
  have within : before + 1 < maxPrecision := by
    refine (Nat.pow_lt_pow_iff_right (show 1 < 10 by decide)).mp ?_
    have top : 2 ^ 53 < 10 ^ maxPrecision := by decide
    omega
  have scaled : ((significand * Nat.pow 2 scale : Nat) / unitsInOne : ℚ) *
      10 ^ (((before + 1 : Nat) : Int) - 1 -
        Numeral.leadingExponent (significand * Nat.pow 2 scale) unitsInOne) = tens := by
    rw [amount_eq, exact, exponent, sub_sub_cancel_left, zpow_neg_one]
    push_cast
    ring
  have spelled := Numeral.ofFraction_of_exact unitsInOne_pos scaled
    (by rw [Nat.pow_succ] at upper; omega) negative
  rw [← numeral_of_pos some, exponent] at spelled
  have reads := @toBinary64_of_value number negative significand scale (before + 1) viewed (by
    rw [spelled, Numeral.value, exact, sub_sub_cancel, zpow_one]
    push_cast
    ring)
  exact ⟨before + 1, ⟨Nat.le_add_left 1 before, Nat.le_of_lt within,
    (readsBack_iff viewed (Nat.succ_pos before)).mpr reads⟩, Int.le_of_eq exponent.symm⟩

theorem mark_mem_text {numeral : Numeral} (raised : numeral.precision ≤ numeral.exponent) :
    101 ∈ numeral.text := by
  have unsigned : 101 ∈ numeral.unsignedText := by
    rw [Numeral.unsignedText_of_raised raised]
    exact List.mem_append_right _ List.mem_cons_self
  unfold Numeral.text
  split
  · exact List.mem_cons_of_mem _ unsigned
  · exact unsigned

theorem mark_not_mem_plainText (negative : Bool) (whole : Nat) :
    101 ∉ plainText negative whole := by
  have digits : 101 ∉ Text.ofNat whole := fun listed =>
    absurd (Text.isDecimal_ofNat whole 101 listed).2 (by decide)
  unfold plainText
  split
  · exact List.not_mem_cons_of_ne_of_not_mem (by decide) digits
  · exact digits

/-- A whole number that is not too great is written by its digits unless the last one is zero. -/
theorem text_eq_plainText_iff (viewed : number.view = .finite negative significand scale)
    (exact : amount significand scale = whole) (small : 100 * whole < 2 ^ 53) :
    number.text = plainText negative whole ↔ whole = 0 ∨ whole % 10 ≠ 0 := by
  obtain ⟨chosen, least, same⟩ := exists_least viewed
  rcases Nat.eq_zero_or_pos significand with rfl | some
  · obtain rfl := zero_of_amount exact
    rw [same, withDigits_of_zero viewed least.1.1]
    exact iff_of_true rfl (.inl rfl)
  · have reads := (readsBack_iff viewed least.1.1).mp least.1.2.2
    constructor
    · intro plain
      refine .inr fun last => ?_
      obtain ⟨precision, listed, raised⟩ := exists_raised viewed some exact small last
      have fewer : (chosen : Int) ≤ precision := by exact_mod_cast least.2 listed
      have high := (exponent_numeral some negative scale chosen).1
      have marked : 101 ∈ number.text := by
        rw [same, withDigits, viewed]
        refine mark_mem_text ?_
        rw [precision_numeral]
        omega
      rw [plain] at marked
      exact mark_not_mem_plainText negative whole marked
    · rintro (rfl | last)
      · have positive := amount_pos some scale
        rw [exact, Nat.cast_zero] at positive
        exact absurd positive (lt_irrefl 0)
      · have top : 2 ^ 53 < 10 ^ maxPrecision := by decide
        obtain ⟨length, exponent, listed, plain⟩ :=
          readingBack_of_whole viewed some exact (by omega)
        obtain ⟨leading, shows⟩ := shows_of_least viewed some least
        have all : length < chosen := by
          refine Nat.lt_of_not_le fun fewer => last ?_
          exact mod_ten_of_raised viewed some exact small shows (by omega) reads
        rw [same, ← plain, Nat.le_antisymm (least.2 listed) all]

theorem quotient_one (count : Nat) : quotient count (ofNat 1) = nearest false count := by
  obtain ⟨significand, scale, viewed, exact⟩ :=
    @view_nearest_whole 1 (Nat.one_lt_two_pow (by decide)) false
  rw [nearest_natCast] at viewed
  rw [amount_eq_iff, Nat.one_mul] at exact
  have some : significand ≠ 0 := by
    rintro rfl
    have positive := unitsInOne_pos
    omega
  rw [nearest_natCast, quotient, ofNat, viewed]
  dsimp only
  rw [if_neg some, Nat.pow_eq, exact]
  exact ofUnits_congr unitsInOne_pos Nat.one_pos (by rw [Nat.mul_one]) false

/-- A finite number is written with the fewest digits that read back, and is read back from
them. The text is the shortest that reads back, but for whole numbers whose digits are shorter;
so counts are written by their digits unless the last one is zero. -/
theorem text_exact (finite : number.IsFinite) (counted : count < 2 ^ 32) :
    ofText? number.text = some number ∧
      (∃ precision, IsLeast number.readingBack precision ∧
        number.text = number.withDigits precision) ∧
      (number.Shortest ↔ ∀ negative whole, number.IsWhole negative whole →
        whole < 10 ^ maxPrecision → number.text.length ≤ (plainText negative whole).length) ∧
      ((quotient count (ofNat 1)).text = Text.ofNat count ↔ count = 0 ∨ count % 10 ≠ 0) := by
  obtain ⟨negative, significand, scale, viewed⟩ := finite
  have exactly : count < 2 ^ 53 := Nat.lt_trans counted (by decide)
  obtain ⟨countSignificand, countScale, countViewed, exact⟩ := view_nearest_whole exactly false
  rw [← quotient_one] at countViewed
  exact ⟨ofText?_text viewed, exists_least viewed, shortest_iff ⟨_, _, _, viewed⟩,
    text_eq_plainText_iff countViewed exact (by omega)⟩

theorem text_exact_counted :
    (quotient 435 (ofNat 10)).IsFinite ∧ 131 < 2 ^ 32 ∧
      ofText? (quotient 435 (ofNat 10)).text = some (quotient 435 (ofNat 10)) ∧
      (quotient 435 (ofNat 10)).text = "43.5" ∧ (quotient 131 (ofNat 1)).text = "131" := by
  have finite : (quotient 435 (ofNat 10)).IsFinite :=
    isFinite_quotient (by decide) (by decide +kernel)
  have counted : 131 < 2 ^ 32 := by decide
  obtain ⟨read, -, -, digits⟩ := text_exact finite counted
  exact ⟨finite, counted, read, by decide +kernel, digits.mpr (.inr (by decide))⟩

/-- Ten is written with one digit and an exponent, though its two digits read back. -/
theorem ten_not_shortest :
    (ofNat 10).text = "1e+01" ∧ (ofNat 10).withDigits 2 = "10" ∧ ¬ (ofNat 10).Shortest ∧
      (quotient 10 (ofNat 1)).text ≠ Text.ofNat 10 := by
  have spelled : (ofNat 10).text = "1e+01" := by decide +kernel
  have plain : (ofNat 10).withDigits 2 = "10" := by decide +kernel
  have read : ofText? "10" = some (ofNat 10) := by decide +kernel
  refine ⟨spelled, plain, fun shortest => ?_, by decide +kernel⟩
  have longer := shortest 2 ⟨by decide, by decide, ofNat 10, by rw [plain, read], by decide +kernel⟩
  rw [spelled, plain] at longer
  exact absurd longer (by decide)

end MeterTelegram.Binary64
