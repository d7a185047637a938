import Mathlib.Data.List.TakeWhile
import MeterTelegram.Proofs.Hex

namespace MeterTelegram.Hex

/-! The texts that spell bytes are the ones that are read to their end, and what they spell is
written back as the same digits in upper case. Of other texts the bytes in front of the first
place that spells nothing are kept. -/

variable {text front rest : Text} {byte high low : UInt8} {value upper lower : Nat}
  {bytes more target : List UInt8}

/-- No byte is spelled at the front of the text, and no separator stands there: a byte stands
alone, or the first two are not a pair of digits. -/
inductive Stuck : Text → Prop where
  | dangling {byte : UInt8} (other : isSeparator byte = false) : Stuck [byte]
  | unpaired {high low : UInt8} {rest : Text} (other : isSeparator high = false)
      (unread : digitValue? high = none ∨ digitValue? low = none) : Stuck (high :: low :: rest)

theorem unread_of_not_pair (unread : ∀ upper lower,
    digitValue? high = some upper → digitValue? low = some lower → False) :
    digitValue? high = none ∨ digitValue? low = none := by
  cases first : digitValue? high with
  | none => exact .inl rfl
  | some upper =>
      cases second : digitValue? low with
      | none => exact .inr rfl
      | some lower => exact (unread upper lower first second).elim

theorem readPairs_of_stuck (stuck : Stuck text) : readPairs text = ⟨[], false⟩ := by
  cases stuck with
  | dangling other => simp [readPairs, other]
  | @unpaired high low rest other unread =>
      obtain first | second := unread
      · simp [readPairs, other, first]
      · cases first : digitValue? high <;> simp [readPairs, other, first, second]

theorem readPairs_separator (separates : isSeparator byte = true) :
    readPairs (byte :: rest) = readPairs rest := by
  rw [readPairs.eq_def]
  exact if_pos separates

theorem readPairs_append (spells : Spells front bytes) (rest : Text) :
    readPairs (front ++ rest) = ⟨bytes ++ (readPairs rest).bytes, (readPairs rest).complete⟩ := by
  induction spells with
  | done => rfl
  | separator separates _ ih =>
      rw [List.cons_append, readPairs_separator separates, ih]
  | pair first second _ ih =>
      have other := not_separator_of_digit first
      simp only [List.cons_append, readPairs, other, first, second, ih, Bool.false_eq_true,
        if_false]

/-- Every text spells bytes up to its end or up to a place where it is stuck. -/
theorem spells_until_stuck (text : Text) :
    ∃ front rest bytes, text = front ++ rest ∧ Spells front bytes ∧ (rest = [] ∨ Stuck rest) := by
  fun_induction readPairs text with
  | case1 => exact ⟨[], [], [], rfl, .done, .inl rfl⟩
  | case2 byte text separates ih =>
      obtain ⟨front, rest, bytes, rfl, spells, ends⟩ := ih
      exact ⟨byte :: front, rest, bytes, rfl, .separator separates spells, ends⟩
  | case3 byte other =>
      exact ⟨[], [byte], [], rfl, .done, .inr (.dangling (Bool.eq_false_iff.mpr other))⟩
  | case4 high other low text upper lower second first reading ih =>
      obtain ⟨front, rest, bytes, rfl, spells, ends⟩ := ih
      exact ⟨high :: low :: front, rest, _, rfl, .pair first second spells, ends⟩
  | case5 high other low rest unread =>
      have stuck : Stuck (high :: low :: rest) :=
        .unpaired (Bool.eq_false_iff.mpr other) (unread_of_not_pair unread)
      exact ⟨[], high :: low :: rest, [], rfl, .done, .inr stuck⟩

/-- Reading with a buffer to which the bytes are added one by one. -/
def pairsOnto (target : List UInt8) : Text → Reading
  | [] => ⟨target, true⟩
  | high :: rest =>
      if isSeparator high then pairsOnto target rest
      else match rest with
        | [] => ⟨target, false⟩
        | low :: rest =>
            match digitValue? high, digitValue? low with
            | some upper, some lower =>
                pairsOnto (target ++ [UInt8.ofNat (16 * upper + lower)]) rest
            | _, _ => ⟨target, false⟩

def readOnto (target : List UInt8) (text : Text) : Reading :=
  pairsOnto target text.shown

theorem pairsOnto_eq (target : List UInt8) (text : Text) :
    pairsOnto target text = ⟨target ++ (readPairs text).bytes, (readPairs text).complete⟩ := by
  fun_induction pairsOnto target text with
  | case1 target => rw [readPairs, List.append_nil]
  | case2 target high rest separates ih => rw [ih, readPairs_separator separates]
  | case3 target high other =>
      rw [readPairs_of_stuck (.dangling (Bool.eq_false_iff.mpr other)), List.append_nil]
  | case4 target high other low rest upper lower second first ih =>
      rw [ih]
      simp [readPairs, other, first, second]
  | case5 target high other low rest unread =>
      rw [readPairs_of_stuck (.unpaired (Bool.eq_false_iff.mpr other) (unread_of_not_pair unread)),
        List.append_nil]

/-- A buffer is read onto just as bytes are read into an empty one. -/
theorem readOnto_eq (target : List UInt8) (text : Text) :
    readOnto target text = ⟨target ++ (read text).bytes, (read text).complete⟩ :=
  pairsOnto_eq target text.shown

theorem shown_of_whole (whole : 0 ∉ text) : text.shown = text := by
  refine List.takeWhile_eq_self_iff.mpr fun byte listed => ?_
  rw [bne_iff_ne]
  exact ne_of_mem_of_not_mem listed whole

theorem zero_ne_of_digit (digit : digitValue? byte = some value) : 0 ≠ byte := by
  rintro rfl
  have none : digitValue? 0 = none := rfl
  rw [none] at digit
  contradiction

theorem Spells.whole (spells : Spells text bytes) : 0 ∉ text := by
  induction spells with
  | done => exact List.not_mem_nil
  | separator separates _ ih =>
      refine List.not_mem_cons_of_ne_of_not_mem ?_ ih
      rintro rfl
      contradiction
  | pair first second _ ih =>
      exact List.not_mem_cons_of_ne_of_not_mem (zero_ne_of_digit first)
        (List.not_mem_cons_of_ne_of_not_mem (zero_ne_of_digit second) ih)

theorem readOnto_of_spells (target : List UInt8) (spells : Spells text bytes) :
    readOnto target text = ⟨target ++ bytes, true⟩ := by
  rw [readOnto_eq, read, shown_of_whole spells.whole, readPairs_of_spells spells]

theorem readOnto_of_stuck (target : List UInt8) (whole : 0 ∉ front ++ rest)
    (spells : Spells front bytes) (stuck : Stuck rest) :
    readOnto target (front ++ rest) = ⟨target ++ bytes, false⟩ := by
  rw [readOnto_eq, read, shown_of_whole whole, readPairs_append spells, readPairs_of_stuck stuck,
    List.append_nil]

/-- The upper case of a letter. -/
def upperCase (byte : UInt8) : UInt8 :=
  if 97 ≤ byte ∧ byte ≤ 122 then byte - 32 else byte

theorem upperDigit_of_code : ∀ code < 256,
    (digitValue? (UInt8.ofNat code)).all fun value =>
      value < 16 && upperDigit value == upperCase (UInt8.ofNat code) := by
  decide +kernel

/-- A digit is written as it was read, in upper case. -/
theorem upperDigit_of_digit (digit : digitValue? byte = some value) :
    value < 16 ∧ upperDigit value = upperCase byte := by
  have checked := upperDigit_of_code byte.toNat byte.toNat_lt
  rw [UInt8.ofNat_toNat, digit] at checked
  simpa using checked

theorem digitValue?_upperDigit :
    ∀ value < 16, digitValue? (upperDigit value) = some value := by
  decide

theorem upperByte_of_pair (first : digitValue? high = some upper)
    (second : digitValue? low = some lower) :
    upperByte (UInt8.ofNat (16 * upper + lower)) = [upperCase high, upperCase low] := by
  obtain ⟨upperBound, highDigit⟩ := upperDigit_of_digit first
  obtain ⟨lowerBound, lowDigit⟩ := upperDigit_of_digit second
  have whole : (UInt8.ofNat (16 * upper + lower)).toNat = 16 * upper + lower :=
    Nat.mod_eq_of_lt (by omega)
  have head : (16 * upper + lower) / 16 = upper := by omega
  have tail : (16 * upper + lower) % 16 = lower := by omega
  rw [upperByte, whole, head, tail, highDigit, lowDigit]

/-- What a text spells is written as its digits in upper case. -/
theorem Spells.encode (spells : Spells text bytes) :
    Hex.encode bytes = (text.filter fun byte => !isSeparator byte).map upperCase := by
  induction spells with
  | done => rfl
  | separator separates _ ih => rw [ih, List.filter_cons_of_neg (by simp [separates])]
  | pair first second _ ih =>
      have highKept := not_separator_of_digit first
      have lowKept := not_separator_of_digit second
      rw [List.filter_cons_of_pos (by simp [highKept]), List.filter_cons_of_pos (by simp [lowKept]),
        List.map_cons, List.map_cons, ← ih, Hex.encode, List.flatMap_cons,
        upperByte_of_pair first second]
      rfl

theorem Spells.append (first : Spells front bytes) (second : Spells rest more) :
    Spells (front ++ rest) (bytes ++ more) := by
  induction first with
  | done => exact second
  | separator separates _ ih => exact .separator separates ih
  | pair high low _ ih => exact .pair high low ih

theorem spells_upperByte (byte : UInt8) : Spells (upperByte byte) [byte] := by
  have bound := byte.toNat_lt
  have spells := Spells.pair (digitValue?_upperDigit (byte.toNat / 16) (by omega))
    (digitValue?_upperDigit (byte.toNat % 16) (by omega)) .done
  have whole : 16 * (byte.toNat / 16) + byte.toNat % 16 = byte.toNat := by omega
  rwa [whole, UInt8.ofNat_toNat] at spells

def Separators (text : Text) : Prop :=
  ∀ byte ∈ text, isSeparator byte = true

theorem spells_separators (separators : Separators text) : Spells text [] := by
  induction text with
  | nil => exact .done
  | cons byte rest ih =>
      obtain ⟨first, others⟩ := List.forall_mem_cons.mp separators
      exact .separator first (ih others)

/-- Bytes in upper case digits, each behind a text of its own. -/
def spread (pieces : List (Text × UInt8)) : Text :=
  pieces.flatMap fun (gap, byte) => gap ++ upperByte byte

theorem spells_spread {pieces : List (Text × UInt8)}
    (gaps : ∀ piece ∈ pieces, Separators piece.1) :
    Spells (spread pieces) (pieces.map Prod.snd) := by
  induction pieces with
  | nil => exact .done
  | cons piece pieces ih =>
      obtain ⟨gap, others⟩ := List.forall_mem_cons.mp gaps
      have here := (spells_separators gap).append (spells_upperByte piece.2)
      exact here.append (ih others)

theorem filter_separators {gap : Text} (separators : Separators gap) :
    gap.filter (fun byte => !isSeparator byte) = [] :=
  List.filter_eq_nil_iff.mpr fun byte member => by simp [separators byte member]

theorem filter_upperByte (byte : UInt8) :
    (upperByte byte).filter (fun byte => !isSeparator byte) = upperByte byte := by
  have bound := byte.toNat_lt
  have first := not_separator_of_digit (digitValue?_upperDigit (byte.toNat / 16) (by omega))
  have second := not_separator_of_digit (digitValue?_upperDigit (byte.toNat % 16) (by omega))
  simp [upperByte, first, second]

/-- Without the separators the digits of the bytes are left. -/
theorem filter_spread {pieces : List (Text × UInt8)}
    (gaps : ∀ piece ∈ pieces, Separators piece.1) :
    (spread pieces).filter (fun byte => !isSeparator byte) = encode (pieces.map Prod.snd) := by
  induction pieces with
  | nil => rfl
  | cons piece pieces ih =>
      obtain ⟨gap, others⟩ := List.forall_mem_cons.mp gaps
      have split : spread (piece :: pieces) = (piece.1 ++ upperByte piece.2) ++ spread pieces := rfl
      rw [split, List.filter_append, List.filter_append, filter_separators gap,
        filter_upperByte, ih others]
      rfl

/-- Reading onto a buffer adds what is read from the text. The text is read to its end exactly if
it spells bytes. These are then added, and written they are the text without separators in upper
case. Of any other text the bytes are added that stand in front of the first place where nothing is
spelled. Bytes that were written are read again, whatever separators are put around their
digits. -/
theorem readOnto_exact (target : List UInt8) (whole : 0 ∉ text) :
    readOnto target text = ⟨target ++ (read text).bytes, (read text).complete⟩ ∧
      ((readOnto target text).complete = true ↔ ∃ bytes, Spells text bytes) ∧
      (∀ bytes, Spells text bytes →
        (readOnto target text).bytes = target ++ bytes ∧
          encode bytes = (text.filter fun byte => !isSeparator byte).map upperCase) ∧
      ((readOnto target text).complete = false ↔
        ∃ front rest bytes, text = front ++ rest ∧ Spells front bytes ∧ Stuck rest) ∧
      (∀ front rest bytes, text = front ++ rest → Spells front bytes → Stuck rest →
        (readOnto target text).bytes = target ++ bytes) ∧
      (∀ pieces last, (∀ piece ∈ pieces, Separators piece.1) → Separators last →
        (spread pieces ++ last).filter (fun byte => !isSeparator byte) =
            encode (pieces.map Prod.snd) ∧
          readOnto target (spread pieces ++ last) = ⟨target ++ pieces.map Prod.snd, true⟩) := by
  refine ⟨readOnto_eq target text, ?_, fun bytes spells => ?_, ⟨fun incomplete => ?_, ?_⟩, ?_,
    fun pieces last gaps trailing => ?_⟩
  · rw [readOnto_eq, read, shown_of_whole whole]
    exact readPairs_complete_iff
  · rw [readOnto_of_spells target spells]
    exact ⟨rfl, spells.encode⟩
  · obtain ⟨front, rest, bytes, rfl, spells, rfl | stuck⟩ := spells_until_stuck text
    · rw [List.append_nil, readOnto_of_spells target spells] at incomplete
      contradiction
    · exact ⟨front, rest, bytes, rfl, spells, stuck⟩
  · rintro ⟨front, rest, bytes, rfl, spells, stuck⟩
    rw [readOnto_of_stuck target whole spells stuck]
  · rintro front rest bytes rfl spells stuck
    rw [readOnto_of_stuck target whole spells stuck]
  · have spells := (spells_spread gaps).append (spells_separators trailing)
    rw [List.append_nil] at spells
    refine ⟨?_, readOnto_of_spells target spells⟩
    rw [List.filter_append, filter_spread gaps, filter_separators trailing, List.append_nil]

/-- The texts "2f|44", which spells two bytes, and "2f|4", which breaks off in the second. -/
theorem readOnto_exact_separated :
    (0 ∉ ([50, 102, 124, 52, 52] : Text) ∧
      (readOnto [1] [50, 102, 124, 52, 52]).bytes = [1, 0x2F, 0x44] ∧
      encode [0x2F, 0x44] = [50, 70, 52, 52]) ∧
    (0 ∉ ([50, 102, 124, 52] : Text) ∧ (readOnto [1] [50, 102, 124, 52]).bytes = [1, 0x2F]) := by
  have first : Spells [50, 102, 124] [0x2F] :=
    @Spells.pair 50 102 2 15 _ _ rfl rfl (.separator rfl .done)
  have second : Spells [52, 52] [0x44] := @Spells.pair 52 52 4 4 _ _ rfl rfl .done
  have whole : 0 ∉ ([50, 102, 124, 52, 52] : Text) := by decide
  have short : 0 ∉ ([50, 102, 124, 52] : Text) := by decide
  obtain ⟨_, _, spelled, _⟩ := readOnto_exact [1] whole
  obtain ⟨_, _, _, _, kept, _⟩ := readOnto_exact [1] short
  obtain ⟨bytes, written⟩ := spelled _ (first.append second)
  exact ⟨⟨whole, bytes, written⟩, short, kept _ [52] _ rfl first (.dangling rfl)⟩

end MeterTelegram.Hex
