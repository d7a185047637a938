import MeterTelegram.Hex

namespace MeterTelegram.Hex

/-! What hexadecimal text spells: pairs of digits with separators between them. Text whose
digits would make whole bytes is read unless a separator splits one of its bytes. -/

variable {text rest : Text} {byte high low : UInt8} {value upper lower : Nat}
  {bytes : List UInt8}

def digits (text : Text) : Text :=
  text.filter isDigit

/-- Text of digits and separators. -/
def Plain (text : Text) : Prop :=
  ∀ byte ∈ text, isSeparator byte = false → isDigit byte = true

/-- Every separator stands behind a whole number of bytes. -/
def Unsplit (text : Text) : Prop :=
  ∀ front byte back, text = front ++ byte :: back → isSeparator byte = true →
    (digits front).length % 2 = 0

inductive Spells : Text → List UInt8 → Prop where
  | done : Spells [] []
  | separator {byte : UInt8} {rest : Text} {bytes : List UInt8}
      (separates : isSeparator byte = true) (spells : Spells rest bytes) :
      Spells (byte :: rest) bytes
  | pair {high low : UInt8} {upper lower : Nat} {rest : Text} {bytes : List UInt8}
      (first : digitValue? high = some upper) (second : digitValue? low = some lower)
      (spells : Spells rest bytes) :
      Spells (high :: low :: rest) (UInt8.ofNat (16 * upper + lower) :: bytes)

theorem digitValue?_of_separator (separates : isSeparator byte = true) :
    digitValue? byte = none := by
  simp only [isSeparator, Bool.or_eq_true, beq_iff_eq] at separates
  rcases separates with ((rfl | rfl) | rfl) | rfl <;> rfl

theorem not_separator_of_digit (digit : digitValue? byte = some value) :
    isSeparator byte = false := by
  cases separates : isSeparator byte with
  | false => rfl
  | true =>
      rw [digitValue?_of_separator separates] at digit
      contradiction

theorem isDigit_iff : isDigit byte = true ↔ ∃ value, digitValue? byte = some value :=
  Option.isSome_iff_exists

theorem digits_cons_separator (separates : isSeparator byte = true) :
    digits (byte :: rest) = digits rest := by
  have other : isDigit byte = false := by rw [isDigit, digitValue?_of_separator separates]; rfl
  exact List.filter_cons_of_neg (Bool.eq_false_iff.mp other)

theorem digits_cons_digit (digit : digitValue? byte = some value) :
    digits (byte :: rest) = byte :: digits rest :=
  List.filter_cons_of_pos (isDigit_iff.mpr ⟨value, digit⟩)

theorem digits_pair (first : digitValue? high = some upper)
    (second : digitValue? low = some lower) :
    digits (high :: low :: rest) = high :: low :: digits rest := by
  rw [digits_cons_digit first, digits_cons_digit second]

theorem Plain.of_cons (plain : Plain (byte :: rest)) : Plain rest :=
  fun other member => plain other (List.mem_cons_of_mem byte member)

theorem Plain.first (plain : Plain (byte :: rest)) (other : isSeparator byte = false) :
    ∃ value, digitValue? byte = some value :=
  isDigit_iff.mp (plain byte List.mem_cons_self other)

theorem Spells.length_digits (spells : Spells text bytes) :
    (digits text).length = 2 * bytes.length := by
  induction spells with
  | done => rfl
  | separator separates _ ih => rw [digits_cons_separator separates, ih]
  | pair first second _ ih =>
      simp only [digits_pair first second, List.length_cons, ih]
      omega

theorem readPairs_of_spells (spells : Spells text bytes) : readPairs text = ⟨bytes, true⟩ := by
  induction spells with
  | done => rfl
  | separator separates _ ih =>
      rw [readPairs.eq_def, ← ih]
      exact if_pos separates
  | pair first second _ ih =>
      have other := not_separator_of_digit first
      simp only [readPairs, other, first, second, ih, Bool.false_eq_true, if_false]

theorem spells_of_complete (complete : (readPairs text).complete = true) :
    Spells text (readPairs text).bytes := by
  fun_induction readPairs text with
  | case1 => exact .done
  | case2 byte rest separates ih => exact .separator separates (ih complete)
  | case3 byte other => contradiction
  | case4 high other low rest upper lower second first reading ih =>
      exact .pair first second (ih complete)
  | case5 high other low rest unread => contradiction

/-- Text is read to its end exactly if it spells bytes. -/
theorem readPairs_complete_iff :
    (readPairs text).complete = true ↔ ∃ bytes, Spells text bytes :=
  ⟨fun complete => ⟨_, spells_of_complete complete⟩, fun ⟨_, spells⟩ => by
    rw [readPairs_of_spells spells]⟩

theorem unsplit_nil : Unsplit [] := by
  intro front byte back parts
  simp at parts

theorem unsplit_cons_separator (separates : isSeparator byte = true) :
    Unsplit (byte :: rest) ↔ Unsplit rest := by
  constructor
  · intro unsplit front other back parts
    have whole := unsplit (byte :: front) other back (by rw [parts, List.cons_append])
    rwa [digits_cons_separator separates] at whole
  · intro unsplit front other back parts
    cases front with
    | nil => exact fun _ => rfl
    | cons first front =>
        obtain ⟨rfl, remaining⟩ := List.cons.inj parts
        rw [digits_cons_separator separates]
        exact unsplit front other back remaining

theorem unsplit_pair (first : digitValue? high = some upper)
    (second : digitValue? low = some lower) :
    Unsplit (high :: low :: rest) ↔ Unsplit rest := by
  constructor
  · intro unsplit front other back parts separates
    have whole := unsplit (high :: low :: front) other back (by rw [parts]; rfl) separates
    rw [digits_pair first second] at whole
    simp only [List.length_cons] at whole
    omega
  · intro unsplit front other back parts separates
    match front, parts with
    | [], parts =>
        obtain ⟨rfl, _⟩ := List.cons.inj parts
        exact absurd separates (Bool.eq_false_iff.mp (not_separator_of_digit first))
    | [_], parts =>
        obtain ⟨_, remaining⟩ := List.cons.inj parts
        obtain ⟨rfl, _⟩ := List.cons.inj remaining
        exact absurd separates (Bool.eq_false_iff.mp (not_separator_of_digit second))
    | _ :: _ :: front, parts =>
        obtain ⟨rfl, remaining⟩ := List.cons.inj parts
        obtain ⟨rfl, further⟩ := List.cons.inj remaining
        have whole := unsplit front other back further separates
        simp only [digits_pair first second, List.length_cons]
        omega

theorem Spells.unsplit (spells : Spells text bytes) : Unsplit text := by
  induction spells with
  | done => exact unsplit_nil
  | separator separates _ ih => exact (unsplit_cons_separator separates).mpr ih
  | pair first second _ ih => exact (unsplit_pair first second).mpr ih

theorem spells_of_unsplit (plain : Plain text) (even : (digits text).length % 2 = 0)
    (unsplit : Unsplit text) : ∃ bytes, Spells text bytes := by
  fun_induction readPairs text with
  | case1 => exact ⟨[], .done⟩
  | case2 byte rest separates ih =>
      rw [digits_cons_separator separates] at even
      obtain ⟨bytes, spells⟩ :=
        ih plain.of_cons even ((unsplit_cons_separator separates).mp unsplit)
      exact ⟨bytes, .separator separates spells⟩
  | case3 byte other =>
      obtain ⟨value, digit⟩ := plain.first (Bool.eq_false_iff.mpr other)
      rw [digits_cons_digit digit] at even
      contradiction
  | case4 high other low rest upper lower second first reading ih =>
      simp only [digits_pair first second, List.length_cons] at even
      obtain ⟨bytes, spells⟩ :=
        ih plain.of_cons.of_cons (by omega) ((unsplit_pair first second).mp unsplit)
      exact ⟨_, .pair first second spells⟩
  | case5 high other low rest unread =>
      obtain ⟨upper, first⟩ := plain.first (Bool.eq_false_iff.mpr other)
      cases separates : isSeparator low with
      | true =>
          -- A single digit stands in front of the separator.
          have whole := unsplit [high] low rest rfl separates
          rw [digits_cons_digit first] at whole
          contradiction
      | false =>
          obtain ⟨lower, second⟩ := plain.of_cons.first separates
          exact absurd second (unread upper lower first)

theorem filter_separators_of_plain (plain : Plain text) :
    text.filter (fun byte => !isSeparator byte) = digits text := by
  refine List.filter_congr fun byte member => ?_
  cases separates : isSeparator byte with
  | false => rw [plain byte member separates]; rfl
  | true => rw [isDigit, digitValue?_of_separator separates]; rfl

theorem all_isDigit_iff_plain :
    (text.filter fun byte => !isSeparator byte).all isDigit = true ↔ Plain text := by
  simp only [Plain, List.all_eq_true, List.mem_filter, Bool.not_eq_true', and_imp]

/-- Text is a telegram if it holds digits for whole bytes and nothing but separators else. -/
theorem isTelegram_iff :
    isTelegram text = true ↔
      Plain text.shown ∧ digits text.shown ≠ [] ∧ (digits text.shown).length % 2 = 0 := by
  let kept := text.shown.filter fun byte => !isSeparator byte
  have classified : classify false text =
      if kept.isEmpty || !kept.all isDigit then .notHex
      else if kept.length % 2 = 1 then .oddDigits
      else .evenDigits := rfl
  rw [isTelegram, decide_eq_true_iff, classified]
  cases hex : kept.all isDigit with
  | false =>
      have mixed : ¬ Plain text.shown := fun plain =>
        Bool.false_ne_true (hex.symm.trans (all_isDigit_iff_plain.mpr plain))
      simp [mixed]
  | true =>
      have plain : Plain text.shown := all_isDigit_iff_plain.mp hex
      have same : kept = digits text.shown := filter_separators_of_plain plain
      rw [same]
      by_cases empty : digits text.shown = []
      · simp [empty]
      · by_cases odd : (digits text.shown).length % 2 = 1
        · simp [empty, odd]
        · simp [empty, plain, Nat.mod_two_ne_one.mp odd]

/-- Accepted text is read to its end unless a separator splits one of its bytes. -/
theorem read_complete_iff_unsplit (accepted : isTelegram text = true) :
    (read text).complete = true ↔ Unsplit text.shown := by
  obtain ⟨plain, _, even⟩ := isTelegram_iff.mp accepted
  rw [read, readPairs_complete_iff]
  exact ⟨fun ⟨_, spells⟩ => spells.unsplit, spells_of_unsplit plain even⟩

theorem length_read (complete : (read text).complete = true) :
    (read text).bytes.length = (digits text.shown).length / 2 := by
  have spelled := (spells_of_complete complete).length_digits
  rw [read]
  omega

end MeterTelegram.Hex
