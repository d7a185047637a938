import Mathlib.Data.List.DropRight
import MeterTelegram.Text.Scan

namespace MeterTelegram.Text

/-! What a scan takes from a text and what it leaves. -/

variable {text taken rest : Text} {byte separator : UInt8} {stop : Option Int} {limit : Nat}

theorem stopsAt_iff {given : UInt8} :
    stopsAt (some given.toInt8.toInt) byte = true ↔ byte = given := by
  simp only [stopsAt, beq_iff_eq, Int8.toInt_inj]
  exact ⟨fun same => by simpa using congrArg Int8.toUInt8 same, fun same => congrArg _ same⟩

theorem stopsAt_of_ne {given : UInt8} (other : byte ≠ given) :
    stopsAt (some given.toInt8.toInt) byte = false :=
  Bool.of_not_eq_true fun stops => other (stopsAt_iff.mp stops)

theorem free_of_not_mem {given : UInt8} (absent : given ∉ text) :
    ∀ byte ∈ text, stopsAt (some given.toInt8.toInt) byte = false :=
  fun _ member => stopsAt_of_ne (ne_of_mem_of_not_mem member absent)

theorem collect_of_stop (free : ∀ byte ∈ taken, stopsAt stop byte = false)
    (room : taken.length ≤ limit) (stops : stopsAt stop byte = true) :
    collect stop limit (taken ++ byte :: rest) = (taken, byte :: rest) := by
  induction taken generalizing limit with
  | nil =>
      cases limit with
      | zero => rfl
      | succ limit => simp [collect, stops]
  | cons first taken ih =>
      cases limit with
      | zero => simp at room
      | succ limit =>
          obtain ⟨here, free⟩ := List.forall_mem_cons.mp free
          simp [collect, here, ih free (Nat.le_of_succ_le_succ room)]

theorem collect_of_full (free : ∀ byte ∈ taken, stopsAt stop byte = false) :
    collect stop taken.length (taken ++ rest) = (taken, rest) := by
  induction taken with
  | nil => rfl
  | cons first taken ih =>
      obtain ⟨here, free⟩ := List.forall_mem_cons.mp free
      simp [collect, here, ih free]

theorem collect_of_free (free : ∀ byte ∈ taken, stopsAt stop byte = false)
    (room : taken.length ≤ limit) : collect stop limit taken = (taken, []) := by
  induction taken generalizing limit with
  | nil => cases limit <;> rfl
  | cons first taken ih =>
      cases limit with
      | zero => simp at room
      | succ limit =>
          obtain ⟨here, free⟩ := List.forall_mem_cons.mp free
          simp [collect, here, ih free (Nat.le_of_succ_le_succ room)]

theorem collect_append (stop : Option Int) (limit : Nat) (text : Text) :
    (collect stop limit text).1 ++ (collect stop limit text).2 = text := by
  induction limit generalizing text with
  | zero => rfl
  | succ limit ih =>
      cases text with
      | nil => rfl
      | cons byte rest =>
          unfold collect
          split
          · rfl
          · exact congrArg (byte :: ·) (ih rest)

theorem scanTo_of_stop (free : ∀ byte ∈ taken, stopsAt stop byte = false)
    (room : taken.length ≤ limit) (stops : stopsAt stop byte = true) :
    scanTo stop limit (taken ++ byte :: rest) =
      { taken, rest, missing := false, atEnd := rest.isEmpty } := by
  simp [scanTo, collect_of_stop free room stops, stops]

theorem scanTo_of_free (free : ∀ byte ∈ taken, stopsAt stop byte = false)
    (room : taken.length ≤ limit) :
    scanTo stop limit taken = { taken, rest := [], missing := stop.isSome, atEnd := true } := by
  simp [scanTo, collect_of_free free room]

theorem scanTo_of_long (free : ∀ byte ∈ taken, stopsAt stop byte = false)
    (long : limit < taken.length) (rest : Text) :
    (scanTo stop limit (taken ++ rest)).taken = taken.take limit ∧
      (scanTo stop limit (taken ++ rest)).rest = taken.drop (limit + 1) ++ rest ∧
      (scanTo stop limit (taken ++ rest)).missing = stop.isSome := by
  have front : (taken.take limit).length = limit := List.length_take_of_le (Nat.le_of_lt long)
  have frontFree : ∀ byte ∈ taken.take limit, stopsAt stop byte = false := fun byte member =>
    free byte (List.mem_of_mem_take member)
  have here : stopsAt stop taken[limit] = false := free _ (List.getElem_mem long)
  have split : taken.drop limit = taken[limit] :: taken.drop (limit + 1) :=
    List.drop_eq_getElem_cons long
  have collected := @collect_of_full _ (taken.drop limit ++ rest) stop frontFree
  rw [front, ← List.append_assoc, List.take_append_drop, split, List.cons_append] at collected
  simp [scanTo, collected, here]

theorem scanTo_missing (free : ∀ byte ∈ text, stopsAt stop byte = false) :
    (scanTo stop limit text).missing = stop.isSome := by
  have whole := collect_append stop limit text
  simp only [scanTo]
  cases left : (collect stop limit text).2 with
  | nil => simp
  | cons byte rest =>
      have member : byte ∈ text := by
        rw [← whole, left]
        exact List.mem_append_right _ List.mem_cons_self
      simp [free byte member]

theorem scanTo_shorter (present : text ≠ []) :
    (scanTo stop limit text).rest.length < text.length := by
  have whole := congrArg List.length (collect_append stop limit text)
  have nonempty := List.length_pos_iff.mpr present
  rw [List.length_append] at whole
  simp only [scanTo, List.length_tail]
  omega

theorem skipBlank_of_not_blank (visible : isBlank byte = false) :
    skipBlank (byte :: rest) = byte :: rest :=
  List.dropWhile_cons_of_neg (Bool.eq_false_iff.mp visible)

theorem skipBlank_suffix (text : Text) : skipBlank text <:+ text :=
  List.dropWhile_suffix isBlank

theorem scanTrimmed_of_present (stop : Option Int) (limit : Nat) (present : skipBlank text ≠ []) :
    scanTrimmed stop limit text =
      { scanTo stop limit (skipBlank text) with
        taken := trim (scanTo stop limit (skipBlank text)).taken } := by
  unfold scanTrimmed
  split
  · contradiction
  · rename_i byte rest skipped
    rw [skipped]

theorem scanTrimmed_shorter (present : text ≠ []) :
    (scanTrimmed stop limit text).rest.length < text.length := by
  have shorter := (skipBlank_suffix text).length_le
  unfold scanTrimmed
  split
  · exact List.length_pos_iff.mpr present
  · rename_i byte rest skipped
    rw [skipped] at shorter
    exact Nat.lt_of_lt_of_le (scanTo_shorter (List.cons_ne_nil byte rest)) shorter

theorem scanTrimmed_rest_le (stop : Option Int) (limit : Nat) (text : Text) :
    (scanTrimmed stop limit text).rest.length ≤ text.length := by
  by_cases empty : text = []
  · subst empty
    exact Nat.le_refl 0
  · exact Nat.le_of_lt (scanTrimmed_shorter empty)

theorem free_skipBlank (free : ∀ byte ∈ text, stopsAt stop byte = false) :
    ∀ byte ∈ skipBlank text, stopsAt stop byte = false :=
  fun byte member => free byte ((skipBlank_suffix text).subset member)

theorem scanTrimmed_missing (free : ∀ byte ∈ text, stopsAt stop byte = false) :
    (scanTrimmed stop limit text).missing = stop.isSome := by
  by_cases empty : skipBlank text = []
  · simp only [scanTrimmed, empty]
  · rw [scanTrimmed_of_present stop limit empty]
    exact scanTo_missing (free_skipBlank free)

theorem skipBlank_append_of_not_blank (visible : isBlank byte = false) (front : Text) :
    skipBlank (front ++ byte :: rest) = skipBlank front ++ byte :: rest := by
  rw [skipBlank, skipBlank, List.dropWhile_append]
  split
  · rename_i blank
    rw [List.isEmpty_iff.mp blank]
    exact skipBlank_of_not_blank visible
  · rfl

theorem scanTrimmed_append (visible : isBlank byte = false) (stop : Option Int) (limit : Nat)
    (front : Text) :
    scanTrimmed stop limit (front ++ byte :: rest) =
      { scanTo stop limit (skipBlank front ++ byte :: rest) with
        taken := trim (scanTo stop limit (skipBlank front ++ byte :: rest)).taken } := by
  have skipped : skipBlank (front ++ byte :: rest) = skipBlank front ++ byte :: rest :=
    skipBlank_append_of_not_blank visible front
  have present : skipBlank (front ++ byte :: rest) ≠ [] := by
    rw [skipped]
    exact List.append_ne_nil_of_right_ne_nil _ (List.cons_ne_nil byte rest)
  rw [scanTrimmed_of_present stop limit present, skipped]

theorem trim_skipBlank (text : Text) : trim (skipBlank text) = trim text := by
  rw [trim, skipBlank, List.dropWhile_idempotent, trim]

theorem mem_trim (member : byte ∈ text) (visible : isBlank byte = false) : byte ∈ trim text := by
  have kept {text : Text} (member : byte ∈ text) : byte ∈ text.dropWhile isBlank := by
    have split : byte ∈ text.takeWhile isBlank ++ text.dropWhile isBlank := by
      rwa [List.takeWhile_append_dropWhile]
    refine (List.mem_append.mp split).resolve_left fun dropped => ?_
    rw [List.mem_takeWhile_imp dropped] at visible
    contradiction
  exact List.mem_reverse.mpr (kept (List.mem_reverse.mpr (kept member)))

theorem trim_cons_of_not_blank (visible : isBlank byte = false) (rest : Text) :
    ∃ tail, trim (byte :: rest) = byte :: tail := by
  have kept : (rest.reverse ++ [byte]).dropWhile isBlank =
      rest.reverse.dropWhile isBlank ++ [byte] :=
    skipBlank_append_of_not_blank visible rest.reverse
  refine ⟨(rest.reverse.dropWhile isBlank).reverse, ?_⟩
  rw [trim, List.dropWhile_cons_of_neg (Bool.eq_false_iff.mp visible), List.reverse_cons, kept,
    List.reverse_append, List.reverse_singleton, List.singleton_append]

theorem skipBlank_append_of_blank {front : Text} (blank : ∀ byte ∈ front, isBlank byte = true)
    (text : Text) : skipBlank (front ++ text) = skipBlank text :=
  List.dropWhile_append_of_pos blank

theorem skipBlank_of_head (begins : ∀ byte ∈ text.head?, isBlank byte = false) :
    skipBlank text = text := by
  cases text with
  | nil => rfl
  | cons first rest => exact skipBlank_of_not_blank (begins first rfl)

theorem trim_of_blank (blank : ∀ byte ∈ text, isBlank byte = true) : trim text = [] := by
  rw [trim, List.dropWhile_eq_nil_iff.mpr blank]
  rfl

/-- Blanks around a text are trimmed, the text itself stays. -/
theorem trim_of_blanks {front back : Text} (blank : ∀ byte ∈ front, isBlank byte = true)
    (blankBack : ∀ byte ∈ back, isBlank byte = true)
    (begins : ∀ byte ∈ text.head?, isBlank byte = false)
    (ends : ∀ byte ∈ text.getLast?, isBlank byte = false) :
    trim (front ++ text ++ back) = text := by
  rw [← trim_skipBlank, List.append_assoc, skipBlank_append_of_blank blank, trim_skipBlank]
  cases text with
  | nil => exact trim_of_blank blankBack
  | cons first rest =>
      have turned : ∀ byte ∈ back.reverse, isBlank byte = true := fun byte member =>
        blankBack byte (List.mem_reverse.mp member)
      have kept : skipBlank (first :: rest ++ back) = first :: rest ++ back :=
        skipBlank_of_not_blank (begins first rfl)
      have keptBack : skipBlank (first :: rest).reverse = (first :: rest).reverse :=
        skipBlank_of_head (by rwa [List.head?_reverse])
      rw [trim, ← skipBlank, ← skipBlank, kept, List.reverse_append,
        skipBlank_append_of_blank turned, keptBack, List.reverse_reverse]

/-- Up to a stop byte that is no blank, the trimmed text before it is taken. -/
theorem scanTrimmed_of_stop (free : ∀ byte ∈ taken, stopsAt stop byte = false)
    (room : (skipBlank taken).length ≤ limit) (visible : isBlank byte = false)
    (stops : stopsAt stop byte = true) :
    scanTrimmed stop limit (taken ++ byte :: rest) =
      { taken := trim taken, rest, missing := false, atEnd := rest.isEmpty } := by
  rw [scanTrimmed_append visible, scanTo_of_stop (free_skipBlank free) room stops, trim_skipBlank]

theorem fields_ne_nil (separator : UInt8) (text : Text) : fields separator text ≠ [] := by
  cases text with
  | nil => exact List.cons_ne_nil _ _
  | cons byte rest =>
      unfold fields
      split
      · exact List.cons_ne_nil _ _
      · split <;> exact List.cons_ne_nil _ _

/-- A text is its pieces with the separators between them. -/
theorem flatMap_fields (separator : UInt8) (text : Text) :
    (fields separator text).flatMap (· ++ [separator]) = text ++ [separator] := by
  induction text with
  | nil => rfl
  | cons byte rest ih =>
      cases found : fields separator rest with
      | nil => exact absurd found (fields_ne_nil separator rest)
      | cons first others =>
          rw [found, List.flatMap_cons] at ih
          by_cases same : byte = separator
          · simp [fields, found, same, ← ih]
          · simp [fields, found, same, ← ih]

theorem not_mem_fields {piece : Text} (member : piece ∈ fields separator text) :
    separator ∉ piece := by
  induction text generalizing piece with
  | nil => simp_all [fields]
  | cons byte rest ih =>
      cases found : fields separator rest with
      | nil => exact absurd found (fields_ne_nil separator rest)
      | cons first others =>
          rw [found] at ih
          by_cases same : byte = separator
          · simp only [fields, found, same, if_true] at member
            rcases List.mem_cons.mp member with rfl | member
            · exact List.not_mem_nil
            · exact ih member
          · simp only [fields, found, same, if_false] at member
            rcases List.mem_cons.mp member with rfl | member
            · have absent := ih List.mem_cons_self
              exact List.not_mem_cons_of_ne_of_not_mem (Ne.symm same) absent
            · exact ih (List.mem_cons_of_mem first member)

theorem fields_of_not_mem (absent : separator ∉ text) : fields separator text = [text] := by
  induction text with
  | nil => rfl
  | cons byte rest ih =>
      have other : byte ≠ separator := Ne.symm (List.ne_of_not_mem_cons absent)
      have behind := ih (List.not_mem_of_not_mem_cons absent)
      simp only [fields, behind, other, if_false]

theorem fields_append (absent : separator ∉ text) (rest : Text) :
    fields separator (text ++ separator :: rest) = text :: fields separator rest := by
  induction text with
  | nil =>
      cases found : fields separator rest with
      | nil => exact absurd found (fields_ne_nil separator rest)
      | cons first others => simp only [List.nil_append, fields, found, if_true]
  | cons byte text ih =>
      have other : byte ≠ separator := Ne.symm (List.ne_of_not_mem_cons absent)
      have behind := ih (List.not_mem_of_not_mem_cons absent)
      simp only [List.cons_append, fields, behind, other, if_false]

/-- Pieces without separators are found again between those they are joined with. -/
theorem fields_joined {parts : List Text} (present : parts ≠ [])
    (absent : ∀ part ∈ parts, separator ∉ part) :
    fields separator (joined [separator] parts) = parts := by
  induction parts with
  | nil => contradiction
  | cons part others ih =>
      obtain ⟨here, absent⟩ := List.forall_mem_cons.mp absent
      cases others with
      | nil =>
          rw [joined, List.intercalate_singleton]
          exact fields_of_not_mem here
      | cons next others =>
          rw [joined, List.intercalate_cons_cons, List.append_assoc, List.singleton_append,
            fields_append here]
          exact congrArg (part :: ·) (ih (List.cons_ne_nil next others) absent)

/-- Only separators have no pieces between them. -/
theorem pieces_eq_nil : pieces separator text = [] ↔ ∀ byte ∈ text, byte = separator := by
  have whole := flatMap_fields separator text
  constructor
  · intro none byte member
    have empty : ∀ piece ∈ fields separator text, piece = [] := by
      simpa [pieces] using none
    have listed : byte ∈ text ++ [separator] := List.mem_append_left _ member
    rw [← whole] at listed
    obtain ⟨piece, found, inside⟩ := List.mem_flatMap.mp listed
    rw [empty piece found] at inside
    exact List.mem_singleton.mp inside
  · intro only
    refine List.filter_eq_nil_iff.mpr fun piece found present => ?_
    obtain ⟨byte, member⟩ := List.exists_mem_of_ne_nil piece (by simpa using present)
    have listed : byte ∈ text ++ [separator] :=
      whole ▸ List.mem_flatMap.mpr ⟨piece, found, List.mem_append_left _ member⟩
    have same : byte = separator := by
      rcases List.mem_append.mp listed with inside | last
      · exact only byte inside
      · exact List.mem_singleton.mp last
    exact not_mem_fields found (same ▸ member)

end MeterTelegram.Text
