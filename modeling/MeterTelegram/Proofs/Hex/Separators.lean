import MeterTelegram.Proofs.Hex.Language

namespace MeterTelegram.Hex

/-! Separators at either end of a text change neither whether it is accepted nor what is read. -/

variable {text first second third : Text} {byte : UInt8}

/-- Texts that are accepted alike and read alike. -/
structure Alike (first second : Text) : Prop where
  accepted : isTelegram first = isTelegram second
  read : read first = read second

theorem Alike.symm (alike : Alike first second) : Alike second first :=
  ⟨alike.accepted.symm, alike.read.symm⟩

theorem Alike.trans (alike : Alike first second) (next : Alike second third) :
    Alike first third :=
  ⟨alike.accepted.trans next.accepted, alike.read.trans next.read⟩

theorem ne_zero_of_separator (separates : isSeparator byte = true) : byte ≠ 0 := by
  intro zero
  rw [zero] at separates
  contradiction

theorem alike_cons (separates : isSeparator byte = true) (text : Text) :
    Alike (byte :: text) text := by
  have shown : Text.shown (byte :: text) = byte :: text.shown :=
    List.takeWhile_cons_of_pos (bne_iff_ne.mpr (ne_zero_of_separator separates))
  constructor
  · simp [isTelegram, classify, shown, separates]
  · rw [read, read, shown, readPairs_separator separates]

theorem readPairs_concat (separates : isSeparator byte = true) (text : Text) :
    readPairs (text ++ [byte]) = readPairs text := by
  fun_induction readPairs text with
  | case1 => exact readPairs_separator separates
  | case2 first rest separatesFirst ih =>
      rw [List.cons_append, readPairs_separator separatesFirst, ih]
  | case3 first other =>
      have stuck : Stuck [first, byte] :=
        .unpaired (Bool.eq_false_iff.mpr other) (.inr (digitValue?_of_separator separates))
      exact readPairs_of_stuck stuck
  | case4 high other low rest upper lower second first reading ih =>
      simp [readPairs, other, first, second, ih, reading]
  | case5 high other low rest unread =>
      exact readPairs_of_stuck
        (.unpaired (Bool.eq_false_iff.mpr other) (unread_of_not_pair unread))

theorem alike_concat (separates : isSeparator byte = true) (whole : 0 ∉ text) :
    Alike (text ++ [byte]) text := by
  have wholeToo : 0 ∉ text ++ [byte] := by
    simp [whole, (ne_zero_of_separator separates).symm]
  have shown : Text.shown (text ++ [byte]) = text ++ [byte] := shown_of_whole wholeToo
  have shownText : Text.shown text = text := shown_of_whole whole
  constructor
  · simp [isTelegram, classify, shown, shownText, separates]
  · rw [read, read, shown, shownText, readPairs_concat separates]

theorem alike_append {front : Text} (separates : ∀ byte ∈ front, isSeparator byte = true)
    (text : Text) : Alike (front ++ text) text := by
  induction front with
  | nil => exact ⟨rfl, rfl⟩
  | cons byte front ih =>
      obtain ⟨here, behind⟩ := List.forall_mem_cons.mp separates
      exact (alike_cons here (front ++ text)).trans (ih behind)

theorem isTelegram_of_tab (whole : 0 ∉ text) (tab : 9 ∈ text) : isTelegram text = false := by
  apply Bool.eq_false_iff.mpr
  intro accepted
  obtain ⟨plain, -⟩ := isTelegram_iff.mp accepted
  rw [shown_of_whole whole] at plain
  exact absurd (plain 9 tab rfl) (by decide)

end MeterTelegram.Hex
