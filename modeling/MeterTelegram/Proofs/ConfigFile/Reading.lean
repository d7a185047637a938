import MeterTelegram.ConfigFile
import MeterTelegram.Proofs.Journal
import MeterTelegram.Proofs.Text.Scan

namespace MeterTelegram.ConfigFile

/-! Reading a config file pair by pair. Each pair takes some of the text, so that a reading
has as many steps as it needs, and what it does to the settings is done pair by pair. -/

variable {files : Directory} {settings : Settings} {input other rest name content : Text}
  {pair : Pair} {steps : Nat}

theorem keyAndValue_shorter (present : input ≠ []) :
    (keyAndValue input).2.length < input.length := by
  have shorter : (Text.scanTrimmed (some 61) maxLength input).rest.length < input.length :=
    Text.scanTrimmed_shorter present
  have later := Text.scanTrimmed_rest_le (some 10) maxLength
    (Text.scanTrimmed (some 61) maxLength input).rest
  unfold keyAndValue
  dsimp only
  split
  · exact shorter
  · split <;> exact Nat.lt_of_le_of_lt later shorter

theorem next_shorter (present : input ≠ []) : (next input).2.length < input.length := by
  have shorter : (input.dropWhile isBetweenLines).length ≤ input.length :=
    (List.dropWhile_suffix isBetweenLines).length_le
  unfold next
  split
  · exact List.length_pos_iff.mpr present
  · rename_i byte rest found
    rw [found] at shorter
    split
    · exact Nat.lt_of_lt_of_le (Text.scanTrimmed_shorter (List.cons_ne_nil byte rest)) shorter
    · exact Nat.lt_of_lt_of_le (keyAndValue_shorter (List.cons_ne_nil byte rest)) shorter

theorem ne_nil_of_keyed (keyed : (next input).1.key.isEmpty = false) : input ≠ [] := by
  rintro rfl
  contradiction

/-- Steps beyond the length of the text change nothing. -/
theorem pairsWithin_congr {others : Nat} (enough : input.length ≤ steps)
    (alsoEnough : input.length ≤ others) : pairsWithin steps input = pairsWithin others input := by
  induction steps generalizing input others with
  | zero =>
      obtain rfl := List.length_eq_zero_iff.mp (Nat.le_zero.mp enough)
      cases others <;> rfl
  | succ steps ih =>
      cases others with
      | zero =>
          obtain rfl := List.length_eq_zero_iff.mp (Nat.le_zero.mp alsoEnough)
          rfl
      | succ others =>
          cases keyed : (next input).1.key.isEmpty with
          | true => simp only [pairsWithin, keyed, if_true]
          | false =>
              have shorter := next_shorter (ne_nil_of_keyed keyed)
              have behind := @ih (next input).2 others (by omega) (by omega)
              simp only [pairsWithin, keyed, Bool.false_eq_true, if_false, behind]

/-- The pairs of a text, as many steps as they take. -/
def reads (input : Text) : List Pair :=
  pairsWithin input.length input

theorem pairs_eq_reads (content : Text) : pairs content = reads (content ++ [10]) := by
  rw [pairs, reads, List.length_append, List.length_singleton]

theorem reads_eq (input : Text) : reads input =
    if (next input).1.key.isEmpty then [(next input).1]
    else (next input).1 :: reads (next input).2 := by
  have more := pairsWithin_congr (Nat.le_succ input.length) (Nat.le_refl input.length)
  rw [reads, ← more]
  cases keyed : (next input).1.key.isEmpty with
  | true => simp only [pairsWithin, keyed, if_true]
  | false =>
      have shorter := next_shorter (ne_nil_of_keyed keyed)
      have behind := pairsWithin_congr (Nat.le_of_lt shorter) (Nat.le_refl (next input).2.length)
      simp only [pairsWithin, keyed, Bool.false_eq_true, if_false, behind, reads]

def applied (files : Directory) (settings : Settings) (pair : Pair) : Settings :=
  (apply files settings pair).settings

def after (files : Directory) (settings : Settings) (input : Text) : Settings :=
  (reads input).foldl (applied files) settings

theorem applied_of_no_key (absent : pair.key.isEmpty = true) :
    applied files settings pair = settings := by
  simp only [applied, apply, absent, Bool.true_or, if_true]
  rfl

theorem applied_of_comment (comment : pair.isComment = true) :
    applied files settings pair = settings := by
  simp only [applied, apply, comment, Bool.or_true, if_true]
  rfl

theorem applied_of_unknown (unknown : Settings.Key.ofName? pair.key = none) :
    applied files settings pair = settings := by
  simp only [applied, apply, unknown]
  split <;> rfl

theorem after_of_end (ended : (next input).1.key.isEmpty = true) :
    after files settings input = settings := by
  rw [after, reads_eq, if_pos ended]
  exact applied_of_no_key ended

theorem after_of_next (found : next input = (pair, rest)) (keyed : pair.key.isEmpty = false) :
    after files settings input = after files (applied files settings pair) rest := by
  rw [after, reads_eq, found, keyed]
  rfl

theorem after_congr (same : next input = next other) :
    after files settings input = after files settings other := by
  rw [after, after, reads_eq, same, ← reads_eq]

theorem applyAll_outcome {ε : Type} (files : Directory) (pairs : List Pair)
    (settings : Settings) :
    (applyAll files pairs settings : Journal ε Settings).outcome =
      .ok (pairs.foldl (applied files) settings) := by
  induction pairs generalizing settings with
  | nil => rfl
  | cons pair others ih => exact ih (applied files settings pair)

theorem load_outcome (read : files.read name = .ok content) (settings : Settings) :
    (load files name settings).outcome = .ok (after files settings (content ++ [10])) := by
  rw [after, ← pairs_eq_reads, ← applyAll_outcome]
  simp only [load, read]
  rfl

theorem read_of_load {final : Settings} (loaded : (load files name settings).outcome = .ok final) :
    ∃ content, files.read name = .ok content := by
  cases read : files.read name with
  | ok content => exact ⟨content, rfl⟩
  | error fault =>
      simp only [load, read] at loaded
      contradiction

end MeterTelegram.ConfigFile
