import MeterTelegram.Proofs.ConfigFile.Lines

namespace MeterTelegram.ConfigFile

/-! Loading a config file, told by its lines: sound lines are applied one after another, up to
the first line that is not. -/

variable {files : Directory} {line value rest tail : Text} {first : UInt8}

def lines (content : Text) : List Text :=
  Text.fields 10 content

def unlines (lines : List Text) : Text :=
  lines.flatMap (· ++ [10])

/-- The settings after a line that is read by itself. -/
def afterLine (files : Directory) (settings : Settings) (line : Text) : Settings :=
  match (Line.ofText line).setting? with
  | none => settings
  | some pair => applied files settings pair

def afterLines (files : Directory) (settings : Settings) (lines : List Text) : Settings :=
  lines.foldl (afterLine files) settings

theorem unlines_cons (line : Text) (later : List Text) :
    unlines (line :: later) = line ++ 10 :: unlines later := by
  rw [unlines, List.flatMap_cons, List.append_assoc, List.singleton_append, ← unlines]

theorem unlines_append (earlier later : List Text) :
    unlines (earlier ++ later) = unlines earlier ++ unlines later :=
  List.flatMap_append

theorem unlines_lines (content : Text) : unlines (lines content) = content ++ [10] :=
  Text.flatMap_fields 10 content

theorem not_mem_text (text : line.dropWhile isBetweenLines = rest) (unbroken : 10 ∉ line) :
    10 ∉ rest :=
  fun member => unbroken ((text ▸ List.dropWhile_suffix isBetweenLines).subset member)

theorem not_mem_value {key : Text} (text : line.dropWhile isBetweenLines = key ++ 61 :: value)
    (unbroken : 10 ∉ line) : 10 ∉ value :=
  fun member => not_mem_text text unbroken
    (List.mem_append_right key (List.mem_cons_of_mem 61 member))

theorem skipBlank_of_visible (visible : isBetweenLines first = false) :
    Text.skipBlank (first :: tail) = first :: tail :=
  Text.skipBlank_of_not_blank (isBlank_of_visible visible)

/-- A comment is passed over; what is too long of it is left for the next reading. -/
theorem after_of_comment (text : line.dropWhile isBetweenLines = 35 :: tail)
    (settings : Settings)
    (taken : (Text.scanTrimmed (some 10) maxLength (35 :: tail ++ 10 :: rest)).taken.head? =
      some 35) :
    after files settings (line ++ 10 :: rest) =
      after files settings
        (Text.scanTrimmed (some 10) maxLength (35 :: tail ++ 10 :: rest)).rest := by
  obtain ⟨others, begins⟩ := List.head?_eq_some_iff.mp taken
  have keyed : (Text.scanTrimmed (some 10) maxLength (35 :: tail ++ 10 :: rest)).taken.isEmpty =
      false := by
    rw [begins]
    rfl
  rw [after_of_next (next_of_comment text rest) keyed, applied_of_comment (decide_eq_true taken)]

theorem trim_comment (tail : Text) : (Text.trim (35 :: tail)).head? = some 35 := by
  have visible : Text.isBlank 35 = false := rfl
  obtain ⟨others, trimmed⟩ := Text.trim_cons_of_not_blank visible tail
  rw [trimmed]
  rfl

theorem next_of_short_comment (text : line.dropWhile isBetweenLines = 35 :: tail)
    (short : (35 :: tail : Text).length ≤ maxLength) (unbroken : 10 ∉ line) (rest : Text) :
    next (line ++ 10 :: rest) = (⟨Text.trim (35 :: tail), []⟩, rest) := by
  have room : (Text.skipBlank (35 :: tail)).length ≤ maxLength := by
    rwa [skipBlank_of_visible rfl]
  have scanned : Text.scanTrimmed (some 10) maxLength (35 :: tail ++ 10 :: rest) =
      { taken := Text.trim (35 :: tail), rest, missing := false, atEnd := rest.isEmpty } :=
    Text.scanTrimmed_of_stop (Text.free_of_not_mem (not_mem_text text unbroken)) room rfl
      (by decide)
  rw [next_of_comment text rest, scanned]

theorem after_of_short_comment (text : line.dropWhile isBetweenLines = 35 :: tail)
    (short : (35 :: tail : Text).length ≤ maxLength) (unbroken : 10 ∉ line)
    (settings : Settings) (rest : Text) :
    after files settings (line ++ 10 :: rest) = after files settings rest := by
  have comment := trim_comment tail
  have keyed : (Text.trim (35 :: tail)).isEmpty = false := by
    obtain ⟨others, begins⟩ := List.head?_eq_some_iff.mp comment
    rw [begins]
    rfl
  rw [after_of_next (next_of_short_comment text short unbroken rest) keyed,
    applied_of_comment (decide_eq_true comment)]

theorem after_of_long_comment (text : line.dropWhile isBetweenLines = 35 :: tail)
    (long : maxLength < (35 :: tail : Text).length) (unbroken : 10 ∉ line)
    (settings : Settings) (rest : Text) :
    after files settings (line ++ 10 :: rest) =
      after files settings ((35 :: tail : Text).drop (maxLength + 1) ++ 10 :: rest) := by
  have present : Text.skipBlank (35 :: tail ++ 10 :: rest) ≠ [] := List.cons_ne_nil _ _
  obtain ⟨taken, left, -⟩ := Text.scanTo_of_long
    (Text.free_of_not_mem (not_mem_text text unbroken)) long (10 :: rest)
  have scanned := Text.scanTrimmed_of_present (some 10) maxLength present
  have begins : (Text.scanTrimmed (some 10) maxLength (35 :: tail ++ 10 :: rest)).taken.head? =
      some 35 := by
    rw [scanned]
    exact (congrArg (fun taken => (Text.trim taken).head?) taken).trans (trim_comment _)
  rw [after_of_comment text settings begins, scanned]
  exact congrArg (after files settings) left

theorem next_of_short_pair (text : line.dropWhile isBetweenLines = first :: tail ++ 61 :: value)
    (visible : isBetweenLines first = false) (silent : first ≠ 35) (unequal : 61 ∉ first :: tail)
    (short : (first :: tail).length ≤ maxLength)
    (shortValue : (Text.skipBlank value).length ≤ maxLength) (unbroken : 10 ∉ line)
    (rest : Text) : next (line ++ 10 :: rest) =
      (⟨Text.trim (first :: tail), withoutReturn (Text.trim value)⟩, rest) := by
  have room : (Text.skipBlank (first :: tail)).length ≤ maxLength := by
    rwa [skipBlank_of_visible visible]
  have found : next (line ++ 10 :: rest) = _ := next_of_visible text silent rest
  rwa [List.append_eq, ← List.cons_append, line_of_pair,
    keyAndValue_of_short unequal room (not_mem_value text unbroken) shortValue] at found

theorem after_of_short_pair (text : line.dropWhile isBetweenLines = first :: tail ++ 61 :: value)
    (visible : isBetweenLines first = false) (silent : first ≠ 35) (unequal : 61 ∉ first :: tail)
    (short : (first :: tail).length ≤ maxLength)
    (shortValue : (Text.skipBlank value).length ≤ maxLength) (unbroken : 10 ∉ line)
    (settings : Settings) (rest : Text) :
    after files settings (line ++ 10 :: rest) =
      after files (applied files settings
        ⟨Text.trim (first :: tail), withoutReturn (Text.trim value)⟩) rest := by
  refine after_of_next
    (next_of_short_pair text visible silent unequal short shortValue unbroken rest) ?_
  obtain ⟨others, trimmed⟩ := Text.trim_cons_of_not_blank (isBlank_of_visible visible) tail
  rw [trimmed]
  rfl

/-- A sound line is read by itself. -/
theorem after_of_sound (sound : (Line.ofText line).isSound = true) (unbroken : 10 ∉ line)
    (settings : Settings) (rest : Text) :
    after files settings (line ++ 10 :: rest) =
      after files (afterLine files settings line) rest := by
  have form := Line.form line
  unfold afterLine
  revert sound form
  cases Line.ofText line with
  | blank =>
      intro sound form
      cases form with
      | blank text => exact after_congr (next_of_blank text rest)
  | comment comment =>
      intro sound form
      cases form with
      | comment text =>
          exact after_of_short_comment text (of_decide_eq_true sound) unbroken settings rest
  | bare bare =>
      intro sound
      contradiction
  | pair key value =>
      intro sound form
      simp only [Line.isSound, Bool.and_eq_true, decide_eq_true_eq] at sound
      obtain ⟨⟨keyed, short⟩, shortValue⟩ := sound
      cases form with
      | keyless text => contradiction
      | pair text visible silent unequal =>
          obtain ⟨others, trimmed⟩ :=
            Text.trim_cons_of_not_blank (isBlank_of_visible visible) _
          rw [after_of_short_pair text visible silent unequal short shortValue unbroken, trimmed]
          simp only [Line.setting?, trimmed]
          rfl

theorem after_of_sounds {earlier : List Text}
    (sound : ∀ line ∈ earlier, (Line.ofText line).isSound = true)
    (unbroken : ∀ line ∈ earlier, 10 ∉ line) (settings : Settings) (rest : Text) :
    after files settings (unlines earlier ++ rest) =
      after files (afterLines files settings earlier) rest := by
  induction earlier generalizing settings with
  | nil => rfl
  | cons line earlier ih =>
      obtain ⟨soundHere, sound⟩ := List.forall_mem_cons.mp sound
      obtain ⟨unbrokenHere, unbroken⟩ := List.forall_mem_cons.mp unbroken
      rw [unlines_cons, List.append_assoc, List.cons_append,
        after_of_sound soundHere unbrokenHere, ih sound unbroken]
      rfl

end MeterTelegram.ConfigFile
