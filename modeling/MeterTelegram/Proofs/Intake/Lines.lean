import MeterTelegram.Proofs.ConfigFile.Overreach
import MeterTelegram.Proofs.Hex.Separators
import MeterTelegram.Proofs.TelegramFile
import MeterTelegram.Proofs.Text.Trim

namespace MeterTelegram

/-! A line that gives a telegram, among the lines of a telegram file or of a config file. A config
file trims the text behind the equals sign. A telegram file trims the line and drops the bars: the
blanks behind the equals sign stay, and a tab among them is no separator. -/

namespace TelegramFile

variable {files : Directory} {file name text line telegram content : Text}
  {before earlier later added : List Text}

theorem alike_withoutBars (whole : 0 ∉ text) : Hex.Alike (withoutBars text) text := by
  have bar : Hex.isSeparator 124 = true := rfl
  by_cases barred : Barred text
  · obtain ⟨inner, rfl⟩ := barred
    have wholeBehind : 0 ∉ inner ++ [124] := List.not_mem_of_not_mem_cons whole
    have wholeInside : 0 ∉ inner := fun member => wholeBehind (List.mem_append_left _ member)
    rw [withoutBars_barred]
    exact (Hex.alike_concat bar wholeInside).symm.trans (Hex.alike_cons bar (inner ++ [124])).symm
  · rw [withoutBars_unbarred barred]
    exact ⟨rfl, rfl⟩

theorem isSeparator_of_margin (tabless : 9 ∉ text.margin) :
    ∀ byte ∈ text.margin, Hex.isSeparator byte = true := by
  intro byte member
  have blank : byte = 32 ∨ byte = 9 := by
    simpa [Text.isBlank] using Text.margin_blank byte member
  obtain rfl | rfl := blank
  · rfl
  · contradiction

/-- What a line keeps of a text: the blanks behind it are dropped, and bars around the rest. -/
def kept (text : Text) : Text :=
  withoutBars text.trimEnd

theorem whole_trimEnd (whole : 0 ∉ text) : 0 ∉ text.trimEnd := by
  intro member
  exact whole (Text.mem_of_mem_trimEnd member)

theorem alike_kept (whole : 0 ∉ text) (present : text.trim ≠ []) :
    Hex.Alike (kept text) (text.margin ++ text.trim) := by
  rw [← Text.trimEnd_eq present]
  exact alike_withoutBars (whole_trimEnd whole)

theorem kept_of_blank (empty : text.trim = []) : kept text = [] := by
  rw [kept, Text.trimEnd_of_trim empty]
  rfl

/-- A tab in front of a text keeps a line from being a telegram, and nothing else makes it differ
from the trimmed text. -/
theorem isTelegram_kept_iff (whole : 0 ∉ text) :
    Hex.isTelegram (kept text) = true ↔ Hex.isTelegram text.trim = true ∧ 9 ∉ text.margin := by
  by_cases present : text.trim = []
  · -- Nothing is kept of blanks, not even their tabs.
    have refused : Hex.isTelegram [] = false := rfl
    simp [present, kept_of_blank present, refused]
  · have alike := alike_kept whole present
    by_cases tab : 9 ∈ text.margin
    · have wholeToo := whole_trimEnd whole
      rw [Text.trimEnd_eq present] at wholeToo
      rw [alike.accepted, Hex.isTelegram_of_tab wholeToo (List.mem_append_left _ tab)]
      simp [tab]
    · rw [(alike.trans (Hex.alike_append (isSeparator_of_margin tab) text.trim)).accepted]
      simp [tab]

theorem read_kept (whole : 0 ∉ text) (accepted : Hex.isTelegram (kept text) = true) :
    Hex.read (kept text) = Hex.read text.trim := by
  obtain ⟨telegram, tabless⟩ := (isTelegram_kept_iff whole).mp accepted
  have present : text.trim ≠ [] := by
    intro empty
    rw [empty] at telegram
    contradiction
  have spaces := Hex.alike_append (isSeparator_of_margin tabless) text.trim
  exact ((alike_kept whole present).trans spaces).read

theorem trim_line (text : Text) : Text.trim (start ++ text) = start ++ text.trimEnd := by
  have visible : Text.isBlank 116 = false := rfl
  have visibleEnd : Text.isBlank 61 = false := rfl
  have first : start ++ text = 116 :: (start.tail ++ text) := rfl
  rw [first, Text.trim_of_visible visible]
  exact congrArg (116 :: ·) (Text.trimEnd_append visibleEnd start.tail.dropLast text)

theorem telegram?_line (file text : Text) :
    telegram? file (Text.trim (start ++ text)) =
      if Hex.isTelegram (kept text) then .ok (some (kept text))
      else .error (.notHex file (Text.trim (start ++ text))) := by
  rw [trim_line, telegram?_of_start, kept]

theorem telegram?_of_names (file : Text) (names : Names line telegram) :
    telegram? file line = .ok (some telegram) := by
  obtain ⟨text, rfl⟩ := names.starts
  obtain ⟨rfl, hex⟩ := names_start_iff.mp names
  rw [telegram?_of_start, if_pos (Hex.isTelegram_iff.mpr hex)]

/-- Lines that name telegrams are collected, and the lines behind them are looked at. -/
theorem collect_append (named : List.Forall₂ Names (relevant earlier) added) (file : Text)
    (before later : List Text) :
    collect file before (earlier ++ later) = collect file (before ++ added) later := by
  induction earlier generalizing before added with
  | nil =>
      cases named
      rw [List.nil_append, List.append_nil]
  | cons line earlier ih =>
      rw [relevant_cons] at named
      rw [List.cons_append, collect]
      cases looked : isRelevant (Text.trim line) with
      | false =>
          rw [looked, if_neg Bool.false_ne_true] at named
          rw [telegram?_of_irrelevant looked]
          exact ih named before
      | true =>
          rw [looked, if_pos rfl] at named
          cases named with
          | @cons _ telegram _ others names named =>
              rw [telegram?_of_names file names]
              have collected := ih named (before ++ [telegram])
              rwa [List.append_assoc] at collected

theorem withoutReturn_line (steady : 13 ∉ text) :
    TextLines.withoutReturn (start ++ text) = start ++ text := by
  have absent : 13 ∉ start ++ text := by
    rw [List.mem_append, not_or]
    exact ⟨by decide, steady⟩
  exact if_neg fun last => absurd (List.mem_of_getLast? last) absent

/-- A file is collected up to a line, then that line and those behind it. -/
theorem load_at_line (found : files.read name = .ok content)
    (parts : TextLines.lines content = earlier ++ (start ++ text) :: later)
    (short : ∀ line ∈ TextLines.lines content, line.length ≤ TextLines.maxLength)
    (steady : 13 ∉ text)
    (named : List.Forall₂ Names (relevant (earlier.map TextLines.withoutReturn)) added)
    (before : List Text) :
    ((load files name before).telegrams, (load files name before).fault) =
      collect name (before ++ added) ((start ++ text) :: TextLines.tidied later) := by
  have readable := TextLines.isRead_iff.mpr (.inl short)
  have front : (start ++ text).isEmpty = false := rfl
  have tidied : TextLines.tidied (TextLines.clipped content) =
      TextLines.tidied earlier ++ (start ++ text) :: TextLines.tidied later := by
    rw [TextLines.clipped_eq short, parts, TextLines.tidied_append]
    simp [TextLines.tidied, withoutReturn_line steady, front]
  rw [← relevant_of_tidied] at named
  rw [← collect_append named name before, ← tidied]
  simp only [load, TextLines.load_of_read found readable]
  obtain ⟨telegrams, fault⟩ := collect name before (TextLines.tidied (TextLines.clipped content))
  cases fault <;> rfl

end TelegramFile

namespace ConfigFile

variable {files : Directory} {name content text : Text} {earlier later : List Text}

theorem ofText_telegramLine (text : Text) :
    Line.ofText (TelegramFile.start ++ text) = .pair "telegram" text := by
  have spelled : TelegramFile.start ++ text =
      116 :: 101 :: 108 :: 101 :: 103 :: 114 :: 97 :: 109 :: 61 :: text := rfl
  rw [spelled]
  simp [Line.ofText, isBetweenLines, beforeEquals, behindEquals]
  rfl

theorem isSound_telegramLine (short : text.length < 4000) :
    (Line.ofText (TelegramFile.start ++ text)).isSound = true := by
  have limit : maxLength = 4096 := rfl
  have room : (Text.skipBlank text).length ≤ text.length := (Text.skipBlank_suffix text).length_le
  have roomValue : (Text.skipBlank text).length ≤ maxLength := by omega
  rw [ofText_telegramLine]
  exact decide_eq_true roomValue

theorem withoutReturn_trim (steady : 13 ∉ text) : withoutReturn text.trim = text.trim := by
  apply if_neg
  intro last
  exact steady (Text.mem_of_mem_trim (List.mem_of_getLast? last))

theorem afterLine_telegram (steady : 13 ∉ text) (files : Directory) (settings : Settings) :
    afterLine files settings (TelegramFile.start ++ text) =
      (settings.giveTelegram files text.trim).settings := by
  have key : Text.trim "telegram" = "telegram" := rfl
  rw [afterLine, ofText_telegramLine]
  simp only [Line.setting?, key, withoutReturn_trim steady]
  rfl

/-- A file is read up to a line, then that line and those behind it. -/
theorem load_at_line (found : files.read name = .ok content)
    (parts : lines content = earlier ++ (TelegramFile.start ++ text) :: later)
    (sound : ∀ line ∈ earlier, (Line.ofText line).isSound = true) (short : text.length < 4000)
    (steady : 13 ∉ text) (settings : Settings) :
    (load files name settings).outcome =
      .ok (after files
        ((afterLines files settings earlier).giveTelegram files text.trim).settings
        (unlines later)) := by
  have unbroken : ∀ line ∈ earlier ++ (TelegramFile.start ++ text) :: later, 10 ∉ line := by
    rw [← parts]
    exact unbroken_lines content
  have here := unbroken (TelegramFile.start ++ text) (by simp)
  rw [load_outcome found, ← unlines_lines, parts, unlines_append,
    after_of_sounds sound (fun line member => unbroken line (List.mem_append_left _ member)),
    unlines_cons, after_of_sound (isSound_telegramLine short) here, afterLine_telegram steady]

end ConfigFile

end MeterTelegram
