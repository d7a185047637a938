import MeterTelegram.Proofs.Directory
import MeterTelegram.Proofs.Hex
import MeterTelegram.Proofs.Text.Scan
import MeterTelegram.Settings

namespace MeterTelegram

/-! What settings can be, whatever values they are given, and what a refused value leaves. -/

theorem Text.head?_trim {text : Text} {byte : UInt8} (first : text.trim.head? = some byte) :
    isBlank byte = false := by
  obtain ⟨blanks, whole⟩ : text.trim <+: text.dropWhile isBlank :=
    List.rdropWhile_prefix isBlank _
  have front : (text.dropWhile isBlank).head? = some byte := by
    rw [← whole, List.head?_append, first, Option.some_or]
  simpa [front] using List.head?_dropWhile_not isBlank text

theorem Text.getLast?_trim {text : Text} {byte : UInt8} (last : text.trim.getLast? = some byte) :
    isBlank byte = false := by
  rw [trim, List.getLast?_reverse] at last
  simpa [last] using List.head?_dropWhile_not isBlank (text.dropWhile isBlank).reverse

/-- At most one of the levels is asked for. -/
def Verbosity.Exclusive (verbosity : Verbosity) : Prop :=
  [verbosity.silent, verbosity.verbose, verbosity.debug, verbosity.trace].count true ≤ 1

instance (verbosity : Verbosity) : Decidable verbosity.Exclusive :=
  inferInstanceAs (Decidable (_ ≤ _))

theorem Verbosity.exclusive_of_ofName {name : Text} {verbosity : Verbosity}
    (named : ofName? name = some verbosity) : verbosity.Exclusive := by
  unfold ofName? at named
  split_ifs at named <;> cases named <;> decide

namespace Settings

/-- A telegram as it is kept: trimmed hexadecimal text with digits for whole bytes. -/
structure KeptTelegram (text : Text) : Prop where
  present : text ≠ []
  first : ∀ byte, text.head? = some byte → Text.isBlank byte = false
  last : ∀ byte, text.getLast? = some byte → Text.isBlank byte = false
  plain : Hex.Plain text.shown
  digits : Hex.digits text.shown ≠ []
  even : (Hex.digits text.shown).length % 2 = 0

structure Sound (files : Directory) (settings : Settings) : Prop where
  level : settings.log.verbosity.Exclusive
  format : ¬ (settings.json = true ∧ settings.fields = true)
  signal : -200 ≤ settings.signal ∧ settings.signal ≤ 100
  logFile : ∀ name, settings.log.file = some name → name ≠ []
  telegrams : ∀ text ∈ settings.telegrams, KeptTelegram text
  telegramFiles : ∀ name ∈ settings.telegramFiles, files.isFile name = true

variable {files : Directory} {settings : Settings} {text value : Text} {source : Source}

theorem keptTelegram_of_isTelegram (accepted : Hex.isTelegram text.trim = true) :
    KeptTelegram text.trim := by
  obtain ⟨plain, digits, even⟩ := Hex.isTelegram_iff.mp accepted
  refine ⟨?_, fun _ => Text.head?_trim, fun _ => Text.getLast?_trim, plain, digits, even⟩
  intro empty
  rw [empty] at digits
  exact digits rfl

/-- What a text names does not depend on what stands in the files. -/
theorem Source.ofText?_put {path : List Text} {old : Text}
    (known : files.node? path = some (.file old)) (text content : Text) :
    ofText? (files.put path (.file content)) text = ofText? files text := by
  simp [ofText?, Directory.isFile_put_file known]

theorem signal?_bounds {signal : Int} (read : signal? value = some signal) :
    -200 ≤ signal ∧ signal ≤ 100 := by
  unfold signal? at read
  split at read
  · contradiction
  · split at read
    · cases read
      omega
    · split at read
      · split at read
        · rename_i bounds
          cases read
          exact bounds
        · contradiction
      · contradiction

/-! What each way to change the settings preserves -/

theorem sound_initial (files : Directory) (config : Option Text) :
    Sound files { configFile := config } where
  level := show Verbosity.Exclusive {} by decide
  format := show ¬ (false = true ∧ false = true) by decide
  signal := show (-200 : Int) ≤ 0 ∧ (0 : Int) ≤ 100 by decide
  logFile name given := by contradiction
  telegrams text member := by contradiction
  telegramFiles name member := by contradiction

theorem Sound.setLevel {verbosity : Verbosity} (sound : Sound files settings)
    (exclusive : verbosity.Exclusive) : Sound files (settings.setLevel verbosity) :=
  { sound with level := exclusive }

theorem Sound.setLogFile (sound : Sound files settings) (present : value ≠ []) :
    Sound files (settings.setLogFile value) :=
  { sound with
    logFile := by
      rintro name ⟨⟩
      exact present }

theorem Sound.addSource (sound : Sound files settings)
    (found : Source.ofText? files text = some source) :
    Sound files (settings.addSource source) := by
  unfold Source.ofText? at found
  dsimp only at found
  split at found
  · rename_i accepted
    cases found
    refine { sound with telegrams := List.forall_mem_append.mpr ⟨sound.telegrams, ?_⟩ }
    exact List.forall_mem_singleton.mpr (keptTelegram_of_isTelegram accepted)
  · split at found
    · rename_i isFile
      cases found
      refine { sound with telegramFiles := List.forall_mem_append.mpr ⟨sound.telegramFiles, ?_⟩ }
      exact List.forall_mem_singleton.mpr isFile
    · contradiction

/-- Each format writes both flags, so that none is left from the format before it. -/
theorem Sound.giveFormat (sound : Sound files settings) (value : Text) :
    Sound files (settings.giveFormat value).settings := by
  unfold Settings.giveFormat
  split_ifs with plain json fields
  · exact { sound with format := show ¬ (false = true ∧ false = true) by decide }
  · exact { sound with format := show ¬ (true = true ∧ false = true) by decide }
  · exact { sound with format := show ¬ (false = true ∧ true = true) by decide }
  · exact sound

theorem Sound.give (sound : Sound files settings) (value : Text) (key : Key) :
    Sound files (settings.give files value key).settings := by
  cases key with
  | level =>
      simp only [Settings.give, giveLevel]
      split
      · rename_i named
        exact sound.setLevel (Verbosity.exclusive_of_ofName named)
      · exact sound
  | timestamps =>
      simp only [Settings.give, giveTimestamps]
      split
      · exact { sound with }
      · exact sound
  | logFile =>
      simp only [Settings.give, giveLogFile]
      split
      · exact sound
      · rename_i present
        exact sound.setLogFile (by simpa using present)
  | format => exact sound.giveFormat value
  | separator =>
      simp only [Settings.give, giveSeparator]
      split
      · exact { sound with }
      · exact sound
  | signal =>
      simp only [Settings.give, giveSignal]
      split
      · rename_i read
        exact { sound with signal := signal?_bounds read }
      · exact sound
  | selected =>
      simp only [Settings.give, giveSelected]
      split
      · exact { sound with }
      · exact sound
  | telegram =>
      simp only [Settings.give, giveTelegram]
      split
      · rename_i found
        exact sound.addSource found
      · exact sound

theorem give_accepts_or_keeps {key : Key} (other : key ≠ .selected) :
    (settings.give files value key).complaints = [] ∨
      (settings.give files value key).settings = settings := by
  cases key with
  | level => simp only [give, giveLevel]; split <;> simp [accept, refuse]
  | timestamps => simp only [give, giveTimestamps]; split <;> simp [accept, refuse]
  | logFile => simp only [give, giveLogFile]; split <;> simp [accept]
  | format => simp only [give, giveFormat]; split_ifs <;> simp [accept, refuse]
  | separator => simp only [give, giveSeparator]; split <;> simp [accept, refuse]
  | signal => simp only [give, giveSignal]; split <;> simp [accept, refuse]
  | selected => contradiction
  | telegram => simp only [give, giveTelegram]; split <;> simp [accept, refuse]

/-- A value that is complained about changes at most the selected fields. -/
theorem give_of_complaint {key : Key}
    (complained : (settings.give files value key).complaints ≠ []) :
    (settings.give files value key).settings =
      { settings with selected := (settings.give files value key).settings.selected } := by
  by_cases fields : key = .selected
  · subst fields
    simp only [give, giveSelected]
    split <;> rfl
  · rcases give_accepts_or_keeps fields with accepted | kept
    · contradiction
    · rw [kept]

end Settings

end MeterTelegram
