import MeterTelegram.Proofs.CommandLine.Switches
import MeterTelegram.Proofs.Settings
import MeterTelegram.Proofs.Settings.Signal

namespace MeterTelegram

/-! Values that a config file gives to settings. A value replaces the one before it, only fields
are selected once; a text that is no value of the setting changes nothing. -/

variable {files : Directory} {settings : Settings} {setting other : Setting} {text : Text}

theorem Verbosity.isSome_ofName? : (ofName? text).isSome ↔
    text ∈ (["silent", "normal", "verbose", "debug", "trace"] : List Text) := by
  simp only [ofName?, List.mem_cons, List.not_mem_nil, or_false]
  split_ifs <;> simp_all

theorem Timestamps.isSome_ofName? : (ofName? text).isSome ↔
    text ∈ (["never", "always", "important"] : List Text) := by
  simp only [ofName?, List.mem_cons, List.not_mem_nil, or_false]
  split_ifs <;> simp_all

theorem Settings.isSome_formatFlags? : (formatFlags? text).isSome ↔
    text ∈ (["hr", "json", "fields"] : List Text) := by
  rw [formatFlags?, List.lookup_isSome_iff]
  simp only [formatFlags, List.mem_cons, List.not_mem_nil, or_false, exists_eq_or_imp,
    exists_eq_left, beq_iff_eq]

theorem Settings.isSome_separator? : (separator? text).isSome ↔ text.length = 1 := by
  unfold separator?
  split
  · simp
  · rename_i unlike
    simp only [Option.isSome_none, Bool.false_eq_true, false_iff, List.length_eq_one_iff]
    exact fun ⟨byte, single⟩ => unlike byte single

theorem Settings.isSome_signal? : (signal? text).isSome ↔
    (∃ strength, SpellsSignal text.shown strength) ∨ text.head? = some 0 := by
  simp only [Option.isSome_iff_exists, signal?_eq_some, exists_or, exists_and_left,
    exists_eq, and_true]

/-- Fields that are selected; there has to be one. -/
def Settings.selection? (text : Text) : Option (List Text) :=
  if (Text.pieces 44 text).isEmpty then none else some (Text.pieces 44 text)

def Settings.logFile? (text : Text) : Option (Option Text) :=
  if text.isEmpty then none else some (some text)

theorem Settings.isSome_selection? : (selection? text).isSome ↔ ∃ byte ∈ text, byte ≠ 44 := by
  unfold selection?
  split
  · rename_i nothing
    simpa using Text.pieces_eq_nil.mp (List.isEmpty_iff.mp nothing)
  · rename_i named
    rw [List.isEmpty_iff, Text.pieces_eq_nil] at named
    simpa using named

theorem Settings.isSome_logFile? : (logFile? text).isSome ↔ text ≠ [] := by
  unfold logFile?
  split <;> simp_all

namespace Setting

/-- The value that a text is for a setting. -/
def read? (setting : Setting) (text : Text) : Option setting.Value :=
  match setting with
  | .level => Verbosity.ofName? text
  | .timestamps => Timestamps.ofName? text
  | .format => Settings.formatFlags? text
  | .separator => Settings.separator? text
  | .signal => Settings.signal? text
  | .selected => Settings.selection? text
  | .logFile => Settings.logFile? text

/-- The texts that are values of a setting. -/
def Allows (setting : Setting) (text : Text) : Prop :=
  match setting with
  | .level => text ∈ (["silent", "normal", "verbose", "debug", "trace"] : List Text)
  | .timestamps => text ∈ (["never", "always", "important"] : List Text)
  | .format => text ∈ (["hr", "json", "fields"] : List Text)
  | .separator => text.length = 1
  | .signal => (∃ strength, Settings.SpellsSignal text.shown strength) ∨ text.head? = some 0
  | .selected => ∃ byte ∈ text, byte ≠ 44
  | .logFile => text ≠ []

theorem isSome_read? : (setting.read? text).isSome ↔ setting.Allows text := by
  cases setting with
  | level => exact Verbosity.isSome_ofName?
  | timestamps => exact Timestamps.isSome_ofName?
  | format => exact Settings.isSome_formatFlags?
  | separator => exact Settings.isSome_separator?
  | signal => exact Settings.isSome_signal?
  | selected => exact Settings.isSome_selection?
  | logFile => exact Settings.isSome_logFile?

theorem read?_eq_none : setting.read? text = none ↔ ¬ setting.Allows text := by
  rw [← isSome_read?, Option.isSome_iff_ne_none, not_not]

theorem ne_nil_of_read {fields : List Text} (read : Setting.selected.read? text = some fields) :
    fields ≠ [] := by
  simp only [read?, Settings.selection?] at read
  split at read
  · contradiction
  · rename_i present
    obtain rfl := Option.some.inj read
    simpa using present

end Setting

namespace Settings

def put (settings : Settings) : (setting : Setting) → setting.Value → Settings
  | .level, verbosity => settings.setLevel verbosity
  | .timestamps, timestamps => settings.setTimestamps timestamps
  | .format, (json, fields) => { settings with json, fields }
  | .separator, separator => { settings with separator }
  | .signal, signal => { settings with signal }
  | .selected, selected => { settings with selected }
  | .logFile, file => { settings with log := { settings.log with file } }

@[simp]
theorem get_put (settings : Settings) (setting : Setting) (value : setting.Value) :
    (settings.put setting value).get setting = value := by
  cases setting <;> rfl

theorem get_put_of_ne (different : other ≠ setting) (value : setting.Value) :
    (settings.put setting value).get other = settings.get other := by
  cases setting <;> cases other <;> first | rfl | contradiction

theorem keeps_put (settings : Settings) (setting : Setting) (value : setting.Value) :
    CommandLine.Keeps settings (settings.put setting value) ∧
      (settings.put setting value).listsDecoders = settings.listsDecoders := by
  cases setting <;> exact ⟨⟨rfl, rfl, rfl, rfl⟩, rfl⟩

theorem get_addSource (settings : Settings) (source : Source) (setting : Setting) :
    (settings.addSource source).get setting = settings.get setting := by
  cases source <;> cases setting <;> rfl

theorem giveFormat_eq (settings : Settings) (value : Text) :
    settings.giveFormat value = match formatFlags? value with
      | some (json, fields) => { settings with json, fields }.accept
      | none => settings.refuse (.format value) := by
  by_cases plain : value = "hr"
  · subst plain
    rfl
  by_cases json : value = "json"
  · subst json
    rfl
  by_cases fields : value = "fields"
  · subst fields
    rfl
  have unknown := formatFlags?_eq_none plain json fields
  simp only [giveFormat, json, fields, plain, if_false, unknown]

def Key.setting? : Key → Option Setting
  | .level => some .level
  | .timestamps => some .timestamps
  | .logFile => some .logFile
  | .format => some .format
  | .separator => some .separator
  | .signal => some .signal
  | .selected => some .selected
  | .telegram => none

theorem give_setting {key : Key} (about : key.setting? = some setting)
    (free : setting = .selected → settings.selected = []) :
    (settings.give files text key).settings =
      (setting.read? text).elim settings (settings.put setting) := by
  cases key with
  | level =>
      cases about
      simp only [give, giveLevel, Setting.read?]
      cases Verbosity.ofName? text <;> rfl
  | timestamps =>
      cases about
      simp only [give, giveTimestamps, Setting.read?]
      cases Timestamps.ofName? text <;> rfl
  | logFile =>
      cases about
      simp only [give, giveLogFile, Setting.read?, logFile?]
      split <;> rfl
  | format =>
      cases about
      rw [give, giveFormat_eq, Setting.read?]
      cases formatFlags? text <;> rfl
  | separator =>
      cases about
      simp only [give, giveSeparator, Setting.read?]
      cases separator? text <;> rfl
  | signal =>
      cases about
      simp only [give, giveSignal, Setting.read?]
      cases signal? text <;> rfl
  | selected =>
      cases about
      have empty := free rfl
      simp only [give, giveSelected, Setting.read?, selection?, empty, List.isEmpty_nil, if_true]
      split
      · rename_i nothing
        rw [List.isEmpty_iff.mp nothing, ← empty]
        rfl
      · rfl
  | telegram => contradiction

theorem give_selected_again (chosen : settings.selected ≠ []) :
    (settings.give files text .selected).settings = settings := by
  simp [give, giveSelected, chosen, refuse]

theorem give_telegram : (settings.give files text .telegram).settings =
    (Source.ofText? files text).elim settings settings.addSource := by
  simp only [give, giveTelegram]
  cases Source.ofText? files text <;> rfl

end Settings

end MeterTelegram
