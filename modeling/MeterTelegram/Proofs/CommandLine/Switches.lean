import Mathlib.Data.List.Nodup
import MeterTelegram.CommandLine
import MeterTelegram.Proofs.Results

namespace MeterTelegram

/-! What each switch of the command line does, and the setting it is about. -/

/-- The settings that both the config file and the command line can give. The two flags of the
output are given together. -/
inductive Setting where
  | level
  | timestamps
  | format
  | separator
  | signal
  | selected
  | logFile
deriving DecidableEq, Repr

def Setting.Value : Setting → Type
  | .level => Verbosity
  | .timestamps => Timestamps
  | .format => Bool × Bool
  | .separator => UInt8
  | .signal => Int
  | .selected => List Text
  | .logFile => Option Text

def Settings.get (settings : Settings) : (setting : Setting) → setting.Value
  | .level => settings.log.verbosity
  | .timestamps => settings.log.timestamps
  | .format => (settings.json, settings.fields)
  | .separator => settings.separator
  | .signal => settings.signal
  | .selected => settings.selected
  | .logFile => settings.log.file

/-- What the names of the formats ask for: JSON, and fields. -/
def Settings.formatFlags : List (Text × Bool × Bool) :=
  [("hr", false, false), ("json", true, false), ("fields", false, true)]

def Settings.formatFlags? (name : Text) : Option (Bool × Bool) :=
  formatFlags.lookup name

theorem Settings.formatFlags?_eq_none {name : Text} (plain : name ≠ "hr") (json : name ≠ "json")
    (fields : name ≠ "fields") : formatFlags? name = none := by
  simp [formatFlags?, formatFlags, plain, json, fields]

theorem Settings.not_both_of_formatFlags? {name : Text} {json fields : Bool}
    (named : formatFlags? name = some (json, fields)) : ¬ (json = true ∧ fields = true) := by
  have single : ∀ entry ∈ formatFlags, ¬ (entry.2.1 = true ∧ entry.2.2 = true) := by decide
  obtain ⟨front, behind, listed, -⟩ := List.lookup_eq_some_iff.mp named
  exact single (name, json, fields) (by simp [listed])

namespace CommandLine

def Switch.setting? : Switch → Option Setting
  | .level _ => some .level
  | .timestamps _ => some .timestamps
  | .format _ => some .format
  | .separator _ => some .separator
  | .signal _ => some .signal
  | .selected _ => some .selected
  | .logFile _ => some .logFile
  | _ => none

/-- The value a switch gives to a setting. -/
def Switch.value? (switch : Switch) (setting : Setting) : Option setting.Value :=
  match setting, switch with
  | .level, .level verbosity => some verbosity
  | .timestamps, .timestamps value => Timestamps.ofName? value
  | .format, .format value => Settings.formatFlags? value
  | .separator, .separator value => Settings.separator? value
  | .signal, .signal value => Settings.signal? value
  | .selected, .selected value => some (Text.pieces 44 value)
  | .logFile, .logFile value => some (some value)
  | _, _ => none

/-- A switch that is obeyed, with the settings it leaves. -/
inductive Obeyed (settings : Settings) : Switch → Settings → Prop
  | help : Obeyed settings .help settings
  | configFile : Obeyed settings .configFile settings
  | level (verbosity : Verbosity) :
      Obeyed settings (.level verbosity) (settings.setLevel verbosity)
  | timestamps {value : Text} {timestamps : Timestamps}
      (named : Timestamps.ofName? value = some timestamps) :
      Obeyed settings (.timestamps value) (settings.setTimestamps timestamps)
  | listDecoders : Obeyed settings .listDecoders { settings with listsDecoders := true }
  | format {value : Text} {json fields : Bool}
      (named : Settings.formatFlags? value = some (json, fields)) :
      Obeyed settings (.format value) { settings with json, fields }
  | separator {value : Text} {separator : UInt8}
      (single : Settings.separator? value = some separator) :
      Obeyed settings (.separator value) { settings with separator }
  | selected {value : Text} (present : value ≠ [])
      (known : ∀ field ∈ Text.pieces 44 value, Report.isSelectable field = true) :
      Obeyed settings (.selected value) { settings with selected := Text.pieces 44 value }
  | signal {value : Text} {signal : Int} (read : Settings.signal? value = some signal) :
      Obeyed settings (.signal value) { settings with signal }
  | logFile {value : Text} (present : value ≠ []) :
      Obeyed settings (.logFile value) (settings.setLogFile value)
  | endOfOptions : Obeyed settings .endOfOptions settings

variable {settings after : Settings} {switch : Switch} {setting : Setting}

theorem obey_format (settings : Settings) (value : Text) :
    obey settings (.format value) = match Settings.formatFlags? value with
      | some (json, fields) => .ok { settings with json, fields }
      | none => .error (.format value) := by
  by_cases json : value = "json"
  · subst json
    rfl
  by_cases fields : value = "fields"
  · subst fields
    rfl
  by_cases plain : value = "hr"
  · subst plain
    rfl
  have unknown := Settings.formatFlags?_eq_none plain json fields
  simp only [obey, json, fields, plain, if_false, unknown]

theorem obeyed_of_ok (obeyed : obey settings switch = .ok after) :
    Obeyed settings switch after := by
  cases switch with
  | help => cases obeyed; exact .help
  | configFile => cases obeyed; exact .configFile
  | level verbosity => cases obeyed; exact .level _
  | timestamps value =>
      simp only [obey] at obeyed
      split at obeyed
      · rename_i named
        cases obeyed
        exact .timestamps named
      · contradiction
  | listDecoders => cases obeyed; exact .listDecoders
  | format value =>
      rw [obey_format] at obeyed
      split at obeyed
      · rename_i named
        cases obeyed
        exact .format named
      · contradiction
  | separator value =>
      simp only [obey] at obeyed
      split at obeyed
      · rename_i single
        cases obeyed
        exact .separator single
      · contradiction
  | selected value =>
      simp only [obey, select] at obeyed
      split at obeyed
      · contradiction
      · rename_i present
        split at obeyed
        · contradiction
        · rename_i known
          cases obeyed
          exact .selected (by simpa using present) (by simpa using known)
  | signal value =>
      simp only [obey] at obeyed
      split at obeyed
      · rename_i read
        cases obeyed
        exact .signal read
      · contradiction
  | logFile value =>
      simp only [obey] at obeyed
      split at obeyed
      · contradiction
      · rename_i present
        cases obeyed
        exact .logFile (by simpa using present)
  | endOfOptions => cases obeyed; exact .endOfOptions
  | unknown argument => contradiction

theorem Obeyed.ok (obeyed : Obeyed settings switch after) : obey settings switch = .ok after := by
  cases obeyed with
  | help | configFile | level | listDecoders | endOfOptions => rfl
  | timestamps named => simp [obey, named]
  | format named => simp only [obey_format, named]
  | separator single => simp [obey, single]
  | @selected value present known =>
      have clean : (Text.pieces 44 value).find? (fun field => !Report.isSelectable field) = none :=
        List.find?_eq_none.mpr fun field member => by simp [known field member]
      simp [obey, select, present, clean]
  | signal read => simp [obey, read]
  | logFile present => simp [obey, present]

/-- Whether a switch is obeyed does not depend on the settings before it. -/
theorem Obeyed.elsewhere (obeyed : Obeyed settings switch after) (others : Settings) :
    ∃ left, Obeyed others switch left := by
  cases obeyed with
  | help => exact ⟨_, .help⟩
  | configFile => exact ⟨_, .configFile⟩
  | level verbosity => exact ⟨_, .level verbosity⟩
  | timestamps named => exact ⟨_, .timestamps named⟩
  | listDecoders => exact ⟨_, .listDecoders⟩
  | format named => exact ⟨_, .format named⟩
  | separator single => exact ⟨_, .separator single⟩
  | selected present known => exact ⟨_, .selected present known⟩
  | signal read => exact ⟨_, .signal read⟩
  | logFile present => exact ⟨_, .logFile present⟩
  | endOfOptions => exact ⟨_, .endOfOptions⟩

theorem Obeyed.given (obeyed : Obeyed settings switch after)
    (about : switch.setting? = some setting) :
    switch.value? setting = some (after.get setting) := by
  cases obeyed with
  | help | configFile | listDecoders | endOfOptions => cases about
  | level | selected | logFile => cases about; rfl
  | timestamps named => cases about; exact named
  | format named => cases about; exact named
  | separator single => cases about; exact single
  | signal read => cases about; exact read

theorem Obeyed.unchanged (obeyed : Obeyed settings switch after)
    (other : switch.setting? ≠ some setting) : after.get setting = settings.get setting := by
  cases obeyed <;> cases setting <;> first | rfl | exact absurd rfl other

/-- Settings that no switch is about. -/
structure Keeps (settings after : Settings) : Prop where
  needsHelp : after.needsHelp = settings.needsHelp
  configFile : after.configFile = settings.configFile
  telegrams : after.telegrams = settings.telegrams
  telegramFiles : after.telegramFiles = settings.telegramFiles

theorem Keeps.trans {last : Settings} (kept : Keeps settings after)
    (next : Keeps after last) : Keeps settings last :=
  ⟨next.needsHelp.trans kept.needsHelp, next.configFile.trans kept.configFile,
    next.telegrams.trans kept.telegrams, next.telegramFiles.trans kept.telegramFiles⟩

theorem Obeyed.keeps (obeyed : Obeyed settings switch after) : Keeps settings after := by
  cases obeyed <;> exact ⟨rfl, rfl, rfl, rfl⟩

theorem Obeyed.listsDecoders (obeyed : Obeyed settings switch after) :
    after.listsDecoders = (settings.listsDecoders || switch == .listDecoders) := by
  cases obeyed with
  | listDecoders => simp
  | _ => exact (Bool.or_false _).symm

/-- An argument is a word, has a value behind an equals sign or is unknown. -/
theorem Switch.ofArgument_cases (argument : Text) :
    (argument, ofArgument argument) ∈ words ∨
      (∃ name make value, (name, make) ∈ valued ∧ argument = name ++ value ∧
        ofArgument argument = make value) ∨
      ofArgument argument = .unknown argument := by
  unfold ofArgument
  split
  · rename_i switch found
    obtain ⟨front, behind, listed, -⟩ := List.lookup_eq_some_iff.mp found
    exact .inl (by simp [listed])
  · split
    · rename_i name make found
      have starts := List.find?_some found
      obtain ⟨value, rfl⟩ : name <+: argument := List.isPrefixOf_iff_prefix.mp starts
      exact .inr (.inl ⟨name, make, value, List.mem_of_find?_eq_some found, rfl, by simp⟩)
    · exact .inr (.inr rfl)

/-- What stands behind the equals sign of an option is its value, whatever it is. -/
theorem Switch.ofArgument_valued {name : Text} {make : Text → Switch}
    (member : (name, make) ∈ valued) (value : Text) : ofArgument (name ++ value) = make value := by
  have begins : name <+: name ++ value := List.prefix_append name value
  have unlisted : words.lookup (name ++ value) = none := by
    have apart : ∀ option ∈ valued, ∀ word ∈ words, option.1.isPrefixOf word.1 = false := by
      decide +kernel
    refine List.lookup_eq_none_iff.mpr fun word listed => bne_iff_ne.mpr fun same => ?_
    rw [same, List.isPrefixOf_iff_prefix.symm, apart _ member _ listed] at begins
    contradiction
  obtain ⟨found, search⟩ : ∃ found,
      valued.find? (fun option => (name ++ value).startsWith option.1) = some found :=
    Option.isSome_iff_exists.mp
      (List.find?_isSome.mpr ⟨_, member, List.isPrefixOf_iff_prefix.mpr begins⟩)
  -- No name of an option begins another one, so the one that is found is the one that was given.
  have only : ∀ option ∈ valued, ∀ other ∈ valued,
      option.1.isPrefixOf other.1 = true → option.1 = other.1 := by
    decide +kernel
  have distinct : (valued.map Prod.fst).Nodup := by decide +kernel
  have listed := List.mem_of_find?_eq_some search
  have starts : found.1 <+: name ++ value :=
    List.isPrefixOf_iff_prefix.mp (List.find?_some search :)
  have same : found.1 = name := by
    rcases List.prefix_or_prefix_of_prefix starts begins with within | around
    · exact only _ listed _ member (List.isPrefixOf_iff_prefix.mpr within)
    · exact (only _ member _ listed (List.isPrefixOf_iff_prefix.mpr around)).symm
  obtain rfl := List.inj_on_of_nodup_map distinct listed member same
  rw [ofArgument, unlisted]
  simp [search]

def Switch.takesValue : Switch → Bool
  | .configFile | .timestamps _ | .format _ | .separator _ | .selected _ | .signal _ | .logFile _ =>
      true
  | _ => false

theorem Switch.takesValue_of_valued {name : Text} {make : Text → Switch}
    (member : (name, make) ∈ valued) (value : Text) : (make value).takesValue = true := by
  simp only [valued, List.mem_cons, Prod.mk.injEq, List.not_mem_nil, or_false] at member
  rcases member with ⟨-, rfl⟩ | ⟨-, rfl⟩ | ⟨-, rfl⟩ | ⟨-, rfl⟩ | ⟨-, rfl⟩ | ⟨-, rfl⟩ | ⟨-, rfl⟩ <;>
    rfl

theorem Switch.mem_words {argument : Text} (given : ofArgument argument = switch)
    (plain : switch.takesValue = false) (known : switch ≠ .unknown argument) :
    (argument, switch) ∈ words := by
  subst given
  rcases ofArgument_cases argument with listed | ⟨name, make, value, member, -, made⟩ | unknown
  · exact listed
  · rw [made, takesValue_of_valued member value] at plain
    contradiction
  · contradiction

end CommandLine

end MeterTelegram
