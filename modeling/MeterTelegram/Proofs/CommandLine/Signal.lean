import MeterTelegram.Proofs.CommandLine.Invariant
import MeterTelegram.Proofs.CommandLine.LogOptions
import MeterTelegram.Proofs.Settings.Signal

namespace MeterTelegram.CommandLine

/-! The signal strength is read alike in a config file and on the command line. There a text that
spells none is passed over, here it ends the reading. -/

variable {files : Directory} {settings configured : Settings} {arguments front behind : List Text}
  {text : Text} {strength other : Int}

open Settings (SpellsSignal)

def signalOption : Text := "--rssi="

theorem ofArgument_signal (text : Text) :
    Switch.ofArgument (signalOption ++ text) = .signal text := by
  have member : (signalOption, Switch.signal) ∈ Switch.valued := by
    simp [Switch.valued, signalOption]
  exact Switch.ofArgument_valued member text

theorem isOption_signal (text : Text) : isOption (signalOption ++ text) = true := by
  have begins : signalOption = 45 :: signalOption.tail := by decide +kernel
  rw [begins]
  rfl

theorem strength_unique (whole : 0 ∉ text) (spelled : SpellsSignal text strength)
    (alsoSpelled : SpellsSignal text other) : other = strength := by
  have read := (Settings.signal?_of_whole whole).mpr spelled
  have reread := (Settings.signal?_of_whole whole).mpr alsoSpelled
  exact Option.some.inj (reread.symm.trans read)

/-- Where all options in front are obeyed, the reading goes on from the settings they left. -/
theorem parse_of_front {before : Settings} (loaded : Configured files arguments configured)
    (split : arguments.map Text.shown = front ++ behind) (present : behind ≠ [])
    (goOn : ∀ option ∈ front, isOption option = true ∧ (Switch.ofArgument option).ends = false)
    (obeyed : obeyAll configured (front.map Switch.ofArgument) = .ok before) :
    (parse files arguments).outcome = readArguments files before behind := by
  have given : arguments ≠ [] := by
    rintro rfl
    exact List.append_ne_nil_of_right_ne_nil front present split.symm
  rw [parse_of_configured given loaded, split, readOptions_append goOn, obeyed]
  rfl

/-- The texts that spell a strength from -200 to 100 set it in both places, to the number they
spell. With any other text the config file keeps the settings and complains, and the option is
a fault that ends the reading, wherever it stands among the options. -/
theorem signal_readAlike (whole : 0 ∉ text) (settings : Settings) :
    Switch.ofArgument (signalOption ++ text) = .signal text ∧
    (∀ strength, SpellsSignal text strength →
      settings.giveSignal text = { settings with signal := strength }.accept ∧
      obey settings (.signal text) = .ok { settings with signal := strength } ∧
      ∀ other, SpellsSignal text other → other = strength) ∧
    ((∀ strength, ¬ SpellsSignal text strength) →
      settings.giveSignal text = settings.refuse (.signal text) ∧
      obey settings (.signal text) = .error (.signal text)) ∧
    ∀ files arguments configured front behind, Configured files arguments configured →
      arguments.map Text.shown = front ++ (signalOption ++ text) :: behind →
      (∀ option ∈ front, isOption option = true ∧ (Switch.ofArgument option).ends = false) →
      obeyAll configured (front.map Switch.ofArgument) = .ok settings →
        (∀ strength, SpellsSignal text strength →
          (parse files arguments).outcome =
            readArguments files { settings with signal := strength } behind) ∧
        ((∀ strength, ¬ SpellsSignal text strength) →
          (parse files arguments).outcome = .error (.signal text)) := by
  have accepted : ∀ strength, SpellsSignal text strength →
      obey settings (.signal text) = .ok { settings with signal := strength } :=
    fun strength spelled => (Obeyed.signal ((Settings.signal?_of_whole whole).mpr spelled)).ok
  have refused : (∀ strength, ¬ SpellsSignal text strength) →
      obey settings (.signal text) = .error (.signal text) := by
    intro unspelled
    simp only [obey, (Settings.signal?_eq_none whole).mpr unspelled]
  refine ⟨ofArgument_signal text, fun strength spelled => ⟨?_, accepted strength spelled,
    fun other => strength_unique whole spelled⟩, fun unspelled => ⟨?_, refused unspelled⟩, ?_⟩
  · rw [Settings.giveSignal, (Settings.signal?_of_whole whole).mpr spelled]
  · rw [Settings.giveSignal, (Settings.signal?_eq_none whole).mpr unspelled]
  · intro files arguments configured front behind loaded split goOn obeyed
    have reading := parse_of_front loaded split (List.cons_ne_nil _ _) goOn obeyed
    rw [readArguments, readOptions_of_switch (isOption_signal text) (ofArgument_signal text) rfl]
      at reading
    refine ⟨fun strength spelled => ?_, fun unspelled => ?_⟩
    · rw [reading, accepted strength spelled]
      rfl
    · rw [reading, refused unspelled]
      rfl

/-- White space, a sign and zeros are read over; a fraction is no strength. -/
theorem signal_readAlike_zeros :
    (0 ∉ Text.ofString "\t -0071" ∧
      (parse ⟨[]⟩ ["--silent", "--rssi=\t -0071"]).outcome =
        .ok { signal := -71, log := { verbosity := { silent := true } } }) ∧
    (0 ∉ Text.ofString "-71.5" ∧
      (parse ⟨[]⟩ ["--silent", "--rssi=-71.5"]).outcome = .error (.signal "-71.5")) := by
  have spelled : SpellsSignal "\t -0071" (-71) :=
    (Settings.signal?_of_whole (by decide +kernel)).mp (by decide +kernel)
  have unspelled : ∀ strength, ¬ SpellsSignal "-71.5" strength :=
    (Settings.signal?_eq_none (by decide +kernel)).mp (by decide +kernel)
  have goOn : ∀ option ∈ (["--silent"] : List Text),
      isOption option = true ∧ (Switch.ofArgument option).ends = false := by
    decide +kernel
  have whole : 0 ∉ Text.ofString "\t -0071" := by decide +kernel
  have wholeToo : 0 ∉ Text.ofString "-71.5" := by decide +kernel
  obtain ⟨-, -, -, run⟩ := signal_readAlike whole { log := { verbosity := { silent := true } } }
  obtain ⟨-, -, -, refusedRun⟩ :=
    signal_readAlike wholeToo { log := { verbosity := { silent := true } } }
  refine ⟨⟨whole, ?_⟩, wholeToo, ?_⟩
  · exact (run ⟨[]⟩ ["--silent", "--rssi=\t -0071"] {} ["--silent"] []
      ⟨none, by decide +kernel, rfl⟩ (by decide +kernel) goOn (by decide +kernel)).1 _ spelled
  · exact (refusedRun ⟨[]⟩ ["--silent", "--rssi=-71.5"] {} ["--silent"] []
      ⟨none, by decide +kernel, rfl⟩ (by decide +kernel) goOn (by decide +kernel)).2 unspelled

end MeterTelegram.CommandLine
