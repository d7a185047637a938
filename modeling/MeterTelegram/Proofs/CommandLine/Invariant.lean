import MeterTelegram.Proofs.CommandLine.Division
import MeterTelegram.Proofs.CommandLine.Switches
import MeterTelegram.Proofs.ConfigFile.Reading
import MeterTelegram.Proofs.Settings

namespace MeterTelegram

/-! The settings stay sound while the config file and the arguments are read: each line, each
option and each positional argument preserves it. -/

variable {files : Directory} {settings after configured obeyed : Settings}
  {arguments : List Text} {argument name content : Text} {pair : ConfigFile.Pair}

namespace ConfigFile

theorem sound_apply (sound : settings.Sound files) (pair : Pair) :
    (apply files settings pair).settings.Sound files := by
  unfold apply
  split
  · exact sound
  · split
    · rename_i key named
      exact sound.give pair.value key
    · exact sound

theorem apply_of_complaint (complained : (apply files settings pair).complaints ≠ []) :
    (apply files settings pair).settings =
      { settings with selected := (apply files settings pair).settings.selected } := by
  unfold apply at complained ⊢
  split
  · rfl
  · split
    · rename_i keyed _ key named
      rw [if_neg keyed, named] at complained
      exact Settings.give_of_complaint complained
    · rfl

theorem sound_pairs (sound : settings.Sound files) (pairs : List Pair) :
    (pairs.foldl (applied files) settings).Sound files := by
  induction pairs generalizing settings with
  | nil => exact sound
  | cons pair pairs ih => exact ih (sound_apply sound pair)

end ConfigFile

namespace CommandLine

variable {switch : Switch} {given : List Switch} {config : Option Text} {fault : Fault}

theorem exclusive_of_ofArgument {verbosity : Verbosity}
    (given : Switch.ofArgument argument = .level verbosity) : verbosity.Exclusive := by
  have levels : ∀ word ∈ Switch.words, ∀ verbosity, word.2 = .level verbosity →
      verbosity.Exclusive := by
    intro word listed verbosity same
    simp only [Switch.words, List.mem_cons, List.not_mem_nil, or_false] at listed
    rcases listed with rfl | rfl | rfl | rfl | rfl | rfl | rfl | rfl | rfl | rfl <;>
      cases same <;> decide
  exact levels _ (Switch.mem_words given rfl (by simp)) verbosity rfl

theorem mem_divide (member : switch ∈ (divide arguments).switches) :
    ∃ argument, Switch.ofArgument argument = switch := by
  induction arguments with
  | nil => contradiction
  | cons argument others ih =>
      cases option : isOption argument with
      | false =>
          rw [divide_of_source option] at member
          contradiction
      | true =>
          cases goesOn : (Switch.ofArgument argument).ends with
          | false =>
              rw [divide_of_switch option rfl goesOn] at member
              rcases List.mem_cons.mp member with rfl | behind
              · exact ⟨argument, rfl⟩
              · exact ih behind
          | true =>
              rw [divide_of_end option goesOn] at member
              contradiction

theorem Obeyed.sound (obeyed : Obeyed settings switch after) (sound : settings.Sound files)
    (exclusive : ∀ verbosity, switch = .level verbosity → verbosity.Exclusive) :
    after.Sound files := by
  cases obeyed with
  | help | configFile | endOfOptions => exact sound
  | level verbosity => exact sound.setLevel (exclusive verbosity rfl)
  | timestamps | listDecoders | separator | selected => exact { sound with }
  | format named => exact { sound with format := Settings.not_both_of_formatFlags? named }
  | signal read => exact { sound with signal := Settings.signal?_bounds read }
  | logFile present => exact sound.setLogFile present

theorem sound_obeyAll (obeyed : obeyAll settings given = .ok after)
    (among : ∀ switch ∈ given, ∃ argument, Switch.ofArgument argument = switch)
    (sound : settings.Sound files) : after.Sound files := by
  refine obeyAll_preserves (fun switch member before next first kept => ?_) obeyed sound
  obtain ⟨argument, rfl⟩ := among switch member
  exact (obeyed_of_ok first).sound kept fun verbosity => exclusive_of_ofArgument

theorem sound_readSources (read : readSources files settings arguments = .ok after)
    (sound : settings.Sound files) : after.Sound files := by
  induction arguments generalizing settings with
  | nil => cases read; exact sound
  | cons argument others ih =>
      simp only [readSources] at read
      split at read
      · rename_i source found
        exact ih read (sound.addSource found)
      · contradiction

/-- Settings once the config file is loaded, if one is named. -/
def Configured (files : Directory) (arguments : List Text) (configured : Settings) : Prop :=
  ∃ config, configFile? (arguments.map Text.shown) none = .ok config ∧
    (loadConfig files config).outcome = .ok configured

/-- Settings at a moment of the reading: behind some lines of the config file, some options or
some positional arguments. -/
inductive Reached (files : Directory) (arguments : List Text) : Settings → Prop
  | begun : Reached files arguments {}
  | unasked (absent : arguments = []) : Reached files arguments { needsHelp := true }
  | lines (count : Nat) {name content : Text}
      (chosen : configFile? (arguments.map Text.shown) none = .ok (some name))
      (read : files.read name = .ok content) :
      Reached files arguments (((ConfigFile.pairs content).take count).foldl
        (ConfigFile.applied files) { configFile := some name })
  | options (count : Nat) {configured obeyed : Settings}
      (loaded : Configured files arguments configured)
      (obeying : obeyAll configured ((divide (arguments.map Text.shown)).switches.take count) =
        .ok obeyed) :
      Reached files arguments obeyed
  | help {configured obeyed : Settings} (loaded : Configured files arguments configured)
      (obeying : obeyAll configured (divide (arguments.map Text.shown)).switches = .ok obeyed)
      (asked : (divide (arguments.map Text.shown)).ending = .help) :
      Reached files arguments { obeyed with needsHelp := true }
  | positional (count : Nat) {configured obeyed settings : Settings} {given : List Text}
      (loaded : Configured files arguments configured)
      (obeying : obeyAll configured (divide (arguments.map Text.shown)).switches = .ok obeyed)
      (behind : (divide (arguments.map Text.shown)).ending = .sources given)
      (finished : readSources files obeyed (given.take count) = .ok settings) :
      Reached files arguments settings

theorem Configured.sound (loaded : Configured files arguments configured) :
    configured.Sound files := by
  obtain ⟨config, -, loaded⟩ := loaded
  cases config with
  | none =>
      obtain rfl := Except.ok.inj loaded
      exact Settings.sound_initial files none
  | some name =>
      have file := Results.ok_of_mapError loaded
      obtain ⟨content, read⟩ := ConfigFile.read_of_load file
      rw [ConfigFile.load_outcome read] at file
      obtain rfl := Except.ok.inj file
      exact ConfigFile.sound_pairs (Settings.sound_initial files (some name)) _

theorem Reached.sound (reached : Reached files arguments settings) : settings.Sound files := by
  cases reached with
  | begun => exact Settings.sound_initial files none
  | unasked absent => exact { Settings.sound_initial files none with }
  | lines count chosen read =>
      exact ConfigFile.sound_pairs (Settings.sound_initial files (some _)) _
  | options count loaded obeying =>
      exact sound_obeyAll obeying (fun switch member => mem_divide (List.mem_of_mem_take member))
        loaded.sound
  | help loaded obeying asked =>
      exact { sound_obeyAll obeying (fun switch => mem_divide) loaded.sound with }
  | positional count loaded obeying behind finished =>
      have sound := sound_obeyAll obeying (fun switch => mem_divide) loaded.sound
      exact sound_readSources finished sound

theorem reached_of_parse (parsed : (parse files arguments).outcome = .ok settings) :
    Reached files arguments settings := by
  by_cases absent : arguments = []
  · subst absent
    obtain rfl := Except.ok.inj parsed
    exact .unasked rfl
  · obtain ⟨config, configured, obeyed, chosen, loaded, obeying, finished⟩ :=
      (parse_ok_iff absent).mp parsed
    cases ending : (divide (arguments.map Text.shown)).ending with
    | help =>
        rw [ending] at finished
        obtain rfl := Except.ok.inj finished
        exact .help ⟨config, chosen, loaded⟩ obeying ending
    | sources given =>
        rw [ending] at finished
        exact .positional given.length ⟨config, chosen, loaded⟩ obeying ending
          (by rw [List.take_length]; exact finished)

theorem parse_of_configured (present : arguments ≠ [])
    (loaded : Configured files arguments configured) :
    (parse files arguments).outcome =
      (readOptions configured (arguments.map Text.shown)).bind fun (obeyed, behind) =>
        readSources files obeyed behind := by
  obtain ⟨config, chosen, loaded⟩ := loaded
  have occupied : (arguments.map Text.shown).isEmpty = false := by simpa using present
  simp only [parse, occupied, Bool.false_eq_true, if_false]
  rw [Journal.outcome_bind chosen, Journal.outcome_bind loaded]
  cases readOptions configured (arguments.map Text.shown) <;> rfl

/-! A refused option or argument ends the reading -/

theorem parse_of_refused_option {front behind : List Switch}
    (loaded : Configured files arguments configured)
    (split : (divide (arguments.map Text.shown)).switches = front ++ switch :: behind)
    (obeying : obeyAll configured front = .ok obeyed)
    (refused : obey obeyed switch = .error fault) :
    (parse files arguments).outcome = .error fault := by
  have present : arguments ≠ [] := by
    rintro rfl
    exact List.append_ne_nil_of_right_ne_nil front (List.cons_ne_nil switch behind) split.symm
  have stopped : obeyAll configured (front ++ switch :: behind) = .error fault := by
    rw [obeyAll_append, obeying]
    change obeyAll obeyed (switch :: behind) = _
    rw [obeyAll_cons, refused]
    rfl
  rw [parse_of_configured present loaded, readOptions_eq, split, stopped]
  rfl

theorem parse_of_refused_argument {front behind : List Text}
    (loaded : Configured files arguments configured)
    (obeying : obeyAll configured (divide (arguments.map Text.shown)).switches = .ok obeyed)
    (split : (divide (arguments.map Text.shown)).ending = .sources (front ++ argument :: behind))
    (read : readSources files obeyed front = .ok settings)
    (refused : Settings.Source.ofText? files argument = none) :
    (parse files arguments).outcome = .error (.noSource argument) := by
  have present : arguments ≠ [] := by
    rintro rfl
    have ending : front ++ argument :: behind = [] := (Ending.sources.inj split).symm
    simp at ending
  have stopped : readSources files obeyed (front ++ argument :: behind) =
      .error (.noSource argument) := by
    rw [readSources_append read, readSources, refused]
  rw [parse_of_configured present loaded, readOptions_eq, obeying, split]
  exact stopped

/-- Settings are sound at every moment of the reading and at its end. What is complained about
in a config file changes none of what is kept sound, and a refused option or argument is the
end, with no settings behind it. -/
theorem reached_sound (files : Directory) (arguments : List Text) :
    (∀ settings, Reached files arguments settings → settings.Sound files) ∧
    (∀ settings, (parse files arguments).outcome = .ok settings →
      Reached files arguments settings ∧ settings.Sound files) ∧
    (∀ settings pair, (ConfigFile.apply files settings pair).complaints ≠ [] →
      (ConfigFile.apply files settings pair).settings =
        { settings with selected := (ConfigFile.apply files settings pair).settings.selected }) ∧
    (∀ configured obeyed front switch behind fault, Configured files arguments configured →
      (divide (arguments.map Text.shown)).switches = front ++ switch :: behind →
      obeyAll configured front = .ok obeyed → obey obeyed switch = .error fault →
      (parse files arguments).outcome = .error fault) ∧
    ∀ configured obeyed settings front argument behind, Configured files arguments configured →
      obeyAll configured (divide (arguments.map Text.shown)).switches = .ok obeyed →
      (divide (arguments.map Text.shown)).ending = .sources (front ++ argument :: behind) →
      readSources files obeyed front = .ok settings →
      Settings.Source.ofText? files argument = none →
      (parse files arguments).outcome = .error (.noSource argument) := by
  refine ⟨fun _ => Reached.sound, fun _ parsed => ?_, fun _ _ => ConfigFile.apply_of_complaint,
    fun _ _ _ _ _ _ => parse_of_refused_option, fun _ _ _ _ _ _ => parse_of_refused_argument⟩
  have reached := reached_of_parse parsed
  exact ⟨reached, reached.sound⟩

end CommandLine

end MeterTelegram
