import MeterTelegram.Proofs.CommandLine.ConfigOption

namespace MeterTelegram

/-! The options that are about the log alone. Where they stand among the options does not
matter: with them or without them the arguments are read alike, up to the log settings. -/

variable {files : Directory} {settings other : Settings} {arguments others : List Text}
  {argument : Text}

/-- The settings of a run without its log, but for the log file. -/
def Settings.hushed (settings : Settings) : Settings :=
  { settings with log := { file := settings.log.file } }

namespace CommandLine

def logOptions : List Text :=
  ["--silent", "--verbose", "--normal", "--debug", "--trace",
    "--logtimestamps=never", "--logtimestamps=always", "--logtimestamps=important"]

/-- An argument that is an option, and does not end them. -/
def isSwitch (argument : Text) : Bool :=
  isOption argument && argument ≠ optionsEnd

/-- The arguments without the log options in the place of an option. -/
def withoutLogOptions (arguments : List Text) : List Text :=
  (arguments.takeWhile isSwitch).filter (· ∉ logOptions) ++ arguments.dropWhile isSwitch

theorem withoutLogOptions_of_stop (stops : isSwitch argument = false) :
    withoutLogOptions (argument :: others) = argument :: others := by
  simp [withoutLogOptions, stops]

theorem withoutLogOptions_of_log (inPlace : isSwitch argument = true)
    (listed : argument ∈ logOptions) :
    withoutLogOptions (argument :: others) = withoutLogOptions others := by
  simp [withoutLogOptions, inPlace, listed]

theorem withoutLogOptions_of_other (inPlace : isSwitch argument = true)
    (unlisted : argument ∉ logOptions) :
    withoutLogOptions (argument :: others) = argument :: withoutLogOptions others := by
  simp [withoutLogOptions, inPlace, unlisted]

/-- The switches that set the level or the timestamps. -/
inductive Switch.IsLog : Switch → Prop
  | level (verbosity : Verbosity) : IsLog (.level verbosity)
  | timestamps {value : Text} {timestamps : Timestamps}
      (named : Timestamps.ofName? value = some timestamps) : IsLog (.timestamps value)

theorem isLog_of_listed (listed : argument ∈ logOptions) :
    (Switch.ofArgument argument).IsLog := by
  simp only [logOptions, List.mem_cons, List.not_mem_nil, or_false] at listed
  rcases listed with rfl | rfl | rfl | rfl | rfl | rfl | rfl | rfl
  · exact .level { silent := true }
  · exact .level { verbose := true }
  · exact .level .normal
  · exact .level { debug := true }
  · exact .level { trace := true }
  · exact @Switch.IsLog.timestamps "never" .never rfl
  · exact @Switch.IsLog.timestamps "always" .always rfl
  · exact @Switch.IsLog.timestamps "important" .important rfl

theorem configName?_of_listed (listed : argument ∈ logOptions) : configName? argument = none := by
  have apart : ∀ option ∈ logOptions, configName? option = none := by decide +kernel
  exact apart argument listed

theorem option_of_isSwitch (inPlace : isSwitch argument = true) :
    isOption argument = true ∧ argument ≠ optionsEnd := by
  simpa [isSwitch] using inPlace

theorem Switch.IsLog.not_ends {switch : Switch} (log : switch.IsLog) : switch.ends = false := by
  cases log <;> rfl

/-- A switch of the log changes nothing else. -/
theorem Switch.IsLog.obeyed {switch : Switch} (log : switch.IsLog) (settings : Settings) :
    ∃ after, obey settings switch = .ok after ∧ after.hushed = settings.hushed := by
  cases log with
  | level verbosity => exact ⟨_, rfl, rfl⟩
  | timestamps named => exact ⟨_, (Obeyed.timestamps named).ok, rfl⟩

/-- No switch looks at the log settings. -/
theorem obey_hushed (settings : Settings) (switch : Switch) :
    (obey settings.hushed switch).map Settings.hushed =
      (obey settings switch).map Settings.hushed := by
  cases switch with
  | help | configFile | level | listDecoders | endOfOptions | unknown => rfl
  | timestamps value => simp only [obey]; cases Timestamps.ofName? value <;> rfl
  | format value => simp only [obey_format]; cases Settings.formatFlags? value <;> rfl
  | separator value => simp only [obey]; cases Settings.separator? value <;> rfl
  | signal value => simp only [obey]; cases Settings.signal? value <;> rfl
  | logFile value => simp only [obey]; cases value.isEmpty <;> rfl
  | selected value =>
      simp only [obey, select]
      cases value.isEmpty with
      | true => rfl
      | false =>
          cases (Text.pieces 44 value).find? (fun field => !Report.isSelectable field) <;> rfl

theorem obey_alike (alike : settings.hushed = other.hushed) (switch : Switch) :
    (obey settings switch).map Settings.hushed = (obey other switch).map Settings.hushed := by
  rw [← obey_hushed settings, alike, obey_hushed]

theorem configFile?_withoutLogOptions (arguments : List Text) (found : Option Text) :
    configFile? (withoutLogOptions arguments) found = configFile? arguments found := by
  induction arguments generalizing found with
  | nil => rfl
  | cons argument others ih =>
      cases inPlace : isSwitch argument with
      | false => rw [withoutLogOptions_of_stop inPlace]
      | true =>
          have option := option_of_isSwitch inPlace
          by_cases listed : argument ∈ logOptions
          · rw [withoutLogOptions_of_log inPlace listed, ih,
              configFile?_other option.2 (configName?_of_listed listed)]
          · rw [withoutLogOptions_of_other inPlace listed]
            simp only [configFile?, ih]

theorem obeyAll_alike (alike : settings.hushed = other.hushed) (given : List Switch) :
    (obeyAll settings given).map Settings.hushed = (obeyAll other given).map Settings.hushed := by
  induction given generalizing settings other with
  | nil => exact congrArg Except.ok alike
  | cons switch given ih =>
      rw [obeyAll_cons, obeyAll_cons]
      rcases Results.alike_of_map (obey_alike alike switch) with
        ⟨fault, first, second⟩ | ⟨after, left, first, second, still⟩
      · rw [first, second]
      · rw [first, second]
        exact ih still

/-- The switches that are left end alike and give the same settings, up to the log. -/
theorem divide_withoutLogOptions (alike : settings.hushed = other.hushed)
    (arguments : List Text) :
    (divide (withoutLogOptions arguments)).ending = (divide arguments).ending ∧
      (obeyAll settings (divide arguments).switches).map Settings.hushed =
        (obeyAll other (divide (withoutLogOptions arguments)).switches).map Settings.hushed := by
  induction arguments generalizing settings other with
  | nil => exact ⟨rfl, congrArg Except.ok alike⟩
  | cons argument others ih =>
      cases inPlace : isSwitch argument with
      | false =>
          rw [withoutLogOptions_of_stop inPlace]
          exact ⟨rfl, obeyAll_alike alike _⟩
      | true =>
          obtain ⟨option, inside⟩ := option_of_isSwitch inPlace
          by_cases listed : argument ∈ logOptions
          · have log := isLog_of_listed listed
            obtain ⟨after, obeyed, hushed⟩ := log.obeyed settings
            rw [withoutLogOptions_of_log inPlace listed, divide_of_switch option rfl log.not_ends,
              obeyAll_cons, obeyed]
            exact ih (hushed.trans alike)
          · rw [withoutLogOptions_of_other inPlace listed]
            cases ends : (Switch.ofArgument argument).ends with
            | false =>
                rw [divide_of_switch option rfl ends, divide_of_switch option rfl ends,
                  obeyAll_cons, obeyAll_cons]
                refine ⟨(ih alike).1, ?_⟩
                rcases Results.alike_of_map (obey_alike alike (Switch.ofArgument argument)) with
                  ⟨fault, first, second⟩ | ⟨after, left, first, second, still⟩
                · rw [first, second]
                  rfl
                · rw [first, second]
                  exact (ih still).2
            | true =>
                simp only [divide, option, help_of_ends inside ends]
                exact ⟨rfl, congrArg Except.ok alike⟩

theorem readSources_alike (alike : settings.hushed = other.hushed) (arguments : List Text) :
    (readSources files settings arguments).map Settings.hushed =
      (readSources files other arguments).map Settings.hushed := by
  induction arguments generalizing settings other with
  | nil => exact congrArg Except.ok alike
  | cons argument others ih =>
      simp only [readSources]
      cases Settings.Source.ofText? files argument with
      | none => rfl
      | some source =>
          refine ih ?_
          cases source with
          | telegram text => exact congrArg (Settings.addSource · (.telegram text)) alike
          | file name => exact congrArg (Settings.addSource · (.file name)) alike

/-- The settings after the options and the sources, from those of the config file. -/
def readArguments (files : Directory) (configured : Settings) (given : List Text) :
    Except Fault Settings :=
  readOptions configured given >>= fun (settings, sources) => readSources files settings sources

theorem readArguments_withoutLogOptions (configured : Settings) (given : List Text) :
    (readArguments files configured given).map Settings.hushed =
      (readArguments files configured (withoutLogOptions given)).map Settings.hushed := by
  obtain ⟨ending, obeyed⟩ := divide_withoutLogOptions (rfl : configured.hushed = _) given
  rw [readArguments, readArguments, readOptions_eq, readOptions_eq, ending]
  rcases Results.alike_of_map obeyed with
    ⟨fault, first, second⟩ | ⟨after, left, first, second, still⟩
  · rw [first, second]
  · rw [first, second]
    cases (divide given).ending with
    | help =>
        exact congrArg (fun hushed : Settings => Except.ok { hushed with needsHelp := true }) still
    | sources arguments => exact readSources_alike still arguments

theorem parse_of_present (present : arguments.map Text.shown ≠ []) :
    parse files arguments =
      Journal.ofExcept (configFile? (arguments.map Text.shown) none) >>= fun config =>
        loadConfig files config >>= fun configured =>
          Journal.ofExcept (readArguments files configured (arguments.map Text.shown)) := by
  have occupied : (arguments.map Text.shown).isEmpty = false := by simpa using present
  simp only [parse, occupied, Bool.false_eq_true, if_false]
  refine congrArg (Journal.ofExcept _ >>= ·) (funext fun config => ?_)
  refine congrArg (loadConfig files config >>= ·) (funext fun configured => ?_)
  rw [readArguments]
  cases readOptions configured (arguments.map Text.shown) <;> rfl

/-- Arguments that differ in log options only are read alike: the config file says the same,
and faults and settings are the same up to the log settings. -/
theorem parse_alike
    (same : withoutLogOptions (arguments.map Text.shown) =
      withoutLogOptions (others.map Text.shown))
    (present : withoutLogOptions (arguments.map Text.shown) ≠ []) :
    (parse files arguments).entries = (parse files others).entries ∧
      (parse files arguments).outcome.map Settings.hushed =
        (parse files others).outcome.map Settings.hushed := by
  have given : arguments.map Text.shown ≠ [] := fun none => present (by rw [none]; rfl)
  have givenToo : others.map Text.shown ≠ [] := fun none => present (by rw [same, none]; rfl)
  have chosen : configFile? (arguments.map Text.shown) none =
      configFile? (others.map Text.shown) none := by
    rw [← configFile?_withoutLogOptions, same, configFile?_withoutLogOptions]
  rw [parse_of_present given, parse_of_present givenToo, chosen]
  refine Journal.bind_alike fun config => Journal.bind_alike fun configured => ⟨rfl, ?_⟩
  change (readArguments files configured _).map _ = (readArguments files configured _).map _
  rw [readArguments_withoutLogOptions, same, ← readArguments_withoutLogOptions]

end CommandLine

end MeterTelegram
