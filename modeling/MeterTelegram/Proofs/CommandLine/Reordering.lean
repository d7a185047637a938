import MeterTelegram.Proofs.CommandLine.LogOptions
import MeterTelegram.Proofs.CommandLine.Override

namespace MeterTelegram

/-! Options in another order. Each option is about one thing, and only the order among those about
the same thing matters. -/

variable {files : Directory} {settings after : Settings}
  {arguments given others changed rest : List Text}

theorem Settings.eq_of_get {one other : Settings}
    (same : ∀ setting, one.get setting = other.get setting)
    (kept : CommandLine.Keeps other one) (listed : one.listsDecoders = other.listsDecoders) :
    one = other := by
  have level := same .level
  have timestamps := same .timestamps
  have format := same .format
  have separator := same .separator
  have signal := same .signal
  have selected := same .selected
  have logFile := same .logFile
  obtain ⟨help, config, telegrams, names⟩ := kept
  obtain ⟨_, ⟨_, _, _⟩, _, _, _, _, _, _, _, _, _⟩ := one
  obtain ⟨_, ⟨_, _, _⟩, _, _, _, _, _, _, _, _, _⟩ := other
  simp only [get] at *
  obtain ⟨json, fields⟩ := Prod.mk.inj format
  subst_vars
  rfl

namespace CommandLine

/-- What an option is about. -/
inductive Concern where
  | setting (setting : Setting)
  | configFile
  | decoders
deriving DecidableEq, Repr

def Switch.concern? : Switch → Option Concern
  | .configFile => some .configFile
  | .listDecoders => some .decoders
  | switch => switch.setting?.map .setting

def isAbout (concern : Concern) (option : Text) : Bool :=
  (Switch.ofArgument option).concern? = some concern

/-- The arguments in front of the first source and of the end of the options. -/
def optionsOf (arguments : List Text) : List Text :=
  arguments.takeWhile isSwitch

def behindOptions (arguments : List Text) : List Text :=
  arguments.dropWhile isSwitch

/-- The same options, those about one thing in the same order. -/
structure Reordered (options others : List Text) : Prop where
  perm : others.Perm options
  inOrder : ∀ concern, others.filter (isAbout concern) = options.filter (isAbout concern)

theorem Switch.concern?_setting {switch : Switch} {setting : Setting} :
    switch.concern? = some (.setting setting) ↔ switch.setting? = some setting := by
  cases switch <;> simp [concern?, setting?]

/-! The settings once the options are obeyed -/

theorem lastSwitch?_eq_getLast? (given : List Switch) (setting : Setting) :
    lastSwitch? given setting =
      (given.filter fun switch => switch.setting? = some setting).getLast? := by
  rw [lastSwitch?, List.getLast?_eq_head?_reverse, ← List.filter_reverse, List.head?_filter]

theorem lastSwitch?_options (options : List Text) (setting : Setting) :
    lastSwitch? (options.map Switch.ofArgument) setting =
      ((options.filter (isAbout (.setting setting))).map Switch.ofArgument).getLast? := by
  rw [lastSwitch?_eq_getLast?, List.filter_map]
  have same : (fun option => decide ((Switch.ofArgument option).setting? = some setting)) =
      isAbout (.setting setting) :=
    funext fun option => decide_eq_decide.mpr Switch.concern?_setting.symm
  exact congrArg (fun about => ((options.filter about).map Switch.ofArgument).getLast?) same

theorem get_obeyAll_of_last {setting : Setting} {front behind : List Switch} {one other : Settings}
    (obeyed : obeyAll settings front = .ok one) (obeyedOther : obeyAll settings behind = .ok other)
    (last : lastSwitch? front setting = lastSwitch? behind setting) :
    one.get setting = other.get setting := by
  cases found : lastSwitch? front setting with
  | none =>
      rw [get_obeyAll_none obeyed found, get_obeyAll_none obeyedOther (last.symm.trans found)]
  | some switch =>
      have here := get_obeyAll_some obeyed found
      have there := get_obeyAll_some obeyedOther (last.symm.trans found)
      exact Option.some.inj (here.symm.trans there)

/-- Each setting is decided by the last option about it, and that is the same one. -/
theorem obeyAll_reordered (reordered : Reordered given others)
    (obeyed : obeyAll settings (given.map Switch.ofArgument) = .ok after) :
    obeyAll settings (others.map Switch.ofArgument) = .ok after := by
  have perm := reordered.perm.map Switch.ofArgument
  have each := isObeyed_of_obeyAll obeyed
  obtain ⟨left, obeyedOthers⟩ :=
    obeyAll_of_isObeyed (fun switch member => each switch (perm.subset member)) settings
  have same : left = after := by
    refine Settings.eq_of_get (fun setting => ?_) ?_ ?_
    · refine get_obeyAll_of_last obeyedOthers obeyed ?_
      rw [lastSwitch?_options, lastSwitch?_options, reordered.inOrder]
    · obtain ⟨help, config, telegrams, names⟩ := keeps_obeyAll obeyed
      obtain ⟨otherHelp, otherConfig, otherTelegrams, otherNames⟩ := keeps_obeyAll obeyedOthers
      exact ⟨otherHelp.trans help.symm, otherConfig.trans config.symm,
        otherTelegrams.trans telegrams.symm, otherNames.trans names.symm⟩
    · rw [listsDecoders_obeyAll obeyed, listsDecoders_obeyAll obeyedOthers, perm.contains_eq]
  rw [obeyedOthers, same]

/-! The config file -/

/-- Well-formed options name a config file exactly if they are about it. -/
theorem filterMap_configName (wellFormed : ∀ option ∈ given, NamesConfig option) :
    given.filterMap configName? =
      (given.filter (isAbout .configFile)).filterMap configName? := by
  rw [List.filterMap_filter]
  refine List.filterMap_congr fun option member => ?_
  rcases namesConfig_or_none (wellFormed option member) with ⟨byte, name, rfl⟩ | other
  · rw [isAbout, ofArgument_named]
    rfl
  · rw [other, ite_self]

theorem configFile?_reordered {config : Option Text} (reordered : Reordered given others)
    (goOn : ∀ option ∈ given, option ≠ optionsEnd)
    (chosen : configFile? (given ++ rest) none = .ok config) :
    configFile? (others ++ rest) none = .ok config := by
  obtain ⟨wellFormed, -⟩ := namesConfig_of_options goOn chosen
  refine configFile?_of_last goOn reordered.perm.subset ?_ chosen
  rw [filterMap_configName wellFormed, filterMap_configName, reordered.inOrder]
  exact fun option member => wellFormed option (reordered.perm.subset member)

/-! The whole command line -/

theorem optionsOf_append_behindOptions (arguments : List Text) :
    optionsOf arguments ++ behindOptions arguments = arguments :=
  List.takeWhile_append_dropWhile

theorem goOn_optionsOf (helpless : ∀ option ∈ optionsOf given, Switch.ofArgument option ≠ .help) :
    ∀ option ∈ optionsOf given, (isOption option = true ∧ option ≠ optionsEnd) ∧
      (Switch.ofArgument option).ends = false := by
  intro option member
  have inPlace := option_of_isSwitch (List.mem_takeWhile_imp member)
  refine ⟨inPlace, Bool.eq_false_iff.mpr fun ends => ?_⟩
  exact helpless option member (help_of_ends inPlace.2 ends)

theorem readArguments_reordered {configured : Settings} (reordered : Reordered given others)
    (goOn : ∀ option ∈ given, isOption option = true ∧ (Switch.ofArgument option).ends = false)
    (obeyed : obeyAll settings (given.map Switch.ofArgument) = .ok after) :
    readArguments files configured (others ++ rest) =
      readArguments files configured (given ++ rest) := by
  obtain ⟨left, elsewhere⟩ := obeyAll_elsewhere obeyed configured
  rw [readArguments, readArguments, readOptions_append goOn, elsewhere, readOptions_append,
    obeyAll_reordered reordered elsewhere]
  exact fun option member => goOn option (reordered.perm.subset member)

/-- Of an accepted command line a config file is chosen and the options in front are obeyed. -/
theorem front_of_parse (split : arguments.map Text.shown = given ++ rest)
    (present : given ++ rest ≠ [])
    (goOn : ∀ option ∈ given, isOption option = true ∧ (Switch.ofArgument option).ends = false)
    (parsed : (parse files arguments).outcome = .ok settings) :
    ∃ config configured obeyed, configFile? (given ++ rest) none = .ok config ∧
      obeyAll configured (given.map Switch.ofArgument) = .ok obeyed := by
  rw [parse_of_present (split ▸ present), split] at parsed
  obtain ⟨config, chosen, parsed⟩ := Journal.ok_of_bind parsed
  obtain ⟨configured, -, parsed⟩ := Journal.ok_of_bind parsed
  change readArguments files configured (given ++ rest) = .ok settings at parsed
  rw [readArguments, readOptions_append goOn] at parsed
  obtain ⟨read, options, -⟩ := Results.ok_of_bind parsed
  obtain ⟨obeyed, done, -⟩ := Results.ok_of_bind options
  exact ⟨config, configured, obeyed, chosen, done⟩

theorem parse_of_front_reordered (reordered : Reordered given others)
    (split : arguments.map Text.shown = given ++ rest)
    (moved : changed.map Text.shown = others ++ rest)
    (goOn : ∀ option ∈ given, (isOption option = true ∧ option ≠ optionsEnd) ∧
      (Switch.ofArgument option).ends = false)
    (parsed : (parse files arguments).outcome = .ok settings) :
    parse files changed = parse files arguments := by
  have obeyable : ∀ option ∈ given,
      isOption option = true ∧ (Switch.ofArgument option).ends = false :=
    fun option member => ⟨(goOn option member).1.1, (goOn option member).2⟩
  have sizes : (others ++ rest).length = (given ++ rest).length := by
    rw [List.length_append, List.length_append, reordered.perm.length_eq]
  by_cases absent : given ++ rest = []
  · have none : others ++ rest = [] :=
      List.length_eq_zero_iff.mp (sizes.trans (List.length_eq_zero_iff.mpr absent))
    simp only [parse, split, moved, absent, none]
  · have present : others ++ rest ≠ [] := fun none =>
      absent (List.length_eq_zero_iff.mp (sizes.symm.trans (List.length_eq_zero_iff.mpr none)))
    obtain ⟨config, configured, obeyed, chosen, done⟩ := front_of_parse split absent obeyable parsed
    have chosenToo := configFile?_reordered reordered
      (fun option member => (goOn option member).1.2) chosen
    rw [parse_of_present (moved ▸ present), parse_of_present (split ▸ absent), split, moved, chosen,
      chosenToo]
    simp only [readArguments_reordered reordered obeyable done]

/-- An accepted command line stays accepted and means the same when its options are put in
another order, as long as those about the same thing keep theirs. -/
theorem parse_reordered (parsed : (parse files arguments).outcome = .ok settings)
    (helpless : ∀ option ∈ optionsOf (arguments.map Text.shown),
      Switch.ofArgument option ≠ .help)
    (reordered : Reordered (optionsOf (arguments.map Text.shown)) others)
    (moved : changed.map Text.shown = others ++ behindOptions (arguments.map Text.shown)) :
    (parse files changed).outcome = .ok settings ∧
      parse files changed = parse files arguments := by
  have split := (optionsOf_append_behindOptions (arguments.map Text.shown)).symm
  have same : parse files changed = parse files arguments :=
    parse_of_front_reordered reordered split moved (goOn_optionsOf helpless) parsed
  exact ⟨same ▸ parsed, same⟩

theorem parse_reordered_levels :
    let files : Directory := { nodes := [(["c"], .file "rssi=-50\n")] }
    let arguments : List Text :=
      ["--silent", "--useconfig=c", "--format=hr", "--verbose", "--format=json", "--", "c"]
    let changed : List Text :=
      ["--format=hr", "--silent", "--format=json", "--verbose", "--useconfig=c", "--", "c"]
    let settings : Settings :=
      { configFile := some "c", log := { verbosity := { verbose := true } }, json := true
        signal := -50, telegramFiles := ["c"] }
    (parse files arguments).outcome = .ok settings ∧
      (parse files changed).outcome = .ok settings := by
  intro files arguments changed settings
  have parsed : (parse files arguments).outcome = .ok settings := by decide +kernel
  let others : List Text :=
    ["--format=hr", "--silent", "--format=json", "--verbose", "--useconfig=c"]
  have reordered : Reordered (optionsOf (arguments.map Text.shown)) others := by
    refine ⟨by decide +kernel, fun concern => ?_⟩
    rcases concern with setting | _ | _
    · cases setting <;> decide +kernel
    · decide +kernel
    · decide +kernel
  have moved : changed.map Text.shown =
      others ++ behindOptions (arguments.map Text.shown) := by
    decide +kernel
  obtain ⟨accepted, -⟩ := parse_reordered parsed (by decide +kernel) reordered moved
  exact ⟨parsed, accepted⟩

end CommandLine

end MeterTelegram
