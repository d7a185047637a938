import MeterTelegram.Proofs.CommandLine.ConfigOption
import MeterTelegram.Proofs.ConfigFile.Reading
import MeterTelegram.Proofs.Settings

namespace MeterTelegram

/-! Settings from the config file and from the command line. For each setting the last switch
about it decides, the config file where there is none; telegrams of both are kept. -/

variable {files : Directory} {settings after configured obeyed : Settings}
  {path arguments others rest options : List Text} {argument name content : Text}

namespace Settings

def Source.telegram? : Source → Option Text
  | .telegram text => some text
  | .file _ => none

def Source.file? : Source → Option Text
  | .telegram _ => none
  | .file name => some name

theorem addSources_eq (settings : Settings) (sources : List Source) :
    sources.foldl addSource settings =
      { settings with
        telegrams := settings.telegrams ++ sources.filterMap Source.telegram?
        telegramFiles := settings.telegramFiles ++ sources.filterMap Source.file? } := by
  induction sources generalizing settings with
  | nil => simp
  | cons source sources ih =>
      cases source with
      | telegram text => simp [ih, addSource, Source.telegram?, Source.file?, List.filterMap_cons]
      | file name => simp [ih, addSource, Source.telegram?, Source.file?, List.filterMap_cons]

end Settings

namespace CommandLine

variable {given : List Switch} {switch : Switch} {setting : Setting} {config : Option Text}

/-! The switches one after the other -/

/-- The last switch that is about a setting. -/
def lastSwitch? (given : List Switch) (setting : Setting) : Option Switch :=
  given.reverse.find? fun switch => switch.setting? = some setting

theorem lastSwitch?_cons (switch : Switch) (given : List Switch) (setting : Setting) :
    lastSwitch? (switch :: given) setting =
      (lastSwitch? given setting).or
        (if switch.setting? = some setting then some switch else none) := by
  by_cases about : switch.setting? = some setting <;> simp [lastSwitch?, about]

theorem lastSwitch?_eq_none :
    lastSwitch? given setting = none ↔ ∀ switch ∈ given, switch.setting? ≠ some setting := by
  simp [lastSwitch?]

theorem get_obeyAll_none (obeyed : obeyAll settings given = .ok after)
    (unnamed : lastSwitch? given setting = none) : after.get setting = settings.get setting := by
  refine obeyAll_preserves (P := fun reached => reached.get setting = settings.get setting) ?_
    obeyed rfl
  intro switch member before next first same
  rw [(obeyed_of_ok first).unchanged (lastSwitch?_eq_none.mp unnamed switch member), same]

theorem get_obeyAll_some (obeyed : obeyAll settings given = .ok after)
    (last : lastSwitch? given setting = some switch) :
    switch.value? setting = some (after.get setting) := by
  induction given generalizing settings with
  | nil => contradiction
  | cons front given ih =>
      obtain ⟨middle, first, rest⟩ := obeyAll_cons_ok obeyed
      rw [lastSwitch?_cons] at last
      cases behind : lastSwitch? given setting with
      | some found =>
          rw [behind, Option.some_or] at last
          exact ih rest (behind.trans last)
      | none =>
          rw [behind, Option.none_or] at last
          split at last
          · rename_i about
            obtain rfl := Option.some.inj last
            rw [get_obeyAll_none rest behind, (obeyed_of_ok first).given about]
          · contradiction

theorem keeps_obeyAll (obeyed : obeyAll settings given = .ok after) :
    Keeps settings after :=
  obeyAll_preserves (fun _ _ _ _ first kept => kept.trans (obeyed_of_ok first).keeps) obeyed
    ⟨rfl, rfl, rfl, rfl⟩

theorem listsDecoders_obeyAll (obeyed : obeyAll settings given = .ok after) :
    after.listsDecoders = (settings.listsDecoders || given.contains .listDecoders) := by
  induction given generalizing settings with
  | nil => cases obeyed; simp
  | cons switch given ih =>
      obtain ⟨middle, first, rest⟩ := obeyAll_cons_ok obeyed
      rw [ih rest, (obeyed_of_ok first).listsDecoders, List.contains_cons, Bool.or_assoc,
        Bool.beq_comm]

/-- A switch that is obeyed wherever it stands. -/
def Switch.IsObeyed (switch : Switch) : Prop :=
  ∀ settings, ∃ after, Obeyed settings switch after

theorem isObeyed_of_obeyAll (obeyed : obeyAll settings given = .ok after) :
    ∀ switch ∈ given, switch.IsObeyed := by
  induction given generalizing settings with
  | nil => nofun
  | cons switch given ih =>
      obtain ⟨middle, first, rest⟩ := obeyAll_cons_ok obeyed
      exact List.forall_mem_cons.mpr ⟨fun other => (obeyed_of_ok first).elsewhere other, ih rest⟩

theorem obeyAll_of_isObeyed (each : ∀ switch ∈ given, switch.IsObeyed) (settings : Settings) :
    ∃ after, obeyAll settings given = .ok after := by
  induction given generalizing settings with
  | nil => exact ⟨settings, rfl⟩
  | cons switch given ih =>
      obtain ⟨here, each⟩ := List.forall_mem_cons.mp each
      obtain ⟨next, stepped⟩ := here settings
      rw [obeyAll_cons, stepped.ok]
      exact ih each next

theorem obeyAll_elsewhere (obeyed : obeyAll settings given = .ok after) (other : Settings) :
    ∃ left, obeyAll other given = .ok left :=
  obeyAll_of_isObeyed (isObeyed_of_obeyAll obeyed) other

/-- Settings of a run: what the switches give, and else what the config file gave. -/
structure Overrides (given : List Switch) (sources : List Settings.Source)
    (configured settings : Settings) : Prop where
  switched : ∀ setting switch, lastSwitch? given setting = some switch →
    switch.value? setting = some (settings.get setting)
  inherited : ∀ setting, lastSwitch? given setting = none →
    settings.get setting = configured.get setting
  telegrams : settings.telegrams =
    configured.telegrams ++ sources.filterMap Settings.Source.telegram?
  telegramFiles : settings.telegramFiles =
    configured.telegramFiles ++ sources.filterMap Settings.Source.file?
  listsDecoders : settings.listsDecoders =
    (configured.listsDecoders || given.contains .listDecoders)
  configFile : settings.configFile = configured.configFile
  needsHelp : settings.needsHelp = configured.needsHelp

theorem overrides_of_obeyAll (obeyed : obeyAll configured given = .ok after)
    (sources : List Settings.Source) :
    Overrides given sources configured (sources.foldl Settings.addSource after) := by
  obtain ⟨help, config, telegrams, names⟩ := keeps_obeyAll obeyed
  have listed := listsDecoders_obeyAll obeyed
  rw [Settings.addSources_eq]
  refine ⟨?_, ?_, ?_, ?_, listed, config, help⟩
  · intro setting switch last
    rw [get_obeyAll_some obeyed last]
    cases setting <;> rfl
  · intro setting unnamed
    rw [← get_obeyAll_none obeyed unnamed]
    cases setting <;> rfl
  · rw [telegrams]
  · rw [names]

/-! The config file with another content -/

theorem resolve_of_loadConfig (loaded : (loadConfig files (some name)).outcome = .ok configured) :
    (ConfigFile.load files name { configFile := some name }).outcome = .ok configured ∧
      ∃ path content, files.resolve name = .ok (path, .file content) := by
  have file := Results.ok_of_mapError loaded
  obtain ⟨content, read⟩ := ConfigFile.read_of_load file
  refine ⟨file, ?_⟩
  unfold Directory.read at read
  split at read
  · contradiction
  · contradiction
  · rename_i path _ resolved
    exact ⟨path, _, resolved⟩

/-- A config file is read to its end whatever it holds. -/
theorem loadConfig_put (resolved : files.resolve name = .ok (path, .file content)) (text : Text) :
    ∃ configured, (loadConfig (files.put path (.file text)) (some name)).outcome =
      .ok configured := by
  have read := Directory.read_put resolved text
  exact ⟨_, congrArg (Except.mapError _) (ConfigFile.load_outcome read { configFile := some name })⟩

/-- The arguments behind the options; there are none where help is asked for. -/
def positional (given : List Text) : List Text :=
  match (divide given).ending with
  | .help => []
  | .sources arguments => arguments

/-- Settings of a run that loads a config file. -/
def ReadOver (files : Directory) (given : List Text) (sources : List Settings.Source)
    (name : Text) (settings : Settings) : Prop :=
  ∃ configured, (ConfigFile.load files name { configFile := some name }).outcome = .ok configured ∧
    Overrides (divide given).switches sources configured settings

variable {words : List Text} {sources : List Settings.Source}

theorem Reads.overrides (reads : Reads files words config configured obeyed settings)
    (helpless : (divide words).ending ≠ .help) :
    ∃ sources, (positional words).map (Settings.Source.ofText? files) = sources.map some ∧
      Overrides (divide words).switches sources configured settings := by
  obtain ⟨-, loaded, obeying, finished⟩ := reads
  rw [positional]
  cases ending : (divide words).ending with
  | help => exact absurd ending helpless
  | sources arguments =>
      rw [ending] at finished
      obtain ⟨sources, all, rfl⟩ := readSources_ok_iff.mp finished
      exact ⟨sources, all, overrides_of_obeyAll obeying sources⟩

theorem Reads.readOver (reads : Reads files words (some name) configured obeyed settings)
    (helpless : (divide words).ending ≠ .help) :
    ∃ sources, (positional words).map (Settings.Source.ofText? files) = sources.map some ∧
      ReadOver files words sources name settings := by
  obtain ⟨sources, all, overrides⟩ := reads.overrides helpless
  exact ⟨sources, all, configured, (resolve_of_loadConfig reads.loaded).1, overrides⟩

/-- Arguments are read as before if the config file holds another text. -/
theorem Reads.put (reads : Reads files words (some name) configured obeyed settings)
    (resolved : files.resolve name = .ok (path, .file content)) (text : Text) :
    ∃ others left after,
      Reads (files.put path (.file text)) words (some name) others left after := by
  obtain ⟨chosen, loaded, obeying, finished⟩ := reads
  have known := (Directory.resolve_ok resolved).2
  obtain ⟨others, reloaded⟩ := loadConfig_put resolved text
  obtain ⟨left, obeyingOthers⟩ := obeyAll_elsewhere obeying others
  obtain ⟨sources, all, -⟩ := readSources_ok_iff.mp finished
  have same : Settings.Source.ofText? (files.put path (.file text)) =
      Settings.Source.ofText? files := funext fun text => Settings.Source.ofText?_put known text _
  refine ⟨others, left, _, chosen, reloaded, obeyingOthers,
    readSources_ok_iff.mpr ⟨sources, ?_, rfl⟩⟩
  rw [same]
  cases ending : (divide words).ending <;> simpa [ending, Ending.leave] using all

theorem agree_of_switch {one other first second : Settings}
    (overrides : Overrides given sources first one)
    (overridesOther : Overrides given sources second other)
    (switched : ∃ switch ∈ given, switch.setting? = some setting) :
    one.get setting = other.get setting := by
  cases last : lastSwitch? given setting with
  | none =>
      obtain ⟨switch, member, about⟩ := switched
      exact absurd about (lastSwitch?_eq_none.mp last switch member)
  | some switch =>
      have here := overrides.switched setting switch last
      exact Option.some.inj (here.symm.trans (overridesOther.switched setting switch last))

/-- The last switch about a setting decides it, whatever the config file holds; other settings
are those of the config file, and its telegrams come before the positional ones. Where the
config file stands among the options is all the same. -/
theorem parse_overrides (parsed : (parse files arguments).outcome = .ok settings)
    (helpless : (divide (arguments.map Text.shown)).ending ≠ .help)
    (named : (configNames (arguments.map Text.shown)).getLast? = some name) :
    ∃ path content sources, files.resolve name = .ok (path, .file content) ∧
      (positional (arguments.map Text.shown)).map (Settings.Source.ofText? files) =
        sources.map some ∧
      ReadOver files (arguments.map Text.shown) sources name settings ∧
      (∀ text, ∃ after,
        (parse (files.put path (.file text)) arguments).outcome = .ok after ∧
        ReadOver (files.put path (.file text)) (arguments.map Text.shown) sources name after ∧
        ∀ setting, (∃ switch ∈ (divide (arguments.map Text.shown)).switches,
            switch.setting? = some setting) →
          after.get setting = settings.get setting) ∧
      ∀ options others rest changed, Rearranged options others →
        arguments.map Text.shown = options ++ rest → changed.map Text.shown = others ++ rest →
        parse files changed = parse files arguments := by
  have present : arguments ≠ [] := by
    rintro rfl
    contradiction
  obtain ⟨config, configured, obeyed, reads⟩ := (parse_ok_iff present).mp parsed
  obtain rfl : config = some name := by
    have chosen := configFile?_eq (namesConfig_of_chosen reads.chosen) none
    rw [reads.chosen, named] at chosen
    exact Except.ok.inj chosen
  obtain ⟨-, path, content, resolved⟩ := resolve_of_loadConfig reads.loaded
  obtain ⟨sources, all, overrides⟩ := reads.readOver helpless
  refine ⟨path, content, sources, resolved, all, overrides, fun text => ?_,
    fun options others rest changed rearranged split moved =>
      parse_rearranged rearranged split moved parsed⟩
  have known := (Directory.resolve_ok resolved).2
  obtain ⟨reconfigured, left, after, rereads⟩ := reads.put resolved text
  obtain ⟨found, again, overridesAfter⟩ := rereads.readOver helpless
  -- No file comes or goes, so the positional arguments are the same sources in both runs.
  obtain rfl : found = sources := by
    have same : Settings.Source.ofText? (files.put path (.file text)) =
        Settings.Source.ofText? files :=
      funext fun argument => Settings.Source.ofText?_put known argument text
    rw [same, all] at again
    exact (List.map_injective_iff.mpr (fun _ _ => Option.some.inj) again).symm
  have accepted := (parse_ok_iff present).mpr ⟨_, _, _, rereads⟩
  refine ⟨after, accepted, overridesAfter, fun setting switched => ?_⟩
  obtain ⟨_, -, here⟩ := overrides
  obtain ⟨_, -, there⟩ := overridesAfter
  exact agree_of_switch there here switched

theorem parse_overrides_silent :
    let files : Directory := { nodes := [(["c"], .file "loglevel=debug\nrssi=-50\n")] }
    let arguments : List Text := ["--useconfig=c", "--silent"]
    let settings : Settings :=
      { configFile := some "c", log := { verbosity := { silent := true } }, signal := -50 }
    (parse files arguments).outcome = .ok settings ∧
      parse files ["--silent", "--useconfig=c"] = parse files arguments ∧
      ∃ after, (parse (files.put ["c"] (.file "loglevel=trace\n")) arguments).outcome =
          .ok after ∧
        after.log.verbosity = { silent := true } := by
  intro files arguments settings
  have parsed : (parse files arguments).outcome = .ok settings := by decide +kernel
  have named : (configNames (arguments.map Text.shown)).getLast? = some "c" := by decide +kernel
  obtain ⟨path, content, sources, resolved, -, -, rewritten, moved⟩ :=
    parse_overrides parsed (by decide +kernel) named
  refine ⟨parsed, moved arguments ["--silent", "--useconfig=c"] [] _ ?_ (by decide +kernel)
    (by decide +kernel), ?_⟩
  · exact ⟨by decide +kernel, by decide +kernel, by decide +kernel, by decide +kernel⟩
  · have here : files.resolve "c" = .ok (["c"], .file "loglevel=debug\nrssi=-50\n") := by
      decide +kernel
    obtain ⟨rfl, -⟩ := Prod.mk.inj (Except.ok.inj (resolved.symm.trans here))
    obtain ⟨after, accepted, -, same⟩ := rewritten "loglevel=trace\n"
    exact ⟨after, accepted, same .level ⟨.level { silent := true }, by decide +kernel, rfl⟩⟩

end CommandLine

end MeterTelegram
