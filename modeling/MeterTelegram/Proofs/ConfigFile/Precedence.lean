import MeterTelegram.Proofs.CommandLine.Reordering
import MeterTelegram.Proofs.ConfigFile.LineEndings
import MeterTelegram.Proofs.Settings.Values

namespace MeterTelegram.ConfigFile

/-! Which lines of a config file decide. A setting is the last value given to it, the selected
fields are the first that are named, and telegrams are kept in the order of the file. -/

variable {files : Directory} {settings initial after one other : Settings} {setting : Setting}
  {pair : Pair} {pairs others front back : List Pair}

namespace Pair

def setting? (pair : Pair) : Option Setting :=
  (Settings.Key.ofName? pair.key).bind Settings.Key.setting?

def value? (pair : Pair) (setting : Setting) : Option setting.Value :=
  if pair.setting? = some setting then setting.read? pair.value else Option.none

def source? (files : Directory) (pair : Pair) : Option Settings.Source :=
  if Settings.Key.ofName? pair.key = some .telegram then Settings.Source.ofText? files pair.value
  else Option.none

end Pair

/-- The values given to a setting, in the order of the file. -/
def valuesOf (setting : Setting) (pairs : List Pair) : List setting.Value :=
  pairs.filterMap (·.value? setting)

def sourcesOf (files : Directory) (pairs : List Pair) : List Settings.Source :=
  pairs.filterMap (Pair.source? files)

/-- Settings after pairs, told by what the pairs give. -/
structure Settled (files : Directory) (pairs : List Pair) (initial settings : Settings) : Prop where
  last : ∀ setting, setting ≠ .selected →
    settings.get setting = (valuesOf setting pairs).getLast?.getD (initial.get setting)
  first : initial.selected = [] →
    settings.selected = (valuesOf .selected pairs).head?.getD []
  chosen : initial.selected ≠ [] → settings.selected = initial.selected
  telegrams : settings.telegrams =
    initial.telegrams ++ (sourcesOf files pairs).filterMap Settings.Source.telegram?
  telegramFiles : settings.telegramFiles =
    initial.telegramFiles ++ (sourcesOf files pairs).filterMap Settings.Source.file?
  needsHelp : settings.needsHelp = initial.needsHelp
  configFile : settings.configFile = initial.configFile
  listsDecoders : settings.listsDecoders = initial.listsDecoders

/-! One pair -/

/-- What a pair does to the settings: it gives a value, it adds a source, or it is passed over.
A value that is passed over is a selection that comes too late. -/
inductive Applied (files : Directory) (settings : Settings) (pair : Pair) : Settings → Prop where
  | gives {setting : Setting} {value : setting.Value} (given : pair.value? setting = some value)
      (free : setting = .selected → settings.selected = []) :
      Applied files settings pair (settings.put setting value)
  | adds {source : Settings.Source} (found : pair.source? files = some source) :
      Applied files settings pair (settings.addSource source)
  | passes (unread : ∀ setting value, pair.value? setting = some value →
      setting = .selected ∧ settings.selected ≠ []) (unfound : pair.source? files = none) :
      Applied files settings pair settings

theorem applied_of_key {key : Settings.Key} (named : Settings.Key.ofName? pair.key = some key) :
    applied files settings pair = (settings.give files pair.value key).settings := by
  have spelled : key.name = pair.key := by simpa using List.find?_some named
  have read : (pair.key.isEmpty || pair.isComment) = false := by
    rw [Pair.isComment, ← spelled]
    cases key <;> decide +kernel
  simp only [applied, apply, read, named, Bool.false_eq_true, if_false]

theorem Pair.setting?_of_value {value : setting.Value} (given : pair.value? setting = some value) :
    pair.setting? = some setting := by
  by_contra other
  rw [value?, if_neg other] at given
  contradiction

theorem Pair.source?_of_setting (about : pair.setting? = some setting) :
    pair.source? files = Option.none := by
  refine if_neg fun named => ?_
  rw [setting?, named] at about
  contradiction

theorem Pair.value?_of_other (unlike : pair.setting? ≠ some setting) :
    pair.value? setting = Option.none :=
  if_neg unlike

theorem Pair.value?_of_source {source : Settings.Source}
    (found : pair.source? files = some source) : pair.value? setting = Option.none := by
  refine value?_of_other fun about => ?_
  rw [source?_of_setting about] at found
  contradiction

theorem Pair.eq_of_value {value : setting.Value} {named : Setting}
    (given : pair.value? setting = some value) (about : pair.setting? = some named) :
    setting = named :=
  Option.some.inj ((setting?_of_value given).symm.trans about)

theorem Applied.of_setting {key : Settings.Key}
    (named : Settings.Key.ofName? pair.key = some key) (keyed : key.setting? = some setting) :
    Applied files settings pair (settings.give files pair.value key).settings := by
  have about : pair.setting? = some setting := by rw [Pair.setting?, named]; exact keyed
  have unfound : pair.source? files = none := Pair.source?_of_setting about
  by_cases late : setting = .selected ∧ settings.selected ≠ []
  · obtain ⟨rfl, chosen⟩ := late
    obtain rfl : key = .selected := by cases key <;> first | rfl | cases keyed
    rw [Settings.give_selected_again chosen]
    exact .passes (fun _ _ given => ⟨Pair.eq_of_value given about, chosen⟩) unfound
  · have free : setting = .selected → settings.selected = [] := by tauto
    have value : pair.value? setting = setting.read? pair.value := if_pos about
    rw [Settings.give_setting keyed free]
    cases read : setting.read? pair.value with
    | some given => exact .gives (value.trans read) free
    | none =>
        refine .passes (fun other found given => ?_) unfound
        obtain rfl := Pair.eq_of_value given about
        rw [value, read] at given
        contradiction

theorem applied_spec (files : Directory) (settings : Settings) (pair : Pair) :
    Applied files settings pair (applied files settings pair) := by
  have unread {named : Option Settings.Key} (found : Settings.Key.ofName? pair.key = named)
      (unnamed : named.bind Settings.Key.setting? = none) (setting : Setting)
      (value : setting.Value) (given : pair.value? setting = some value) :
      setting = .selected ∧ settings.selected ≠ [] := by
    have about := Pair.setting?_of_value given
    rw [Pair.setting?, found, unnamed] at about
    contradiction
  cases named : Settings.Key.ofName? pair.key with
  | none =>
      rw [applied_of_unknown named]
      exact .passes (unread named rfl) (if_neg (by simp [named]))
  | some key =>
      rw [applied_of_key named]
      cases about : key.setting? with
      | some setting => exact .of_setting named about
      | none =>
          obtain rfl : key = .telegram := by cases key <;> first | rfl | cases about
          have source : pair.source? files = Settings.Source.ofText? files pair.value :=
            if_pos named
          rw [Settings.give_telegram]
          cases found : Settings.Source.ofText? files pair.value with
          | some read => exact .adds (source.trans found)
          | none => exact .passes (unread named rfl) (source.trans found)

namespace Applied

theorem get (step : Applied files settings pair after)
    (free : setting = .selected → settings.selected = []) :
    after.get setting = (pair.value? setting).getD (settings.get setting) := by
  cases step with
  | @gives named value given _ =>
      by_cases same : named = setting
      · subst same
        rw [given, settings.get_put]
        rfl
      · have unlike : pair.setting? ≠ some setting := fun about =>
          same (Pair.eq_of_value given about)
        rw [Pair.value?_of_other unlike, Settings.get_put_of_ne (Ne.symm same)]
        rfl
  | adds found =>
      rw [Pair.value?_of_source found, settings.get_addSource]
      rfl
  | passes unread =>
      cases given : pair.value? setting with
      | none => rfl
      | some value =>
          obtain ⟨selection, chosen⟩ := unread setting value given
          exact absurd (free selection) chosen

theorem selected (step : Applied files settings pair after) (chosen : settings.selected ≠ []) :
    after.selected = settings.selected := by
  cases step with
  | gives _ free => exact Settings.get_put_of_ne (fun same => chosen (free same.symm)) _
  | adds => exact settings.get_addSource _ .selected
  | passes => rfl

theorem sources (step : Applied files settings pair after) :
    after.telegrams = settings.telegrams ++
        (pair.source? files).toList.filterMap Settings.Source.telegram? ∧
      after.telegramFiles = settings.telegramFiles ++
        (pair.source? files).toList.filterMap Settings.Source.file? := by
  cases step with
  | @gives setting value given _ =>
      obtain ⟨-, -, telegrams, names⟩ := (settings.keeps_put setting value).1
      rw [Pair.source?_of_setting (Pair.setting?_of_value given), telegrams, names]
      exact ⟨(List.append_nil _).symm, (List.append_nil _).symm⟩
  | @adds source found =>
      rw [found]
      cases source <;> simp [Settings.addSource, Settings.Source.telegram?, Settings.Source.file?]
  | passes _ unfound =>
      rw [unfound]
      exact ⟨(List.append_nil _).symm, (List.append_nil _).symm⟩

theorem unconcerned (step : Applied files settings pair after) :
    after.needsHelp = settings.needsHelp ∧ after.configFile = settings.configFile ∧
      after.listsDecoders = settings.listsDecoders := by
  cases step with
  | @gives setting value _ _ =>
      obtain ⟨kept, listed⟩ := settings.keeps_put setting value
      exact ⟨kept.needsHelp, kept.configFile, listed⟩
  | @adds source _ => cases source <;> exact ⟨rfl, rfl, rfl⟩
  | passes => exact ⟨rfl, rfl, rfl⟩

end Applied

/-! Pairs one after another -/

theorem valuesOf_append (setting : Setting) (front back : List Pair) :
    valuesOf setting (front ++ back) = valuesOf setting front ++ valuesOf setting back :=
  List.filterMap_append

theorem valuesOf_cons (setting : Setting) (pair : Pair) (back : List Pair) :
    valuesOf setting (pair :: back) = (pair.value? setting).toList ++ valuesOf setting back := by
  rw [valuesOf, List.filterMap_cons]
  cases pair.value? setting <;> rfl

theorem sourcesOf_append (files : Directory) (front back : List Pair) :
    sourcesOf files (front ++ back) = sourcesOf files front ++ sourcesOf files back :=
  List.filterMap_append

theorem sourcesOf_cons (files : Directory) (pair : Pair) (back : List Pair) :
    sourcesOf files (pair :: back) = (pair.source? files).toList ++ sourcesOf files back := by
  rw [sourcesOf, List.filterMap_cons]
  cases pair.source? files <;> rfl

theorem sourcesOf_concat (files : Directory) (pairs : List Pair) (pair : Pair) :
    sourcesOf files (pairs ++ [pair]) = sourcesOf files pairs ++ (pair.source? files).toList := by
  rw [sourcesOf_append, sourcesOf_cons]
  exact congrArg _ (List.append_nil _)

/-- A selection that is given names a field. -/
theorem ne_nil_of_selection {fields : List Text} (member : fields ∈ valuesOf .selected pairs) :
    fields ≠ [] := by
  obtain ⟨pair, -, given⟩ := List.mem_filterMap.mp member
  rw [Pair.value?, if_pos (Pair.setting?_of_value given)] at given
  exact Setting.ne_nil_of_read given

namespace Settled

theorem initially (files : Directory) (initial : Settings) : Settled files [] initial initial where
  last _ _ := rfl
  first empty := empty
  chosen _ := rfl
  telegrams := (List.append_nil _).symm
  telegramFiles := (List.append_nil _).symm
  needsHelp := rfl
  configFile := rfl
  listsDecoders := rfl

/-- A selection that is not empty came from the settings before or from the first pair that gives
one; no other pair changes it. -/
theorem first_step (settled : Settled files pairs initial settings)
    (step : Applied files settings pair after) (empty : initial.selected = []) :
    after.selected = (valuesOf .selected (pairs ++ [pair])).head?.getD [] := by
  have before := settled.first empty
  rw [valuesOf_append, valuesOf_cons, List.head?_append]
  cases given : valuesOf .selected pairs with
  | nil =>
      rw [given] at before
      have now : after.get .selected = _ := step.get fun _ => before
      have kept : settings.get .selected = [] := before
      rw [kept] at now
      refine now.trans ?_
      cases pair.value? .selected <;> rfl
  | cons fields later =>
      rw [given] at before
      have chosen : settings.selected ≠ [] := by
        rw [before]
        exact ne_nil_of_selection (given ▸ List.mem_cons_self)
      rw [step.selected chosen, before]
      rfl

theorem step (settled : Settled files pairs initial settings)
    (step : Applied files settings pair after) : Settled files (pairs ++ [pair]) initial after where
  last setting repeatable := by
    rw [step.get fun selection => absurd selection repeatable, settled.last setting repeatable,
      valuesOf_append, valuesOf_cons, List.getLast?_append]
    cases pair.value? setting <;> rfl
  first empty := settled.first_step step empty
  chosen some := by
    have kept := settled.chosen some
    rw [step.selected (kept ▸ some), kept]
  telegrams := by
    rw [step.sources.1, settled.telegrams, sourcesOf_concat, List.filterMap_append,
      List.append_assoc]
  telegramFiles := by
    rw [step.sources.2, settled.telegramFiles, sourcesOf_concat, List.filterMap_append,
      List.append_assoc]
  needsHelp := step.unconcerned.1.trans settled.needsHelp
  configFile := step.unconcerned.2.1.trans settled.configFile
  listsDecoders := step.unconcerned.2.2.trans settled.listsDecoders

theorem run (files : Directory) (pairs : List Pair) (initial : Settings) :
    Settled files pairs initial (pairs.foldl (applied files) initial) := by
  induction pairs using List.reverseRecOn with
  | nil => exact initially files initial
  | append_singleton pairs pair settled =>
      rw [List.foldl_append]
      exact settled.step (applied_spec files _ pair)

/-- Settings are settled by the last values, the first selection and the sources. -/
theorem unique (settled : Settled files pairs initial one)
    (settledOther : Settled files others initial other)
    (last : ∀ setting, setting ≠ .selected →
      (valuesOf setting pairs).getLast? = (valuesOf setting others).getLast?)
    (first : (valuesOf .selected pairs).head? = (valuesOf .selected others).head?)
    (sources : sourcesOf files pairs = sourcesOf files others) : one = other := by
  refine Settings.eq_of_get (fun setting => ?_) ⟨?_, ?_, ?_, ?_⟩ ?_
  · by_cases selection : setting = .selected
    · subst selection
      change one.selected = other.selected
      by_cases empty : initial.selected = []
      · rw [settled.first empty, settledOther.first empty, first]
      · rw [settled.chosen empty, settledOther.chosen empty]
    · rw [settled.last setting selection, settledOther.last setting selection,
        last setting selection]
  · rw [settled.needsHelp, settledOther.needsHelp]
  · rw [settled.configFile, settledOther.configFile]
  · rw [settled.telegrams, settledOther.telegrams, sources]
  · rw [settled.telegramFiles, settledOther.telegramFiles, sources]
  · rw [settled.listsDecoders, settledOther.listsDecoders]

end Settled

/-! Pairs that do not matter -/

/-- A pair that can be left out: its value is replaced further down, it gives no value, or it
selects fields when some are selected already. -/
inductive Dispensable (front : List Pair) (pair : Pair) (back : List Pair) : Prop where
  | replaced {setting : Setting} {later : Pair} (about : pair.setting? = some setting)
      (repeatable : setting ≠ .selected) (behind : later ∈ back)
      (aboutToo : later.setting? = some setting) (allowed : setting.Allows later.value)
  | refused {setting : Setting} (about : pair.setting? = some setting)
      (refused : ¬ setting.Allows pair.value)
  | late {earlier : Pair} (about : pair.setting? = some .selected) (before : earlier ∈ front)
      (aboutToo : earlier.setting? = some .selected)
      (allowed : Setting.selected.Allows earlier.value)

theorem valuesOf_ne_nil (member : pair ∈ pairs) (about : pair.setting? = some setting)
    (allowed : setting.Allows pair.value) : valuesOf setting pairs ≠ [] := by
  obtain ⟨value, read⟩ := Option.isSome_iff_exists.mp (Setting.isSome_read?.mpr allowed)
  have given : pair.value? setting = some value := by rw [Pair.value?, if_pos about, read]
  exact List.ne_nil_of_mem (List.mem_filterMap.mpr ⟨pair, member, given⟩)

namespace Dispensable

theorem exists_setting (dispensable : Dispensable front pair back) :
    ∃ setting, pair.setting? = some setting := by
  cases dispensable with
  | replaced about | refused about | late about => exact ⟨_, about⟩

theorem value?_of_refused {named : Setting} (about : pair.setting? = some named)
    (refused : ¬ named.Allows pair.value) (setting : Setting) :
    pair.value? setting = none := by
  by_cases same : named = setting
  · subst same
    rw [Pair.value?, if_pos about]
    exact Setting.read?_eq_none.mpr refused
  · exact Pair.value?_of_other (by simpa [about] using same)

theorem value_or_back (dispensable : Dispensable front pair back)
    (repeatable : setting ≠ .selected) :
    pair.value? setting = none ∨ valuesOf setting back ≠ [] := by
  cases dispensable with
  | @replaced named later about _ behind aboutToo allowed =>
      by_cases same : named = setting
      · subst same
        exact .inr (valuesOf_ne_nil behind aboutToo allowed)
      · exact .inl (Pair.value?_of_other (by simpa [about] using same))
  | refused about refused => exact .inl (value?_of_refused about refused setting)
  | late about => exact .inl (Pair.value?_of_other (by simpa [about] using Ne.symm repeatable))

theorem selection_or_front (dispensable : Dispensable front pair back) :
    pair.value? .selected = none ∨ valuesOf .selected front ≠ [] := by
  cases dispensable with
  | replaced about repeatable =>
      exact .inl (Pair.value?_of_other (by simpa [about] using repeatable))
  | refused about refused => exact .inl (value?_of_refused about refused .selected)
  | late _ before aboutToo allowed => exact .inr (valuesOf_ne_nil before aboutToo allowed)

/-- Without the pair the last values, the first selection and the sources are the same. -/
theorem foldl_applied (dispensable : Dispensable front pair back) (initial : Settings) :
    (front ++ pair :: back).foldl (applied files) initial =
      (front ++ back).foldl (applied files) initial := by
  refine (Settled.run files _ initial).unique (Settled.run files _ initial) ?_ ?_ ?_
  · intro setting repeatable
    rw [valuesOf_append, valuesOf_append, valuesOf_cons]
    rcases dispensable.value_or_back repeatable with unread | replaced
    · rw [unread]
      rfl
    · rw [← List.append_assoc, List.getLast?_append_of_ne_nil _ replaced,
        List.getLast?_append_of_ne_nil _ replaced]
  · rw [valuesOf_append, valuesOf_append, valuesOf_cons]
    rcases dispensable.selection_or_front with unread | selected
    · rw [unread]
      rfl
    · obtain ⟨fields, later, first⟩ := List.exists_cons_of_ne_nil selected
      rw [first]
      rfl
  · obtain ⟨setting, about⟩ := dispensable.exists_setting
    rw [sourcesOf_append, sourcesOf_append, sourcesOf_cons, Pair.source?_of_setting about]
    rfl

end Dispensable

/-! Whole files -/

variable {name content : Text} {path written earlier later : List Text} {line : Text}

/-- What the lines of a file set, each by itself. -/
def settingsIn (written : List Text) : List Pair :=
  written.filterMap fun line => (Line.ofText line).setting?

theorem afterLines_eq (files : Directory) (written : List Text) (settings : Settings) :
    afterLines files settings written = (settingsIn written).foldl (applied files) settings := by
  induction written generalizing settings with
  | nil => rfl
  | cons line written ih =>
      have stepped : afterLines files settings (line :: written) =
          afterLines files (afterLine files settings line) written := rfl
      rw [stepped, ih, afterLine, settingsIn, settingsIn, List.filterMap_cons]
      cases (Line.ofText line).setting? <;> rfl

theorem load_of_sound (read : files.read name = .ok content)
    (sound : ∀ line ∈ lines content, (Line.ofText line).isSound = true) (initial : Settings) :
    (load files name initial).outcome =
      .ok ((settingsIn (lines content)).foldl (applied files) initial) := by
  have whole : after files initial (unlines (lines content) ++ []) = _ :=
    after_of_sounds sound (unbroken_lines content) initial []
  rw [List.append_nil, unlines_lines] at whole
  rw [load_outcome read, whole, ← afterLines_eq]
  rfl

/-- Lines are found again in the text that they make, but no lines make an empty one. -/
theorem lines_joined (unbroken : ∀ line ∈ written, 10 ∉ line) :
    lines (Text.joined [10] written) = written ∨
      (written = [] ∧ lines (Text.joined [10] written) = [[]]) := by
  cases written with
  | nil => exact .inr ⟨rfl, rfl⟩
  | cons line later => exact .inl (Text.fields_joined (List.cons_ne_nil line later) unbroken)

theorem load_joined (read : files.read name = .ok (Text.joined [10] written))
    (unbroken : ∀ line ∈ written, 10 ∉ line)
    (sound : ∀ line ∈ written, (Line.ofText line).isSound = true) (initial : Settings) :
    (load files name initial).outcome =
      .ok ((settingsIn written).foldl (applied files) initial) := by
  rcases lines_joined unbroken with same | ⟨rfl, single⟩
  · rw [load_of_sound read (same.symm ▸ sound), same]
  · rw [load_of_sound read (by rw [single]; decide), single]
    rfl

/-- A config file of sound lines gives each setting the last value that it has for it, selects
the fields that are named first, and keeps its telegrams in their order. Lines that are replaced,
refused or too late can be left out. -/
theorem load_settled (resolved : files.resolve name = .ok (path, .file content))
    (sound : ∀ line ∈ lines content, (Line.ofText line).isSound = true) (initial : Settings) :
    ∃ settings, (load files name initial).outcome = .ok settings ∧
      Settled files (settingsIn (lines content)) initial settings ∧
      ∀ earlier line later pair, lines content = earlier ++ line :: later →
        (Line.ofText line).setting? = some pair →
        Dispensable (settingsIn earlier) pair (settingsIn later) →
        (load (files.put path (.file (Text.joined [10] (earlier ++ later)))) name
          initial).outcome = .ok settings := by
  have read : files.read name = .ok content := by rw [Directory.read, resolved]
  refine ⟨_, load_of_sound read sound initial, Settled.run files _ initial, ?_⟩
  intro earlier line later pair split set dispensable
  have unbroken := unbroken_lines content
  have pairs : settingsIn (lines content) = settingsIn earlier ++ pair :: settingsIn later := by
    rw [split, settingsIn, List.filterMap_append]
    exact congrArg _ (List.filterMap_cons_some set)
  have kept : settingsIn (earlier ++ later) = settingsIn earlier ++ settingsIn later :=
    List.filterMap_append
  have inside : ∀ line ∈ earlier ++ later, line ∈ lines content := by
    rw [split]
    exact fun line member => (List.sublist_cons_self _ later).append_left earlier |>.subset member
  rw [pairs, dispensable.foldl_applied, ← kept,
    ← applied_put (Directory.resolve_ok resolved).2 (Text.joined [10] (earlier ++ later))]
  exact load_joined (Directory.read_put resolved _)
    (fun line member => unbroken line (inside line member))
    (fun line member => sound line (inside line member)) initial

theorem load_settled_replaced :
    let content : Text := "format=hr\nselectfields=id\nformat=json\nrssi=x\nselectfields=media\n"
    let without : Text := "selectfields=id\nformat=json\nrssi=x\nselectfields=media\n"
    let rewritten := (holding content).put [settingsFile] (.file without)
    (load (holding content) settingsFile {}).outcome =
        .ok { json := true, selected := ["id"] } ∧
      (load rewritten settingsFile {}).outcome = .ok { json := true, selected := ["id"] } := by
  intro content without rewritten
  have resolved : (holding content).resolve settingsFile = .ok ([settingsFile], .file content) := by
    decide +kernel
  have reached : after (holding content) {} (content ++ [10]) =
      { json := true, selected := ["id"] } := by
    decide +kernel
  have outcome : (load (holding content) settingsFile {}).outcome = _ := load_outcome rfl {}
  rw [reached] at outcome
  obtain ⟨settings, loaded, -, same⟩ := load_settled resolved (by decide +kernel) {}
  obtain rfl := Except.ok.inj (loaded.symm.trans outcome)
  have json : (⟨"format", "json"⟩ : Pair) ∈ settingsIn (lines without) := by decide +kernel
  have named (value : Text) : Pair.setting? ⟨"format", value⟩ = some .format := by
    have known : Settings.Key.ofName? "format" = some .format := by decide +kernel
    rw [Pair.setting?, known]
    rfl
  have allowed : Setting.format.Allows "json" := List.mem_cons_of_mem _ List.mem_cons_self
  have replaced : Dispensable (settingsIn []) ⟨"format", "hr"⟩ (settingsIn (lines without)) :=
    .replaced (named "hr") nofun json (named "json") allowed
  have rejoined : Text.joined [10] ([] ++ lines without) = without := by decide +kernel
  have again := same [] "format=hr" (lines without) _ (by decide +kernel) (by decide +kernel)
    replaced
  rw [rejoined] at again
  exact ⟨loaded, again⟩

/-- Of two selections the first stands, and without it the other one does. -/
theorem load_selects_first :
    let content : Text := "selectfields=id\nselectfields=media\n"
    let without : Text := "selectfields=media\n"
    (∀ line ∈ lines content, (Line.ofText line).isSound = true) ∧
      lines content = Text.ofString "selectfields=id" :: lines without ∧
      (∀ field ∈ (["id", "media"] : List Text), Report.isSelectable field = true) ∧
      (load (holding content) settingsFile {}).outcome = .ok { selected := ["id"] } ∧
      (load (holding without) settingsFile {}).outcome = .ok { selected := ["media"] } := by
  intro content without
  have first : after (holding content) {} (content ++ [10]) = { selected := ["id"] } := by
    decide +kernel
  have second : after (holding without) {} (without ++ [10]) = { selected := ["media"] } := by
    decide +kernel
  exact ⟨by decide +kernel, by decide +kernel, by decide +kernel,
    (load_outcome rfl {}).trans (congrArg _ first),
    (load_outcome rfl {}).trans (congrArg _ second)⟩

end MeterTelegram.ConfigFile
