import MeterTelegram.Proofs.CommandLine.Division
import MeterTelegram.Proofs.CommandLine.Switches

namespace MeterTelegram.CommandLine

/-! The config file among the arguments: the last that is named is loaded, wherever its option
stands among the others. -/

variable {files : Directory} {settings : Settings} {arguments others rest options : List Text}
  {argument name : Text} {config : Option Text}

abbrev optionsEnd : Text := "--"

def beforeEnd (arguments : List Text) : List Text :=
  arguments.takeWhile (· ≠ optionsEnd)

@[simp] theorem beforeEnd_end : beforeEnd (optionsEnd :: others) = [] := by
  simp [beforeEnd]

@[simp] theorem beforeEnd_cons (goesOn : argument ≠ optionsEnd) :
    beforeEnd (argument :: others) = argument :: beforeEnd others := by
  simp [beforeEnd, goesOn]

theorem beforeEnd_append (goOn : ∀ option ∈ options, option ≠ optionsEnd) (rest : List Text) :
    beforeEnd (options ++ rest) = options ++ beforeEnd rest := by
  simpa [beforeEnd] using List.takeWhile_append_of_pos (by simpa using goOn)

/-- The file name behind `--useconfig=`. -/
def configName? (argument : Text) : Option Text :=
  if argument.startsWith configOption then some (argument.drop (configOption.length + 1)) else none

/-- Config files named before the end of the options. -/
def configNames (arguments : List Text) : List Text :=
  (beforeEnd arguments).filterMap configName?

theorem configOption_ne_end (rest : Text) : configOption ++ rest ≠ optionsEnd := by
  intro same
  have long : configOption.length = 11 := by decide +kernel
  have short : optionsEnd.length = 2 := by decide +kernel
  have lengths := congrArg List.length same
  rw [List.length_append] at lengths
  omega

theorem startsWith_configOption (rest : Text) :
    (configOption ++ rest).startsWith configOption = true :=
  List.isPrefixOf_iff_prefix.mpr (List.prefix_append configOption rest)

theorem configName?_named (name : Text) : configName? (configOption ++ 61 :: name) = some name := by
  simp [configName?, startsWith_configOption]

theorem configName?_eq_none :
    configName? argument = none ↔ argument.startsWith configOption = false := by
  cases starts : argument.startsWith configOption <;> simp [configName?, starts]

theorem configFile?_named (byte : UInt8) (name : Text) (others : List Text)
    (found : Option Text) :
    configFile? ((configOption ++ 61 :: byte :: name) :: others) found =
      configFile? others (some (byte :: name)) := by
  rw [configFile?, if_neg (configOption_ne_end _), if_pos (startsWith_configOption _),
    List.drop_left]
  rfl

theorem configFile?_other (goesOn : argument ≠ optionsEnd) (other : configName? argument = none)
    (others : List Text) (found : Option Text) :
    configFile? (argument :: others) found = configFile? others found := by
  rw [configFile?, if_neg goesOn, configName?_eq_none.mp other]
  rfl

/-- An argument that begins as one that names a config file names one. -/
def NamesConfig (argument : Text) : Prop :=
  argument.startsWith configOption = true →
    ∃ byte rest, argument = configOption ++ 61 :: byte :: rest

theorem namesConfig_of_first {found : Option Text} (goesOn : argument ≠ optionsEnd)
    (chosen : configFile? (argument :: others) found = .ok config) : NamesConfig argument := by
  intro starts
  obtain ⟨rest, rfl⟩ : configOption <+: argument := List.isPrefixOf_iff_prefix.mp starts
  rw [configFile?, if_neg goesOn, if_pos starts, List.drop_left] at chosen
  split at chosen
  · rename_i byte rest
    exact ⟨byte, rest, rfl⟩
  · contradiction

theorem namesConfig_or_none (wellFormed : NamesConfig argument) :
    (∃ byte rest, argument = configOption ++ 61 :: byte :: rest) ∨ configName? argument = none := by
  cases starts : argument.startsWith configOption with
  | true => exact .inl (wellFormed starts)
  | false => exact .inr (configName?_eq_none.mpr starts)

theorem namesConfig_of_chosen {found : Option Text}
    (chosen : configFile? arguments found = .ok config) :
    ∀ argument ∈ beforeEnd arguments, NamesConfig argument := by
  induction arguments generalizing found with
  | nil => simp [beforeEnd]
  | cons argument others ih =>
      by_cases ends : argument = optionsEnd
      · simp [ends]
      · have first := namesConfig_of_first ends chosen
        rw [beforeEnd_cons ends, List.forall_mem_cons]
        rcases namesConfig_or_none first with ⟨byte, rest, rfl⟩ | other
        · rw [configFile?_named] at chosen
          exact ⟨first, ih chosen⟩
        · rw [configFile?_other ends other] at chosen
          exact ⟨first, ih chosen⟩

/-- The last of the config files that are named is chosen. -/
theorem configFile?_eq
    (wellFormed : ∀ argument ∈ beforeEnd arguments, NamesConfig argument)
    (found : Option Text) :
    configFile? arguments found = .ok ((configNames arguments).getLast?.or found) := by
  induction arguments generalizing found with
  | nil => rfl
  | cons argument others ih =>
      by_cases ends : argument = optionsEnd
      · rw [ends, configFile?, if_pos rfl, configNames, beforeEnd_end]
        rfl
      · rw [beforeEnd_cons ends, List.forall_mem_cons] at wellFormed
        obtain ⟨here, behind⟩ := wellFormed
        rw [configNames, beforeEnd_cons ends]
        rcases namesConfig_or_none here with ⟨byte, rest, rfl⟩ | other
        · rw [configFile?_named, ih behind, List.filterMap_cons_some (configName?_named _),
            List.getLast?_cons, configNames]
          cases (List.filterMap configName? _).getLast? <;> rfl
        · rw [configFile?_other ends other, ih behind, List.filterMap_cons_none other, configNames]

/-! Options in another order -/

theorem ofArgument_named (name : Text) :
    Switch.ofArgument (configOption ++ 61 :: name) = .configFile := by
  have equals : Text.ofString "--useconfig=" = configOption ++ [61] := by decide +kernel
  have named : Switch.ofArgument ("--useconfig=" ++ name) = .configFile :=
    Switch.ofArgument_valued List.mem_cons_self name
  rwa [equals, List.append_assoc] at named

theorem ends_of_ofArgument (option : argument ≠ optionsEnd) :
    Switch.ofArgument argument ≠ .endOfOptions := by
  intro ends
  have single : ∀ word ∈ Switch.words, word.2 = .endOfOptions → word.1 = optionsEnd := by
    decide +kernel
  exact option (single _ (Switch.mem_words ends rfl (by simp)) rfl)

theorem help_of_ends (option : argument ≠ optionsEnd)
    (ends : (Switch.ofArgument argument).ends = true) : Switch.ofArgument argument = .help := by
  cases given : Switch.ofArgument argument with
  | help => rfl
  | endOfOptions => exact absurd given (ends_of_ofArgument option)
  | _ => rw [given] at ends; contradiction

/-- The same options, with their config files elsewhere among them or fewer of these. -/
structure Rearranged (options others : List Text) : Prop where
  goOn : ∀ option ∈ options, isOption option = true ∧ option ≠ optionsEnd
  subset : others ⊆ options
  same : others.filter (configName? · |>.isNone) = options.filter (configName? · |>.isNone)
  last : (others.filterMap configName?).getLast? = (options.filterMap configName?).getLast?

/-- Reading the options passes the config files over. -/
theorem readOptions_named (goOn : ∀ option ∈ options, isOption option = true ∧ option ≠ optionsEnd)
    (wellFormed : ∀ option ∈ options, NamesConfig option) (settings : Settings)
    (rest : List Text) :
    readOptions settings (options ++ rest) =
      readOptions settings (options.filter (configName? · |>.isNone) ++ rest) := by
  induction options generalizing settings with
  | nil => rfl
  | cons argument options ih =>
      obtain ⟨⟨option, inside⟩, goOnBehind⟩ := List.forall_mem_cons.mp goOn
      obtain ⟨here, wellFormedBehind⟩ := List.forall_mem_cons.mp wellFormed
      have behind := ih goOnBehind wellFormedBehind
      rcases namesConfig_or_none here with ⟨byte, name, rfl⟩ | other
      · rw [List.filter_cons_of_neg (by simp [configName?_named]), ← behind]
        exact readOptions_of_switch option (ofArgument_named _) rfl
      · rw [List.filter_cons_of_pos (by simp [other]), List.cons_append, List.cons_append]
        cases goesOn : (Switch.ofArgument argument).ends with
        | false =>
            rw [readOptions_of_switch option rfl goesOn, readOptions_of_switch option rfl goesOn]
            exact congrArg (obey settings _ >>= ·) (funext behind)
        | true =>
            simp [readOptions, option, help_of_ends inside goesOn]

theorem namesConfig_of_options (goOn : ∀ option ∈ options, option ≠ optionsEnd)
    (chosen : configFile? (options ++ rest) none = .ok config) :
    (∀ option ∈ options, NamesConfig option) ∧ ∀ option ∈ beforeEnd rest, NamesConfig option := by
  have wellFormed := namesConfig_of_chosen chosen
  rw [beforeEnd_append goOn] at wellFormed
  exact List.forall_mem_append.mp wellFormed

/-- Options of which the last that names a config file names the same one choose it. -/
theorem configFile?_of_last (goOn : ∀ option ∈ options, option ≠ optionsEnd)
    (subset : others ⊆ options)
    (last : (others.filterMap configName?).getLast? = (options.filterMap configName?).getLast?)
    (chosen : configFile? (options ++ rest) none = .ok config) :
    configFile? (others ++ rest) none = .ok config := by
  have goOnOthers : ∀ option ∈ others, option ≠ optionsEnd := fun option member =>
    goOn option (subset member)
  obtain ⟨here, behind⟩ := namesConfig_of_options goOn chosen
  have whole : ∀ option ∈ beforeEnd (others ++ rest), NamesConfig option := by
    rw [beforeEnd_append goOnOthers]
    exact List.forall_mem_append.mpr ⟨fun option member => here option (subset member), behind⟩
  rw [configFile?_eq (namesConfig_of_chosen chosen)] at chosen
  rw [configFile?_eq whole, ← chosen]
  simp only [configNames, beforeEnd_append goOn, beforeEnd_append goOnOthers,
    List.filterMap_append, List.getLast?_append, last]

theorem configFile?_rearranged (rearranged : Rearranged options others)
    (chosen : configFile? (options ++ rest) none = .ok config) :
    configFile? (others ++ rest) none = .ok config :=
  configFile?_of_last (fun option member => (rearranged.goOn option member).2) rearranged.subset
    rearranged.last chosen

theorem readOptions_rearranged (rearranged : Rearranged options others)
    (chosen : configFile? (options ++ rest) none = .ok config) (settings : Settings) :
    readOptions settings (others ++ rest) = readOptions settings (options ++ rest) := by
  obtain ⟨wellFormed, -⟩ := namesConfig_of_options
    (fun option member => (rearranged.goOn option member).2) chosen
  rw [readOptions_named rearranged.goOn wellFormed, readOptions_named, rearranged.same]
  · exact fun option member => rearranged.goOn option (rearranged.subset member)
  · exact fun option member => wellFormed option (rearranged.subset member)

theorem Rearranged.nil_iff (rearranged : Rearranged options others) :
    others = [] ↔ options = [] := by
  constructor
  · rintro rfl
    have unnamed : options.filterMap configName? = [] := by simpa using rearranged.last.symm
    have named : options.filter (configName? · |>.isNone) = [] := rearranged.same.symm
    cases options with
    | nil => rfl
    | cons option options =>
        cases found : configName? option <;> simp [found] at unnamed named
  · rintro rfl
    exact List.subset_nil.mp rearranged.subset

theorem parse_rearranged (rearranged : Rearranged options others)
    (split : arguments.map Text.shown = options ++ rest) {changed : List Text}
    (moved : changed.map Text.shown = others ++ rest)
    (parsed : (parse files arguments).outcome = .ok settings) :
    parse files changed = parse files arguments := by
  cases absent : (options ++ rest).isEmpty with
  | true =>
      obtain ⟨rfl, rfl⟩ := List.append_eq_nil_iff.mp (List.isEmpty_iff.mp absent)
      obtain rfl := rearranged.nil_iff.mpr rfl
      simp only [parse, split, moved]
  | false =>
      have present : (others ++ rest).isEmpty = false := by
        simpa [rearranged.nil_iff] using absent
      simp only [parse, split, moved, absent, present, Bool.false_eq_true, if_false] at parsed ⊢
      obtain ⟨config, chosen, -⟩ := Journal.ok_of_bind parsed
      change configFile? (options ++ rest) none = .ok config at chosen
      rw [chosen, configFile?_rearranged rearranged chosen]
      simp only [readOptions_rearranged rearranged chosen]

end MeterTelegram.CommandLine
