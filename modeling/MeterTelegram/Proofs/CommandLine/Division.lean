import MeterTelegram.CommandLine
import MeterTelegram.Proofs.Journal
import MeterTelegram.Proofs.Results

namespace MeterTelegram.CommandLine

/-! The arguments of a run taken apart: the switches at their front, which are obeyed in turn,
then the sources of telegrams. -/

variable {files : Directory} {settings after configured obeyed : Settings} {switch : Switch}
  {arguments others : List Text} {argument : Text} {config : Option Text}

def Switch.ends : Switch → Bool
  | .help => true
  | .endOfOptions => true
  | _ => false

/-- What stands behind the switches. Help ends the reading. -/
inductive Ending where
  | help
  | sources (arguments : List Text)
deriving DecidableEq, Repr

structure Division where
  switches : List Switch
  ending : Ending
deriving DecidableEq, Repr

def divide : List Text → Division
  | [] => ⟨[], .sources []⟩
  | argument :: others =>
      if !isOption argument then ⟨[], .sources (argument :: others)⟩
      else match Switch.ofArgument argument with
        | .help => ⟨[], .help⟩
        | .endOfOptions => ⟨[], .sources others⟩
        | switch => { divide others with switches := switch :: (divide others).switches }

/-- Settings and sources once the switches are obeyed. -/
def Ending.leave (settings : Settings) : Ending → Settings × List Text
  | .help => ({ settings with needsHelp := true }, [])
  | .sources arguments => (settings, arguments)

def obeyAll (settings : Settings) (given : List Switch) : Except Fault Settings :=
  given.foldlM obey settings

theorem obeyAll_cons (settings : Settings) (switch : Switch) (given : List Switch) :
    obeyAll settings (switch :: given) = obey settings switch >>= (obeyAll · given) :=
  List.foldlM_cons

theorem obeyAll_append (settings : Settings) (front behind : List Switch) :
    obeyAll settings (front ++ behind) = obeyAll settings front >>= (obeyAll · behind) :=
  List.foldlM_append

theorem obeyAll_cons_ok {given : List Switch}
    (obeyed : obeyAll settings (switch :: given) = .ok after) :
    ∃ middle, obey settings switch = .ok middle ∧ obeyAll middle given = .ok after := by
  rw [obeyAll_cons] at obeyed
  exact Results.ok_of_bind obeyed

/-- What every switch preserves holds once all are obeyed. -/
theorem obeyAll_preserves {P : Settings → Prop} {given : List Switch}
    (step : ∀ switch ∈ given, ∀ before next, obey before switch = .ok next → P before → P next)
    (obeyed : obeyAll settings given = .ok after) (begun : P settings) : P after := by
  induction given generalizing settings with
  | nil => cases obeyed; exact begun
  | cons switch given ih =>
      obtain ⟨middle, first, rest⟩ := obeyAll_cons_ok obeyed
      obtain ⟨here, behind⟩ := List.forall_mem_cons.mp step
      exact ih behind rest (here settings middle first begun)

theorem divide_of_source (source : isOption argument = false) :
    divide (argument :: others) = ⟨[], .sources (argument :: others)⟩ := by
  rw [divide, source]
  rfl

theorem divide_of_switch (option : isOption argument = true)
    (given : Switch.ofArgument argument = switch) (goesOn : switch.ends = false) :
    divide (argument :: others) =
      ⟨switch :: (divide others).switches, (divide others).ending⟩ := by
  rw [divide, option, given]
  cases switch <;> first | rfl | contradiction

theorem divide_of_end (option : isOption argument = true)
    (ends : (Switch.ofArgument argument).ends = true) :
    (divide (argument :: others)).switches = [] := by
  cases given : Switch.ofArgument argument <;> rw [given] at ends <;>
    first
    | contradiction
    | rw [divide, option, given]; rfl

theorem readOptions_of_switch (option : isOption argument = true)
    (given : Switch.ofArgument argument = switch) (goesOn : switch.ends = false) :
    readOptions settings (argument :: others) =
      obey settings switch >>= (readOptions · others) := by
  rw [readOptions, option, given]
  cases done : obey settings switch with
  | error fault => cases switch <;> first | contradiction | simp [done]; rfl
  | ok after => cases switch <;> first | contradiction | simp [done]; rfl

/-- The switches in front are obeyed in turn, then the reading goes on. -/
theorem readOptions_append {front : List Text}
    (goOn : ∀ option ∈ front, isOption option = true ∧ (Switch.ofArgument option).ends = false)
    (settings : Settings) (behind : List Text) :
    readOptions settings (front ++ behind) =
      obeyAll settings (front.map Switch.ofArgument) >>= (readOptions · behind) := by
  induction front generalizing settings with
  | nil => rfl
  | cons option front ih =>
      obtain ⟨⟨isOption, goesOn⟩, goOn⟩ := List.forall_mem_cons.mp goOn
      rw [List.cons_append, readOptions_of_switch isOption rfl goesOn, List.map_cons, obeyAll_cons]
      cases obey settings (Switch.ofArgument option) with
      | error fault => rfl
      | ok after => exact ih goOn after

theorem readOptions_eq (settings : Settings) (arguments : List Text) :
    readOptions settings arguments =
      (obeyAll settings (divide arguments).switches).map
        fun obeyed => (divide arguments).ending.leave obeyed := by
  induction arguments generalizing settings with
  | nil => rfl
  | cons argument others ih =>
      cases option : isOption argument with
      | false =>
          rw [divide_of_source option, readOptions, option]
          rfl
      | true =>
          cases goesOn : (Switch.ofArgument argument).ends with
          | false =>
              rw [divide_of_switch option rfl goesOn, readOptions_of_switch option rfl goesOn,
                obeyAll_cons]
              cases obey settings (Switch.ofArgument argument) with
              | error fault => rfl
              | ok after => exact ih after
          | true =>
              cases given : Switch.ofArgument argument <;> rw [given] at goesOn <;>
                first
                | contradiction
                | simp only [readOptions, divide, option, given]; rfl

/-- The sources are read where every argument is one, and added in order. -/
theorem readSources_ok_iff :
    readSources files settings arguments = .ok after ↔
      ∃ sources : List Settings.Source,
        arguments.map (Settings.Source.ofText? files) = sources.map some ∧
        sources.foldl Settings.addSource settings = after := by
  induction arguments generalizing settings with
  | nil =>
      constructor
      · intro read
        exact ⟨[], rfl, Except.ok.inj read⟩
      · rintro ⟨sources, same, rfl⟩
        obtain rfl := List.map_eq_nil_iff.mp same.symm
        rfl
  | cons argument others ih =>
      cases found : Settings.Source.ofText? files argument with
      | none =>
          simp only [readSources, found, List.map_cons]
          constructor
          · intro read
            contradiction
          · rintro ⟨sources, same, -⟩
            cases sources <;> simp at same
      | some source =>
          simp only [readSources, found, List.map_cons, ih]
          constructor
          · rintro ⟨sources, same, rfl⟩
            exact ⟨source :: sources, congrArg (some source :: ·) same, rfl⟩
          · rintro ⟨sources, same, rfl⟩
            cases sources with
            | nil => simp at same
            | cons first sources =>
                simp only [List.map_cons, List.cons.injEq, Option.some.injEq] at same
                obtain ⟨rfl, same⟩ := same
                exact ⟨sources, same, rfl⟩

theorem readSources_append {middle : Settings}
    (read : readSources files settings arguments = .ok middle) (others : List Text) :
    readSources files settings (arguments ++ others) = readSources files middle others := by
  induction arguments generalizing settings with
  | nil => cases read; rfl
  | cons argument arguments ih =>
      rw [List.cons_append, readSources]
      rw [readSources] at read
      cases found : Settings.Source.ofText? files argument with
      | none => simp [found] at read
      | some source =>
          simp only [found] at read ⊢
          exact ih read

/-- What a reading of arguments went through: the file that was loaded, the settings it left,
and those once the switches were obeyed. -/
structure Reads (files : Directory) (given : List Text) (config : Option Text)
    (configured obeyed settings : Settings) : Prop where
  chosen : configFile? given none = .ok config
  loaded : (loadConfig files config).outcome = .ok configured
  obeying : obeyAll configured (divide given).switches = .ok obeyed
  finished : readSources files ((divide given).ending.leave obeyed).1
    ((divide given).ending.leave obeyed).2 = .ok settings

theorem parse_ok_iff (present : arguments ≠ []) :
    (parse files arguments).outcome = .ok settings ↔
      ∃ config configured obeyed,
        Reads files (arguments.map Text.shown) config configured obeyed settings := by
  have occupied : (arguments.map Text.shown).isEmpty = false := by
    cases arguments with
    | nil => contradiction
    | cons argument others => rfl
  simp only [parse, occupied, Bool.false_eq_true, if_false]
  constructor
  · intro parsed
    obtain ⟨config, chosen, parsed⟩ := Journal.ok_of_bind parsed
    obtain ⟨configured, loaded, parsed⟩ := Journal.ok_of_bind parsed
    obtain ⟨⟨left, sources⟩, read, finished⟩ := Journal.ok_of_bind parsed
    change readOptions configured (arguments.map Text.shown) = _ at read
    rw [readOptions_eq] at read
    obtain ⟨obeyed, done, ended⟩ := Results.ok_of_map read
    exact ⟨config, configured, obeyed, chosen, loaded, done, by rw [ended]; exact finished⟩
  · rintro ⟨config, configured, obeyed, chosen, loaded, done, finished⟩
    have read : readOptions configured (arguments.map Text.shown) =
        .ok ((divide (arguments.map Text.shown)).ending.leave obeyed) := by
      rw [readOptions_eq, done]
      rfl
    rw [Journal.outcome_bind chosen, Journal.outcome_bind loaded, Journal.outcome_bind read]
    exact finished

end MeterTelegram.CommandLine
