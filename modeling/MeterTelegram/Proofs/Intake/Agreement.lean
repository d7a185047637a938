import MeterTelegram.CommandLine
import MeterTelegram.Proofs.Intake
import MeterTelegram.Proofs.Intake.Lines

namespace MeterTelegram

/-! One telegram in three places: as an argument, as a setting of a config file and as a line of a
telegram file. -/

namespace Intake

open TelegramFile (start)

variable {text : Text}

/-- A file of these lines, the given one among them. -/
def Holds (files : Directory) (name : Text) (earlier : List Text) (line : Text)
    (later : List Text) : Prop :=
  ∃ content, files.read name = .ok content ∧
    Text.fields 10 content = earlier ++ line :: later

/-- What becomes of a text as an argument: a telegram is stored, or the text has to be the name of
a file. -/
inductive AsArgument (text : Text) : Option Text → Prop where
  | telegram {stored : Text}
      (adds : ∀ files settings others,
        CommandLine.readSources files settings (text :: others) =
          CommandLine.readSources files (settings.addSource (.telegram stored)) others) :
      AsArgument text (some stored)
  | name
      (adds : ∀ files settings others,
        CommandLine.readSources files settings (text :: others) =
          if files.isFile text.trim then
            CommandLine.readSources files (settings.addSource (.file text.trim)) others
          else .error (.noSource text)) :
      AsArgument text none

/-- What becomes of a text in a config file, behind lines that are read one by one. -/
inductive AsSetting (text : Text) : Option Text → Prop where
  | telegram {stored : Text}
      (adds : ∀ files name earlier later settings, Holds files name earlier (start ++ text) later →
        (∀ line ∈ earlier, (ConfigFile.Line.ofText line).isSound = true) →
          (ConfigFile.load files name settings).outcome =
            .ok (ConfigFile.after files
              ((ConfigFile.afterLines files settings earlier).addSource (.telegram stored))
              (ConfigFile.unlines later))) :
      AsSetting text (some stored)
  | name
      (adds : ∀ files name earlier later settings, Holds files name earlier (start ++ text) later →
        (∀ line ∈ earlier, (ConfigFile.Line.ofText line).isSound = true) →
          (ConfigFile.load files name settings).outcome =
            .ok (ConfigFile.after files
              (if files.isFile text.trim then
                (ConfigFile.afterLines files settings earlier).addSource (.file text.trim)
              else ConfigFile.afterLines files settings earlier)
              (ConfigFile.unlines later))) :
      AsSetting text none

/-- What becomes of a text in a telegram file, behind lines that name telegrams. -/
inductive AsLine (text : Text) : Option Text → Prop where
  | telegram {stored : Text}
      (adds : ∀ files name earlier later added before,
        Holds files name earlier (start ++ text) later →
        (∀ line ∈ earlier ++ later, line.length ≤ TextLines.maxLength) →
        List.Forall₂ TelegramFile.Names
          (TelegramFile.relevant (earlier.map TextLines.withoutReturn)) added →
          ∃ more, (TelegramFile.load files name before).telegrams =
            before ++ added ++ stored :: more) :
      AsLine text (some stored)
  | refused
      (stops : ∀ files name earlier later added before,
        Holds files name earlier (start ++ text) later →
        (∀ line ∈ earlier ++ later, line.length ≤ TextLines.maxLength) →
        List.Forall₂ TelegramFile.Names
          (TelegramFile.relevant (earlier.map TextLines.withoutReturn)) added →
          (TelegramFile.load files name before).telegrams = before ++ added ∧
            (TelegramFile.load files name before).fault =
              some (.notHex name (Text.trim (start ++ text)))) :
      AsLine text none

/-- The telegram that a text gives by itself. -/
def given? (text : Text) : Option Text :=
  if Hex.isTelegram text.trim then some text.trim else none

/-- The telegram that a line gives. -/
def listed? (text : Text) : Option Text :=
  if Hex.isTelegram (TelegramFile.kept text) then some (TelegramFile.kept text) else none

theorem asArgument (text : Text) : AsArgument text (given? text) := by
  unfold given?
  split
  · rename_i accepted
    apply AsArgument.telegram
    intro files settings others
    simp only [CommandLine.readSources, Settings.Source.ofText?, accepted, if_true]
  · rename_i refused
    apply AsArgument.name
    intro files settings others
    simp only [CommandLine.readSources, Settings.Source.ofText?, refused]
    cases files.isFile text.trim <;> rfl

theorem asSetting (steady : 13 ∉ text) (short : text.length < 4000) :
    AsSetting text (given? text) := by
  unfold given?
  split
  · rename_i accepted
    apply AsSetting.telegram
    intro files name earlier later settings holds sound
    obtain ⟨content, found, parts⟩ := holds
    rw [ConfigFile.load_at_line found parts sound short steady]
    simp only [Settings.giveTelegram, Settings.Source.ofText?, Text.trim_trim, accepted, if_true]
    rfl
  · rename_i refused
    apply AsSetting.name
    intro files name earlier later settings holds sound
    obtain ⟨content, found, parts⟩ := holds
    rw [ConfigFile.load_at_line found parts sound short steady]
    simp only [Settings.giveTelegram, Settings.Source.ofText?, Text.trim_trim, refused]
    cases files.isFile text.trim <;> rfl

/-- A telegram file is collected up to the line, which adds a telegram or ends the collection. -/
theorem Holds.load_line {files : Directory} {name : Text} {earlier later added : List Text}
    (holds : Holds files name earlier (start ++ text) later)
    (others : ∀ line ∈ earlier ++ later, line.length ≤ TextLines.maxLength)
    (named : List.Forall₂ TelegramFile.Names
      (TelegramFile.relevant (earlier.map TextLines.withoutReturn)) added)
    (steady : 13 ∉ text) (short : text.length < 4000) (before : List Text) :
    ((TelegramFile.load files name before).telegrams, (TelegramFile.load files name before).fault) =
      if Hex.isTelegram (TelegramFile.kept text) then
        TelegramFile.collect name (before ++ added ++ [TelegramFile.kept text])
          (TextLines.tidied later)
      else (before ++ added, some (.notHex name (Text.trim (start ++ text)))) := by
  obtain ⟨content, found, parts⟩ := holds
  have limit : TextLines.maxLength = 32768 := rfl
  have begins : start.length = 9 := rfl
  have here : (start ++ text).length ≤ TextLines.maxLength := by
    rw [List.length_append]
    omega
  have lengths : ∀ line ∈ TextLines.lines content, line.length ≤ TextLines.maxLength := by
    rw [TextLines.lines, TextLines.newline, parts]
    simp only [List.forall_mem_append, List.forall_mem_cons] at others ⊢
    exact ⟨others.1, here, others.2⟩
  rw [TelegramFile.load_at_line found parts lengths steady named before, TelegramFile.collect,
    TelegramFile.telegram?_line]
  cases Hex.isTelegram (TelegramFile.kept text) <;> rfl

theorem asLine (steady : 13 ∉ text) (short : text.length < 4000) : AsLine text (listed? text) := by
  unfold listed?
  split
  · rename_i accepted
    apply AsLine.telegram
    intro files name earlier later added before holds others named
    have loaded := holds.load_line others named steady short before
    rw [if_pos accepted] at loaded
    obtain ⟨more, collected, -⟩ := TelegramFile.collect_accepted name
      (before ++ added ++ [TelegramFile.kept text]) (TextLines.tidied later)
    have telegrams := (congrArg Prod.fst loaded).trans collected
    rw [List.append_assoc (before ++ added)] at telegrams
    exact ⟨more, telegrams⟩
  · rename_i refused
    apply AsLine.refused
    intro files name earlier later added before holds others named
    have loaded := holds.load_line others named steady short before
    rw [if_neg refused] at loaded
    exact Prod.mk.inj loaded

/-- What an argument stores shows where it is the only one. -/
theorem AsArgument.stored_eq {stored : Option Text} (stores : AsArgument text stored) :
    stored = (CommandLine.readSources .empty {} [text]).toOption.bind
      fun settings => settings.telegrams.head? := by
  cases stores with
  | telegram adds =>
      rw [adds]
      rfl
  | name adds =>
      rw [adds]
      split <;> rfl

theorem holds_alone (unbroken : 10 ∉ text) :
    Holds (TextLines.alone (start ++ text)) "f" [] (start ++ text) [] := by
  have absent : 10 ∉ start ++ text := by
    rw [List.mem_append, not_or]
    exact ⟨by decide, unbroken⟩
  exact ⟨start ++ text, TextLines.read_alone _, Text.fields_of_not_mem absent⟩

theorem AsSetting.stored_eq {stored : Option Text} (stores : AsSetting text stored)
    (unbroken : 10 ∉ text) :
    stored = (ConfigFile.load (TextLines.alone (start ++ text)) "f" {}).outcome.toOption.bind
      fun settings => settings.telegrams.head? := by
  have ended (settings : Settings) :
      ConfigFile.after (TextLines.alone (start ++ text)) settings (ConfigFile.unlines []) =
        settings :=
    ConfigFile.after_of_end rfl
  cases stores with
  | telegram adds =>
      rw [adds _ _ _ _ {} (holds_alone unbroken) nofun, ended]
      rfl
  | name adds =>
      rw [adds _ _ _ _ {} (holds_alone unbroken) nofun, ended]
      split <;> rfl

theorem AsLine.stored_eq {stored : Option Text} (stores : AsLine text stored) (unbroken : 10 ∉ text) :
    stored = (TelegramFile.load (TextLines.alone (start ++ text)) "f" []).telegrams.head? := by
  cases stores with
  | telegram adds =>
      obtain ⟨more, telegrams⟩ := adds _ _ _ _ [] [] (holds_alone unbroken) nofun .nil
      rw [telegrams]
      rfl
  | refused stops =>
      obtain ⟨telegrams, -⟩ := stops _ _ _ _ [] [] (holds_alone unbroken) nofun .nil
      rw [telegrams]
      rfl

/-! What is stored shows where the text stands alone, so no place stores two things of it. -/

theorem asArgument_iff {stored : Option Text} :
    AsArgument text stored ↔ stored = given? text := by
  constructor
  · intro stores
    exact stores.stored_eq.trans (asArgument text).stored_eq.symm
  · intro same
    rw [same]
    exact asArgument text

theorem asSetting_iff (unbroken : 10 ∉ text) (steady : 13 ∉ text) (short : text.length < 4000)
    {stored : Option Text} : AsSetting text stored ↔ stored = given? text := by
  have setting := asSetting steady short
  constructor
  · intro stores
    exact (stores.stored_eq unbroken).trans (setting.stored_eq unbroken).symm
  · intro same
    rw [same]
    exact setting

theorem asLine_iff (unbroken : 10 ∉ text) (steady : 13 ∉ text) (short : text.length < 4000)
    {stored : Option Text} : AsLine text stored ↔ stored = listed? text := by
  have line := asLine steady short
  constructor
  · intro stores
    exact (stores.stored_eq unbroken).trans (line.stored_eq unbroken).symm
  · intro same
    rw [same]
    exact line

theorem isSome_given? : (given? text).isSome = true ↔ Hex.isTelegram text.trim = true := by
  simp [given?]

theorem isSome_listed? (whole : 0 ∉ text) :
    (listed? text).isSome = true ↔ (given? text).isSome = true ∧ 9 ∉ text.margin := by
  rw [isSome_given?, ← TelegramFile.isTelegram_kept_iff whole]
  simp [listed?]

theorem read_listed (whole : 0 ∉ text) {elsewhere inFile : Text}
    (given : given? text = some elsewhere) (listed : listed? text = some inFile) :
    Hex.read inFile = Hex.read elsewhere := by
  simp only [given?, listed?, Option.ite_none_right_eq_some, Option.some.injEq] at given listed
  rw [← given.2, ← listed.2]
  exact TelegramFile.read_kept whole listed.1

/-- A text on one line is stored as the same telegram if it is given as an argument and if it is
set in a config file. As a line of a telegram file it is a telegram as well, and read alike, unless
a tab is among the blanks that it begins with: then the line is refused. -/
theorem sources_agree (unbroken : 10 ∉ text) (steady : 13 ∉ text) (whole : 0 ∉ text)
    (short : text.length < 4000) :
    ∃ given listed : Option Text,
      (∀ stored, AsArgument text stored ↔ stored = given) ∧
      (∀ stored, AsSetting text stored ↔ stored = given) ∧
      (∀ stored, AsLine text stored ↔ stored = listed) ∧
      (given.isSome = true ↔ Hex.isTelegram text.trim = true) ∧
      (listed.isSome = true ↔ given.isSome = true ∧ 9 ∉ text.takeWhile Text.isBlank) ∧
      ∀ elsewhere ∈ given, ∀ inFile ∈ listed, Hex.read inFile = Hex.read elsewhere := by
  refine ⟨given? text, listed? text, fun _ => asArgument_iff,
    fun _ => asSetting_iff unbroken steady short, fun _ => asLine_iff unbroken steady short,
    isSome_given?, isSome_listed? whole, ?_⟩
  intro elsewhere given inFile listed
  exact read_listed whole given listed

/-- Blanks, bars and a tab behind the telegram. -/
theorem sources_agree_spaced :
    let text : Text := " |2f 44|\t"
    10 ∉ text ∧ 13 ∉ text ∧ 0 ∉ text ∧ text.length < 4000 ∧
      ∃ given listed : Text, AsArgument text (some given) ∧ AsSetting text (some given) ∧
        AsLine text (some listed) ∧ Hex.read listed = Hex.read given := by
  intro text
  have unbroken : 10 ∉ text := by decide
  have steady : 13 ∉ text := by decide
  have whole : 0 ∉ text := by decide
  have short : text.length < 4000 := by decide
  have telegram : Hex.isTelegram text.trim = true := by decide
  have tabless : 9 ∉ text.takeWhile Text.isBlank := by decide
  obtain ⟨given, listed, argument, setting, line, given_iff, listed_iff, alike⟩ :=
    sources_agree unbroken steady whole short
  have present := given_iff.mpr telegram
  obtain ⟨elsewhere, rfl⟩ := Option.isSome_iff_exists.mp present
  obtain ⟨inFile, rfl⟩ := Option.isSome_iff_exists.mp (listed_iff.mpr ⟨present, tabless⟩)
  exact ⟨unbroken, steady, whole, short, elsewhere, inFile, (argument _).mpr rfl,
    (setting _).mpr rfl, (line _).mpr rfl, alike elsewhere rfl inFile rfl⟩

/-- A telegram behind a tab is one for a config file and as an argument, but not in a telegram
file. -/
theorem tab_divides :
    let text : Text := "\t00"
    let files := TextLines.alone (start ++ text)
    10 ∉ text ∧ 13 ∉ text ∧ 0 ∉ text ∧ text.length < 4000 ∧
      (ConfigFile.load files "f" {}).outcome = .ok { telegrams := ["00"] } ∧
      (CommandLine.parse files ["--", text]).outcome = .ok { telegrams := ["00"] } ∧
      TelegramFile.load files "f" [] = ⟨[], some (.notHex "f" "telegram=\t00"), []⟩ := by
  decide +kernel

end Intake

end MeterTelegram
