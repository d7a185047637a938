import MeterTelegram.Proofs.CommandLine.Invariant
import MeterTelegram.Proofs.CommandLine.Override
import MeterTelegram.Proofs.Run.Output
import MeterTelegram.Proofs.Session.Sparing

namespace MeterTelegram.Run

/-! A run is put together from its telegrams: each adds to the output what it would print alone,
and the exit status tells whether all of them were telegrams and all files were loaded. -/

variable {registry : Registry} {report : Report} {signal : Int} {files : Directory}
  {arguments : List Text} {settings : Settings} {session : Session}

/-- Whether a text is received as a frame. -/
def receives (signal : Int) (telegram : Text) : Bool :=
  (Frame.receiveText telegram signal).outcome.isOk

/-- Whether a file is loaded and all of its telegrams are received. -/
def receivesFile (signal : Int) (files : Directory) (file : Text) : Bool :=
  (TelegramFile.load files file []).fault.isNone &&
    (telegramsIn files file).all (receives signal)

section

variable (calm : ∀ signature, ∀ decoder ∈ registry.lookup signature, decoder.Calm)

include calm

theorem decodeTelegram_accepts (report : Report) (signal : Int) (telegram : Text) :
    (decodeTelegram registry report telegram signal).outcome = .ok (receives signal telegram) := by
  have endures : Endures registry report telegram signal := endures_of_calm calm
  obtain ⟨accepted, ends, refused⟩ := endures.ends
  rw [ends, receives]
  cases received : (Frame.receiveText telegram signal).outcome with
  | error fault => rw [refused.mpr ⟨fault, received⟩]; rfl
  | ok frame =>
      cases accepted with
      | true => rfl
      | false =>
          obtain ⟨fault, rejected⟩ := refused.mp rfl
          rw [received] at rejected
          contradiction

theorem decodeAll_accepts (report : Report) (signal : Int) (telegrams : List Text) :
    (decodeAll registry report signal telegrams).outcome =
      .ok (telegrams.all (receives signal)) := by
  induction telegrams with
  | nil => rfl
  | cons telegram others ih =>
      rw [decodeAll, Journal.outcome_bind (decodeTelegram_accepts calm report signal telegram),
        Journal.outcome_bind ih]
      rfl

theorem decodeFile_accepts (report : Report) (signal : Int) (files : Directory) (file : Text) :
    (decodeFile registry report signal files file).outcome =
      .ok (receivesFile signal files file) := by
  simp only [decodeFile, Journal.note_bind, receivesFile, telegramsIn]
  cases loaded : (TelegramFile.load files file []).fault with
  | some fault => simp
  | none => simpa using decodeAll_accepts calm report signal _

end

theorem decodeFile_congr (registry : Registry) (report : Report) (signal : Int)
    {other : Directory} {file : Text} (same : other.resolve file = files.resolve file) :
    decodeFile registry report signal other file =
      decodeFile registry report signal files file := by
  have read : other.read file = files.read file := by rw [Directory.read, Directory.read, same]
  have lines : TextLines.load other file = TextLines.load files file := by
    rw [TextLines.load, TextLines.load, read]
  have loaded : TelegramFile.load other file [] = TelegramFile.load files file [] := by
    rw [TelegramFile.load, TelegramFile.load, lines]
  rw [decodeFile, decodeFile, loaded]

/-- Telegram files that the session spares are decoded as they were at the start. -/
theorem decodeFiles_spared
    (calm : ∀ signature, ∀ decoder ∈ registry.lookup signature, decoder.Calm) {names : List Text}
    (spared : ∀ file ∈ names, ∃ found, files.resolve file = .ok found ∧
      session.Spares file found) :
    decodeFiles registry report signal names session =
      (session.recordAll (names.flatMap fun file =>
        (decodeFile registry report signal files file).entries),
        .ok (names.all (receivesFile signal files))) := by
  induction names generalizing session with
  | nil => rfl
  | cons file others ih =>
      obtain ⟨⟨found, resolved, spares⟩, behind⟩ := List.forall_mem_cons.mp spared
      have same := decodeFile_congr registry report signal (spares.resolved.trans resolved.symm)
      have later : decodeFiles registry report signal others (session.recordAll
          (decodeFile registry report signal files file).entries) = _ :=
        ih fun name member => by
          obtain ⟨found, resolved, spares⟩ := behind name member
          exact ⟨found, resolved, spares.recordAll _⟩
      simp only [decodeFiles, Session.follow, same, decodeFile_accepts calm, later]
      rw [← Session.recordAll_append]
      rfl

/-- The telegrams of a run: those given as text, then those of the files that load. -/
def processed (files : Directory) (settings : Settings) : List Text :=
  settings.telegrams ++ settings.telegramFiles.flatMap (telegramsIn files)

/-- All that a run says once it is configured. -/
def said (files : Directory) (settings : Settings) (registry : Registry) : List Entry :=
  saidFirst settings registry ++ settings.telegramFiles.flatMap fun file =>
    (decodeFile registry settings.report settings.signal files file).entries

theorem outputs_said (calm : ∀ signature, ∀ decoder ∈ registry.lookup signature, decoder.Calm)
    (files : Directory) (settings : Settings) :
    (said files settings registry).filterMap Entry.output? =
      (processed files settings).flatMap
        (decodedLines registry settings.report settings.signal) := by
  have given : (decodeAll registry settings.report settings.signal settings.telegrams).outputs =
      settings.telegrams.flatMap (decodedLines registry settings.report settings.signal) :=
    (decodeAll_prints calm settings.telegrams).outputs
  have read (file : Text) :
      (decodeFile registry settings.report settings.signal files file).outputs =
        (telegramsIn files file).flatMap
          (decodedLines registry settings.report settings.signal) :=
    (decodeFile_prints calm files file).outputs
  simp only [said, processed, saidFirst, List.filterMap_append, List.filterMap_flatMap,
    List.flatMap_append, List.flatMap_assoc, ← given, ← read]
  rfl

/-- What decoding a telegram writes where nothing was written before. -/
def printedAlone (registry : Registry) (settings : Settings) (telegram : Text) : Text :=
  (((Session.start .empty).configure {}).follow
    (decodeTelegram registry settings.report telegram settings.signal)).1.stdout

theorem printedAlone_eq (calm : ∀ signature, ∀ decoder ∈ registry.lookup signature, decoder.Calm)
    (settings : Settings) (telegram : Text) :
    printedAlone registry settings telegram =
      (decodedLines registry settings.report settings.signal telegram).flatten := by
  have prints : (decodeTelegram registry settings.report telegram settings.signal).Prints
      (decodedLines registry settings.report settings.signal telegram) :=
    decodeTelegram_prints calm telegram
  have configured := Session.stdout_recordAll ((Session.start .empty).configure_toStderr {})
    (decodeTelegram registry settings.report telegram settings.signal).entries
  exact configured.trans (congrArg List.flatten prints.outputs)

/-- Whether all texts of a run are received and all of its files are loaded. -/
def accepts (files : Directory) (settings : Settings) : Bool :=
  settings.telegrams.all (receives settings.signal) &&
    settings.telegramFiles.all (receivesFile settings.signal files)

theorem receives_eq_false {telegram : Text} :
    receives signal telegram = false ↔
      ∃ fault, (Frame.receiveText telegram signal).outcome = .error fault := by
  rw [receives]
  cases (Frame.receiveText telegram signal).outcome with
  | error fault => exact ⟨fun _ => ⟨fault, rfl⟩, fun _ => rfl⟩
  | ok frame => simp [Except.isOk, Except.toBool]

theorem accepts_iff :
    accepts files settings = true ↔
      (∀ telegram ∈ processed files settings, receives settings.signal telegram = true) ∧
        ∀ file ∈ settings.telegramFiles, (TelegramFile.load files file []).fault = none := by
  simp only [accepts, processed, receivesFile, Bool.and_eq_true, List.all_eq_true,
    List.forall_mem_append, List.mem_flatMap, Option.isNone_iff_eq_none]
  constructor
  · rintro ⟨given, read⟩
    exact ⟨⟨given, fun telegram ⟨file, member, inside⟩ => (read file member).2 telegram inside⟩,
      fun file member => (read file member).1⟩
  · rintro ⟨⟨given, inside⟩, loaded⟩
    exact ⟨given, fun file member =>
      ⟨loaded file member, fun telegram inFile => inside telegram ⟨file, member, inFile⟩⟩⟩

theorem accepts_eq_false :
    accepts files settings = false ↔
      (∃ telegram ∈ processed files settings, ∃ fault,
        (Frame.receiveText telegram settings.signal).outcome = .error fault) ∨
      ∃ file ∈ settings.telegramFiles, ∃ fault,
        (TelegramFile.load files file []).fault = some fault := by
  rw [← Bool.not_eq_true, accepts_iff, Classical.not_and_iff_not_or_not]
  simp [receives_eq_false, Option.ne_none_iff_exists']

/-- The telegram files are the files they were when the arguments were read. -/
theorem spares_configured (parsed : (CommandLine.parse files arguments).outcome = .ok settings)
    (apart : ∀ log, settings.log.file = some log → ∀ file ∈ settings.telegramFiles,
      ¬ files.SamePlace log file) :
    ∀ file ∈ settings.telegramFiles, ∃ found, files.resolve file = .ok found ∧
      (configured files arguments settings).Spares file found := by
  intro file member
  have isFile := (CommandLine.reached_of_parse parsed).sound.telegramFiles file member
  have unlogged : (Session.start files).log.file = none := rfl
  obtain ⟨closed, same⟩ := Session.recordAll_files unlogged
    (CommandLine.parse files arguments).entries
  unfold Directory.isFile at isFile
  split at isFile
  · rename_i place content resolved
    refine ⟨_, resolved, Session.spares_configure closed (by rw [same]; exact resolved) ?_⟩
    intro log logged
    rw [same]
    exact apart log logged file member
  · contradiction

theorem ofArguments_spared (decodes : Decodes files arguments settings)
    (apart : ∀ log, settings.log.file = some log → ∀ file ∈ settings.telegramFiles,
      ¬ files.SamePlace log file)
    (made : Catalogue.builtin.registry = .ok registry)
    (calm : ∀ signature, ∀ decoder ∈ registry.lookup signature, decoder.Calm) :
    ofArguments files arguments =
      ⟨((configured files arguments settings).recordAll
        (said files settings registry)).closeLogFile, if accepts files settings then 0 else 1⟩ := by
  have given := decodeAll_accepts calm settings.report settings.signal settings.telegrams
  have spared : ∀ file ∈ settings.telegramFiles, ∃ found, files.resolve file = .ok found ∧
      ((configured files arguments settings).recordAll (saidFirst settings registry)).Spares
        file found := by
    intro file member
    obtain ⟨found, resolved, spares⟩ := spares_configured decodes.parsed apart file member
    exact ⟨found, resolved, spares.recordAll _⟩
  rw [ofArguments_of_decodes decodes made]
  simp only [decodeSources, Session.follow, given, ← Session.recordAll_append]
  rw [← saidFirst, decodeFiles_spared calm spared]
  simp only [← Session.recordAll_append]
  rfl

/-- Telegrams and telegram files are those of the config file, then the positional ones. -/
def FromBoth (files : Directory) (arguments : List Text) (settings : Settings) : Prop :=
  ∃ (loaded : Settings) (given : List Settings.Source),
    CommandLine.Configured files arguments loaded ∧
    (CommandLine.positional (arguments.map Text.shown)).map (Settings.Source.ofText? files) =
      given.map some ∧
    settings.telegrams = loaded.telegrams ++ given.filterMap Settings.Source.telegram? ∧
    settings.telegramFiles = loaded.telegramFiles ++ given.filterMap Settings.Source.file?

/-- A run put together from its parts: where its telegrams come from, all that it says, and what
this comes to on standard output and in the exit status. -/
structure Composed (files : Directory) (arguments : List Text) (settings : Settings)
    (registry : Registry) : Prop where
  sources : FromBoth files arguments settings
  returns : ∃ status, ofArguments files arguments =
    ⟨((configured files arguments settings).recordAll (said files settings registry)).closeLogFile,
      status⟩
  stdout : (ofArguments files arguments).session.stdout =
    ((CommandLine.complaints files arguments).map Settings.Complaint.message).flatten ++
      ((processed files settings).map (printedAlone registry settings)).flatten
  failure : (ofArguments files arguments).status = 1 ↔
    (∃ telegram ∈ processed files settings, ∃ fault,
      (Frame.receiveText telegram settings.signal).outcome = .error fault) ∨
    ∃ file ∈ settings.telegramFiles, ∃ fault,
      (TelegramFile.load files file []).fault = some fault
  success : (ofArguments files arguments).status = 0 ∨ (ofArguments files arguments).status = 1

theorem fromBoth_of_decodes (decodes : Decodes files arguments settings) :
    FromBoth files arguments settings := by
  have present : arguments ≠ [] := by
    rintro rfl
    obtain rfl := Except.ok.inj decodes.parsed
    exact absurd decodes.unhelped (by simp)
  obtain ⟨config, loaded, obeyed, reads⟩ := (CommandLine.parse_ok_iff present).mp decodes.parsed
  have helpless : (CommandLine.divide (arguments.map Text.shown)).ending ≠ .help := by
    intro asked
    have finished := reads.finished
    rw [asked] at finished
    obtain rfl := Except.ok.inj finished
    exact absurd decodes.unhelped (by simp [CommandLine.Ending.leave])
  obtain ⟨given, all, overrides⟩ := reads.overrides helpless
  exact ⟨loaded, given, ⟨config, reads.chosen, reads.loaded⟩, all, overrides.telegrams,
    overrides.telegramFiles⟩

/-- A run that decodes prints what each of its telegrams prints alone, in order, and nothing
else but what is wrong with the config file. Its status is 1 exactly if some text is no telegram
or some file does not load. -/
theorem ofArguments_composes (decodes : Decodes files arguments settings)
    (apart : ∀ log, settings.log.file = some log → ∀ file ∈ settings.telegramFiles,
      ¬ files.SamePlace log file) :
    ∃ registry, Catalogue.builtin.registry = .ok registry ∧
      Composed files arguments settings registry := by
  have made := Catalogue.registry_of_readable Catalogue.builtin_readable
  have calm : ∀ signature, ∀ decoder ∈ Catalogue.builtin.readers.lookup signature, decoder.Calm :=
    fun _ _ member => Catalogue.readers_calm Catalogue.builtin_readable member
  have spared := ofArguments_spared decodes apart made calm
  have toStderr : (configured files arguments settings).log.toStderr = true :=
    Session.configure_toStderr _ settings.log
  refine ⟨_, made, fromBoth_of_decodes decodes, ⟨_, spared⟩, ?_, ?_, ?_⟩
  · have spoken := Session.stdout_recordAll toStderr
      (said files settings Catalogue.builtin.readers)
    have alone : printedAlone Catalogue.builtin.readers settings = fun telegram =>
        (decodedLines _ settings.report settings.signal telegram).flatten :=
      funext (printedAlone_eq calm settings)
    rw [outputs_said calm, stdout_configured decodes.parsed, List.flatMap_def,
      List.flatten_flatten, List.map_map] at spoken
    rw [spared, alone]
    exact spoken
  · rw [spared, ← accepts_eq_false]
    cases accepts files settings <;> simp
  · rw [spared]
    cases accepts files settings <;> simp

theorem ofArguments_composes_logged :
    let files := configuredBy ""
    let arguments : List Text := ["--logfile=l", "2F", "t"]
    let settings : Settings :=
      { log := { file := some "l" }, telegrams := ["2F"], telegramFiles := ["t"] }
    let line : Text := "mkradio3\t34333231\t4.9 m³\t2019-04-27\t8.9 m³\t2018-12-31\t0 dBm\n"
    Decodes files arguments settings ∧
      (∀ log, settings.log.file = some log → ∀ file ∈ settings.telegramFiles,
        ¬ files.SamePlace log file) ∧
      (ofArguments files arguments).session.stdout = line ∧
      (ofArguments files arguments).status = 1 := by
  intro files arguments settings line
  have decodes : Decodes files arguments settings := ⟨rfl, rfl, rfl, .inr (List.cons_ne_nil _ _)⟩
  have apart : ∀ log, settings.log.file = some log → ∀ file ∈ settings.telegramFiles,
      ¬ files.SamePlace log file := by
    rintro log ⟨⟩ file - ⟨found, logged, -⟩
    have missing : files.resolve "l" = .error .missing := by decide +kernel
    rw [missing] at logged
    contradiction
  obtain ⟨registry, made, composed⟩ := ofArguments_composes decodes apart
  have readers := Catalogue.registry_of_readable Catalogue.builtin_readable
  obtain rfl := Except.ok.inj (readers.symm.trans made)
  refine ⟨decodes, apart, ?_, composed.failure.mpr (.inl ⟨"2F", ?_, ?_⟩)⟩
  · rw [composed.stdout]
    decide +kernel
  · decide +kernel
  · exact ⟨_, rfl⟩

end MeterTelegram.Run
