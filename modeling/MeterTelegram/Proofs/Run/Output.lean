import MeterTelegram.Proofs.CommandLine
import MeterTelegram.Proofs.Run.Telegram

namespace MeterTelegram

/-! What a run writes that comes to decoding. Its decoded telegrams go to standard output and
its messages to standard error or the log file, but complaints about the config file have
already been printed by then. -/

namespace TelegramFile

theorem load_silent (files : Directory) (file : Text) (before : List Text) :
    (load files file before).entries.filterMap Entry.output? = [] := by
  unfold load
  dsimp only
  cases faulty : (TextLines.load files file).fault with
  | some fault =>
      simp only [TextLines.Load.entries, faulty]
      rfl
  | none =>
      rcases collect file before (TextLines.load files file).lines with ⟨telegrams, _ | fault⟩
      · rfl
      · rfl

end TelegramFile

namespace Run

variable {registry : Registry} {report : Report} {signal : Int} {files : Directory}
  {arguments : List Text} {settings : Settings} {session : Session}

/-- The line of a telegram, if it is decoded. -/
def decodedLines (registry : Registry) (report : Report) (signal : Int) (telegram : Text) :
    List Text :=
  match (Frame.receiveText telegram signal).outcome with
  | .error _ => []
  | .ok frame =>
      match (registry.decode Registry.debugging frame {}).outcome with
      | .error _ => []
      | .ok dispatch => printed report frame dispatch

/-- The telegrams of a file; a file that does not load has none. -/
def telegramsIn (files : Directory) (file : Text) : List Text :=
  let load := TelegramFile.load files file []
  if load.fault.isNone then load.telegrams else []

/-- The telegrams of files, each as it is when its turn comes: it may be the log file. -/
def telegramsFrom (registry : Registry) (report : Report) (signal : Int) :
    List Text → Session → List Text
  | [], _ => []
  | file :: others, session =>
      let said := (decodeFile registry report signal session.files file).entries
      telegramsIn session.files file ++
        telegramsFrom registry report signal others (session.recordAll said)

/-- What a run says before its telegram files are read. -/
def saidFirst (settings : Settings) (registry : Registry) : List Entry :=
  [.verbose ("(main) " ++ Text.ofNat registry.decoders.length ++ " decoders loaded\n")] ++
    (decodeAll registry settings.report settings.signal settings.telegrams).entries

/-- All telegrams of a run, in order. -/
def telegrams (settings : Settings) (registry : Registry) (session : Session) : List Text :=
  settings.telegrams ++ telegramsFrom registry settings.report settings.signal
    settings.telegramFiles (session.recordAll (saidFirst settings registry))

section

variable (calm : ∀ signature, ∀ decoder ∈ registry.lookup signature, decoder.Calm)

include calm

theorem decodeTelegram_prints (telegram : Text) :
    (decodeTelegram registry report telegram signal).Prints
      (decodedLines registry report signal telegram) := by
  have endures : Endures registry report telegram signal := endures_of_calm calm
  obtain ⟨⟨accepted, ends, -⟩, rejected, dispatched, -⟩ := endures
  refine ⟨⟨accepted, ends⟩, ?_⟩
  unfold decodedLines
  cases received : (Frame.receiveText telegram signal).outcome with
  | error fault => exact rejected fault received
  | ok frame =>
      obtain ⟨dispatch, decided, outputs⟩ := dispatched frame received
      simp only [decided]
      exact outputs

theorem decodeAll_prints (telegrams : List Text) :
    (decodeAll registry report signal telegrams).Prints
      (telegrams.flatMap (decodedLines registry report signal)) := by
  induction telegrams with
  | nil => exact .pure true
  | cons telegram others ih =>
      rw [List.flatMap_cons, ← List.append_nil (others.flatMap _)]
      exact (decodeTelegram_prints calm telegram).bind fun first =>
        ih.bind fun rest => .pure (first && rest)

theorem decodeFile_prints (files : Directory) (file : Text) :
    (decodeFile registry report signal files file).Prints
      ((telegramsIn files file).flatMap (decodedLines registry report signal)) := by
  have loading : (Journal.note (TelegramFile.load files file []).entries :
      Journal Record.Fault PUnit).Calm := .note (TelegramFile.load_silent files file [])
  rw [← List.nil_append ((telegramsIn files file).flatMap _)]
  refine loading.prints.bind fun _ => ?_
  unfold telegramsIn
  cases loaded : (TelegramFile.load files file []).fault with
  | none => simpa [loaded] using decodeAll_prints calm (TelegramFile.load files file []).telegrams
  | some fault => exact ⟨⟨false, rfl⟩, by simp [loaded]; rfl⟩

theorem decodeFiles_told (names : List Text) (session : Session) :
    ∃ said accepted, decodeFiles registry report signal names session =
        (session.recordAll said, .ok accepted) ∧
      said.filterMap Entry.output? =
        (telegramsFrom registry report signal names session).flatMap
          (decodedLines registry report signal) := by
  -- What is said about a file may be logged to one that comes later, so the session varies.
  induction names generalizing session with
  | nil => exact ⟨[], true, rfl, rfl⟩
  | cons file others ih =>
      have prints : (decodeFile registry report signal session.files file).Prints _ :=
        decodeFile_prints calm session.files file
      obtain ⟨first, done⟩ := prints.ends
      obtain ⟨said, rest, followed, outputs⟩ := ih (session.recordAll
        (decodeFile registry report signal session.files file).entries)
      refine ⟨(decodeFile registry report signal session.files file).entries ++ said,
        first && rest, ?_, ?_⟩
      · simp only [decodeFiles, Session.follow, done, followed]
        rw [Session.recordAll_append]
      · rw [List.filterMap_append, outputs, telegramsFrom, List.flatMap_append]
        exact congrArg (· ++ _) prints.outputs

theorem decodeSources_told (settings : Settings) (session : Session) :
    ∃ said status, decodeSources settings registry session =
        ⟨(session.recordAll said).closeLogFile, status⟩ ∧
      said.filterMap Entry.output? =
        (telegrams settings registry session).flatMap
          (decodedLines registry settings.report settings.signal) := by
  have prints : (decodeAll registry settings.report settings.signal settings.telegrams).Prints _ :=
    decodeAll_prints calm settings.telegrams
  obtain ⟨given, done⟩ := prints.ends
  obtain ⟨said, read, followed, outputs⟩ := @decodeFiles_told _ settings.report settings.signal
    calm settings.telegramFiles (session.recordAll (saidFirst settings registry))
  refine ⟨saidFirst settings registry ++ said, if given && read then 0 else 1, ?_, ?_⟩
  · simp only [decodeSources, Session.follow, done, ← Session.recordAll_append]
    rw [← saidFirst, followed, Session.recordAll_append]
  · rw [List.filterMap_append, outputs, telegrams, List.flatMap_append]
    exact congrArg (· ++ _) prints.outputs

end

theorem telegramsFrom_of_closed (closed : session.log.file = none) (names : List Text) :
    telegramsFrom registry report signal names session =
      names.flatMap (telegramsIn session.files) := by
  induction names generalizing session with
  | nil => rfl
  | cons file others ih =>
      obtain ⟨stillClosed, same⟩ := Session.recordAll_files closed
        (decodeFile registry report signal session.files file).entries
      rw [telegramsFrom, ih stillClosed, same, List.flatMap_cons]

/-- A run that shows no help, lists no decoders and has something to decode. -/
structure Decodes (files : Directory) (arguments : List Text) (settings : Settings) : Prop where
  parsed : (CommandLine.parse files arguments).outcome = .ok settings
  unhelped : settings.needsHelp = false
  unlisted : settings.listsDecoders = false
  given : settings.telegrams ≠ [] ∨ settings.telegramFiles ≠ []

/-- The session in which a run begins to decode. -/
def configured (files : Directory) (arguments : List Text) (settings : Settings) : Session :=
  ((Session.start files).recordAll (CommandLine.parse files arguments).entries).configure
    settings.log

theorem ofArguments_of_decodes (decodes : Decodes files arguments settings)
    (made : Catalogue.builtin.registry = .ok registry) :
    ofArguments files arguments =
      decodeSources settings registry (configured files arguments settings) := by
  have given : (settings.telegrams.isEmpty && settings.telegramFiles.isEmpty) = false := by
    rcases decodes.given with some | some
    · rw [List.isEmpty_eq_false_iff.mpr some, Bool.false_and]
    · rw [List.isEmpty_eq_false_iff.mpr some, Bool.and_false]
  simp only [ofArguments, Session.follow, decodes.parsed, withSettings, decodes.unhelped,
    decodes.unlisted, given, made, Bool.false_eq_true, if_false]
  rfl

theorem stdout_configured (parsed : (CommandLine.parse files arguments).outcome = .ok settings) :
    (configured files arguments settings).stdout =
      ((CommandLine.complaints files arguments).map Settings.Complaint.message).flatten := by
  rw [← CommandLine.shownAtFirst_parse parsed, ← Session.stdout_start files]
  exact congrArg (fun pieces : List Text => pieces.reverse.flatten)
    (Session.configure_quiet _ settings.log).stdout

theorem closed_configured (unlogged : settings.log.file = none) :
    (configured files arguments settings).log.file = none ∧
      (configured files arguments settings).files = files := by
  simp only [configured, Session.configure, unlogged]
  exact Session.recordAll_files rfl _

/-- What a run that decodes writes, where `said` is what it says once it is configured. -/
structure Accounted (files : Directory) (arguments : List Text) (settings : Settings)
    (registry : Registry) (said : List Entry) : Prop where
  begun : ∃ opened,
    ((Session.start files).recordAll (CommandLine.parse files arguments).entries).Quiet opened ∧
      (configured files arguments settings = opened ∨ ∃ name, settings.log.file = some name ∧
        opened.Delivers (configured files arguments settings) .warning
          ("Could not open log file \"" ++ name.shown ++ "\", logging to stderr.\n"))
  delivered : ∀ earlier severity text later, said = earlier ++ .message severity text :: later →
    let before := (configured files arguments settings).recordAll earlier
    before.Delivers (before.record (.message severity text)) severity text
  finish : ∃ status, ofArguments files arguments =
    ⟨((configured files arguments settings).recordAll said).closeLogFile, status⟩
  printed : said.filterMap Entry.output? =
    (telegrams settings registry (configured files arguments settings)).flatMap
      (decodedLines registry settings.report settings.signal)
  stdout : (ofArguments files arguments).session.stdout =
    ((CommandLine.complaints files arguments).map Settings.Complaint.message).flatten ++
      (said.filterMap Entry.output?).flatten

theorem accounted_of_decodes (decodes : Decodes files arguments settings)
    (made : Catalogue.builtin.registry = .ok registry)
    (calm : ∀ signature, ∀ decoder ∈ registry.lookup signature, decoder.Calm) :
    ∃ said, Accounted files arguments settings registry said := by
  obtain ⟨said, status, finish, printed⟩ := decodeSources_told calm settings
    (configured files arguments settings)
  rw [← ofArguments_of_decodes decodes made] at finish
  have toStderr : (configured files arguments settings).log.toStderr = true :=
    Session.configure_toStderr _ settings.log
  refine ⟨said,
    { begun := Session.configure_delivers _ settings.log
      delivered := ?_
      finish := ⟨status, finish⟩
      printed
      stdout := ?_ }⟩
  · intro earlier severity text later _
    exact Session.message_delivers (Session.recordAll_toStderr toStderr earlier) severity text
  · rw [finish, ← stdout_configured decodes.parsed]
    exact Session.stdout_recordAll toStderr said

/-- A run that decodes writes to standard output what is wrong with its config file, the line
of each telegram that is decoded, and nothing else. These lines are all of it exactly if
nothing is wrong with the config file. -/
theorem ofArguments_stdout (decodes : Decodes files arguments settings) :
    ∃ registry said, Catalogue.builtin.registry = .ok registry ∧
      Accounted files arguments settings registry said ∧
      ((ofArguments files arguments).session.stdout =
          ((telegrams settings registry (configured files arguments settings)).flatMap
            (decodedLines registry settings.report settings.signal)).flatten ↔
        CommandLine.complaints files arguments = []) ∧
      (settings.log.file = none →
        telegrams settings registry (configured files arguments settings) =
          settings.telegrams ++ settings.telegramFiles.flatMap (telegramsIn files)) := by
  have made := Catalogue.registry_of_readable Catalogue.builtin_readable
  obtain ⟨said, accounted⟩ := accounted_of_decodes decodes made fun _ _ member =>
    Catalogue.readers_calm Catalogue.builtin_readable member
  refine ⟨_, said, made, accounted, ?_, fun unlogged => ?_⟩
  · rw [accounted.stdout, accounted.printed, List.append_left_eq_self]
    exact Settings.Complaint.flatten_messages_eq_nil
  · obtain ⟨closed, same⟩ := @closed_configured files arguments settings unlogged
    obtain ⟨stillClosed, unchanged⟩ :=
      Session.recordAll_files closed (saidFirst settings Catalogue.builtin.readers)
    rw [telegrams, telegramsFrom_of_closed stillClosed, unchanged, same]

def waterTelegram : Text :=
  "2F446850313233347462A2069F255900B029310000000306060906030609070606050509050505050407040605070500"

def configuredBy (config : Text) : Directory :=
  { nodes := [(["c"], .file config), (["t"], .file ("telegram=" ++ waterTelegram ++ "\n"))] }

theorem ofArguments_stdout_configured :
    let files := configuredBy "format=fields\nseparator=,\n"
    let arguments : List Text := ["--useconfig=c", "t"]
    let settings : Settings :=
      { configFile := some "c", fields := true, separator := 44, telegramFiles := ["t"] }
    Decodes files arguments settings ∧
      (ofArguments files arguments).session.stdout =
        "mkradio3,34333231,4.9,2019-04-27,8.9,2018-12-31,0\n" := by
  intro files arguments settings
  have decodes : Decodes files arguments settings := ⟨rfl, rfl, rfl, .inr (List.cons_ne_nil _ _)⟩
  obtain ⟨registry, said, made, -, only, unlogged⟩ := ofArguments_stdout decodes
  have readers := Catalogue.registry_of_readable Catalogue.builtin_readable
  obtain rfl := Except.ok.inj (readers.symm.trans made)
  have uncomplaining : CommandLine.complaints files arguments = [] := by decide +kernel
  refine ⟨decodes, (only.mpr uncomplaining).trans ?_⟩
  rw [unlogged rfl]
  decide +kernel

/-- A key that does not exist is complained about on standard output, before the line of the
telegram that is decoded. -/
theorem ofArguments_complains :
    let files := configuredBy "colour=red\n"
    let arguments : List Text := ["--useconfig=c", "t"]
    let settings : Settings := { configFile := some "c", telegramFiles := ["t"] }
    let line : Text := "mkradio3\t34333231\t4.9 m³\t2019-04-27\t8.9 m³\t2018-12-31\t0 dBm\n"
    Decodes files arguments settings ∧
      (ofArguments files arguments).session.stdout = "No such key: colour\n" ++ line ∧
      (ofArguments files arguments).session.stderr = [] ∧
      ∀ registry, Catalogue.builtin.registry = .ok registry →
        (telegrams settings registry (configured files arguments settings)).flatMap
          (decodedLines registry settings.report settings.signal) = [line] := by
  intro files arguments settings line
  refine ⟨⟨rfl, rfl, rfl, .inr (List.cons_ne_nil _ _)⟩, by decide +kernel, by decide +kernel, ?_⟩
  intro registry made
  have readers := Catalogue.registry_of_readable Catalogue.builtin_readable
  obtain rfl := Except.ok.inj (readers.symm.trans made)
  decide +kernel

end Run

end MeterTelegram
